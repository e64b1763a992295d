import Lineage.Inspection.Basic
import Lineage.Proofs.Neighborhood
import Lineage.Proofs.Store

/-! # What a search finds

    A search goes over the matching nodes and looks each of them up three
    times: its descriptor, the edges into it, the edges out of it.  While the
    stores of the analysis agree none of these can fail (`item_eq`), and the
    search as a whole has a closed form (`search_eq`): the cards of the
    matching nodes, sorted by id, and their number. -/

namespace Lineage

namespace Analysis.Agrees

variable {a : Analysis}

/-- With no node waiting, every node is described, and nothing else is. -/
theorem mem_descriptors (h : Agrees [] a) (id : NodeId) :
    id ∈ a.descriptors ↔ id ∈ a.graph.nodes := by
  rw [h.described id]
  exact ⟨Or.inl, fun hid => hid.elim (fun hid => hid) fun hno => nomatch hno⟩

theorem descriptor_of_mem (h : Agrees [] a) {id : NodeId} (hid : id ∈ a.graph.nodes) :
    ∃ d, a.descriptors[id]? = some d ∧ d.id = id := by
  obtain ⟨d, hd⟩ := mem_table_iff.mp ((h.mem_descriptors id).mpr hid)
  exact ⟨d, hd, h.selfKeyed id d hd⟩

end Analysis.Agrees

namespace Inspection

variable {i : Inspection}

/-- The descriptor of a node. -/
def descriptorOf (i : Inspection) (id : NodeId) : Descriptor :=
  i.analysis.descriptors.getD id ⟨id, "", ""⟩

theorem descriptor_eq (h : Analysis.Agrees [] i.analysis) {id : NodeId} (hid : id ∈ i.graph.nodes) :
    i.analysis.surroundings.descriptor id = .ok (i.descriptorOf id) ∧
      (i.descriptorOf id).id = id := by
  obtain ⟨d, hd, hself⟩ := h.descriptor_of_mem hid
  have hsame : i.descriptorOf id = d := by
    rw [descriptorOf, Std.ExtTreeMap.getD_eq_getD_getElem?, hd, Option.getD_some]
  rw [hsame]
  exact ⟨Surroundings.descriptor_eq_ok.mpr hd, hself⟩

/-- What there is to tell about a node. -/
def card (i : Inspection) (id : NodeId) : TypeItem where
  id := id
  name := (i.descriptorOf id).name
  space := (i.descriptorOf id).space
  incoming := (i.graph.into id).length
  outgoing := (i.graph.outOf id).length

theorem item_eq (h : Analysis.Agrees [] i.analysis) {id : NodeId} (hid : id ∈ i.graph.nodes) :
    i.item id = .ok (i.card id) := by
  refine bind_eq_ok.mpr ⟨_, (descriptor_eq h hid).1, ?_⟩
  refine bind_eq_ok.mpr ⟨_, Graph.incoming_of_mem hid, ?_⟩
  exact bind_eq_ok.mpr ⟨_, Graph.outgoing_of_mem hid, rfl⟩

/-- The cards of the matching nodes, by id. -/
def found (i : Inspection) (pattern : String) : List TypeItem :=
  ((i.matching pattern).map i.card).mergeSort fun a b => decide (a.id ≤ b.id)

theorem found_perm (i : Inspection) (pattern : String) :
    (i.found pattern).Perm ((i.matching pattern).map i.card) := List.mergeSort_perm _ _

theorem length_found (i : Inspection) (pattern : String) :
    (i.found pattern).length = (i.matching pattern).length := by
  rw [found, List.length_mergeSort, List.length_map]

/-- A search always has a result: what was found, cut to the limit, and how
    much it was before that. -/
theorem search_eq (h : Analysis.Agrees [] i.analysis) (pattern : String) (limit? : Option Nat) :
    i.search pattern limit? = .ok
      ⟨limit?.elim (i.found pattern) (i.found pattern).take, (i.matching pattern).length⟩ := by
  have hitems : (i.matching pattern).mapM i.item = .ok ((i.matching pattern).map i.card) :=
    mapM_eq_map fun id hid => item_eq h (List.mem_of_mem_filter hid)
  rw [search]
  refine bind_eq_ok.mpr ⟨_, hitems, ?_⟩
  show Except.ok (SearchResult.mk (limit?.elim (i.found pattern) (i.found pattern).take)
    (i.found pattern).length) = _
  rw [length_found]

/-- The empty pattern matches every node. -/
theorem matching_empty (i : Inspection) : i.matching "" = i.graph.nodes := by
  have hoccurs : ∀ whole : String, Text.occursIn (Text.lowercase "") whole = true := by
    intro whole
    have hchars : (Text.lowercase "").toList = [] := by
      rw [Text.lowercase, String.toList_ofList]
      rfl
    rw [Text.occursIn, hchars, Text.occurs_iff]
    exact List.nil_infix
  rw [matching]
  exact List.filter_eq_self.mpr fun id _ => hoccurs _

end Inspection

end Lineage
