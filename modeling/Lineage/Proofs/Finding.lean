import Lineage.Proofs.Bytes
import Lineage.Proofs.Outcome
import Lineage.Proofs.Searching
import Mathlib.Data.List.Infix

/-! # What a search answers

    A search filters the nodes, looks each of them up, sorts and cuts.  Its
    closed form is in hand (`search_eq`); here it is held against what is to be
    found, which `FindsAll` says without the search: the nodes that match, once
    each and in the order of the bytes of their ids, each with what the stores
    hold about it.

    That the order is strict rests on the nodes of a graph being listed once
    (`sorted_found`), and that no look-up fails on the stores being in step
    (`tells_card`).  The headline is `search_finds_all`. -/

namespace Lineage

namespace Inspection

variable {i : Inspection} {pattern : String}

/-- The pattern stands somewhere in the id, both in lower case. -/
def Matches (pattern id : String) : Prop :=
  (Text.lowercase pattern).toList <:+: (Text.lowercase id).toList

instance (pattern id : String) : Decidable (Matches pattern id) :=
  inferInstanceAs (Decidable (_ <:+: _))

theorem matching_eq (i : Inspection) (pattern : String) :
    i.matching pattern = i.graph.nodes.filter (Matches pattern ·) := by
  refine List.filter_congr fun id _ => ?_
  rw [Bool.eq_iff_iff, decide_eq_true_iff]
  exact Text.occurs_iff _ _

/-- The item says what the stores hold about a node. -/
structure Tells (i : Inspection) (item : TypeItem) : Prop where
  described : ∃ d, i.analysis.descriptors[item.id]? = some d ∧ item.name = d.name ∧
    item.space = d.space
  incoming : item.incoming = i.graph.edges.countP (·.target = item.id)
  outgoing : item.outgoing = i.graph.edges.countP (·.source = item.id)

/-- The items are about the nodes that match, each once, by the bytes of their
    ids. -/
structure FindsAll (i : Inspection) (pattern : String) (items : List TypeItem) : Prop where
  ids : ∀ id, id ∈ items.map (·.id) ↔ id ∈ i.graph.nodes ∧ Matches pattern id
  sorted : items.Pairwise fun a b => bytesOf a.id < bytesOf b.id
  tells : ∀ item ∈ items, i.Tells item

theorem tells_card (h : Analysis.Agrees [] i.analysis) {id : NodeId} (hid : id ∈ i.graph.nodes) :
    i.Tells (i.card id) where
  described := by
    obtain ⟨d, hd, -⟩ := h.descriptor_of_mem hid
    have hsame : i.descriptorOf id = d := by
      rw [descriptorOf, Std.ExtTreeMap.getD_eq_getD_getElem?, hd, Option.getD_some]
    exact ⟨d, hd, congrArg Descriptor.name hsame, congrArg Descriptor.space hsame⟩
  incoming := List.countP_eq_length_filter.symm
  outgoing := List.countP_eq_length_filter.symm

theorem map_id_found_perm (i : Inspection) (pattern : String) :
    ((i.found pattern).map (·.id)).Perm (i.matching pattern) := by
  have hids : ((i.matching pattern).map i.card).map (·.id) = i.matching pattern := by
    rw [List.map_map]
    exact List.map_id _
  exact hids ▸ (i.found_perm pattern).map (·.id)

/-- What is found is in order, and nothing is found twice. -/
theorem sorted_found (hg : i.graph.WellFormed) (pattern : String) :
    (i.found pattern).Pairwise fun a b => bytesOf a.id < bytesOf b.id := by
  have hle : (i.found pattern).Pairwise fun a b => decide (a.id ≤ b.id) = true := by
    refine List.pairwise_mergeSort ?_ ?_ _
    · intro a b c hab hbc
      exact decide_eq_true (le_trans (of_decide_eq_true hab) (of_decide_eq_true hbc))
    · intro a b
      simpa using le_total a.id b.id
  have hne : (i.found pattern).Pairwise fun a b => a.id ≠ b.id := by
    refine List.pairwise_map.mp ?_
    exact (i.map_id_found_perm pattern).nodup_iff.mpr (hg.nodes_nodup.filter _)
  refine (hle.and hne).imp ?_
  rintro a b ⟨hab, hab'⟩
  exact bytesOf_lt_iff.mpr (lt_of_le_of_ne (of_decide_eq_true hab) hab')

theorem findsAll_found (h : Analysis.Agrees [] i.analysis) (pattern : String) :
    i.FindsAll pattern (i.found pattern) where
  ids := by
    intro id
    rw [(i.map_id_found_perm pattern).mem_iff, matching_eq, List.mem_filter, decide_eq_true_iff]
  sorted := sorted_found h.built.wellFormed pattern
  tells := by
    intro item hitem
    obtain ⟨id, hid, rfl⟩ := List.mem_map.mp ((i.found_perm pattern).mem_iff.mp hitem)
    exact tells_card h (List.mem_of_mem_filter hid)

/-- **A search finds the matching nodes and nothing else.**  On the analysis of
    any catalog it succeeds, for any pattern and limit.  Without a limit it
    gives the nodes with the pattern in their id, case aside: each once, in
    strict order of the bytes of their ids, with the name and the namespace of
    its descriptor and the numbers of edges into it and out of it.  A limit cuts
    that list, and the total is the number of matching nodes all the same. -/
theorem search_finds_all (o : Options) (ms : List ModuleFacts) (pattern : String) :
    ∃ items, (Inspection.ofCatalog o (.ofModules ms)).value.FindsAll pattern items ∧
      items.length =
        (Inspection.ofCatalog o (.ofModules ms)).value.graph.nodes.countP (Matches pattern ·) ∧
      (Inspection.ofCatalog o (.ofModules ms)).value.search pattern none =
        .ok ⟨items, items.length⟩ ∧
      ∀ k, (Inspection.ofCatalog o (.ofModules ms)).value.search pattern (some k) =
        .ok ⟨items.take k, items.length⟩ := by
  have h := agrees_ofCatalog o (.ofModules ms)
  have hlength := length_found (Inspection.ofCatalog o (.ofModules ms)).value pattern
  refine ⟨_, findsAll_found h pattern, ?_, ?_, fun k => ?_⟩
  · rw [hlength, matching_eq, List.countP_eq_length_filter]
  · rw [search_eq h, hlength]
    rfl
  · rw [search_eq h, hlength]
    rfl

end Inspection

end Lineage
