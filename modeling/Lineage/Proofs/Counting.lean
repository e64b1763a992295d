import Lineage.Proofs.Outcome
import Lineage.Proofs.Searching
import Mathlib.Algebra.BigOperators.Group.List.Basic
import Mathlib.Algebra.GroupWithZero.Nat

/-! # Edges told apart and counted

    Kinds are kept under the ids of edges, and an id is only the two ends with
    an arrow between them.  In the graph of a catalog that is enough: the
    catalog lets no id with an arrow through, so different edges have different
    ids (`nodup_edge_ids`), even where an end begins or finishes with a
    character of the arrow.

    From there on it is counting.  The kinds are one to one with the edges
    (`keys_perm_edge_ids`), and every edge is counted at its source and at its
    target once (`sum_length_fibers`). -/

namespace Lineage

/-- The members that have each key, counted key by key, are all members, if
    the keys are different and none is missing. -/
theorem sum_length_fibers {α β : Type} [DecidableEq β] (key : α → β) {keys : List β}
    (hkeys : keys.Nodup) {xs : List α} (hxs : ∀ x ∈ xs, key x ∈ keys) :
    (keys.map fun k => (xs.filter (key · = k)).length).sum = xs.length := by
  induction xs with
  | nil => simp
  | cons x xs ih =>
      have hrest := ih fun y hy => hxs y (List.mem_cons_of_mem x hy)
      have hsplit : ∀ k, ((x :: xs).filter (key · = k)).length =
          (xs.filter (key · = k)).length + if key x = k then 1 else 0 := by
        intro k
        simp only [← List.countP_eq_length_filter, List.countP_cons, decide_eq_true_eq]
      -- the new member is counted under its own key, which stands in the list once
      have hone : (keys.map fun k => if key x = k then 1 else 0).sum = 1 := by
        rw [List.sum_map_eq_nsmul_single (key x) _ fun k hk _ => if_neg (Ne.symm hk),
          List.count_eq_one_of_mem hkeys (hxs x List.mem_cons_self), if_pos rfl, one_nsmul]
      simp only [hsplit]
      rw [List.sum_map_add, hone, hrest, List.length_cons]

/-- Every recorded kind is one of the two. -/
theorem EdgeKinds.countOf_add_countOf (kinds : EdgeKinds) :
    kinds.countOf .derivesFrom + kinds.countOf .implements = kinds.size := by
  have hother : ∀ entry ∈ kinds.toList,
      decide (entry.2 = .implements) = true ↔
        decide (¬ decide (entry.2 = .derivesFrom) = true) = true := by
    intro entry _
    cases entry.2 with
    | derivesFrom => decide
    | implements => decide
  rw [countOf, countOf, List.countP_congr hother, ← List.length_eq_countP_add_countP,
    Std.ExtTreeMap.length_toList]

namespace Graph

variable {g : Graph}

/-- An edge is found under its id, if no other edge has that id. -/
theorem findEdge?_of_mem (hids : (g.edges.map Edge.id).Nodup) {e : Edge} (he : e ∈ g.edges) :
    g.findEdge? e.id = some e := by
  rw [findEdge?, find?_reverse_of_nodup_map hids]
  exact find?_of_nodup_map hids he

/-- Every edge is counted once at its target. -/
theorem sum_into (hg : g.WellFormed) :
    (g.nodes.map fun id => (g.into id).length).sum = g.edgeCount :=
  sum_length_fibers Edge.target hg.nodes_nodup fun e he => (hg.ends e he).2

/-- Every edge is counted once at its source. -/
theorem sum_outOf (hg : g.WellFormed) :
    (g.nodes.map fun id => (g.outOf id).length).sum = g.edgeCount :=
  sum_length_fibers Edge.source hg.nodes_nodup fun e he => (hg.ends e he).1

end Graph

namespace Analysis

variable {a : Analysis}

/-- No two edges have one id, if no source holds an arrow. -/
theorem Agrees.nodup_edge_ids (h : Agrees [] a) (hfree : ∀ e ∈ a.graph.edges, ArrowFree e.source) :
    (a.graph.edges.map Edge.id).Nodup := by
  refine h.built.wellFormed.edges_nodup.map_on ?_
  intro e he e' he' hid
  obtain ⟨hsource, htarget⟩ := edgeId_inj (hfree e he) (hfree e' he') hid
  cases e
  cases e'
  cases hsource
  cases htarget
  rfl

/-- The keys of the kinds are the ids of the edges, one for each. -/
theorem Agrees.keys_perm_edge_ids (h : Agrees [] a) (hids : (a.graph.edges.map Edge.id).Nodup) :
    a.edgeKinds.keys.Perm (a.graph.edges.map Edge.id) := by
  refine (List.perm_ext_iff_of_nodup Std.ExtTreeMap.nodup_keys hids).mpr fun k => ?_
  rw [Std.ExtTreeMap.mem_keys, List.mem_map]
  constructor
  · exact h.kind_used k
  · rintro ⟨e, he, rfl⟩
    exact h.kind_known e he

/-- The edges of a catalog start at types of the catalog. -/
theorem arrowFree_source_ofModules (o : Options) (ms : List ModuleFacts) :
    ∀ e ∈ (ofSources o (Catalog.ofModules ms).sources).graph.edges, ArrowFree e.source := by
  intro e he
  obtain ⟨kind, hrel⟩ := (mem_edges_ofModules e).mp he
  exact Catalog.arrowFree_of_accepted hrel.accepted

end Analysis

namespace Inspection

variable {i : Inspection}

/-- The degrees in the result of the search for everything. -/
theorem sum_found_empty (hg : i.graph.WellFormed) :
    ((i.found "").map (·.incoming)).sum = i.graph.edgeCount ∧
      ((i.found "").map (·.outgoing)).sum = i.graph.edgeCount := by
  have hperm : (i.found "").Perm (i.graph.nodes.map i.card) := i.matching_empty ▸ i.found_perm ""
  constructor
  · rw [(hperm.map (·.incoming)).sum_eq, List.map_map]
    exact Graph.sum_into hg
  · rw [(hperm.map (·.outgoing)).sum_eq, List.map_map]
    exact Graph.sum_outOf hg

/-- Edges are one to one with their ids and with the recorded kinds, and all
    ways of counting them agree. -/
structure CountsEdges (i : Inspection) : Prop where
  ids_differ : ∀ e ∈ i.graph.edges, ∀ e' ∈ i.graph.edges, e.id = e'.id → e = e'
  found_by_id : ∀ e ∈ i.graph.edges, i.graph.findEdge? e.id = some e
  one_kind_each : i.analysis.edgeKinds.keys.Perm (i.graph.edges.map Edge.id)
  kinds_add_up : i.summary.derivesFrom + i.summary.implements = i.summary.edges
  degrees_add_up : ∃ r, i.search "" none = .ok r ∧ r.items.length = i.summary.nodes ∧
    (r.items.map (·.incoming)).sum = i.summary.edges ∧
    (r.items.map (·.outgoing)).sum = i.summary.edges

/-- **Edges of a catalog are told apart by their ids.**  Whatever the ids of
    its types look like, an edge is found under its own id and has one kind
    recorded under it; so the two kinds, the edges into all nodes and the edges
    out of all nodes each come to the number of edges. -/
theorem edges_told_apart (o : Options) (ms : List ModuleFacts) :
    (Inspection.ofCatalog o (.ofModules ms)).value.CountsEdges := by
  have hagrees := agrees_ofCatalog o (.ofModules ms)
  have hids : ((Inspection.ofCatalog o (.ofModules ms)).value.graph.edges.map Edge.id).Nodup := by
    refine hagrees.nodup_edge_ids ?_
    rw [ofCatalog_analysis]
    exact Analysis.arrowFree_source_ofModules o ms
  have hkeys := hagrees.keys_perm_edge_ids hids
  obtain ⟨hin, hout⟩ := sum_found_empty hagrees.built.wellFormed
  refine ⟨fun e he e' he' hid => List.inj_on_of_nodup_map hids he he' hid,
    fun e he => Graph.findEdge?_of_mem hids he, hkeys, ?_,
    _, search_eq hagrees "" none, ?_, hin, hout⟩
  · calc _ = _ := EdgeKinds.countOf_add_countOf _
      _ = _ := Std.ExtTreeMap.length_keys.symm
      _ = _ := hkeys.length_eq
      _ = _ := List.length_map _
  · rw [Option.elim_none, length_found, matching_empty]
    rfl

/-- Types with ids that begin or end like an arrow. -/
def dashedModules : List ModuleFacts :=
  [{ name := "m", types := [
    { id := "a-", name := "a", space? := some "n", base? := some ">b", interfaces := ["a-", "-"] },
    { id := ">b", name := "b", space? := some "n", base? := some "-" },
    { id := "-", name := "-", space? := some "n" }] }]

/-- Their edges have the same few characters where their ends meet, and are told
    apart all the same. -/
theorem dashed_edges_told_apart :
    (Inspection.ofCatalog {} (.ofModules dashedModules)).value.graph.edges =
        [⟨"a-", ">b"⟩, ⟨"a-", "a-"⟩, ⟨"a-", "-"⟩, ⟨">b", "-"⟩] ∧
      (Inspection.ofCatalog {} (.ofModules dashedModules)).value.graph.findEdge? "a-->>b" =
        some ⟨"a-", ">b"⟩ := by
  have hedges : (Inspection.ofCatalog {} (.ofModules dashedModules)).value.graph.edges =
      [⟨"a-", ">b"⟩, ⟨"a-", "a-"⟩, ⟨"a-", "-"⟩, ⟨">b", "-"⟩] := by decide +kernel
  refine ⟨hedges, ?_⟩
  exact (edges_told_apart {} dashedModules).found_by_id ⟨"a-", ">b"⟩ (hedges ▸ List.mem_cons_self)

end Inspection

end Lineage
