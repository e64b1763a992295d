import Lineage.Proofs.Run

/-! # The three stores of an analysis agree

    An analysis keeps a graph, descriptors of its nodes, and kinds of its
    edges, and updates them in different places: a base is described even if
    its edge was there, an interface along with a new edge only, a kind is
    recorded with a new edge only and refused if its key is taken.
    `Analysis.Agrees` says that they fit together all the same, up to nodes
    that are in the graph but still wait for their descriptor: the type that is
    being taken up is described last.

    The headline is `stores_agree`: after any run nothing waits. -/

namespace Lineage

namespace Analysis

/-- The stores fit together, but for the descriptors of `pending`. -/
structure Agrees (pending : List NodeId) (a : Analysis) : Prop where
  built : a.graph.Built
  described : ∀ id, id ∈ a.graph.nodes ↔ id ∈ a.descriptors ∨ id ∈ pending
  selfKeyed : SelfKeyed a.descriptors
  kind_known : ∀ e ∈ a.graph.edges, e.id ∈ a.edgeKinds
  kind_used : ∀ k ∈ a.edgeKinds, ∃ e ∈ a.graph.edges, e.id = k

namespace Agrees

variable {a : Analysis} {pending : List NodeId} {o : Options}

theorem start : Agrees [] {} where
  built := .empty
  described := by
    intro id
    have hno : id ∉ (∅ : Table Descriptor) := Std.ExtTreeMap.not_mem_empty
    simp [hno]
  selfKeyed := selfKeyed_empty
  kind_known := fun e he => nomatch he
  kind_used := by
    intro k hk
    exact absurd hk Std.ExtTreeMap.not_mem_empty

/-- A new node waits for its descriptor. -/
theorem withNode (h : Agrees [] a) (id : NodeId) :
    Agrees [id] { a with graph := a.graph.withNode id } where
  built := h.built.withNode id
  described := by
    intro x
    rw [Graph.mem_nodes_withNode, h.described]
    simp
  selfKeyed := h.selfKeyed
  kind_known := by
    intro e he
    rw [Graph.edges_withNode] at he
    exact h.kind_known e he
  kind_used := by
    intro k hk
    rw [Graph.edges_withNode]
    exact h.kind_used k hk

/-- While the stores agree, recording the kind of an edge that was there
    changes nothing, so a link always records its kind. -/
theorem edgeKinds_addLink_eq (h : Agrees pending a) (l : Link) :
    (a.addLink l).edgeKinds = a.edgeKinds.insertIfNew l.edge.id l.kind := by
  rw [edgeKinds_addLink]
  split
  · next hmem =>
      -- the edge has a kind already, and a table does not change for a taken key
      obtain ⟨kind, hkind⟩ := mem_table_iff.mp (h.kind_known l.edge hmem)
      refine Std.ExtTreeMap.ext_getElem? fun k => ?_
      rw [getElem?_insertIfNew]
      by_cases hk : l.edge.id = k
      · rw [← hk, hkind, Option.some_or]
      · rw [if_neg hk, Option.or_none]
  · rfl

/-- A link from a node that is there keeps the stores in step. -/
theorem addLink (h : Agrees pending a) (l : Link) (hsource : l.source ∈ a.graph.nodes) :
    Agrees pending (a.addLink l) where
  built := by
    rw [graph_addLink]
    exact h.built.edge l.source l.target.id
  described := by
    intro id
    rw [graph_addLink, Graph.nodes_addEdge, adjoin_of_mem hsource, mem_adjoin, h.described]
    rcases descriptors_addLink a l with hd | ⟨hmem, hd⟩
    · rw [hd, Std.ExtTreeMap.mem_insert, Std.LawfulEqCmp.compare_eq_iff_eq]
      constructor
      · rintro ((hid | hid) | rfl)
        · exact Or.inl (Or.inr hid)
        · exact Or.inr hid
        · exact Or.inl (Or.inl rfl)
      · rintro ((rfl | hid) | hid)
        · exact Or.inr rfl
        · exact Or.inl (Or.inl hid)
        · exact Or.inl (Or.inr hid)
    · -- the edge was there, hence its target, which is described or waits
      have htarget := (h.built.wellFormed.ends l.edge hmem).2
      rw [hd]
      constructor
      · rintro (hid | rfl)
        · exact hid
        · exact (h.described _).mp htarget
      · exact Or.inl
  selfKeyed := by
    rcases descriptors_addLink a l with hd | ⟨-, hd⟩
    · rw [hd]
      exact h.selfKeyed.insert (.ofFact l.target)
    · rw [hd]
      exact h.selfKeyed
  kind_known := by
    intro e he
    rw [graph_addLink, Graph.edges_addEdge, mem_adjoin] at he
    rw [h.edgeKinds_addLink_eq, Std.ExtTreeMap.mem_insertIfNew, Std.LawfulEqCmp.compare_eq_iff_eq]
    rcases he with he | rfl
    · exact Or.inr (h.kind_known e he)
    · exact Or.inl rfl
  kind_used := by
    intro k hk
    rw [h.edgeKinds_addLink_eq, Std.ExtTreeMap.mem_insertIfNew,
      Std.LawfulEqCmp.compare_eq_iff_eq] at hk
    rw [graph_addLink, Graph.edges_addEdge]
    rcases hk with rfl | hk
    · exact ⟨l.edge, mem_adjoin.mpr (Or.inr rfl), rfl⟩
    · obtain ⟨e, he, hid⟩ := h.kind_used k hk
      exact ⟨e, mem_adjoin.mpr (Or.inl he), hid⟩

theorem foldl_addLink (h : Agrees pending a) {ls : List Link}
    (hsource : ∀ l ∈ ls, l.source ∈ a.graph.nodes) :
    Agrees pending (ls.foldl Analysis.addLink a) := by
  induction ls generalizing a with
  | nil => exact h
  | cons l ls ih =>
      exact ih (h.addLink l (hsource l List.mem_cons_self)) (sources_addLink hsource)

/-- The node that waits gets its descriptor. -/
theorem describe {d : Descriptor} (h : Agrees [d.id] a) : Agrees [] (a.describe d) where
  built := h.built
  described := by
    intro id
    show id ∈ a.graph.nodes ↔ id ∈ a.descriptors.insert d.id d ∨ id ∈ []
    rw [h.described, Std.ExtTreeMap.mem_insert, Std.LawfulEqCmp.compare_eq_iff_eq,
      List.mem_singleton]
    constructor
    · rintro (hid | rfl)
      · exact Or.inl (Or.inr hid)
      · exact Or.inl (Or.inl rfl)
    · rintro ((rfl | hid) | hid)
      · exact Or.inr rfl
      · exact Or.inl hid
      · exact nomatch hid
  selfKeyed := h.selfKeyed.insert d
  kind_known := h.kind_known
  kind_used := h.kind_used

/-- Taking up a plan keeps the stores in step. -/
theorem takeUp (h : Agrees [] a) (o : Options) (p : Plan) :
    Agrees [] (takeUp o a p).value := by
  rw [takeUp_value]
  exact ((h.withNode p.fact.id).foldl_addLink fun l hl => source_mem_withNode hl).describe

theorem takeUpAll (h : Agrees [] a) (o : Options) (ps : List Plan) :
    Agrees [] (takeUpAll o a ps) :=
  takeUpAll_induction (fun _ p _ h => h.takeUp o p) h

theorem ofSources (o : Options) (srcs : List FactSource) : Agrees [] (ofSources o srcs) := by
  rw [ofSources_eq]
  exact start.takeUpAll o (srcs.flatMap o.plans)

end Agrees

/-! ## Kinds in closed form -/

/-- Records the kinds of links, one after the other. -/
def recordLinks (kinds : EdgeKinds) (ls : List Link) : EdgeKinds :=
  ls.foldl (fun kinds l => kinds.insertIfNew l.edge.id l.kind) kinds

theorem recordLinks_append (kinds : EdgeKinds) (ls ls' : List Link) :
    recordLinks kinds (ls ++ ls') = recordLinks (recordLinks kinds ls) ls' :=
  List.foldl_append

/-- Under a free key stands the kind of the first link with that edge id. -/
theorem getElem?_recordLinks (kinds : EdgeKinds) (ls : List Link) (k : EdgeId) :
    (recordLinks kinds ls)[k]? = kinds[k]?.or ((ls.find? (·.edge.id = k)).map (·.kind)) :=
  getElem?_foldl_insertIfNew kinds ls (·.edge.id) (·.kind) k

namespace Agrees

variable {a : Analysis} {pending : List NodeId}

theorem edgeKinds_foldl_addLink (h : Agrees pending a) {ls : List Link}
    (hsource : ∀ l ∈ ls, l.source ∈ a.graph.nodes) :
    (ls.foldl Analysis.addLink a).edgeKinds = recordLinks a.edgeKinds ls := by
  induction ls generalizing a with
  | nil => rfl
  | cons l ls ih =>
      rw [List.foldl_cons, ih (h.addLink l (hsource l List.mem_cons_self)) (sources_addLink hsource),
        h.edgeKinds_addLink_eq]
      rfl

theorem edgeKinds_takeUp (h : Agrees [] a) (o : Options) (p : Plan) :
    (Analysis.takeUp o a p).value.edgeKinds = recordLinks a.edgeKinds (p.links o) := by
  rw [takeUp_value]
  exact (h.withNode p.fact.id).edgeKinds_foldl_addLink fun l hl => source_mem_withNode hl

/-- The kinds of a run are those of the links of its plans, first comers first. -/
theorem edgeKinds_takeUpAll (h : Agrees [] a) (o : Options) (ps : List Plan) :
    (Analysis.takeUpAll o a ps).edgeKinds =
      recordLinks a.edgeKinds (ps.flatMap (·.links o)) := by
  induction ps generalizing a with
  | nil => rfl
  | cons p ps ih =>
      rw [takeUpAll_cons, ih (h.takeUp o p), h.edgeKinds_takeUp, List.flatMap_cons,
        recordLinks_append]

end Agrees

/-- **The stores of an analysis agree.**  After any sources, whatever they
    answer, the described types are the nodes, each under its own id, every
    edge has a kind under its id, and no kind is kept for anything else. -/
theorem stores_agree (o : Options) (srcs : List FactSource) :
    (∀ id, id ∈ (ofSources o srcs).descriptors ↔ id ∈ (ofSources o srcs).graph.nodes) ∧
      (∀ (id : NodeId) (d : Descriptor), (ofSources o srcs).descriptors[id]? = some d → d.id = id) ∧
      (∀ e ∈ (ofSources o srcs).graph.edges, e.id ∈ (ofSources o srcs).edgeKinds) ∧
      ∀ k ∈ (ofSources o srcs).edgeKinds, ∃ e ∈ (ofSources o srcs).graph.edges, e.id = k := by
  have h := Agrees.ofSources o srcs
  refine ⟨?_, h.selfKeyed, h.kind_known, h.kind_used⟩
  intro id
  rw [h.described id]
  simp

end Analysis

end Lineage
