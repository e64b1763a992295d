import Lineage.Proofs.Outcome

/-! # Leaving types out is restricting the graph

    What an analysis leaves out is asked in three places: of a declared type
    before anything else is resolved, of its base once the base has taken its
    interfaces away, and of each interface.  `Options.unfiltered` never leaves
    anything out, and an analysis with it does more work: it plans types that
    were passed over before, and these may fail or bring in edges.

    All the same the plans of the filtered analysis are those of the other one
    whose type is kept (`plans_eq_filter`), and the links of such a plan are
    its links to types that are kept (`links_eq_filter`).  To drop repetitions
    commutes with filtering, so the list of edges comes out filtered, in order.
    The headline is `filtering_is_restriction`. -/

namespace Lineage

namespace Options

/-- The same options, but with nothing left out. -/
def unfiltered (o : Options) : Options := { o with ignoreStd := false, exclude? := none }

/-- Whether there are usable facts under an id, and they are not left out. -/
def keeps (o : Options) (r : Resolver) (id : NodeId) : Bool :=
  match r id with
  | .ok fact => !o.ignores fact
  | .error _ => false

/-- Whether both ends of an edge are kept. -/
def keepsEdge (o : Options) (r : Resolver) (e : Edge) : Bool :=
  o.keeps r e.source && o.keeps r e.target

variable {o : Options} {r : Resolver} {src : FactSource}

theorem keeps_of_ok {id : NodeId} {fact : TypeFact} (h : r id = .ok fact) :
    o.keeps r id = !o.ignores fact := by
  rw [keeps, h]

@[simp] theorem ignores_unfiltered (o : Options) (fact : TypeFact) :
    o.unfiltered.ignores fact = false := by
  cases h : fact.space? with
  | none => simp [ignores, h]
  | some space => simp [ignores, ignoresSpace, unfiltered, h]

/-! ## Plans -/

/-- A type is planned when it is planned with nothing left out and is kept
    itself: what it refers to has no say. -/
theorem planned?_eq_filter (o : Options) (src : FactSource) (id : NodeId) :
    o.planned? src id = (o.unfiltered.planned? src id).filter (!o.ignores ·.fact) := by
  apply Option.ext
  intro p
  rw [Option.filter_eq_some_iff, planned?_eq_some, planned?_eq_some, plan_eq_some, plan_eq_some,
    ignores_unfiltered, Bool.not_eq_true']
  show _ ↔ (_ ∧ _ ∧ _ ∧ o.planBase src p.fact = _ ∧ _) ∧ _
  constructor
  · rintro ⟨hfact, hnamed, hshown, hrest⟩
    exact ⟨⟨hfact, hnamed, rfl, hrest⟩, hshown⟩
  · rintro ⟨⟨hfact, hnamed, -, hrest⟩, hshown⟩
    exact ⟨hfact, hnamed, hshown, hrest⟩

theorem plans_eq_filter (o : Options) (src : FactSource) :
    o.plans src = (o.unfiltered.plans src).filter (!o.ignores ·.fact) := by
  rw [plans, plans, List.filter_filterMap]
  exact congrArg (src.declared.filterMap ·) (funext (planned?_eq_filter o src))

/-! ## Links -/

/-- The links of a plan are those that it has with nothing left out and that
    lead to types that are kept. -/
theorem links_eq_filter (o : Options) (p : Plan) :
    p.links o = (p.links o.unfiltered).filter (!o.ignores ·.target) := by
  have hbase : p.baseLinks o = (p.baseLinks o.unfiltered).filter (!o.ignores ·.target) := by
    simp only [Plan.baseLinks, ignores_unfiltered, Bool.not_false, List.filter_true, List.filter_map]
    rfl
  have hinterfaces :
      p.interfaceLinks o = (p.interfaceLinks o.unfiltered).filter (!o.ignores ·.target) := by
    simp only [Plan.interfaceLinks, ignores_unfiltered, Bool.not_false, List.filter_true,
      List.filter_map]
    rfl
  rw [Plan.links, Plan.links, List.filter_append, hbase, hinterfaces]

/-- The edges of a plan that have both ends kept are those of its links, if
    its type is kept, and none otherwise. -/
theorem filter_edges_links {s : NodeId} {p : Plan} (h : o.unfiltered.PlanFor r s p)
    (hr : Resolver.Sound r) :
    ((p.links o.unfiltered).map Link.edge).filter (o.keepsEdge r) =
      if o.ignores p.fact then [] else (p.links o).map Link.edge := by
  have hkeeps : ∀ l ∈ p.links o.unfiltered,
      (o.keepsEdge r ∘ Link.edge) l = (!o.ignores p.fact && !o.ignores l.target) := by
    intro l hl
    have hsource : r l.edge.source = .ok p.fact := by
      rw [Link.edge, Plan.source_of_mem_links hl, h.fact_id hr]
      exact h.fact
    have htarget : r l.edge.target = .ok l.target := h.resolve_target hr hl
    rw [Function.comp_apply, keepsEdge, keeps_of_ok hsource, keeps_of_ok htarget]
  rw [links_eq_filter o, List.filter_map, List.filter_congr hkeeps]
  cases o.ignores p.fact with
  | true => simp
  | false => simp

/-- The edges of plans that have both ends kept are the edges of those plans
    whose type is kept. -/
theorem filter_edges_plans {ps : List Plan} (h : ∀ p ∈ ps, ∃ s, o.unfiltered.PlanFor r s p)
    (hr : Resolver.Sound r) :
    (ps.flatMap fun p => (p.links o.unfiltered).map Link.edge).filter (o.keepsEdge r) =
      (ps.filter (!o.ignores ·.fact)).flatMap fun p => (p.links o).map Link.edge := by
  induction ps with
  | nil => rfl
  | cons p ps ih =>
      obtain ⟨s, hp⟩ := h p List.mem_cons_self
      rw [List.flatMap_cons, List.filter_append, ih fun q hq => h q (List.mem_cons_of_mem p hq),
        filter_edges_links hp hr, List.filter_cons]
      cases o.ignores p.fact with
      | true => rfl
      | false => rfl

/-! ## Relations -/

theorem Accepts.unfiltered {fact : TypeFact} (h : o.Accepts r fact) :
    o.unfiltered.Accepts r fact :=
  ⟨h.named, ignores_unfiltered o fact, h.base, h.interfaces⟩

theorem Shows.unfiltered {id : NodeId} (h : o.Shows r id) : o.unfiltered.Shows r id := by
  obtain ⟨fact, hfact, -⟩ := h
  exact ⟨fact, hfact, ignores_unfiltered o fact⟩

theorem Accepted.unfiltered {id : NodeId} (h : o.Accepted r id) :
    o.unfiltered.Accepted r id := by
  obtain ⟨fact, hfact, hacc⟩ := h
  exact ⟨fact, hfact, hacc.unfiltered⟩

/-- What is related is related in the same way when nothing is left out. -/
theorem Relates.unfiltered {kind : EdgeKind} {s t : NodeId} (h : o.Relates r kind s t) :
    o.unfiltered.Relates r kind s t := by
  cases kind with
  | derivesFrom =>
      obtain ⟨fact, hfact, hacc, hbase, hroot, hshown⟩ := h
      exact ⟨fact, hfact, hacc.unfiltered, hbase, hroot, hshown.unfiltered⟩
  | implements =>
      obtain ⟨fact, hfact, hacc, hlisted, hown, hshown, hno⟩ := h
      exact ⟨fact, hfact, hacc.unfiltered, hlisted, hown, hshown.unfiltered, hno⟩

end Options

/-! ## Runs -/

namespace Analysis

variable {o : Options} {srcs : List FactSource}

/-- With one resolver for all sources, the edges of a run are those of the run
    with nothing left out that have both ends kept, in the same order. -/
theorem edges_ofSources_eq_filter {r : Resolver} (hr : Resolver.Sound r)
    (hsrcs : ∀ src ∈ srcs, src.resolve = r) :
    (ofSources o srcs).graph.edges =
      (ofSources o.unfiltered srcs).graph.edges.filter (o.keepsEdge r) := by
  have hplans : srcs.flatMap o.plans =
      (srcs.flatMap o.unfiltered.plans).filter (!o.ignores ·.fact) := by
    rw [List.filter_flatMap]
    exact congrArg (srcs.flatMap ·) (funext (Options.plans_eq_filter o))
  have hfor : ∀ p ∈ srcs.flatMap o.unfiltered.plans, ∃ s, o.unfiltered.PlanFor r s p := by
    intro p hp
    obtain ⟨src, hsrc, s, -, hplan⟩ := Options.planFor_of_mem hp
    exact ⟨s, hsrcs src hsrc ▸ hplan⟩
  rw [ofSources_eq, ofSources_eq, edges_takeUpAll, edges_takeUpAll, filter_adjoinAll, hplans,
    Options.filter_edges_plans hfor hr]
  rfl

/-- An analysis is the part of another one that some options keep: the edges
    with both ends kept, in order and each of its kind, and no node but kept
    ones of the other. -/
structure Restricts (a whole : Analysis) (o : Options) (r : Resolver) : Prop where
  edges : a.graph.edges = whole.graph.edges.filter (o.keepsEdge r)
  kinds : ∀ e ∈ a.graph.edges,
    ∃ kind, a.edgeKinds[e.id]? = some kind ∧ whole.edgeKinds[e.id]? = some kind
  nodes : ∀ n ∈ a.graph.nodes,
    n ∈ whole.graph.nodes ∧ ∃ fact, r n = .ok fact ∧ o.ignores fact = false

/-- **Leaving types out is restricting the graph.**  To analyze a catalog with
    a standard library and a pattern left out is to analyze it with nothing
    left out and to keep the edges between types that are not ignored: the same
    edges in the same order, of the same kinds, and no other node. -/
theorem filtering_is_restriction (o : Options) (ms : List ModuleFacts) :
    (Inspection.ofCatalog o (.ofModules ms)).value.analysis.Restricts
      (Inspection.ofCatalog o.unfiltered (.ofModules ms)).value.analysis o
      (Catalog.ofModules ms).resolve := by
  have hsound : Resolver.Sound (Catalog.ofModules ms).resolve :=
    ⟨fun _ _ => Catalog.id_of_resolve, fun _ _ => Catalog.arrowFree_of_resolve⟩
  rw [Inspection.ofCatalog_analysis, Inspection.ofCatalog_analysis]
  refine ⟨?_, ?_, ?_⟩
  · exact edges_ofSources_eq_filter hsound fun src => Catalog.resolve_of_mem_sources
  · intro e he
    obtain ⟨kind, hrel⟩ := (mem_edges_ofModules e).mp he
    refine ⟨kind, (edgeKinds_ofModules e.id kind).mpr ⟨e.source, e.target, rfl, hrel⟩, ?_⟩
    exact (edgeKinds_ofModules e.id kind).mpr ⟨e.source, e.target, rfl, hrel.unfiltered⟩
  · intro n hn
    rw [mem_nodes_ofModules] at hn ⊢
    rcases hn with hacc | ⟨kind, s, hrel⟩
    · obtain ⟨fact, hfact, hshown⟩ := hacc
      exact ⟨Or.inl (Options.Accepted.unfiltered ⟨fact, hfact, hshown⟩), fact, hfact, hshown.shown⟩
    · exact ⟨Or.inr ⟨kind, s, hrel.unfiltered⟩, hrel.shown⟩

/-- An ignored base takes the interface that it lists away and gets no edge, nor
    does it bring in any; with nothing left out there are two edges more. -/
example :
    let o : Options := { ignoreStd := true }
    let c : Catalog := .ofModules [{ name := "m", types := [
      { id := "A", name := "A", space? := some "n", base? := some "S.B", interfaces := ["I", "J"] },
      { id := "S.B", name := "B", space? := some "System.Text", interfaces := ["I"] },
      { id := "I", name := "I", space? := some "n" },
      { id := "J", name := "J", space? := some "n" }] }]
    (Inspection.ofCatalog o c).value.graph.edges = [⟨"A", "J"⟩] ∧
      (Inspection.ofCatalog o.unfiltered c).value.graph.edges =
        [⟨"A", "S.B"⟩, ⟨"A", "J"⟩, ⟨"S.B", "I"⟩] := by decide +kernel

end Analysis

end Lineage
