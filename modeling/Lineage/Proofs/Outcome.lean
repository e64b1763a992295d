import Lineage.Inspection.Basic
import Lineage.Proofs.Meaning
import Lineage.Proofs.Store

/-! # What an analysis comes to

    Sources are coherent when they never contradict each other, as the modules
    of one catalog are (`Catalog.coherent`).  What an analysis of such sources
    comes to does not depend on their order, nor on the order in which they
    declare their types: nodes, edges, kinds and descriptors are each given by
    the relation between types (`mem_nodes_ofSources`, `mem_edges_ofSources`,
    `edgeKinds_ofSources`, `descriptors_ofSources`).

    The headline is `relations_of_catalog`: for a catalog, the graph is exactly
    the relation, with the types that take part and the ends of relations as
    its nodes. -/

namespace Lineage

/-- Sources that do not contradict each other: what two of them resolve, they
    resolve alike. -/
structure Coherent (srcs : List FactSource) : Prop where
  sound : ∀ src ∈ srcs, Resolver.Sound src.resolve
  agree : ∀ src ∈ srcs, ∀ src' ∈ srcs, ∀ id f f',
    src.resolve id = .ok f → src'.resolve id = .ok f' → f = f'

namespace Options

variable {o : Options} {srcs : List FactSource}

/-- A source declares the type, and it takes part. -/
def AcceptedIn (o : Options) (srcs : List FactSource) (id : NodeId) : Prop :=
  ∃ src ∈ srcs, id ∈ src.declared ∧ o.Accepted src.resolve id

/-- A source declares a type and relates it to another one. -/
def RelatesIn (o : Options) (srcs : List FactSource) (kind : EdgeKind) (s t : NodeId) : Prop :=
  ∃ src ∈ srcs, s ∈ src.declared ∧ o.Relates src.resolve kind s t

theorem RelatesIn.kind_unique (hsrcs : Coherent srcs) {kind kind' : EdgeKind} {s t : NodeId}
    (h : o.RelatesIn srcs kind s t) (h' : o.RelatesIn srcs kind' s t) : kind = kind' := by
  obtain ⟨src, hsrc, -, hrel⟩ := h
  obtain ⟨src', hsrc', -, hrel'⟩ := h'
  exact hrel.kind_unique (hsrcs.agree src hsrc src' hsrc' s) hrel'

theorem RelatesIn.arrowFree (hsrcs : Coherent srcs) {kind : EdgeKind} {s t : NodeId}
    (h : o.RelatesIn srcs kind s t) : ArrowFree s := by
  obtain ⟨src, hsrc, -, hrel⟩ := h
  obtain ⟨fact, hfact, -⟩ := hrel.accepted
  exact (hsrcs.sound src hsrc).arrowFree s fact hfact

theorem planFor_of_mem {p : Plan} (h : p ∈ srcs.flatMap o.plans) :
    ∃ src ∈ srcs, ∃ s ∈ src.declared, o.PlanFor src.resolve s p := by
  obtain ⟨src, hsrc, hp⟩ := List.mem_flatMap.mp h
  obtain ⟨s, hs, hplan⟩ := List.mem_filterMap.mp hp
  exact ⟨src, hsrc, s, hs, planFor_of_plan (planned?_eq_some.mp hplan)⟩

theorem exists_plan {src : FactSource} (hsrc : src ∈ srcs) {s : NodeId} (hs : s ∈ src.declared)
    (h : o.Accepted src.resolve s) : ∃ p ∈ srcs.flatMap o.plans, o.PlanFor src.resolve s p := by
  obtain ⟨p, hplan⟩ := plan_succeeds h
  have hp : p ∈ o.plans src := List.mem_filterMap.mpr ⟨s, hs, planned?_eq_some.mpr hplan⟩
  exact ⟨p, List.mem_flatMap.mpr ⟨src, hsrc, hp⟩, planFor_of_plan hplan⟩

end Options

namespace Analysis

variable {o : Options} {srcs : List FactSource}

/-! ## Nodes and edges -/

theorem mem_nodes_ofSources (hsrcs : Coherent srcs) (n : NodeId) :
    n ∈ (ofSources o srcs).graph.nodes ↔
      o.AcceptedIn srcs n ∨ ∃ kind s, o.RelatesIn srcs kind s n := by
  rw [ofSources_eq, nodes_takeUpAll, mem_adjoinAll, List.mem_flatMap]
  constructor
  · rintro (hno | ⟨p, hp, hn⟩)
    · exact nomatch hno
    obtain ⟨src, hsrc, s, hs, hplan⟩ := Options.planFor_of_mem hp
    have hr := hsrcs.sound src hsrc
    rcases List.mem_cons.mp hn with rfl | hn
    · rw [hplan.fact_id hr]
      exact Or.inl ⟨src, hsrc, hs, p.fact, hplan.fact, hplan.accepts⟩
    · obtain ⟨kind, hrel⟩ := (hplan.mem_links_iff hr n).mp (List.mem_map.mp hn)
      exact Or.inr ⟨kind, s, src, hsrc, hs, hrel⟩
  · rintro (⟨src, hsrc, hn, hacc⟩ | ⟨kind, s, src, hsrc, hs, hrel⟩)
    · obtain ⟨p, hp, hplan⟩ := Options.exists_plan hsrc hn hacc
      refine Or.inr ⟨p, hp, ?_⟩
      exact List.mem_cons.mpr (Or.inl (hplan.fact_id (hsrcs.sound src hsrc)).symm)
    · obtain ⟨p, hp, hplan⟩ := Options.exists_plan hsrc hs hrel.accepted
      have hlink := (hplan.mem_links_iff (hsrcs.sound src hsrc) n).mpr ⟨kind, hrel⟩
      exact Or.inr ⟨p, hp, List.mem_cons_of_mem _ (List.mem_map.mpr hlink)⟩

theorem mem_edges_ofSources (hsrcs : Coherent srcs) (e : Edge) :
    e ∈ (ofSources o srcs).graph.edges ↔ ∃ kind, o.RelatesIn srcs kind e.source e.target := by
  rw [ofSources_eq, edges_takeUpAll, mem_adjoinAll, List.mem_flatMap]
  constructor
  · rintro (hno | ⟨p, hp, he⟩)
    · exact nomatch hno
    obtain ⟨src, hsrc, s, hs, hplan⟩ := Options.planFor_of_mem hp
    have hr := hsrcs.sound src hsrc
    obtain ⟨l, hl, rfl⟩ := List.mem_map.mp he
    have hsource : l.edge.source = s := (Plan.source_of_mem_links hl).trans (hplan.fact_id hr)
    obtain ⟨kind, hrel⟩ := (hplan.mem_links_iff hr l.target.id).mp ⟨l, hl, rfl⟩
    rw [hsource]
    exact ⟨kind, src, hsrc, hs, hrel⟩
  · rintro ⟨kind, src, hsrc, hs, hrel⟩
    obtain ⟨p, hp, hplan⟩ := Options.exists_plan hsrc hs hrel.accepted
    have hr := hsrcs.sound src hsrc
    obtain ⟨l, hl, ht⟩ := (hplan.mem_links_iff hr e.target).mpr ⟨kind, hrel⟩
    have hsource : l.source = e.source := (Plan.source_of_mem_links hl).trans (hplan.fact_id hr)
    refine Or.inr ⟨p, hp, List.mem_map.mpr ⟨l, hl, ?_⟩⟩
    rw [Link.edge, hsource, ht]

/-! ## Kinds -/

/-- The kind of an edge id is the one that the first plan with such a link
    gives it. -/
theorem edgeKinds_ofSources_eq (o : Options) (srcs : List FactSource) (k : EdgeId) :
    (ofSources o srcs).edgeKinds[k]? = (srcs.flatMap o.plans).findSome? (·.kindAt o k) := by
  rw [ofSources_eq, Agrees.start.edgeKinds_takeUpAll, getElem?_recordLinks]
  rw [Std.ExtTreeMap.getElem?_empty, Option.none_or, List.find?_flatMap, List.map_findSome?]
  rfl

/-- Only the first kind counts, but all that are given to an id are the same:
    its ends can be read off it, and a pair is related in one way only. -/
theorem edgeKinds_ofSources (hsrcs : Coherent srcs) (k : EdgeId) (kind : EdgeKind) :
    (ofSources o srcs).edgeKinds[k]? = some kind ↔
      ∃ s t, edgeId s t = k ∧ o.RelatesIn srcs kind s t := by
  have sound : ∀ kind, (ofSources o srcs).edgeKinds[k]? = some kind →
      ∃ s t, edgeId s t = k ∧ o.RelatesIn srcs kind s t := by
    intro kind hat
    rw [edgeKinds_ofSources_eq] at hat
    obtain ⟨p, hp, hat⟩ := List.exists_of_findSome?_eq_some hat
    obtain ⟨src, hsrc, s, hs, hplan⟩ := Options.planFor_of_mem hp
    have hr := hsrcs.sound src hsrc
    obtain ⟨t, rfl⟩ := hplan.exists_of_kindAt hr hat
    exact ⟨s, t, rfl, src, hsrc, hs, (hplan.kindAt_iff hr t kind).mp hat⟩
  refine ⟨sound kind, ?_⟩
  rintro ⟨s, t, rfl, hrel⟩
  cases hat : (ofSources o srcs).edgeKinds[edgeId s t]? with
  | none =>
      obtain ⟨src, hsrc, hs, hrel⟩ := hrel
      obtain ⟨p, hp, hplan⟩ := Options.exists_plan hsrc hs hrel.accepted
      rw [edgeKinds_ofSources_eq] at hat
      have hnone := List.findSome?_eq_none_iff.mp hat p hp
      rw [(hplan.kindAt_iff (hsrcs.sound src hsrc) t kind).mpr hrel] at hnone
      exact nomatch hnone
  | some kind' =>
      -- another plan may have come first, but only for the same pair
      obtain ⟨s', t', hid, hrel'⟩ := sound kind' hat
      obtain ⟨rfl, rfl⟩ := edgeId_inj (hrel'.arrowFree hsrcs) (hrel.arrowFree hsrcs) hid
      rw [hrel'.kind_unique hsrcs hrel]

/-! ## Descriptors -/

/-- Every descriptor is that of facts that a source gives under its id. -/
def Told (srcs : List FactSource) (t : Table Descriptor) : Prop :=
  ∀ id d, t[id]? = some d → ∃ src ∈ srcs, ∃ f, src.resolve id = .ok f ∧ d = .ofFact f

theorem Told.insert {t : Table Descriptor} (h : Told srcs t) {src : FactSource}
    (hsrc : src ∈ srcs) {f : TypeFact} (hf : src.resolve f.id = .ok f) :
    Told srcs (t.insert f.id (.ofFact f)) := by
  intro id d hd
  rw [getElem?_insert] at hd
  by_cases hid : f.id = id
  · rw [if_pos hid] at hd
    exact ⟨src, hsrc, f, hid ▸ hf, (Option.some.inj hd).symm⟩
  · rw [if_neg hid] at hd
    exact h id d hd

theorem told_foldl_addLink {src : FactSource} (hsrc : src ∈ srcs) {ls : List Link}
    (htargets : ∀ l ∈ ls, src.resolve l.target.id = .ok l.target) {a : Analysis}
    (h : Told srcs a.descriptors) : Told srcs (ls.foldl addLink a).descriptors := by
  induction ls generalizing a with
  | nil => exact h
  | cons l ls ih =>
      refine ih (fun l' hl' => htargets l' (List.mem_cons_of_mem l hl')) ?_
      rcases descriptors_addLink a l with hd | ⟨-, hd⟩
      · rw [hd]
        exact h.insert hsrc (htargets l List.mem_cons_self)
      · rw [hd]
        exact h

theorem told_takeUp {src : FactSource} (hsrc : src ∈ srcs) (hr : Resolver.Sound src.resolve)
    {s : NodeId} {p : Plan} (hplan : o.PlanFor src.resolve s p) {a : Analysis}
    (h : Told srcs a.descriptors) : Told srcs (takeUp o a p).value.descriptors := by
  have hself : src.resolve p.fact.id = .ok p.fact := hplan.fact_id hr ▸ hplan.fact
  rw [takeUp_value]
  refine Told.insert ?_ hsrc hself
  exact told_foldl_addLink hsrc (fun l hl => hplan.resolve_target hr hl) h

theorem told_ofSources (hsrcs : Coherent srcs) : Told srcs (ofSources o srcs).descriptors := by
  rw [ofSources_eq]
  refine takeUpAll_induction (P := fun a => Told srcs a.descriptors) ?_ ?_
  · intro a p hp h
    obtain ⟨src, hsrc, s, -, hplan⟩ := Options.planFor_of_mem hp
    exact told_takeUp hsrc (hsrcs.sound src hsrc) hplan h
  · intro id d hd
    exact nomatch Std.ExtTreeMap.getElem?_empty.symm.trans hd

/-- A node is described by the facts that any source gives. -/
theorem descriptors_ofSources (hsrcs : Coherent srcs) {n : NodeId}
    (hn : n ∈ (ofSources o srcs).graph.nodes) {src : FactSource} (hsrc : src ∈ srcs)
    {f : TypeFact} (hf : src.resolve n = .ok f) :
    (ofSources o srcs).descriptors[n]? = some (.ofFact f) := by
  have hmem : n ∈ (ofSources o srcs).descriptors := by
    rcases ((Agrees.ofSources o srcs).described n).mp hn with h | h
    · exact h
    · exact nomatch h
  obtain ⟨d, hd⟩ := mem_table_iff.mp hmem
  obtain ⟨src', hsrc', f', hf', rfl⟩ := told_ofSources hsrcs n d hd
  rw [hd, hsrcs.agree src hsrc src' hsrc' n f f' hf hf']

end Analysis

/-! ## Catalogs -/

namespace Catalog

/-- The modules of a catalog, as sources. -/
def sources (c : Catalog) : List FactSource := c.modules.map c.source

theorem resolve_of_mem_sources {c : Catalog} {src : FactSource} (h : src ∈ c.sources) :
    src.resolve = c.resolve := by
  obtain ⟨m, -, rfl⟩ := List.mem_map.mp h
  rfl

variable {ms : List ModuleFacts}

/-- What a catalog resolves, one of its modules declares. -/
theorem declared_of_resolve {id : NodeId} {f : TypeFact} (h : (ofModules ms).resolve id = .ok f) :
    ∃ src ∈ (ofModules ms).sources, id ∈ src.declared ∧
      src.resolve = (ofModules ms).resolve := by
  obtain ⟨m, hm, hf⟩ := List.mem_flatMap.mp (mem_facts_of_resolve h)
  exact ⟨_, List.mem_map.mpr ⟨m, hm, rfl⟩, List.mem_map.mpr ⟨f, hf, id_of_resolve h⟩, rfl⟩

/-- The modules of a catalog are coherent. -/
theorem coherent (ms : List ModuleFacts) : Coherent (ofModules ms).sources where
  sound := by
    intro src hsrc
    rw [resolve_of_mem_sources hsrc]
    exact ⟨fun id f => id_of_resolve, fun id f => arrowFree_of_resolve⟩
  agree := by
    intro src hsrc src' hsrc' id f f' hf hf'
    rw [resolve_of_mem_sources hsrc] at hf
    rw [resolve_of_mem_sources hsrc'] at hf'
    exact Except.ok.inj (hf.symm.trans hf')

theorem arrowFree_of_accepted {o : Options} {n : NodeId}
    (h : o.Accepted (ofModules ms).resolve n) : ArrowFree n := by
  obtain ⟨fact, hfact, -⟩ := h
  exact arrowFree_of_resolve hfact

theorem acceptedIn_iff {o : Options} {n : NodeId} :
    o.AcceptedIn (ofModules ms).sources n ↔ o.Accepted (ofModules ms).resolve n := by
  constructor
  · rintro ⟨src, hsrc, -, hacc⟩
    exact resolve_of_mem_sources hsrc ▸ hacc
  · intro hacc
    have ⟨fact, hfact, _⟩ := hacc
    obtain ⟨src, hsrc, hn, hr⟩ := declared_of_resolve hfact
    exact ⟨src, hsrc, hn, hr.symm ▸ hacc⟩

theorem relatesIn_iff {o : Options} {kind : EdgeKind} {s t : NodeId} :
    o.RelatesIn (ofModules ms).sources kind s t ↔ o.Relates (ofModules ms).resolve kind s t := by
  constructor
  · rintro ⟨src, hsrc, -, hrel⟩
    exact resolve_of_mem_sources hsrc ▸ hrel
  · intro hrel
    obtain ⟨fact, hfact, -⟩ := hrel.accepted
    obtain ⟨src, hsrc, hs, hr⟩ := declared_of_resolve hfact
    exact ⟨src, hsrc, hs, hr.symm ▸ hrel⟩

end Catalog

/-- An inspection analyzes the modules of its catalog, in order. -/
theorem Inspection.ofCatalog_analysis (o : Options) (c : Catalog) :
    (Inspection.ofCatalog o c).value.analysis = Analysis.ofSources o c.sources := by
  have hrun : ∀ (ms : List ModuleFacts) (i : Inspection),
      (ms.foldl (fun i m => (addModule o c i m).value) i).analysis =
        (ms.map c.source).foldl (fun a src => (a.process o src).value.1) i.analysis := by
    intro ms
    induction ms with
    | nil => intro i; rfl
    | cons m ms ih =>
        intro i
        rw [List.foldl_cons, ih]
        rfl
  rw [ofCatalog, Logged.value_foldlM, hrun]
  rfl

theorem Inspection.agrees_ofCatalog (o : Options) (c : Catalog) :
    Analysis.Agrees [] (Inspection.ofCatalog o c).value.analysis := by
  rw [ofCatalog_analysis]
  exact .ofSources o c.sources

/-! ## The relation of a catalog -/

namespace Analysis

section Modules

variable {o : Options} {ms : List ModuleFacts}

theorem mem_nodes_ofModules (n : NodeId) :
    n ∈ (ofSources o (Catalog.ofModules ms).sources).graph.nodes ↔
      o.Accepted (Catalog.ofModules ms).resolve n ∨
        ∃ kind s, o.Relates (Catalog.ofModules ms).resolve kind s n := by
  rw [mem_nodes_ofSources (Catalog.coherent ms)]
  simp only [Catalog.acceptedIn_iff, Catalog.relatesIn_iff]

theorem mem_edges_ofModules (e : Edge) :
    e ∈ (ofSources o (Catalog.ofModules ms).sources).graph.edges ↔
      ∃ kind, o.Relates (Catalog.ofModules ms).resolve kind e.source e.target := by
  rw [mem_edges_ofSources (Catalog.coherent ms)]
  simp only [Catalog.relatesIn_iff]

theorem edgeKinds_ofModules (k : EdgeId) (kind : EdgeKind) :
    (ofSources o (Catalog.ofModules ms).sources).edgeKinds[k]? = some kind ↔
      ∃ s t, edgeId s t = k ∧ o.Relates (Catalog.ofModules ms).resolve kind s t := by
  rw [edgeKinds_ofSources (Catalog.coherent ms)]
  simp only [Catalog.relatesIn_iff]

/-- Every node is a type that the catalog resolves. -/
theorem resolves_of_mem_nodes {n : NodeId}
    (hn : n ∈ (ofSources o (Catalog.ofModules ms).sources).graph.nodes) :
    ∃ f, (Catalog.ofModules ms).resolve n = .ok f := by
  rcases (mem_nodes_ofModules n).mp hn with ⟨f, hf, -⟩ | ⟨kind, s, hrel⟩
  · exact ⟨f, hf⟩
  · obtain ⟨f, hf, -⟩ := hrel.shown
    exact ⟨f, hf⟩

/-- A node is described by the facts that the catalog resolves it to. -/
theorem descriptors_ofModules {n : NodeId}
    (hn : n ∈ (ofSources o (Catalog.ofModules ms).sources).graph.nodes) {f : TypeFact}
    (hf : (Catalog.ofModules ms).resolve n = .ok f) :
    (ofSources o (Catalog.ofModules ms).sources).descriptors[n]? = some (.ofFact f) := by
  obtain ⟨src, hsrc, -, hr⟩ := Catalog.declared_of_resolve hf
  exact descriptors_ofSources (Catalog.coherent ms) hn hsrc (hr ▸ hf)

end Modules

/-- The graph has the edge, and it is of that kind. -/
def HasEdge (a : Analysis) (kind : EdgeKind) (s t : NodeId) : Prop :=
  (⟨s, t⟩ : Edge) ∈ a.graph.edges ∧ a.edgeKinds[edgeId s t]? = some kind

theorem hasEdge_ofModules (o : Options) (ms : List ModuleFacts) (kind : EdgeKind) (s t : NodeId) :
    (ofSources o (Catalog.ofModules ms).sources).HasEdge kind s t ↔
      o.Relates (Catalog.ofModules ms).resolve kind s t := by
  rw [HasEdge, mem_edges_ofModules, edgeKinds_ofModules]
  constructor
  · rintro ⟨⟨kind', hrel'⟩, s', t', hid, hrel⟩
    obtain ⟨rfl, rfl⟩ := edgeId_inj (Catalog.arrowFree_of_accepted hrel.accepted)
      (Catalog.arrowFree_of_accepted hrel'.accepted) hid
    exact hrel
  · intro hrel
    exact ⟨⟨kind, hrel⟩, s, t, rfl, hrel⟩

end Analysis

namespace Inspection

theorem mem_nodes_ofCatalog (o : Options) (ms : List ModuleFacts) (n : NodeId) :
    n ∈ (Inspection.ofCatalog o (.ofModules ms)).value.graph.nodes ↔
      o.Accepted (Catalog.ofModules ms).resolve n ∨
        ∃ kind s, o.Relates (Catalog.ofModules ms).resolve kind s n := by
  rw [graph, ofCatalog_analysis]
  exact Analysis.mem_nodes_ofModules n

theorem mem_edges_ofCatalog (o : Options) (ms : List ModuleFacts) (e : Edge) :
    e ∈ (Inspection.ofCatalog o (.ofModules ms)).value.graph.edges ↔
      ∃ kind, o.Relates (Catalog.ofModules ms).resolve kind e.source e.target := by
  rw [graph, ofCatalog_analysis]
  exact Analysis.mem_edges_ofModules e

end Inspection

namespace Analysis

/-- An analysis holds the relation between types, with the types that take part
    and the ends of relations as its nodes, and it holds nothing else. -/
structure Depicts (a : Analysis) (o : Options) (r : Resolver) : Prop where
  derives : ∀ s t, a.HasEdge .derivesFrom s t ↔ o.Derives r s t
  implements : ∀ s t, a.HasEdge .implements s t ↔ o.Implements r s t
  edges : ∀ s t, (⟨s, t⟩ : Edge) ∈ a.graph.edges → ∃ kind, a.HasEdge kind s t
  kinds : ∀ k kind, a.edgeKinds[k]? = some kind → ∃ s t, edgeId s t = k ∧ a.HasEdge kind s t
  nodes : ∀ n, n ∈ a.graph.nodes ↔ o.Accepted r n ∨ ∃ s, (⟨s, n⟩ : Edge) ∈ a.graph.edges
  described : ∀ n ∈ a.graph.nodes, ∃ f, r n = .ok f ∧ a.descriptors[n]? = some (.ofFact f)
  descriptors : ∀ n ∈ a.descriptors, n ∈ a.graph.nodes

/-- **The graph of a catalog is the relation between its types.**  It has an
    edge for each type that takes part and its base or an interface of its own,
    as `Options.Derives` and `Options.Implements` say, of that kind; its nodes
    are the types that take part and the targets of edges, each described as
    the catalog resolves it; and nothing else is kept. -/
theorem relations_of_catalog (o : Options) (ms : List ModuleFacts) :
    (Inspection.ofCatalog o (.ofModules ms)).value.analysis.Depicts o
      (Catalog.ofModules ms).resolve := by
  have hedge := hasEdge_ofModules o ms
  rw [Inspection.ofCatalog_analysis]
  refine ⟨hedge .derivesFrom, hedge .implements, ?_, ?_, ?_, ?_, ?_⟩
  · intro s t h
    obtain ⟨kind, hrel⟩ := (mem_edges_ofModules _).mp h
    exact ⟨kind, (hedge kind s t).mpr hrel⟩
  · intro k kind h
    obtain ⟨s, t, hid, hrel⟩ := (edgeKinds_ofModules k kind).mp h
    exact ⟨s, t, hid, (hedge kind s t).mpr hrel⟩
  · intro n
    rw [mem_nodes_ofModules]
    refine or_congr Iff.rfl ?_
    simp only [mem_edges_ofModules]
    exact exists_comm
  · intro n hn
    obtain ⟨f, hf⟩ := resolves_of_mem_nodes hn
    exact ⟨f, hf, descriptors_ofModules hn hf⟩
  · intro n hn
    exact ((Agrees.ofSources o _).described n).mpr (Or.inl hn)

/-- A base that is listed as an interface too gets one edge, an inherited
    interface none, and a root none. -/
example :
    (Inspection.ofCatalog {} (.ofModules [{ name := "shapes", types := [
      { id := "C", name := "C", space? := some "n", base? := some "B",
        interfaces := ["I", "B", "J"] },
      { id := "B", name := "B", space? := some "n", base? := some "System.Object",
        interfaces := ["I"] },
      { id := "I", name := "I", space? := some "n" },
      { id := "J", name := "J", space? := some "n" }] }])).value.analysis.graph.edges =
    [⟨"C", "B"⟩, ⟨"C", "J"⟩, ⟨"B", "I"⟩] := by decide +kernel

end Analysis

end Lineage
