import Lineage.Analysis.Basic
import Lineage.Proofs.Growth

/-! # What a run of the analysis adds up to

    A plan does not depend on what was analyzed before, so a run over any
    sources is one pass over the list of their plans (`ofSources_eq`).  A plan
    says which links a type gets, and taking it up is one pass over these
    (`takeUp_value`).  Hence closed forms: the nodes of a run are the ids its
    plans mention (`nodes_takeUpAll`), its edges are those of their links
    (`edges_takeUpAll`), each once and first comers first. -/

namespace Lineage

/-! ## Links and plans -/

/-- An edge to be, with the facts of its target. -/
structure Link where
  source : NodeId
  kind : EdgeKind
  target : TypeFact

/-- The edge of a link. -/
def Link.edge (l : Link) : Edge := ⟨l.source, l.target.id⟩

namespace Plan

/-- The link of a type to its base, unless that is ignored. -/
def baseLinks (o : Options) (p : Plan) : List Link :=
  (p.base?.toList.filter (!o.ignores ·)).map (⟨p.fact.id, .derivesFrom, ·⟩)

/-- The links of a type to its own interfaces, ignored ones left out. -/
def interfaceLinks (o : Options) (p : Plan) : List Link :=
  (p.interfaces.filter (!o.ignores ·)).map (⟨p.fact.id, .implements, ·⟩)

/-- The links of a type that takes part, in the order in which it gets them. -/
def links (o : Options) (p : Plan) : List Link := p.baseLinks o ++ p.interfaceLinks o

/-- The ids that a type brings into the graph: its own, and those it is linked
    to. -/
def mentions (o : Options) (p : Plan) : List NodeId :=
  p.fact.id :: (p.links o).map (·.target.id)

theorem mem_baseLinks {o : Options} {p : Plan} {l : Link} :
    l ∈ p.baseLinks o ↔
      ∃ f, p.base? = some f ∧ o.ignores f = false ∧ l = ⟨p.fact.id, .derivesFrom, f⟩ := by
  rw [baseLinks, List.mem_map]
  constructor
  · rintro ⟨f, hf, rfl⟩
    obtain ⟨hbase, hshown⟩ := List.mem_filter.mp hf
    exact ⟨f, Option.mem_toList.mp hbase, by simpa using hshown, rfl⟩
  · rintro ⟨f, hbase, hshown, rfl⟩
    exact ⟨f, List.mem_filter.mpr ⟨Option.mem_toList.mpr hbase, by simpa using hshown⟩, rfl⟩

theorem mem_interfaceLinks {o : Options} {p : Plan} {l : Link} :
    l ∈ p.interfaceLinks o ↔
      ∃ f ∈ p.interfaces, o.ignores f = false ∧ l = ⟨p.fact.id, .implements, f⟩ := by
  rw [interfaceLinks, List.mem_map]
  constructor
  · rintro ⟨f, hf, rfl⟩
    obtain ⟨hmem, hshown⟩ := List.mem_filter.mp hf
    exact ⟨f, hmem, by simpa using hshown, rfl⟩
  · rintro ⟨f, hmem, hshown, rfl⟩
    exact ⟨f, List.mem_filter.mpr ⟨hmem, by simpa using hshown⟩, rfl⟩

theorem source_of_mem_links {o : Options} {p : Plan} {l : Link} (h : l ∈ p.links o) :
    l.source = p.fact.id := by
  rcases List.mem_append.mp h with h | h
  · obtain ⟨f, -, -, rfl⟩ := mem_baseLinks.mp h
    rfl
  · obtain ⟨f, -, -, rfl⟩ := mem_interfaceLinks.mp h
    rfl

end Plan

namespace Options

/-- The plan for a declared type, if it takes part and all of it resolves. -/
def planned? (o : Options) (src : FactSource) (id : String) : Option Plan :=
  match o.plan src id with
  | .ok plan? => plan?
  | .error _ => none

/-- The plans of a source, in order of declaration. -/
def plans (o : Options) (src : FactSource) : List Plan := src.declared.filterMap (o.planned? src)

theorem planned?_eq_some {o : Options} {src : FactSource} {id : String} {p : Plan} :
    o.planned? src id = some p ↔ o.plan src id = .ok (some p) := by
  rw [planned?]
  cases o.plan src id with
  | error f => exact ⟨fun h => (nomatch h), fun h => (nomatch h)⟩
  | ok plan? => exact ⟨fun h => congrArg Except.ok h, fun h => Except.ok.inj h⟩

end Options

namespace Analysis

/-! ## One link -/

/-- Linking adds the edge, and its kind if the edge is new. -/
theorem link_eq (a : Analysis) (kind : EdgeKind) (source target : NodeId) :
    a.link kind source target =
      ({ a with
        graph := (a.graph.addEdge source target).1
        edgeKinds := if (⟨source, target⟩ : Edge) ∈ a.graph.edges then a.edgeKinds
          else a.edgeKinds.insertIfNew (edgeId source target) kind },
        decide ((⟨source, target⟩ : Edge) ∉ a.graph.edges)) := by
  have hsnd := a.graph.addEdge_snd source target
  rw [link]
  cases hadd : a.graph.addEdge source target with
  | mk g e? =>
      rw [hadd] at hsnd
      by_cases h : (⟨source, target⟩ : Edge) ∈ a.graph.edges
      · rw [if_pos h] at hsnd
        rw [if_pos h, show e? = none from hsnd, decide_eq_false (fun hno => hno h)]
      · rw [if_neg h] at hsnd
        rw [if_neg h, show e? = some ⟨source, target⟩ from hsnd, decide_eq_true h]
        rfl

/-- Adds a link.  A base is described even if the edge was there, an interface
    along with a new edge only. -/
def addLink (a : Analysis) (l : Link) : Analysis :=
  let linked := a.link l.kind l.source l.target.id
  if l.kind = .derivesFrom ∨ linked.2 = true then linked.1.describe (.ofFact l.target)
  else linked.1

/-- The target of a link is described along with it, or its edge was there. -/
theorem addLink_cases (a : Analysis) (l : Link) :
    a.addLink l = (a.link l.kind l.source l.target.id).1.describe (.ofFact l.target) ∨
      (l.edge ∈ a.graph.edges ∧ a.addLink l = (a.link l.kind l.source l.target.id).1) := by
  rw [addLink]
  by_cases h : l.kind = .derivesFrom ∨ (a.link l.kind l.source l.target.id).2 = true
  · exact Or.inl (if_pos h)
  · refine Or.inr ⟨?_, if_neg h⟩
    by_contra hnew
    rw [link_eq] at h
    exact h (Or.inr (decide_eq_true hnew))

@[simp] theorem graph_addLink (a : Analysis) (l : Link) :
    (a.addLink l).graph = (a.graph.addEdge l.source l.target.id).1 := by
  rcases addLink_cases a l with h | ⟨-, h⟩
  · rw [h, link_eq]
    rfl
  · rw [h, link_eq]

theorem edgeKinds_addLink (a : Analysis) (l : Link) :
    (a.addLink l).edgeKinds =
      if l.edge ∈ a.graph.edges then a.edgeKinds
      else a.edgeKinds.insertIfNew l.edge.id l.kind := by
  rcases addLink_cases a l with h | ⟨-, h⟩
  · rw [h, link_eq]
    rfl
  · rw [h, link_eq]
    rfl

theorem descriptors_addLink (a : Analysis) (l : Link) :
    (a.addLink l).descriptors = a.descriptors.insert l.target.id (.ofFact l.target) ∨
      (l.edge ∈ a.graph.edges ∧ (a.addLink l).descriptors = a.descriptors) := by
  rcases addLink_cases a l with h | ⟨hmem, h⟩
  · rw [h, link_eq]
    exact Or.inl rfl
  · rw [h, link_eq]
    exact Or.inr ⟨hmem, rfl⟩

/-! ## One plan -/

/-- Taking up a plan adds its node, then its links, and describes the type
    last. -/
theorem takeUp_value (o : Options) (a : Analysis) (p : Plan) :
    (takeUp o a p).value =
      ((p.links o).foldl addLink { a with graph := a.graph.withNode p.fact.id }).describe
        (.ofFact p.fact) := by
  have hbase : ∀ b : Analysis, p.base?.elim b (takeUpBase o p.fact.id b) =
      (p.baseLinks o).foldl addLink b := by
    intro b
    rw [Plan.baseLinks]
    cases p.base? with
    | none => rfl
    | some f =>
        show takeUpBase o p.fact.id b f = _
        rw [takeUpBase, Option.toList_some, List.filter_cons, List.filter_nil]
        cases o.ignores f with
        | true => rfl
        | false => rfl
  have hinterfaces : ∀ (fs : List TypeFact) (b : Analysis),
      fs.foldl (fun b f => (takeUpInterface o p.fact.id b f).value) b =
        ((fs.filter (!o.ignores ·)).map (⟨p.fact.id, .implements, ·⟩)).foldl addLink b := by
    intro fs b
    induction fs generalizing b with
    | nil => rfl
    | cons f fs ih =>
        rw [List.foldl_cons, ih, List.filter_cons, takeUpInterface]
        cases o.ignores f with
        | true => rfl
        | false =>
            rw [show (if (!false) = true then f :: fs.filter (!o.ignores ·)
              else fs.filter (!o.ignores ·)) = f :: fs.filter (!o.ignores ·) from rfl,
              List.map_cons, List.foldl_cons, addLink]
            cases b.link .implements p.fact.id f.id with
            | mk b' isNew => cases isNew <;> rfl
  rw [takeUp, Plan.links, List.foldl_append, ← hbase, Plan.interfaceLinks, ← hinterfaces]
  simp only [Logged.value_bind, Logged.value_foldlM, Logged.value_pure]
  rfl

theorem edges_foldl_addLink (ls : List Link) (a : Analysis) :
    (ls.foldl addLink a).graph.edges = adjoinAll a.graph.edges (ls.map Link.edge) := by
  induction ls generalizing a with
  | nil => rfl
  | cons l ls ih =>
      rw [List.foldl_cons, ih, graph_addLink, Graph.edges_addEdge]
      rfl

/-- A link takes no source of a later link away. -/
theorem sources_addLink {a : Analysis} {l : Link} {ls : List Link}
    (h : ∀ l' ∈ l :: ls, l'.source ∈ a.graph.nodes) :
    ∀ l' ∈ ls, l'.source ∈ (a.addLink l).graph.nodes := by
  intro l' hl'
  rw [graph_addLink, Graph.nodes_addEdge, mem_adjoin, mem_adjoin]
  exact Or.inl (Or.inl (h l' (List.mem_cons_of_mem l hl')))

/-- Links of nodes that are there bring in their targets only. -/
theorem nodes_foldl_addLink {ls : List Link} {a : Analysis}
    (h : ∀ l ∈ ls, l.source ∈ a.graph.nodes) :
    (ls.foldl addLink a).graph.nodes = adjoinAll a.graph.nodes (ls.map (·.target.id)) := by
  induction ls generalizing a with
  | nil => rfl
  | cons l ls ih =>
      have hnodes : (a.addLink l).graph.nodes = adjoin a.graph.nodes l.target.id := by
        rw [graph_addLink, Graph.nodes_addEdge, adjoin_of_mem (h l List.mem_cons_self)]
      rw [List.foldl_cons, ih (sources_addLink h), hnodes]
      rfl

/-- The source of a link is in the graph before the link is. -/
theorem source_mem_withNode {o : Options} {g : Graph} {p : Plan} {l : Link}
    (h : l ∈ p.links o) : l.source ∈ (g.withNode p.fact.id).nodes := by
  rw [Plan.source_of_mem_links h]
  exact Graph.mem_nodes_withNode.mpr (Or.inr rfl)

theorem edges_takeUp (o : Options) (a : Analysis) (p : Plan) :
    (takeUp o a p).value.graph.edges = adjoinAll a.graph.edges ((p.links o).map Link.edge) := by
  rw [takeUp_value]
  show ((p.links o).foldl addLink _).graph.edges = _
  rw [edges_foldl_addLink, Graph.edges_withNode]

theorem nodes_takeUp (o : Options) (a : Analysis) (p : Plan) :
    (takeUp o a p).value.graph.nodes = adjoinAll a.graph.nodes (p.mentions o) := by
  rw [takeUp_value]
  show ((p.links o).foldl addLink _).graph.nodes = _
  rw [nodes_foldl_addLink fun l hl => source_mem_withNode hl, Graph.nodes_withNode]
  rfl

theorem clusters_takeUp (o : Options) (a : Analysis) (p : Plan) :
    (takeUp o a p).value.graph.clusters = a.graph.clusters := by
  have hlink : ∀ (a : Analysis) (l : Link), (a.addLink l).graph.clusters = a.graph.clusters := by
    intro a l
    rw [graph_addLink, Graph.clusters_addEdge]
  rw [takeUp_value]
  refine (foldl_kept (fun a : Analysis => a.graph.clusters) hlink (p.links o) _).trans ?_
  rw [Graph.clusters_withNode]

/-! ## All plans of a run -/

/-- Takes up plans, one after the other. -/
def takeUpAll (o : Options) (a : Analysis) (ps : List Plan) : Analysis :=
  ps.foldl (fun a p => (takeUp o a p).value) a

theorem takeUpAll_cons (o : Options) (a : Analysis) (p : Plan) (ps : List Plan) :
    takeUpAll o a (p :: ps) = takeUpAll o (takeUp o a p).value ps := rfl

/-- What one plan preserves, a run preserves. -/
theorem takeUpAll_induction {o : Options} {P : Analysis → Prop} {ps : List Plan}
    (step : ∀ a, ∀ p ∈ ps, P a → P (takeUp o a p).value) {a : Analysis} (h : P a) :
    P (takeUpAll o a ps) := by
  induction ps generalizing a with
  | nil => exact h
  | cons p ps ih =>
      rw [takeUpAll_cons]
      refine ih ?_ (step a p List.mem_cons_self h)
      intro a' p' hp' ha'
      exact step a' p' (List.mem_cons_of_mem p hp') ha'

theorem edges_takeUpAll (o : Options) (a : Analysis) (ps : List Plan) :
    (takeUpAll o a ps).graph.edges =
      adjoinAll a.graph.edges (ps.flatMap fun p => (p.links o).map Link.edge) := by
  induction ps generalizing a with
  | nil => rfl
  | cons p ps ih => rw [takeUpAll_cons, ih, edges_takeUp, List.flatMap_cons, adjoinAll_append]

theorem nodes_takeUpAll (o : Options) (a : Analysis) (ps : List Plan) :
    (takeUpAll o a ps).graph.nodes = adjoinAll a.graph.nodes (ps.flatMap (·.mentions o)) := by
  induction ps generalizing a with
  | nil => rfl
  | cons p ps ih => rw [takeUpAll_cons, ih, nodes_takeUp, List.flatMap_cons, adjoinAll_append]

/-- An analysis makes no clusters. -/
theorem clusters_takeUpAll (o : Options) (a : Analysis) (ps : List Plan) :
    (takeUpAll o a ps).graph.clusters = a.graph.clusters :=
  foldl_kept (fun a : Analysis => a.graph.clusters) (clusters_takeUp o) ps a

/-! ## Sources -/

/-- The analysis in one step over a declared type: it takes up the plan, if
    there is one. -/
theorem step_value_fst (o : Options) (src : FactSource) (state : Analysis × Tally) (id : String) :
    (step o src state id).value.1 = takeUpAll o state.1 (o.planned? src id).toList := by
  rw [step, Options.planned?]
  cases o.plan src id with
  | error f => rfl
  | ok plan? =>
      cases plan? with
      | none => rfl
      | some p => rfl

/-- Working through a source is taking up its plans. -/
theorem process_value_fst (o : Options) (a : Analysis) (src : FactSource) :
    (a.process o src).value.1 = takeUpAll o a (o.plans src) := by
  have hrun : ∀ (ids : List String) (state : Analysis × Tally),
      (ids.foldl (fun state id => (step o src state id).value) state).1 =
        takeUpAll o state.1 (ids.filterMap (o.planned? src)) := by
    intro ids
    induction ids with
    | nil => intro state; rfl
    | cons id ids ih =>
        intro state
        rw [List.foldl_cons, ih, step_value_fst, List.filterMap_cons]
        cases o.planned? src id with
        | none => rfl
        | some p => rfl
  rw [process, Options.plans, ← hrun src.declared (a, {}), ← Logged.value_foldlM]
  rfl

/-- The analysis once some sources were worked through, in order. -/
def ofSources (o : Options) (srcs : List FactSource) : Analysis :=
  srcs.foldl (fun a src => (a.process o src).value.1) {}

/-- A run is one pass over the plans of its sources. -/
theorem ofSources_eq (o : Options) (srcs : List FactSource) :
    ofSources o srcs = takeUpAll o {} (srcs.flatMap o.plans) := by
  have hrun : ∀ (srcs : List FactSource) (a : Analysis),
      srcs.foldl (fun a src => (a.process o src).value.1) a =
        takeUpAll o a (srcs.flatMap o.plans) := by
    intro srcs
    induction srcs with
    | nil => intro a; rfl
    | cons src srcs ih =>
        intro a
        rw [List.foldl_cons, ih, process_value_fst, List.flatMap_cons]
        exact List.foldl_append.symm
  exact hrun srcs {}

end Analysis

end Lineage
