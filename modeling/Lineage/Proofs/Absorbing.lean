import Lineage.Proofs.Order

/-! # Working through a source again

    An analysis only grows, and what a source tries to add is the same each
    time.  So once a source was worked through, whatever came after it, the
    graph holds all that its plans would add (`holds_takeUpAll`), and a plan
    that is held changes neither the graph nor the kinds (`Holds.takeUp_eq`).
    None of this needs the sources to make sense: facts may come under the
    wrong id, and ids of edges may collide.

    Descriptors are another matter, since the last one to come is kept.  They
    stay as they are when the sources do not contradict each other
    (`descriptors_reprocess`).  The headline is `reprocessing_is_absorbed`. -/

namespace Lineage

namespace Analysis

variable {o : Options} {a : Analysis} {p : Plan}

/-! ## What an analysis holds already -/

/-- The graph has every node and every edge that the plan would add. -/
structure Holds (o : Options) (p : Plan) (a : Analysis) : Prop where
  nodes : ∀ n ∈ p.mentions o, n ∈ a.graph.nodes
  edges : ∀ l ∈ p.links o, l.edge ∈ a.graph.edges

/-- What was taken up is held. -/
theorem holds_takeUp (o : Options) (a : Analysis) (p : Plan) : Holds o p (takeUp o a p).value where
  nodes := by
    intro n hn
    rw [nodes_takeUp, mem_adjoinAll]
    exact Or.inr hn
  edges := by
    intro l hl
    rw [edges_takeUp, mem_adjoinAll]
    exact Or.inr (List.mem_map_of_mem hl)

/-- Nothing that comes later takes away what is held. -/
theorem Holds.takeUp (h : Holds o p a) (q : Plan) : Holds o p (takeUp o a q).value where
  nodes := by
    intro n hn
    rw [nodes_takeUp, mem_adjoinAll]
    exact Or.inl (h.nodes n hn)
  edges := by
    intro l hl
    rw [edges_takeUp, mem_adjoinAll]
    exact Or.inl (h.edges l hl)

theorem Holds.takeUpAll (h : Holds o p a) (ps : List Plan) : Holds o p (takeUpAll o a ps) :=
  takeUpAll_induction (fun _ q _ h => h.takeUp q) h

/-- A run holds each of its plans at its end. -/
theorem holds_takeUpAll {ps : List Plan} (hp : p ∈ ps) (a : Analysis) :
    Holds o p (takeUpAll o a ps) := by
  induction ps generalizing a with
  | nil => exact nomatch hp
  | cons q ps ih =>
      rw [takeUpAll_cons]
      rcases List.mem_cons.mp hp with rfl | hp
      · exact (holds_takeUp o a p).takeUpAll ps
      · exact ih hp (Analysis.takeUp o a q).value

/-! ## Adding what is held -/

/-- An edge that is there is not added again, and keeps its kind. -/
theorem addLink_of_mem {l : Link} (hsource : l.source ∈ a.graph.nodes)
    (htarget : l.target.id ∈ a.graph.nodes) (hedge : l.edge ∈ a.graph.edges) :
    a.addLink l = { a with descriptors := (a.addLink l).descriptors } := by
  have hgraph : (a.addLink l).graph = a.graph := by
    have hsame : adjoin a.graph.edges (⟨l.source, l.target.id⟩ : Edge) = a.graph.edges :=
      adjoin_of_mem hedge
    rw [graph_addLink, Graph.addEdge_of_mem hsource htarget, hsame]
  have hkinds : (a.addLink l).edgeKinds = a.edgeKinds := by
    rw [edgeKinds_addLink, if_pos hedge]
  rw [← hgraph, ← hkinds]

theorem foldl_addLink_of_mem {ls : List Link} (hsource : ∀ l ∈ ls, l.source ∈ a.graph.nodes)
    (htarget : ∀ l ∈ ls, l.target.id ∈ a.graph.nodes) (hedge : ∀ l ∈ ls, l.edge ∈ a.graph.edges) :
    ls.foldl addLink a = { a with descriptors := (ls.foldl addLink a).descriptors } := by
  induction ls generalizing a with
  | nil => rfl
  | cons l ls ih =>
      obtain ⟨hs, hsource⟩ := List.forall_mem_cons.mp hsource
      obtain ⟨ht, htarget⟩ := List.forall_mem_cons.mp htarget
      obtain ⟨he, hedge⟩ := List.forall_mem_cons.mp hedge
      have hfirst := addLink_of_mem hs ht he
      rw [List.foldl_cons, hfirst]
      exact ih hsource htarget hedge

/-- Taking up a plan that is held changes descriptors at most. -/
theorem Holds.takeUp_eq (h : Holds o p a) :
    (Analysis.takeUp o a p).value =
      { a with descriptors := (Analysis.takeUp o a p).value.descriptors } := by
  have hself : p.fact.id ∈ a.graph.nodes := h.nodes p.fact.id List.mem_cons_self
  have hnode : ({ a with graph := a.graph.withNode p.fact.id } : Analysis) = a := by
    rw [Graph.withNode, if_pos hself]
  have hsource : ∀ l ∈ p.links o, l.source ∈ a.graph.nodes := by
    intro l hl
    rw [Plan.source_of_mem_links hl]
    exact hself
  have htarget : ∀ l ∈ p.links o, l.target.id ∈ a.graph.nodes := by
    intro l hl
    exact h.nodes l.target.id (List.mem_cons_of_mem _ (List.mem_map_of_mem hl))
  rw [takeUp_value, hnode, foldl_addLink_of_mem hsource htarget h.edges]
  rfl

/-- A run of plans that are held changes descriptors at most. -/
theorem takeUpAll_of_holds {ps : List Plan} (h : ∀ p ∈ ps, Holds o p a) :
    takeUpAll o a ps = { a with descriptors := (takeUpAll o a ps).descriptors } := by
  refine takeUpAll_induction
    (P := fun b => b = { a with descriptors := b.descriptors }) ?_ rfl
  intro b p hp hb
  have hheld : Holds o p b := by
    rw [hb]
    exact ⟨(h p hp).nodes, (h p hp).edges⟩
  rw [hheld.takeUp_eq, hb]

/-! ## Sources -/

/-- After a source, and after any others that follow it, the graph holds all
    that the source would add. -/
theorem holds_ofSources {srcs : List FactSource} {src : FactSource} (hsrc : src ∈ srcs)
    (hp : p ∈ o.plans src) : Holds o p (ofSources o srcs) := by
  rw [ofSources_eq]
  exact holds_takeUpAll (List.mem_flatMap.mpr ⟨src, hsrc, hp⟩) {}

/-- Working through a source again changes descriptors at most. -/
theorem reprocess_eq {srcs : List FactSource} {src : FactSource} (hsrc : src ∈ srcs) :
    ((ofSources o srcs).process o src).value.1 =
      { ofSources o srcs with
        descriptors := ((ofSources o srcs).process o src).value.1.descriptors } := by
  rw [process_value_fst]
  exact takeUpAll_of_holds fun p hp => holds_ofSources hsrc hp

theorem ofSources_concat (o : Options) (srcs : List FactSource) (src : FactSource) :
    ofSources o (srcs ++ [src]) = ((ofSources o srcs).process o src).value.1 :=
  List.foldl_append

/-- Sources that do not contradict each other leave the descriptors alone too:
    one more of them tells nothing that was not told. -/
theorem descriptors_reprocess {srcs : List FactSource} {src : FactSource} (h : Coherent srcs)
    (hsrc : src ∈ srcs) :
    ((ofSources o srcs).process o src).value.1.descriptors = (ofSources o srcs).descriptors := by
  have hsub : ∀ s ∈ srcs ++ [src], s ∈ srcs := by
    intro s hs
    rcases List.mem_append.mp hs with hs | hs
    · exact hs
    · rw [List.mem_singleton.mp hs]
      exact hsrc
  have hmore : (ofSources o srcs).Within (ofSources o (srcs ++ [src])) :=
    .ofSources (h.mono hsub) fun s hs => List.mem_append_left [src] hs
  have hless : (ofSources o (srcs ++ [src])).Within (ofSources o srcs) := .ofSources h hsub
  rw [← ofSources_concat]
  exact table_ext hless.descriptors hmore.descriptors

/-- **Working through a source again is absorbed.**  Whatever the sources
    answer, and whatever came before and since, the graph, with the order of
    its nodes and edges, and the kinds stay as they are, and the tally is the
    one of the first time.  For modules of a catalog the descriptors stay as
    well. -/
theorem reprocessing_is_absorbed (o : Options) (before after : List FactSource)
    (src : FactSource) :
    let done := ofSources o (before ++ src :: after)
    let again := (done.process o src).value
    again.1.graph = done.graph ∧ again.1.edgeKinds = done.edgeKinds ∧
      again.2 = ((ofSources o before).process o src).value.2 ∧
      ∀ ms, (∀ s ∈ before ++ src :: after, s ∈ (Catalog.ofModules ms).sources) →
        again.1.descriptors = done.descriptors := by
  intro done again
  have hsrc : src ∈ before ++ src :: after :=
    List.mem_append_right before List.mem_cons_self
  have hsame : again.1 = { done with descriptors := again.1.descriptors } :=
    reprocess_eq hsrc
  refine ⟨by rw [hsame], by rw [hsame], ?_, ?_⟩
  · exact (process_value_snd o done src).trans (process_value_snd o _ src).symm
  · intro ms hms
    exact descriptors_reprocess ((Catalog.coherent ms).mono hms) hsrc

/-- Two modules that declare the same type, and refer to each other's types. -/
def entangled : List ModuleFacts :=
  [{ name := "m", types := [
      { id := "A", name := "A", space? := some "n", base? := some "B", interfaces := ["I"] },
      { id := "I", name := "I", space? := some "n" }] },
    { name := "k", types := [
      { id := "B", name := "B", space? := some "n", base? := some "A", interfaces := ["I"] },
      { id := "A", name := "other", space? := some "n" }] }]

/-- The first module once more, after the second one: nothing changes, the
    descriptor of the type that both declare included. -/
theorem entangled_module_absorbed :
    ∃ m k, (Catalog.ofModules entangled).sources = [m, k] ∧
      (ofSources {} [m, k]).graph.edges = [⟨"A", "B"⟩, ⟨"B", "A"⟩] ∧
      ((ofSources {} [m, k]).process {} m).value.1.graph = (ofSources {} [m, k]).graph ∧
      ((ofSources {} [m, k]).process {} m).value.1.descriptors =
        (ofSources {} [m, k]).descriptors := by
  obtain ⟨hgraph, -, -, hdescriptors⟩ := reprocessing_is_absorbed {} []
    [(Catalog.ofModules entangled).source entangled[1]]
    ((Catalog.ofModules entangled).source entangled[0])
  exact ⟨_, _, rfl, by decide +kernel, hgraph, hdescriptors entangled fun s hs => hs⟩

/-- Without a catalog the last one to speak is believed: here a source and
    another one describe the same type, and so does the first one again. -/
example :
    let telling (name : String) : FactSource :=
      ⟨["A"], fun id => .ok { id, name, space? := some "n" }⟩
    let name (a : Analysis) : Option String := (a.descriptors["A"]?).map (·.name)
    let done := ofSources {} [telling "first", telling "second"]
    name done = some "second" ∧ name (done.process {} (telling "first")).value.1 = some "first" := by
  decide +kernel

end Analysis

end Lineage
