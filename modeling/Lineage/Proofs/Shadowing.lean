import Lineage.Proofs.Order
import Lineage.Proofs.Recording

/-! # Declarations that are shadowed

    A catalog keeps every declaration and answers with the first one of an id.
    The later ones are shadowed: nothing they say is ever looked at.  But the
    analysis goes over them, so their ids are worked on once more, after other
    types have changed the stores.

    `Catalog.unshadowed` is the list of modules without them.  It answers alike
    (`resolve_unshadowed`), and the ids it declares are those of before, each
    once (`firstComers_unshadowed`).  A run is one pass over the declared ids
    (`plans_ofModules`), and what an id adds a second time is there already, so
    the two runs build one graph, in one order (`graph_unshadowed`).

    The headline is `shadowed_declarations_are_inert`. -/

namespace Lineage

namespace Catalog

/-! ## Without what is shadowed -/

/-- The declarations that are the first of their id; `earlier` holds those that
    come before the list. -/
def firsts (earlier : List TypeFact) : List TypeFact → List TypeFact
  | [] => []
  | fact :: rest =>
      if earlier.any (·.id = fact.id) then firsts (earlier ++ [fact]) rest
      else fact :: firsts (earlier ++ [fact]) rest

/-- The modules without the declarations of ids that were declared before, in
    an earlier module or further up in the same one; `earlier` holds the
    declarations that come before all of the modules. -/
def unshadowed (earlier : List TypeFact) : List ModuleFacts → List ModuleFacts
  | [] => []
  | m :: ms => { m with types := firsts earlier m.types } :: unshadowed (earlier ++ m.types) ms

theorem firsts_append (earlier xs ys : List TypeFact) :
    firsts earlier (xs ++ ys) = firsts earlier xs ++ firsts (earlier ++ xs) ys := by
  induction xs generalizing earlier with
  | nil => rw [List.nil_append, List.append_nil, firsts, List.nil_append]
  | cons x xs ih =>
      have hsplit : earlier ++ x :: xs = earlier ++ [x] ++ xs := by simp
      rw [List.cons_append, firsts, firsts, ih, hsplit]
      split
      · rfl
      · rfl

/-- Module by module or all at once, the same declarations are kept. -/
theorem facts_unshadowed (earlier : List TypeFact) (ms : List ModuleFacts) :
    facts (unshadowed earlier ms) = firsts earlier (facts ms) := by
  induction ms generalizing earlier with
  | nil => rfl
  | cons m ms ih =>
      have hcons : facts (m :: ms) = m.types ++ facts ms := rfl
      rw [hcons, firsts_append, ← ih]
      rfl

/-- Keeping what has a new id adds the first declarations of new ids. -/
theorem foldl_keepFirst_eq {kept earlier : List TypeFact}
    (h : ∀ id, id ∈ kept.map (·.id) ↔ id ∈ earlier.map (·.id)) (xs : List TypeFact) :
    xs.foldl (keepFirst TypeFact.id) kept = kept ++ firsts earlier xs := by
  induction xs generalizing kept earlier with
  | nil => rw [firsts, List.append_nil, List.foldl_nil]
  | cons x xs ih =>
      have hany : kept.any (·.id = x.id) = true ↔ earlier.any (·.id = x.id) = true := by
        rw [any_key_iff, any_key_iff]
        exact h x.id
      have hnext : ∀ id, id ∈ (keepFirst TypeFact.id kept x).map (·.id) ↔
          id ∈ (earlier ++ [x]).map (·.id) := by
        intro id
        rw [map_keepFirst, mem_adjoin, h, List.map_append, List.mem_append]
        simp
      rw [List.foldl_cons, ih hnext, firsts, keepFirst]
      by_cases hold : earlier.any (·.id = x.id) = true
      · rw [if_pos (hany.mpr hold), if_pos hold]
      · rw [if_neg (mt hany.mp hold), if_neg hold, List.append_assoc, List.singleton_append]

/-- Of all declarations, the first of each id is kept, in order. -/
theorem firstComers_unshadowed (ms : List ModuleFacts) :
    FirstComers TypeFact.id (facts ms) (facts (unshadowed [] ms)) := by
  have hkept : (facts ms).foldl (keepFirst TypeFact.id) [] = [] ++ firsts [] (facts ms) :=
    foldl_keepFirst_eq (fun _ => Iff.rfl) (facts ms)
  rw [facts_unshadowed, ← List.nil_append (firsts [] (facts ms)), ← hkept]
  exact firstComers_foldl (facts ms)

/-- Nobody asks for a declaration that is shadowed. -/
theorem resolve_unshadowed (ms : List ModuleFacts) :
    (ofModules (unshadowed [] ms)).resolve = (ofModules ms).resolve := by
  funext id
  have hfirst := (firstComers_unshadowed ms).first id
  rw [resolve_eq, resolve_eq, hfirst]

end Catalog

namespace Options

/-- What a resolver has for an id that someone declares. -/
def planFrom? (o : Options) (r : Resolver) (id : String) : Option Plan := o.planned? ⟨[], r⟩ id

/-- The plans of a catalog come from the ids that it declares, in order. -/
theorem plans_ofModules (o : Options) (ms : List ModuleFacts) :
    (Catalog.ofModules ms).sources.flatMap o.plans =
      ((Catalog.facts ms).map (·.id)).filterMap (o.planFrom? (Catalog.ofModules ms).resolve) := by
  generalize hc : Catalog.ofModules ms = c
  have hmodules : c.modules = ms := by rw [← hc]; rfl
  rw [Catalog.sources, hmodules, Catalog.facts]
  clear hc hmodules
  induction ms with
  | nil => rfl
  | cons m ms ih =>
      rw [List.map_cons, List.flatMap_cons, ih, List.flatMap_cons, List.map_append,
        List.filterMap_append]
      rfl

end Options

namespace Analysis

variable {o : Options} {ms : List ModuleFacts}

/-! ## What an id adds a second time -/

/-- What plans bring in is the same, in order, without shadowed declarations. -/
theorem eraseDups_flatMap_plans {γ : Type} [DecidableEq γ] (o : Options) (ms : List ModuleFacts)
    (brings : Plan → List γ) :
    (((Catalog.ofModules (Catalog.unshadowed [] ms)).sources.flatMap o.plans).flatMap
        brings).eraseDups =
      (((Catalog.ofModules ms).sources.flatMap o.plans).flatMap brings).eraseDups := by
  rw [Options.plans_ofModules, Options.plans_ofModules, Catalog.resolve_unshadowed,
    (Catalog.firstComers_unshadowed ms).keys]
  simp only [List.filterMap_eq_flatMap_toList, List.flatMap_assoc]
  exact eraseDups_flatMap _ _

/-- Nodes and edges come in the order in which plans bring them in, so the
    graph is the same to its order. -/
theorem graph_unshadowed (o : Options) (ms : List ModuleFacts) :
    (ofSources o (Catalog.ofModules (Catalog.unshadowed [] ms)).sources).graph =
      (ofSources o (Catalog.ofModules ms).sources).graph := by
  have hnodes := eraseDups_flatMap_plans o ms (·.mentions o)
  have hedges := eraseDups_flatMap_plans o ms fun p => (p.links o).map Link.edge
  simp only [eraseDups_eq_adjoinAll] at hnodes hedges
  rw [ofSources_eq, ofSources_eq, Graph.mk.injEq]
  refine ⟨?_, ?_, ?_⟩
  · rw [nodes_takeUpAll, nodes_takeUpAll]
    exact hnodes
  · rw [edges_takeUpAll, edges_takeUpAll]
    exact hedges
  · rw [clusters_takeUpAll, clusters_takeUpAll]

/-! ## What the facts of an id say -/

/-- The nodes have descriptors, each that of what its id resolves to. -/
theorem descriptors_eq_some (o : Options) (ms : List ModuleFacts) (id : NodeId) (d : Descriptor) :
    (ofSources o (Catalog.ofModules ms).sources).descriptors[id]? = some d ↔
      id ∈ (ofSources o (Catalog.ofModules ms).sources).graph.nodes ∧
        ∃ f, (Catalog.ofModules ms).resolve id = .ok f ∧ d = .ofFact f := by
  constructor
  · intro hd
    obtain ⟨src, hsrc, f, hf, rfl⟩ := told_ofSources (Catalog.coherent ms) id d hd
    rw [Catalog.resolve_of_mem_sources hsrc] at hf
    refine ⟨?_, f, hf, rfl⟩
    exact ((Agrees.ofSources o _).mem_descriptors id).mp (mem_table_iff.mpr ⟨_, hd⟩)
  · rintro ⟨hid, f, hf, rfl⟩
    exact descriptors_ofModules hid hf

/-- **Declarations that are shadowed are inert.**  A catalog without them has
    the same analysis: the graph, with its nodes and its edges in order, the
    kinds and the descriptors.  It does not matter what the later declarations
    of an id say, nor whether the first one takes part. -/
theorem shadowed_declarations_are_inert (o : Options) (ms : List ModuleFacts) :
    (Inspection.ofCatalog o (.ofModules (Catalog.unshadowed [] ms))).value.analysis =
      (Inspection.ofCatalog o (.ofModules ms)).value.analysis := by
  have hresolve := Catalog.resolve_unshadowed ms
  rw [Inspection.ofCatalog_analysis, Inspection.ofCatalog_analysis, Analysis.mk.injEq]
  refine ⟨graph_unshadowed o ms, ?_, ?_⟩
  · refine Std.ExtTreeMap.ext_getElem? fun id => Option.ext fun d => ?_
    rw [descriptors_eq_some, descriptors_eq_some, graph_unshadowed, hresolve]
  · refine Std.ExtTreeMap.ext_getElem? fun k => Option.ext fun kind => ?_
    rw [edgeKinds_ofModules, edgeKinds_ofModules, hresolve]

/-- The first declaration lacks a namespace.  The second one, which would give
    an edge, is enumerated by its module but not looked at. -/
example :
    let b : TypeFact := { id := "B", name := "B", space? := some "n" }
    let ms : List ModuleFacts :=
      [{ name := "m", types := [{ id := "A", name := "A" }] },
        { name := "k", types := [{ b with id := "A", base? := some "B" }, b] }]
    Catalog.unshadowed [] ms = [{ name := "m", types := [{ id := "A", name := "A" }] },
        { name := "k", types := [b] }] ∧
      (ofSources {} (Catalog.ofModules ms).sources).graph = { nodes := ["B"] } := by
  decide +kernel

end Analysis

end Lineage
