import Lineage.Proofs.Outcome

/-! # What becomes of declared types

    A declared type is taken up, left out, or found unusable.  Which of these
    it is hangs on what its source answers and not on what was analyzed before
    (`Options.fate`), so the tally of a source is a count of fates, whenever
    the source is worked through (`process_value_snd`).

    To be unusable is a matter of a type's own plan, and whoever refers to the
    type asks only for its facts.  So a type whose base is missing is counted
    as malformed and can stand in the graph all the same.  The headline,
    `absence_of_unusable_types`, says exactly when it does. -/

namespace Lineage

/-- What becomes of a declared type. -/
inductive Fate where
  /-- The type takes part, and all it refers to resolves. -/
  | takenUp
  /-- The options or its facts keep the type out. -/
  | leftOut
  /-- The type, its base or an interface does not resolve. -/
  | unusable
  deriving DecidableEq, Repr

/-- The tally with one more type of that fate. -/
def Tally.plus (t : Tally) : Fate → Tally
  | .takenUp => { t with processed := t.processed + 1 }
  | .leftOut => { t with skipped := t.skipped + 1 }
  | .unusable => { t with malformed := t.malformed + 1 }

theorem Tally.foldl_plus (fates : List Fate) (t : Tally) :
    fates.foldl plus t =
      { processed := t.processed + fates.count .takenUp
        skipped := t.skipped + fates.count .leftOut
        malformed := t.malformed + fates.count .unusable } := by
  induction fates generalizing t with
  | nil => rfl
  | cons fate fates ih =>
      rw [List.foldl_cons, ih]
      cases fate with
      | takenUp => simp [plus, Nat.add_right_comm, Nat.add_assoc]
      | leftOut => simp [plus, Nat.add_right_comm, Nat.add_assoc]
      | unusable => simp [plus, Nat.add_right_comm, Nat.add_assoc]

namespace Options

/-- What becomes of a type that a source declares. -/
def fate (o : Options) (src : FactSource) (id : String) : Fate :=
  match o.plan src id with
  | .ok (some _) => .takenUp
  | .ok none => .leftOut
  | .error _ => .unusable

/-- The fates of what a source declares, counted. -/
def tally (o : Options) (src : FactSource) : Tally :=
  let fates := src.declared.map (o.fate src)
  ⟨fates.count .takenUp, fates.count .leftOut, fates.count .unusable⟩

variable {o : Options} {src : FactSource} {id : String}

theorem fate_eq_takenUp : o.fate src id = .takenUp ↔ o.Accepted src.resolve id := by
  constructor
  · intro h
    rw [fate] at h
    cases hplan : o.plan src id with
    | error f =>
        rw [hplan] at h
        exact nomatch h
    | ok plan? =>
        cases plan? with
        | none =>
            rw [hplan] at h
            exact nomatch h
        | some p =>
            have hp := planFor_of_plan hplan
            exact ⟨p.fact, hp.fact, hp.accepts⟩
  · intro h
    obtain ⟨p, hplan⟩ := plan_succeeds h
    rw [fate, hplan]

theorem fate_of_error {f : Failure} (h : src.resolve id = .error f) :
    o.fate src id = .unusable := by
  have hplan : o.plan src id = .error f := by
    rw [plan, h]
    rfl
  rw [fate, hplan]

end Options

namespace Analysis

/-! ## Tallies count fates -/

theorem step_value_snd (o : Options) (src : FactSource) (state : Analysis × Tally) (id : String) :
    (step o src state id).value.2 = state.2.plus (o.fate src id) := by
  rw [step, Options.fate]
  cases o.plan src id with
  | error f => rfl
  | ok plan? =>
      cases plan? with
      | none => rfl
      | some p => rfl

/-- A source has the same tally whatever was analyzed before it. -/
theorem process_value_snd (o : Options) (a : Analysis) (src : FactSource) :
    (a.process o src).value.2 = o.tally src := by
  have hrun : ∀ (ids : List String) (state : Analysis × Tally),
      (ids.foldl (fun state id => (step o src state id).value) state).2 =
        (ids.map (o.fate src)).foldl Tally.plus state.2 := by
    intro ids
    induction ids with
    | nil => intro state; rfl
    | cons id ids ih =>
        intro state
        rw [List.foldl_cons, ih, step_value_snd]
        rfl
  have hprocess : (a.process o src).value.2 =
      (src.declared.foldl (fun state id => (step o src state id).value) (a, {})).2 := by
    rw [← Logged.value_foldlM]
    rfl
  rw [hprocess, hrun, Tally.foldl_plus]
  simp [Options.tally]

end Analysis

/-- The summary of a module holds the fates of its types. -/
theorem Inspection.modules_ofCatalog (o : Options) (c : Catalog) :
    (Inspection.ofCatalog o c).value.modules =
      c.modules.map fun m => ⟨m.name, o.tally (c.source m)⟩ := by
  have hrun : ∀ (ms : List ModuleFacts) (i : Inspection),
      (ms.foldl (fun i m => (addModule o c i m).value) i).modules =
        i.modules ++ ms.map fun m => ⟨m.name, o.tally (c.source m)⟩ := by
    intro ms
    induction ms with
    | nil => intro i; simp
    | cons m ms ih =>
        intro i
        have hstep : (addModule o c i m).value.modules =
            i.modules ++ [⟨m.name, (i.analysis.process o (c.source m)).value.2⟩] := rfl
        rw [List.foldl_cons, ih, hstep, Analysis.process_value_snd, List.append_assoc,
          List.map_cons, List.singleton_append]
  rw [ofCatalog, Logged.value_foldlM, hrun]
  rfl

/-! ## Unusable types -/

/-- The id is no node of the graph and no end of an edge. -/
def Graph.Lacks (g : Graph) (id : NodeId) : Prop :=
  id ∉ g.nodes ∧ ∀ e ∈ g.edges, e.source ≠ id ∧ e.target ≠ id

theorem Graph.WellFormed.lacks_iff {g : Graph} (hg : g.WellFormed) {id : NodeId} :
    g.Lacks id ↔ id ∉ g.nodes := by
  refine ⟨fun h => h.1, fun h => ⟨h, fun e he => ⟨?_, ?_⟩⟩⟩
  · rintro rfl
    exact h (hg.ends e he).1
  · rintro rfl
    exact h (hg.ends e he).2

namespace Inspection

/-- How an analysis deals with the types that it could not use. -/
structure KeepsOutUnusable (i : Inspection) (o : Options) (c : Catalog) : Prop where
  counted : i.modules.map (·.tally.malformed) =
    c.sources.map fun src => (src.declared.map (o.fate src)).count .unusable
  no_edges : ∀ src ∈ c.sources, ∀ id, o.fate src id = .unusable →
    ∀ e ∈ i.graph.edges, e.source ≠ id
  absent_iff : ∀ src ∈ c.sources, ∀ id, o.fate src id = .unusable →
    (i.graph.Lacks id ↔ ∀ kind s, ¬ o.Relates c.resolve kind s id)
  unresolved : ∀ src ∈ c.sources, ∀ id f, src.resolve id = .error f →
    o.fate src id = .unusable ∧ i.graph.Lacks id

/-- **Unusable types are absent unless they are referred to.**  A type that is
    counted as malformed has no edges of its own.  It is absent from the graph
    just when no type that takes part derives from it or implements it, as is
    always so when its own facts cannot be used. -/
theorem absence_of_unusable_types (o : Options) (ms : List ModuleFacts) :
    (Inspection.ofCatalog o (.ofModules ms)).value.KeepsOutUnusable o (.ofModules ms) := by
  have hg : (Inspection.ofCatalog o (.ofModules ms)).value.graph.WellFormed :=
    (agrees_ofCatalog o (.ofModules ms)).built.wellFormed
  -- a type that cannot be used does not take part
  have hout : ∀ src ∈ (Catalog.ofModules ms).sources, ∀ id, o.fate src id = .unusable →
      ¬ o.Accepted (Catalog.ofModules ms).resolve id := by
    intro src hsrc id hfate hacc
    rw [← Catalog.resolve_of_mem_sources hsrc, ← Options.fate_eq_takenUp, hfate] at hacc
    exact nomatch hacc
  refine ⟨?_, ?_, ?_, ?_⟩
  · rw [modules_ofCatalog, Catalog.sources, List.map_map, List.map_map]
    rfl
  · rintro src hsrc id hfate e he rfl
    obtain ⟨kind, hrel⟩ := (mem_edges_ofCatalog o ms e).mp he
    exact hout src hsrc e.source hfate hrel.accepted
  · intro src hsrc id hfate
    rw [hg.lacks_iff, mem_nodes_ofCatalog, not_or]
    constructor
    · rintro ⟨-, hno⟩ kind s hrel
      exact hno ⟨kind, s, hrel⟩
    · intro hno
      refine ⟨hout src hsrc id hfate, ?_⟩
      rintro ⟨kind, s, hrel⟩
      exact hno kind s hrel
  · intro src hsrc id f hf
    refine ⟨Options.fate_of_error hf, ?_⟩
    rw [Catalog.resolve_of_mem_sources hsrc] at hf
    rw [hg.lacks_iff, mem_nodes_ofCatalog]
    rintro (⟨fact, hfact, -⟩ | ⟨kind, s, hrel⟩)
    · exact nomatch hf.symm.trans hfact
    · obtain ⟨fact, hfact, -⟩ := hrel.shown
      exact nomatch hf.symm.trans hfact

/-- A type, its base, and no declaration of the base of that. -/
def missingGrandparent : List ModuleFacts :=
  [{ name := "m", types := [
    { id := "N.A", name := "A", space? := some "N", base? := some "N.B" },
    { id := "N.B", name := "B", space? := some "N", base? := some "N.Gone" }] }]

/-- The type in the middle is counted as malformed, and is in the graph as the
    target of an edge that the theorem traces to the type that refers to it. -/
theorem missing_grandparent_leaves_parent :
    (∀ src ∈ (Catalog.ofModules missingGrandparent).sources,
        Options.fate {} src "N.B" = .unusable) ∧
      (Inspection.ofCatalog {} (.ofModules missingGrandparent)).value.modules =
        [⟨"m", { processed := 1, malformed := 1 }⟩] ∧
      (Inspection.ofCatalog {} (.ofModules missingGrandparent)).value.graph.edges =
        [⟨"N.A", "N.B"⟩] ∧
      ¬ (Inspection.ofCatalog {} (.ofModules missingGrandparent)).value.graph.Lacks "N.B" ∧
      ∃ kind s, Options.Relates {} (Catalog.ofModules missingGrandparent).resolve kind s "N.B" := by
  have hfate : ∀ src ∈ (Catalog.ofModules missingGrandparent).sources,
      Options.fate {} src "N.B" = .unusable := by
    intro src hsrc
    obtain ⟨m, hm, rfl⟩ := List.mem_map.mp hsrc
    obtain rfl := List.mem_singleton.mp hm
    decide +kernel
  have hlacks : ¬ (Inspection.ofCatalog {} (.ofModules missingGrandparent)).value.graph.Lacks
      "N.B" := by
    intro h
    exact h.1 (by decide +kernel)
  refine ⟨hfate, by decide +kernel, by decide +kernel, hlacks, ?_⟩
  have hsrc : (Catalog.ofModules missingGrandparent).sources ≠ [] := List.cons_ne_nil _ _
  obtain ⟨src, hsrc⟩ := List.exists_mem_of_ne_nil _ hsrc
  have h := absence_of_unusable_types {} missingGrandparent
  by_contra hno
  refine hlacks ((h.absent_iff src hsrc "N.B" (hfate src hsrc)).mpr ?_)
  intro kind s hrel
  exact hno ⟨kind, s, hrel⟩

end Inspection

end Lineage
