import Lineage.Proofs.Fates

/-! # Types that are not taken up leave no trace

    Whatever a declared type refers to is resolved before anything is stored.
    `Options.KeepsOut` and `Options.FailsWith` say, of what a source answers
    alone, when a type is not taken up: it has no namespace or an ignored one,
    or an answer is a failure.  The answers are asked for in order, for the
    type, its base, and the interfaces of its own, and the first failure among
    them is the one that counts (`plan_eq_error`).

    However late that failure comes, the step over such a type gives back the
    analysis that it was given (`step_value_of_not_takenUp`).  Hence a source
    comes to the same as the part of it that is taken up
    (`process_takenUpPart`).  The headline, `untaken_types_leave_no_trace`,
    puts this together and adds that every declaration is counted once. -/

namespace Lineage

namespace Options

/-! ## Why a type is not taken up -/

section Reasons

variable (o : Options) (r : Resolver)

/-- The facts keep their type out: they name no namespace, or an ignored one. -/
def KeepsOut (fact : TypeFact) : Prop := fact.space? = none ∨ o.ignores fact = true

/-- Resolving what a type refers to ends in a failure.  Each answer is asked for
    only after all before it were facts, and of the listed interfaces only
    those that the type does not inherit are asked for. -/
inductive FailsWith (id : NodeId) (f : Failure) : Prop where
  | type : r id = .error f → FailsWith id f
  | base {fact : TypeFact} {b : NodeId} : r id = .ok fact → ¬ o.KeepsOut fact →
      fact.base? = some b → o.isRoot b = false → r b = .error f → FailsWith id f
  | interface {fact : TypeFact} {before after : List NodeId} {i : NodeId} :
      r id = .ok fact → ¬ o.KeepsOut fact →
      (∀ b, fact.base? = some b → o.isRoot b = true ∨ ∃ g, r b = .ok g) →
      fact.interfaces = before ++ i :: after →
      (∀ j ∈ before, o.Inherits r fact j ∨ ∃ g, r j = .ok g) →
      ¬ o.Inherits r fact i → r i = .error f → FailsWith id f

end Reasons

variable {o : Options} {src : FactSource} {id : NodeId} {fact : TypeFact} {f : Failure}

theorem keepsOut_iff : o.KeepsOut fact ↔ (fact.space?.isNone || o.ignores fact) = true := by
  rw [KeepsOut, Bool.or_eq_true, Option.isNone_iff_eq_none]

/-- The first interface of a type's own that fails is the first listed one that
    does, inherited ones left aside. -/
theorem mapM_ownInterfaces_eq_error {base? : Option TypeFact}
    (hbase : ∀ g, base? = some g ↔
      ∃ b, fact.base? = some b ∧ o.isRoot b = false ∧ src.resolve b = .ok g) :
    (ownInterfaces fact base?).mapM src.resolve = .error f ↔
      ∃ before i after, fact.interfaces = before ++ i :: after ∧
        (∀ j ∈ before, o.Inherits src.resolve fact j ∨ ∃ g, src.resolve j = .ok g) ∧
        ¬ o.Inherits src.resolve fact i ∧ src.resolve i = .error f := by
  -- a listed interface is passed over when it is inherited or resolves
  have hpass : ∀ j, (!decide (decide (j ∉ base?.elim [] (·.interfaces)) = true ∧
      (!(src.resolve j).isOk) = true)) = true ↔
      o.Inherits src.resolve fact j ∨ ∃ g, src.resolve j = .ok g := by
    intro j
    rw [inherits_iff hbase]
    cases src.resolve j with
    | ok g => simp [Except.isOk, Except.toBool]
    | error f' => simp [Except.isOk, Except.toBool]
  rw [mapM_eq_error, ownInterfaces]
  simp only [find?_eraseDups, List.find?_filter, List.find?_eq_some_iff_append, hpass]
  simp only [decide_eq_true_eq, ← inherits_iff hbase]
  constructor
  · rintro ⟨i, ⟨⟨hown, -⟩, before, after, hsplit, hbefore⟩, hi⟩
    exact ⟨before, i, after, hsplit, hbefore, hown, hi⟩
  · rintro ⟨before, i, after, hsplit, hbefore, hown, hi⟩
    refine ⟨i, ⟨⟨hown, ?_⟩, before, after, hsplit, hbefore⟩, hi⟩
    rw [hi]
    rfl

/-- Resolving what a type refers to, once its own facts let it take part. -/
theorem plan_of_ok (hfact : src.resolve id = .ok fact) (hin : ¬ o.KeepsOut fact) :
    o.plan src id = (do
      let base? ← o.planBase src fact
      let interfaces ← (ownInterfaces fact base?).mapM src.resolve
      return some { fact, base?, interfaces }) := by
  rw [plan, hfact]
  exact if_neg (mt keepsOut_iff.mpr hin)

theorem plan_of_keepsOut (hfact : src.resolve id = .ok fact) (hout : o.KeepsOut fact) :
    o.plan src id = .ok none := by
  rw [plan, hfact]
  exact if_pos (keepsOut_iff.mp hout)

/-- A plan fails with the first failure that is met. -/
theorem plan_eq_error : o.plan src id = .error f ↔ o.FailsWith src.resolve id f := by
  constructor
  · intro h
    cases hfact : src.resolve id with
    | error f' =>
        rw [plan, hfact] at h
        exact .type (hfact.trans (congrArg Except.error (Except.error.inj h)))
    | ok fact =>
        by_cases hout : o.KeepsOut fact
        · cases (plan_of_keepsOut hfact hout).symm.trans h
        rw [plan_of_ok hfact hout] at h
        rcases bind_eq_error.mp h with h | ⟨base?, hbase?, h⟩
        · obtain ⟨b, hb, hroot, hf⟩ := planBase_eq_error.mp h
          exact .base hfact hout hb hroot hf
        · obtain ⟨hresolves, hbase⟩ := planBase_spec hbase?
          rcases bind_eq_error.mp h with h | ⟨interfaces, -, h⟩
          · obtain ⟨before, i, after, hsplit, hbefore, hown, hi⟩ :=
              (mapM_ownInterfaces_eq_error hbase).mp h
            exact .interface hfact hout hresolves hsplit hbefore hown hi
          · cases h
  · intro h
    cases h with
    | type hf =>
        rw [plan, hf]
        rfl
    | base hfact hin hb hroot hf =>
        rw [plan_of_ok hfact hin]
        exact bind_eq_error.mpr (Or.inl (planBase_eq_error.mpr ⟨_, hb, hroot, hf⟩))
    | interface hfact hin hresolves hsplit hbefore hown hi =>
        obtain ⟨base?, hbase?⟩ := planBase_succeeds hresolves
        have hbase := (planBase_spec hbase?).2
        have hfails := (mapM_ownInterfaces_eq_error hbase).mpr
          ⟨_, _, _, hsplit, hbefore, hown, hi⟩
        rw [plan_of_ok hfact hin]
        exact bind_eq_error.mpr (Or.inr ⟨base?, hbase?, bind_eq_error.mpr (Or.inl hfails)⟩)

theorem plan_eq_none :
    o.plan src id = .ok none ↔ ∃ fact, src.resolve id = .ok fact ∧ o.KeepsOut fact := by
  constructor
  · intro h
    obtain ⟨fact, hfact, -⟩ := bind_eq_ok.mp h
    refine ⟨fact, hfact, ?_⟩
    by_contra hin
    rw [plan_of_ok hfact hin] at h
    obtain ⟨base?, -, h⟩ := bind_eq_ok.mp h
    obtain ⟨interfaces, -, h⟩ := bind_eq_ok.mp h
    exact nomatch Except.ok.inj h
  · rintro ⟨fact, hfact, hout⟩
    exact plan_of_keepsOut hfact hout

theorem fate_eq_leftOut :
    o.fate src id = .leftOut ↔ ∃ fact, src.resolve id = .ok fact ∧ o.KeepsOut fact := by
  rw [← plan_eq_none, fate]
  cases o.plan src id with
  | error f => simp
  | ok plan? => cases plan? <;> simp

theorem fate_eq_unusable : o.fate src id = .unusable ↔ ∃ f, o.FailsWith src.resolve id f := by
  simp only [← plan_eq_error, fate]
  cases o.plan src id with
  | error f => simp
  | ok plan? => cases plan? <;> simp

/-! ## The part of a source that is taken up -/

/-- The same source, declaring only those of its types that are taken up. -/
def takenUpPart (o : Options) (src : FactSource) : FactSource :=
  { src with declared := src.declared.filter (o.fate src · = .takenUp) }

/-- What is not taken up has no plan. -/
theorem planned?_eq_none (h : o.fate src id ≠ .takenUp) : o.planned? src id = none := by
  rw [fate] at h
  rw [planned?]
  cases hplan : o.plan src id with
  | error f => rfl
  | ok plan? =>
      cases plan? with
      | none => rfl
      | some p =>
          rw [hplan] at h
          exact absurd rfl h

theorem plans_takenUpPart (o : Options) (src : FactSource) :
    o.plans (o.takenUpPart src) = o.plans src := by
  show (src.declared.filter (o.fate src · = .takenUp)).filterMap (o.planned? src) =
    src.declared.filterMap (o.planned? src)
  rw [List.filterMap_filter]
  refine List.filterMap_congr fun id _ => ?_
  by_cases h : o.fate src id = .takenUp
  · rw [if_pos (decide_eq_true h)]
  · rw [if_neg (mt of_decide_eq_true h), planned?_eq_none h]

theorem tally_takenUpPart (o : Options) (src : FactSource) :
    o.tally (o.takenUpPart src) = { processed := (o.tally src).processed } := by
  have hfates : (o.takenUpPart src).declared.map (o.fate (o.takenUpPart src)) =
      (src.declared.map (o.fate src)).filter (· = .takenUp) := by
    rw [List.filter_map]
    rfl
  have hnone : ∀ fate, fate ≠ Fate.takenUp →
      ((src.declared.map (o.fate src)).filter (· = .takenUp)).count fate = 0 := by
    intro fate hne
    refine List.count_eq_zero.mpr fun hmem => hne ?_
    exact of_decide_eq_true (List.mem_filter.mp hmem).2
  have hall : ((src.declared.map (o.fate src)).filter (· = .takenUp)).count .takenUp =
      (o.tally src).processed := List.count_filter (decide_eq_true rfl)
  rw [tally, hfates, hnone .leftOut Fate.noConfusion, hnone .unusable Fate.noConfusion, hall]

/-- Every declaration is counted, and counted once. -/
theorem total_tally (o : Options) (src : FactSource) :
    (o.tally src).total = src.declared.length := by
  have hcount : ∀ fates : List Fate,
      fates.count .takenUp + fates.count .leftOut + fates.count .unusable = fates.length := by
    intro fates
    induction fates with
    | nil => rfl
    | cons fate fates ih =>
        rw [List.length_cons, ← ih]
        cases fate with
        | takenUp => simp [Nat.add_right_comm]
        | leftOut => simp [← Nat.add_assoc, Nat.add_right_comm]
        | unusable => simp [Nat.add_assoc]
  rw [← List.length_map (o.fate src), ← hcount]
  rfl

end Options

namespace Analysis

/-- A type that is not taken up is counted, and the analysis stays as it was. -/
theorem step_value_of_not_takenUp {o : Options} {src : FactSource} {id : NodeId} (a : Analysis)
    (tally : Tally) (h : o.fate src id ≠ .takenUp) :
    (step o src (a, tally) id).value = (a, tally.plus (o.fate src id)) := by
  refine Prod.ext ?_ (step_value_snd o src (a, tally) id)
  rw [step_value_fst, Options.planned?_eq_none h]
  rfl

/-- A source leaves the analysis as its taken up part does. -/
theorem process_takenUpPart (o : Options) (a : Analysis) (src : FactSource) :
    (a.process o (o.takenUpPart src)).value.1 = (a.process o src).value.1 := by
  rw [process_value_fst, process_value_fst, Options.plans_takenUpPart]

/-- How a source is worked through from the analysis `a`, types that are not
    taken up among its declared ones. -/
structure PassesOver (o : Options) (a : Analysis) (src : FactSource) : Prop where
  left_out_iff : ∀ id, o.fate src id = .leftOut ↔
    ∃ fact, src.resolve id = .ok fact ∧ o.KeepsOut fact
  unusable_iff : ∀ id, o.fate src id = .unusable ↔ ∃ f, o.FailsWith src.resolve id f
  inert : ∀ id tally, o.fate src id ≠ .takenUp →
    (step o src (a, tally) id).value = (a, tally.plus (o.fate src id))
  same_end : (a.process o src).value.1 = (a.process o (o.takenUpPart src)).value.1
  part_tally : (a.process o (o.takenUpPart src)).value.2 =
    { processed := (a.process o src).value.2.processed }
  counted : (a.process o src).value.2.total = src.declared.length

/-- **Types that are not taken up leave no trace.**  Whatever was analyzed
    before, a declared type that is left out, or that fails with its own facts,
    its base or any of its interfaces, changes nothing but the tally; so a
    source ends where the part of it that is taken up ends, and the tally adds
    up to its declarations. -/
theorem untaken_types_leave_no_trace (o : Options) (a : Analysis) (src : FactSource) :
    PassesOver o a src where
  left_out_iff := fun _ => Options.fate_eq_leftOut
  unusable_iff := fun _ => Options.fate_eq_unusable
  inert := fun _ tally h => step_value_of_not_takenUp a tally h
  same_end := (process_takenUpPart o a src).symm
  part_tally := by rw [process_value_snd, process_value_snd, Options.tally_takenUpPart]
  counted := by rw [process_value_snd, Options.total_tally]

/-- A type fails with the second of its interfaces.  The first one is resolved
    on the way and does not come into the graph by that. -/
example :
    let src : FactSource := {
      declared := ["T", "B"]
      resolve := fun id =>
        if id = "T" then
          .ok { id, name := "T", space? := some "n", base? := some "B", interfaces := ["I", "Gone"] }
        else if id = "B" ∨ id = "I" then .ok { id, name := id, space? := some "n" }
        else .error (.unknownType id) }
    let done := (process {} {} src).value
    done.1.graph = { nodes := ["B"] } ∧ done.2 = { processed := 1, malformed := 1 } := by
  decide +kernel

end Analysis

end Lineage
