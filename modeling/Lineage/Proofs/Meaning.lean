import Lineage.Proofs.Resolution
import Lineage.Proofs.Run

/-! # Which types are related

    The analysis works in the order of declaration and keeps state.
    `Options.Relates` says without order or state which types are related, and
    how: it looks at what a type's own facts, those of its base, and those of
    its interfaces say, and at nothing else.

    A plan is where the two meet.  `PlanFor` reads a plan as a statement about
    facts (`planFor_of_plan`, `plan_succeeds`), and its links are then the
    relations of its type: `PlanFor.mem_links_iff` for the pairs, and
    `PlanFor.kindAt_iff` for the kind that comes first under the id of an
    edge. -/

namespace Lineage

/-- What answers for ids: a source, or a catalog. -/
abbrev Resolver := String → Except Failure TypeFact

/-- Facts come under their own id, and that id holds no arrow. -/
structure Resolver.Sound (r : Resolver) : Prop where
  id_eq : ∀ id f, r id = .ok f → f.id = id
  arrowFree : ∀ id f, r id = .ok f → ArrowFree id

namespace Options

/-! ## The relation -/

section Relation

variable (o : Options) (r : Resolver)

/-- A type inherits the interfaces that its base lists, unless the base is a
    root. -/
def Inherits (fact : TypeFact) (id : NodeId) : Prop :=
  ∃ b f, fact.base? = some b ∧ o.isRoot b = false ∧ r b = .ok f ∧ id ∈ f.interfaces

/-- A type takes part: it is named and not ignored, and whatever it refers to
    can be used. -/
structure Accepts (fact : TypeFact) : Prop where
  named : fact.space?.isSome = true
  shown : o.ignores fact = false
  base : ∀ b, fact.base? = some b → o.isRoot b = true ∨ ∃ f, r b = .ok f
  interfaces : ∀ i ∈ fact.interfaces, ¬ o.Inherits r fact i → ∃ f, r i = .ok f

/-- The type of that id takes part. -/
def Accepted (id : NodeId) : Prop := ∃ fact, r id = .ok fact ∧ o.Accepts r fact

/-- The type of that id can be used and is not ignored. -/
def Shows (id : NodeId) : Prop := ∃ fact, r id = .ok fact ∧ o.ignores fact = false

/-- A type that takes part derives from its base, unless that is a root or is
    ignored. -/
def Derives (source target : NodeId) : Prop :=
  ∃ fact, r source = .ok fact ∧ o.Accepts r fact ∧ fact.base? = some target ∧
    o.isRoot target = false ∧ o.Shows r target

/-- A type that takes part implements the interfaces that it lists, neither
    inherits nor derives from, and that are not ignored. -/
def Implements (source target : NodeId) : Prop :=
  ∃ fact, r source = .ok fact ∧ o.Accepts r fact ∧ target ∈ fact.interfaces ∧
    ¬ o.Inherits r fact target ∧ o.Shows r target ∧
    ¬ (fact.base? = some target ∧ o.isRoot target = false)

/-- The relation of a kind. -/
def Relates : EdgeKind → NodeId → NodeId → Prop
  | .derivesFrom => o.Derives r
  | .implements => o.Implements r

end Relation

variable {o : Options} {r : Resolver}

theorem Relates.accepted {kind : EdgeKind} {s t : NodeId} (h : o.Relates r kind s t) :
    o.Accepted r s := by
  cases kind with
  | derivesFrom =>
      obtain ⟨fact, hfact, hacc, -⟩ := h
      exact ⟨fact, hfact, hacc⟩
  | implements =>
      obtain ⟨fact, hfact, hacc, -⟩ := h
      exact ⟨fact, hfact, hacc⟩

theorem Relates.shown {kind : EdgeKind} {s t : NodeId} (h : o.Relates r kind s t) :
    o.Shows r t := by
  cases kind with
  | derivesFrom =>
      obtain ⟨fact, -, -, -, -, hshown⟩ := h
      exact hshown
  | implements =>
      obtain ⟨fact, -, -, -, -, hshown, -⟩ := h
      exact hshown

/-- No pair is related in both ways, by answers that agree about its source. -/
theorem Relates.kind_unique {r' : Resolver} {kind kind' : EdgeKind} {s t : NodeId}
    (hagree : ∀ f f', r s = .ok f → r' s = .ok f' → f = f') (h : o.Relates r kind s t)
    (h' : o.Relates r' kind' s t) : kind = kind' := by
  cases kind with
  | derivesFrom =>
      cases kind' with
      | derivesFrom => rfl
      | implements =>
          obtain ⟨f, hf, -, hbase, hroot, -⟩ := h
          obtain ⟨f', hf', -, -, -, -, hno⟩ := h'
          rw [hagree f f' hf hf'] at hbase
          exact absurd ⟨hbase, hroot⟩ hno
  | implements =>
      cases kind' with
      | derivesFrom =>
          obtain ⟨f, hf, -, -, -, -, hno⟩ := h
          obtain ⟨f', hf', -, hbase, hroot, -⟩ := h'
          rw [← hagree f f' hf hf'] at hbase
          exact absurd ⟨hbase, hroot⟩ hno
      | implements => rfl

/-! ## Plans as statements about facts -/

/-- What a plan for `id` holds. -/
structure PlanFor (o : Options) (r : Resolver) (id : NodeId) (p : Plan) : Prop where
  fact : r id = .ok p.fact
  accepts : o.Accepts r p.fact
  base : ∀ f, p.base? = some f ↔ ∃ b, p.fact.base? = some b ∧ o.isRoot b = false ∧ r b = .ok f
  interfaces : ∀ f, f ∈ p.interfaces ↔
    ∃ i ∈ p.fact.interfaces, ¬ o.Inherits r p.fact i ∧ r i = .ok f

/-- A base is resolved, unless there is none or it is a root. -/
theorem planBase_cases (o : Options) (src : FactSource) (fact : TypeFact) :
    (o.planBase src fact = .ok none ∧ ∀ b, fact.base? = some b → o.isRoot b = true) ∨
      ∃ b, fact.base? = some b ∧ o.isRoot b = false ∧
        o.planBase src fact = (src.resolve b).map some := by
  rw [planBase]
  cases hb : fact.base? with
  | none => exact Or.inl ⟨rfl, fun b hb => nomatch hb⟩
  | some b =>
      dsimp only
      by_cases hroot : o.isRoot b = true
      · rw [if_pos hroot]
        exact Or.inl ⟨rfl, fun b' hb' => Option.some.inj hb' ▸ hroot⟩
      · rw [if_neg hroot]
        exact Or.inr ⟨b, rfl, Bool.not_eq_true _ ▸ hroot, rfl⟩

theorem planBase_spec {src : FactSource} {fact : TypeFact} {base? : Option TypeFact}
    (h : o.planBase src fact = .ok base?) :
    (∀ b, fact.base? = some b → o.isRoot b = true ∨ ∃ f, src.resolve b = .ok f) ∧
      ∀ f, base? = some f ↔
        ∃ b, fact.base? = some b ∧ o.isRoot b = false ∧ src.resolve b = .ok f := by
  rcases o.planBase_cases src fact with ⟨hplan, hroots⟩ | ⟨b, hb, hroot, hplan⟩
  · obtain rfl := Except.ok.inj (hplan.symm.trans h)
    refine ⟨fun b hb => Or.inl (hroots b hb), fun f => ⟨fun h => (nomatch h), ?_⟩⟩
    rintro ⟨b, hb, hroot, -⟩
    rw [hroots b hb] at hroot
    exact nomatch hroot
  · rw [hplan] at h
    cases hr : src.resolve b with
    | error e =>
        rw [hr] at h
        exact nomatch h
    | ok f =>
        rw [hr] at h
        obtain rfl := Except.ok.inj h
        refine ⟨fun b' hb' => Or.inr ⟨f, Option.some.inj (hb.symm.trans hb') ▸ hr⟩, fun f' => ?_⟩
        constructor
        · intro hf
          exact ⟨b, hb, hroot, Option.some.inj hf ▸ hr⟩
        · rintro ⟨b', hb', -, hr'⟩
          rw [← Option.some.inj (hb.symm.trans hb'), hr] at hr'
          exact congrArg some (Except.ok.inj hr')

theorem planBase_succeeds {src : FactSource} {fact : TypeFact}
    (h : ∀ b, fact.base? = some b → o.isRoot b = true ∨ ∃ f, src.resolve b = .ok f) :
    ∃ base?, o.planBase src fact = .ok base? := by
  rcases o.planBase_cases src fact with ⟨hplan, -⟩ | ⟨b, hb, hroot, hplan⟩
  · exact ⟨none, hplan⟩
  · rcases h b hb with hroot' | ⟨f, hf⟩
    · rw [hroot] at hroot'
      exact nomatch hroot'
    · rw [hplan, hf]
      exact ⟨some f, rfl⟩

theorem planBase_eq_error {src : FactSource} {fact : TypeFact} {f : Failure} :
    o.planBase src fact = .error f ↔
      ∃ b, fact.base? = some b ∧ o.isRoot b = false ∧ src.resolve b = .error f := by
  rcases o.planBase_cases src fact with ⟨hplan, hroots⟩ | ⟨b, hb, hroot, hplan⟩
  · rw [hplan]
    constructor
    · intro h
      exact nomatch h
    · rintro ⟨b, hb, hroot, -⟩
      rw [hroots b hb] at hroot
      exact nomatch hroot
  · have hresolve : o.planBase src fact = .error f ↔ src.resolve b = .error f := by
      rw [hplan]
      cases src.resolve b <;> simp [Except.map]
    rw [hresolve]
    constructor
    · intro h
      exact ⟨b, hb, hroot, h⟩
    · rintro ⟨b', hb', -, h⟩
      rw [Option.some.inj (hb.symm.trans hb')]
      exact h

/-- A type inherits what the facts of its base list, once they are found. -/
theorem inherits_iff {src : FactSource} {fact : TypeFact} {base? : Option TypeFact}
    (hbase : ∀ f, base? = some f ↔
      ∃ b, fact.base? = some b ∧ o.isRoot b = false ∧ src.resolve b = .ok f) (i : NodeId) :
    o.Inherits src.resolve fact i ↔ i ∈ base?.elim [] (·.interfaces) := by
  constructor
  · rintro ⟨b, f, hb, hroot, hf, hi⟩
    rw [(hbase f).mpr ⟨b, hb, hroot, hf⟩]
    exact hi
  · intro hi
    cases hbase? : base? with
    | none =>
        rw [hbase?] at hi
        exact nomatch hi
    | some f =>
        rw [hbase?] at hi
        obtain ⟨b, hb, hroot, hf⟩ := (hbase f).mp hbase?
        exact ⟨b, f, hb, hroot, hf, hi⟩

/-- The interfaces of a type's own are the listed ones that it does not
    inherit. -/
theorem mem_ownInterfaces {src : FactSource} {fact : TypeFact} {base? : Option TypeFact}
    (hbase : ∀ f, base? = some f ↔
      ∃ b, fact.base? = some b ∧ o.isRoot b = false ∧ src.resolve b = .ok f) (i : NodeId) :
    i ∈ ownInterfaces fact base? ↔ i ∈ fact.interfaces ∧ ¬ o.Inherits src.resolve fact i := by
  rw [ownInterfaces, List.mem_eraseDups, List.mem_filter, decide_eq_true_iff, inherits_iff hbase]

/-- What it takes for a type to be planned, and the plan it then gets. -/
theorem plan_eq_some {src : FactSource} {id : NodeId} {p : Plan} :
    o.plan src id = .ok (some p) ↔
      src.resolve id = .ok p.fact ∧ p.fact.space?.isNone = false ∧ o.ignores p.fact = false ∧
        o.planBase src p.fact = .ok p.base? ∧
        (ownInterfaces p.fact p.base?).mapM src.resolve = .ok p.interfaces := by
  constructor
  · intro h
    obtain ⟨fact, hfact, h⟩ := bind_eq_ok.mp h
    by_cases hout : (fact.space?.isNone || o.ignores fact) = true
    · rw [if_pos hout] at h
      exact nomatch Except.ok.inj h
    · rw [if_neg hout] at h
      obtain ⟨base?, hbase?, h⟩ := bind_eq_ok.mp h
      obtain ⟨interfaces, hinterfaces, h⟩ := bind_eq_ok.mp h
      obtain rfl := Option.some.inj (Except.ok.inj h)
      rw [Bool.not_eq_true, Bool.or_eq_false_iff] at hout
      exact ⟨hfact, hout.1, hout.2, hbase?, hinterfaces⟩
  · rintro ⟨hfact, hnamed, hshown, hbase?, hinterfaces⟩
    refine bind_eq_ok.mpr ⟨p.fact, hfact, ?_⟩
    rw [hnamed, hshown]
    exact bind_eq_ok.mpr ⟨p.base?, hbase?, bind_eq_ok.mpr ⟨p.interfaces, hinterfaces, rfl⟩⟩

/-- A plan is one for facts that the source gives and that take part. -/
theorem planFor_of_plan {src : FactSource} {id : NodeId} {p : Plan}
    (h : o.plan src id = .ok (some p)) : o.PlanFor src.resolve id p := by
  obtain ⟨hfact, hnamed, hshown, hbase?, hinterfaces⟩ := plan_eq_some.mp h
  obtain ⟨hresolves, hbase⟩ := planBase_spec hbase?
  refine ⟨hfact, ⟨Option.isNone_eq_false_iff.mp hnamed, hshown, hresolves, ?_⟩, hbase, ?_⟩
  · intro i hi hno
    have hown := (mem_ownInterfaces hbase i).mpr ⟨hi, hno⟩
    exact exists_of_mapM_eq_ok hinterfaces hown
  · intro f
    rw [mem_of_mapM_eq_ok hinterfaces f]
    constructor
    · rintro ⟨i, hown, hf⟩
      obtain ⟨hi, hno⟩ := (mem_ownInterfaces hbase i).mp hown
      exact ⟨i, hi, hno, hf⟩
    · rintro ⟨i, hi, hno, hf⟩
      exact ⟨i, (mem_ownInterfaces hbase i).mpr ⟨hi, hno⟩, hf⟩

/-- There is a plan for every type that takes part. -/
theorem plan_succeeds {src : FactSource} {id : NodeId} (h : o.Accepted src.resolve id) :
    ∃ p, o.plan src id = .ok (some p) := by
  obtain ⟨fact, hfact, hacc⟩ := h
  obtain ⟨base?, hbase?⟩ := planBase_succeeds hacc.base
  have hbase := (planBase_spec hbase?).2
  have hown : ∀ i ∈ ownInterfaces fact base?, ∃ f, src.resolve i = .ok f := by
    intro i hi
    obtain ⟨hmem, hno⟩ := (mem_ownInterfaces hbase i).mp hi
    exact hacc.interfaces i hmem hno
  obtain ⟨interfaces, hinterfaces⟩ := mapM_succeeds hown
  have hnamed := Option.isNone_eq_false_iff.mpr hacc.named
  exact ⟨⟨fact, base?, interfaces⟩, plan_eq_some.mpr ⟨hfact, hnamed, hacc.shown, hbase?, hinterfaces⟩⟩

/-! ## Links as relations -/

namespace PlanFor

variable {s : NodeId} {p : Plan}

theorem fact_id (h : o.PlanFor r s p) (hr : Resolver.Sound r) : p.fact.id = s :=
  hr.id_eq s p.fact h.fact

/-- The facts of a target are those under its id. -/
theorem resolve_target (h : o.PlanFor r s p) (hr : Resolver.Sound r) {l : Link}
    (hl : l ∈ p.links o) : r l.target.id = .ok l.target := by
  have hfound : ∃ i, r i = .ok l.target := by
    rcases List.mem_append.mp hl with hl | hl
    · obtain ⟨f, hf, -, rfl⟩ := Plan.mem_baseLinks.mp hl
      obtain ⟨b, -, -, hfb⟩ := (h.base f).mp hf
      exact ⟨b, hfb⟩
    · obtain ⟨f, hf, -, rfl⟩ := Plan.mem_interfaceLinks.mp hl
      obtain ⟨i, -, -, hfi⟩ := (h.interfaces f).mp hf
      exact ⟨i, hfi⟩
  obtain ⟨i, hi⟩ := hfound
  rw [hr.id_eq i l.target hi]
  exact hi

/-- The link to the base is the relation of deriving. -/
theorem derives_iff (h : o.PlanFor r s p) (hr : Resolver.Sound r) (t : NodeId) :
    (∃ l ∈ p.baseLinks o, l.target.id = t) ↔ o.Derives r s t := by
  constructor
  · rintro ⟨l, hl, rfl⟩
    obtain ⟨f, hf, hshown, rfl⟩ := Plan.mem_baseLinks.mp hl
    obtain ⟨b, hb, hroot, hfb⟩ := (h.base f).mp hf
    show o.Derives r s f.id
    rw [hr.id_eq b f hfb]
    exact ⟨p.fact, h.fact, h.accepts, hb, hroot, f, hfb, hshown⟩
  · rintro ⟨fact, hfact, -, hb, hroot, f, hf, hshown⟩
    obtain rfl := Except.ok.inj (h.fact.symm.trans hfact)
    have hbase : p.base? = some f := (h.base f).mpr ⟨t, hb, hroot, hf⟩
    exact ⟨_, Plan.mem_baseLinks.mpr ⟨f, hbase, hshown, rfl⟩, hr.id_eq t f hf⟩

/-- A link to an interface is the relation of implementing, unless the type
    derives from the interface. -/
theorem implements_iff (h : o.PlanFor r s p) (hr : Resolver.Sound r) (t : NodeId) :
    (∃ l ∈ p.interfaceLinks o, l.target.id = t) ∧ ¬ o.Derives r s t ↔ o.Implements r s t := by
  constructor
  · rintro ⟨⟨l, hl, rfl⟩, hno⟩
    obtain ⟨f, hf, hshown, rfl⟩ := Plan.mem_interfaceLinks.mp hl
    obtain ⟨i, hi, hown, hfi⟩ := (h.interfaces f).mp hf
    have hid : f.id = i := hr.id_eq i f hfi
    show o.Implements r s f.id
    rw [hid]
    refine ⟨p.fact, h.fact, h.accepts, hi, hown, ⟨f, hfi, hshown⟩, ?_⟩
    rintro ⟨hb, hroot⟩
    refine hno ?_
    show o.Derives r s f.id
    rw [hid]
    exact ⟨p.fact, h.fact, h.accepts, hb, hroot, f, hfi, hshown⟩
  · rintro ⟨fact, hfact, -, hi, hown, ⟨f, hf, hshown⟩, hno⟩
    obtain rfl := Except.ok.inj (h.fact.symm.trans hfact)
    have hmem : f ∈ p.interfaces := (h.interfaces f).mpr ⟨t, hi, hown, hf⟩
    refine ⟨⟨_, Plan.mem_interfaceLinks.mpr ⟨f, hmem, hshown, rfl⟩, hr.id_eq t f hf⟩, ?_⟩
    rintro ⟨fact', hfact', -, hb, hroot, -⟩
    obtain rfl := Except.ok.inj (hfact.symm.trans hfact')
    exact hno ⟨hb, hroot⟩

/-- A type is linked to what it is related to. -/
theorem mem_links_iff (h : o.PlanFor r s p) (hr : Resolver.Sound r) (t : NodeId) :
    (∃ l ∈ p.links o, l.target.id = t) ↔ ∃ kind, o.Relates r kind s t := by
  constructor
  · rintro ⟨l, hl, ht⟩
    by_cases hderives : o.Derives r s t
    · exact ⟨.derivesFrom, hderives⟩
    · rcases List.mem_append.mp hl with hl | hl
      · exact absurd ((h.derives_iff hr t).mp ⟨l, hl, ht⟩) hderives
      · exact ⟨.implements, (h.implements_iff hr t).mp ⟨⟨l, hl, ht⟩, hderives⟩⟩
  · rintro ⟨kind, hkind⟩
    cases kind with
    | derivesFrom =>
        obtain ⟨l, hl, ht⟩ := (h.derives_iff hr t).mpr hkind
        exact ⟨l, List.mem_append.mpr (Or.inl hl), ht⟩
    | implements =>
        obtain ⟨⟨l, hl, ht⟩, -⟩ := (h.implements_iff hr t).mpr hkind
        exact ⟨l, List.mem_append.mpr (Or.inr hl), ht⟩

end PlanFor

end Options

/-- The kind of the first link of a plan whose edge has that id. -/
def Plan.kindAt (o : Options) (p : Plan) (k : EdgeId) : Option EdgeKind :=
  ((p.links o).find? (·.edge.id = k)).map (·.kind)

namespace Options.PlanFor

variable {o : Options} {r : Resolver} {s : NodeId} {p : Plan}

/-- Links of a plan have the edge id of a pair when they lead to its target. -/
theorem edge_id_iff (h : o.PlanFor r s p) (hr : Resolver.Sound r) {l : Link}
    (hl : l ∈ p.links o) (t : NodeId) : l.edge.id = edgeId s t ↔ l.target.id = t := by
  have hsource : l.source = s := (Plan.source_of_mem_links hl).trans (h.fact_id hr)
  have hfree : ArrowFree s := hr.arrowFree s p.fact h.fact
  show edgeId l.source l.target.id = edgeId s t ↔ _
  rw [hsource]
  exact ⟨fun hid => (edgeId_inj hfree hfree hid).2, fun ht => ht ▸ rfl⟩

/-- The link that comes first under the id of an edge is of the kind in which
    the ends are related: the link to the base comes before those to
    interfaces. -/
theorem relates_of_kindAt (h : o.PlanFor r s p) (hr : Resolver.Sound r) {t : NodeId}
    {kind : EdgeKind} (hat : p.kindAt o (edgeId s t) = some kind) : o.Relates r kind s t := by
  obtain ⟨l, hfind, rfl⟩ := Option.map_eq_some_iff.mp hat
  have hid : l.edge.id = edgeId s t := by simpa using List.find?_some hfind
  rw [Plan.links, List.find?_append] at hfind
  cases hbase : (p.baseLinks o).find? (·.edge.id = edgeId s t) with
  | some l' =>
      -- the link to the base comes first, so it is the one that was found
      rw [hbase, Option.some_or] at hfind
      obtain rfl := Option.some.inj hfind
      have hl := List.mem_of_find?_eq_some hbase
      have ht := (h.edge_id_iff hr (List.mem_append_left _ hl) t).mp hid
      have hderives := (h.derives_iff hr t).mp ⟨l', hl, ht⟩
      obtain ⟨f, -, -, rfl⟩ := Plan.mem_baseLinks.mp hl
      exact hderives
  | none =>
      rw [hbase, Option.none_or] at hfind
      have hl := List.mem_of_find?_eq_some hfind
      have ht := (h.edge_id_iff hr (List.mem_append_right _ hl) t).mp hid
      -- deriving would have put a link to the base in front
      have hno : ¬ o.Derives r s t := by
        intro hderives
        obtain ⟨l', hl', ht'⟩ := (h.derives_iff hr t).mpr hderives
        have hid' := (h.edge_id_iff hr (List.mem_append_left _ hl') t).mpr ht'
        exact List.find?_eq_none.mp hbase l' hl' (decide_eq_true hid')
      have himplements := (h.implements_iff hr t).mp ⟨⟨l, hl, ht⟩, hno⟩
      obtain ⟨f, -, -, rfl⟩ := Plan.mem_interfaceLinks.mp hl
      exact himplements

theorem kindAt_iff (h : o.PlanFor r s p) (hr : Resolver.Sound r) (t : NodeId) (kind : EdgeKind) :
    p.kindAt o (edgeId s t) = some kind ↔ o.Relates r kind s t := by
  refine ⟨h.relates_of_kindAt hr, fun hrel => ?_⟩
  obtain ⟨l, hl, ht⟩ := (h.mem_links_iff hr t).mpr ⟨kind, hrel⟩
  have hid := (h.edge_id_iff hr hl t).mpr ht
  cases hat : p.kindAt o (edgeId s t) with
  | none =>
      have hnone := List.find?_eq_none.mp (Option.map_eq_none_iff.mp hat) l hl
      exact absurd (decide_eq_true hid) hnone
  | some kind' =>
      have hagree : ∀ f f', r s = .ok f → r s = .ok f' → f = f' :=
        fun f f' hf hf' => Except.ok.inj (hf.symm.trans hf')
      rw [(h.relates_of_kindAt hr hat).kind_unique hagree hrel]

/-- Whatever a plan has a kind for is the id of an edge that leaves its type. -/
theorem exists_of_kindAt (h : o.PlanFor r s p) (hr : Resolver.Sound r) {k : EdgeId}
    {kind : EdgeKind} (hat : p.kindAt o k = some kind) : ∃ t, edgeId s t = k := by
  obtain ⟨l, hfind, -⟩ := Option.map_eq_some_iff.mp hat
  have hid : l.edge.id = k := by simpa using List.find?_some hfind
  have hl := List.mem_of_find?_eq_some hfind
  exact ⟨l.target.id, ((h.edge_id_iff hr hl l.target.id).mpr rfl).symm.trans hid⟩

end Options.PlanFor

end Lineage
