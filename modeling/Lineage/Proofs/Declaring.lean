import Lineage.Proofs.Outcome
import Mathlib.Data.Finset.Card
import Mathlib.Data.List.DropRight
import Mathlib.Data.List.Infix

/-! # What the first declaration of an id decides

    An id can be declared many times, in one module and across modules, and
    modules can share a name.  A catalog keeps one place for each id, and fills
    its index in one pass that skips what is there already.

    * `FirstDeclared` says which declaration counts, through places and their
      order alone.  The pass visits places in that order
      (`declarations_precede`), so the index holds exactly the first places
      (`getElem?_index_iff`), and every one of them leads to a declaration.
    * `complaints` lists everything that is wrong with a declaration.  The
      checks are nested so that the first of them decides
      (`defect?_eq_head?`).

    The headline is `first_declaration_decides`. -/

namespace Lineage

/-! ## Blank text -/

/-- The text without the white space at its ends. -/
def Text.trim (s : String) : String :=
  String.ofList ((s.toList.dropWhile isWhite).rdropWhile isWhite)

/-- What is left of a text is nothing, if all of it is white. -/
theorem Text.isBlank_iff {s : String} : isBlank s = true ↔ trim s = "" := by
  rw [isBlank, List.all_eq_true, trim, String.ofList_eq_empty_iff, List.rdropWhile_eq_nil_iff]
  constructor
  · intro h c hc
    exact h c ((List.dropWhile_suffix isWhite).subset hc)
  · intro h
    -- a rest that begins with a character that is not white would keep it
    refine List.dropWhile_eq_nil_iff.mp ?_
    cases hrest : s.toList.dropWhile isWhite with
    | nil => rfl
    | cons c cs =>
        have hwhite : isWhite c = true := h c (hrest ▸ List.mem_cons_self)
        have hfirst := List.head_dropWhile_not isWhite (hrest ▸ List.cons_ne_nil c cs)
        simp only [hrest, List.head_cons] at hfirst
        exact nomatch hwhite.symm.trans hfirst

namespace Catalog

variable {ms : List ModuleFacts}

/-! ## Complaints -/

instance (id : String) : Decidable (ArrowFree id) :=
  inferInstanceAs (Decidable (¬ arrow.toList <:+: id.toList))

/-- Everything that is wrong with a declaration, in the order of the checks. -/
def complaints (fact : TypeFact) : List String :=
  fact.loadError?.toList ++
    (if Text.trim fact.id = "" then ["type has no id"] else []) ++
    (if ArrowFree fact.id then [] else ["type id contains `->`"]) ++
    (if Text.trim fact.name = "" then ["type has no name"] else [])

theorem defect?_eq_head? (fact : TypeFact) : defect? fact = (complaints fact).head? := by
  have hwords : s!"type id contains `{arrow}`" = "type id contains `->`" := by decide
  have harrow : Text.occursIn arrow fact.id = true ↔ ¬ ArrowFree fact.id := by
    rw [arrowFree_iff, Bool.not_eq_false]
  rw [defect?, complaints, hwords]
  simp only [Text.isBlank_iff, harrow]
  cases fact.loadError? with
  | some reason => rfl
  | none =>
      by_cases hid : Text.trim fact.id = ""
      · simp [hid]
      · by_cases hfree : ArrowFree fact.id
        · by_cases hname : Text.trim fact.name = ""
          · simp [hid, hfree, hname]
          · simp [hid, hfree, hname]
        · simp [hid, hfree]

/-- What is answered on the strength of a declaration: the first complaint
    about it, or the declaration. -/
def judgement (fact : TypeFact) : Except Failure TypeFact :=
  match (complaints fact).head? with
  | some reason => .error (.malformedFact fact.id reason)
  | none => .ok fact

/-! ## Places in order -/

/-- One place comes before another: an earlier module, or the same module and
    an earlier type. -/
def Precedes (a b : Place) : Prop := a.1 < b.1 ∨ a.1 = b.1 ∧ a.2 < b.2

theorem Precedes.asymm {a b : Place} (h : Precedes a b) : ¬ Precedes b a := by
  simp only [Precedes] at h ⊢
  omega

/-- The declaration stands at the place. -/
def DeclaredAt (ms : List ModuleFacts) (place : Place) (fact : TypeFact) : Prop :=
  ∃ m, ms[place.1]? = some m ∧ m.types[place.2]? = some fact

/-- The id is declared at the place, and at no place before it. -/
structure FirstDeclared (ms : List ModuleFacts) (id : String) (place : Place) (fact : TypeFact) :
    Prop where
  here : DeclaredAt ms place fact
  own_id : fact.id = id
  first : ∀ earlier fact', Precedes earlier place → DeclaredAt ms earlier fact' → fact'.id ≠ id

theorem mem_declarations {name : String} {fact : TypeFact} {place : Place} :
    (name, fact, place) ∈ declarations ms ↔
      ∃ m, ms[place.1]? = some m ∧ m.types[place.2]? = some fact ∧ m.name = name := by
  rw [declarations, List.mem_flatMap]
  constructor
  · rintro ⟨⟨m, i⟩, hm, h⟩
    obtain ⟨⟨f, j⟩, hf, heq⟩ := List.mem_map.mp h
    cases heq
    exact ⟨m, List.mk_mem_zipIdx_iff_getElem?.mp hm, List.mk_mem_zipIdx_iff_getElem?.mp hf, rfl⟩
  · rintro ⟨m, hm, hf, rfl⟩
    refine ⟨(m, place.1), List.mk_mem_zipIdx_iff_getElem?.mpr hm, ?_⟩
    exact List.mem_map.mpr ⟨(fact, place.2), List.mk_mem_zipIdx_iff_getElem?.mpr hf, rfl⟩

theorem declaredAt_iff {fact : TypeFact} {place : Place} :
    DeclaredAt ms place fact ↔ ∃ name, (name, fact, place) ∈ declarations ms := by
  simp only [DeclaredAt, mem_declarations]
  constructor
  · rintro ⟨m, hm, hf⟩
    exact ⟨m.name, m, hm, hf, rfl⟩
  · rintro ⟨name, m, hm, hf, -⟩
    exact ⟨m, hm, hf⟩

theorem pairwise_zipIdx {α : Type} (xs : List α) : xs.zipIdx.Pairwise fun a b => a.2 < b.2 := by
  have hsnd : (xs.zipIdx.map Prod.snd).Pairwise (· < ·) := by
    rw [List.zipIdx_map_snd]
    exact List.pairwise_lt_range'
  exact List.pairwise_map.mp hsnd

/-- The pass over all declarations goes from place to later place. -/
theorem declarations_precede (ms : List ModuleFacts) :
    (declarations ms).Pairwise fun a b => Precedes a.2.2 b.2.2 := by
  rw [declarations, List.pairwise_flatMap]
  constructor
  · rintro ⟨m, i⟩ -
    rw [List.pairwise_map]
    exact (pairwise_zipIdx m.types).imp fun hlt => Or.inr ⟨rfl, hlt⟩
  · refine (pairwise_zipIdx ms).imp ?_
    rintro ⟨m, i⟩ ⟨m', i'⟩ hlt x hx y hy
    obtain ⟨⟨f, j⟩, -, rfl⟩ := List.mem_map.mp hx
    obtain ⟨⟨f', j'⟩, -, rfl⟩ := List.mem_map.mp hy
    exact Or.inl hlt

/-- In a list that follows an order, a search finds the member that no other
    one of its kind comes before. -/
theorem find?_eq_some_of_pairwise {α : Type} {R : α → α → Prop} (hR : ∀ a b, R a b → ¬ R b a)
    {p : α → Bool} {xs : List α} (hxs : xs.Pairwise R) {x : α} :
    xs.find? p = some x ↔ x ∈ xs ∧ p x = true ∧ ∀ y ∈ xs, R y x → p y = false := by
  rw [List.find?_eq_some_iff_append]
  constructor
  · rintro ⟨hp, before, after, rfl, hbefore⟩
    refine ⟨List.mem_append_right before List.mem_cons_self, hp, fun y hy hyx => ?_⟩
    obtain ⟨-, hafter, -⟩ := List.pairwise_append.mp hxs
    rcases List.mem_append.mp hy with hy | hy
    · simpa using hbefore y hy
    · rcases List.mem_cons.mp hy with rfl | hy
      · exact absurd hyx (hR y y hyx)
      · exact absurd hyx (hR x y (List.rel_of_pairwise_cons hafter hy))
  · rintro ⟨hx, hp, hfirst⟩
    obtain ⟨before, after, rfl⟩ := List.append_of_mem hx
    refine ⟨hp, before, after, rfl, fun y hy => ?_⟩
    have hyx : R y x := (List.pairwise_append.mp hxs).2.2 y hy x List.mem_cons_self
    rw [hfirst y (List.mem_append_left _ hy) hyx]
    rfl

/-! ## The index -/

theorem getElem?_index (ms : List ModuleFacts) (id : String) :
    (ofModules ms).index[id]? = ((declarations ms).find? (·.2.1.id = id)).map (·.2.2) := by
  show (indexOf ms)[id]? = _
  rw [indexOf, getElem?_foldl_insertIfNew ∅ (declarations ms) (·.2.1.id) (·.2.2),
    Std.ExtTreeMap.getElem?_empty, Option.none_or]

/-- The index holds the places of first declarations, and nothing else. -/
theorem getElem?_index_iff {id : String} {place : Place} :
    (ofModules ms).index[id]? = some place ↔ ∃ fact, FirstDeclared ms id place fact := by
  rw [getElem?_index, Option.map_eq_some_iff]
  simp only [find?_eq_some_of_pairwise (fun _ _ => Precedes.asymm) (declarations_precede ms),
    decide_eq_true_eq, decide_eq_false_iff_not]
  constructor
  · rintro ⟨⟨name, fact, place⟩, ⟨hmem, hid, hfirst⟩, rfl⟩
    refine ⟨fact, declaredAt_iff.mpr ⟨name, hmem⟩, hid, fun earlier fact' hprec hdecl => ?_⟩
    obtain ⟨name', hmem'⟩ := declaredAt_iff.mp hdecl
    exact hfirst (name', fact', earlier) hmem' hprec
  · rintro ⟨fact, hfact⟩
    obtain ⟨name, hmem⟩ := declaredAt_iff.mp hfact.here
    refine ⟨(name, fact, place), ⟨hmem, hfact.own_id, ?_⟩, rfl⟩
    rintro ⟨name', fact', earlier⟩ hmem' hprec
    exact hfact.first earlier fact' hprec (declaredAt_iff.mpr ⟨name', hmem'⟩)

theorem factAt?_eq_some {place : Place} {fact : TypeFact} :
    (ofModules ms).factAt? place = some fact ↔ DeclaredAt ms place fact := Option.bind_eq_some_iff

/-- A place in the index is a place of its module. -/
theorem index_in_range {id : String} {place : Place} (h : (ofModules ms).index[id]? = some place) :
    ∃ hm : place.1 < ms.length, place.2 < ms[place.1].types.length := by
  obtain ⟨fact, hfact⟩ := getElem?_index_iff.mp h
  obtain ⟨m, hm, hf⟩ := hfact.here
  obtain ⟨hlt, rfl⟩ := List.getElem?_eq_some_iff.mp hm
  obtain ⟨hlt', -⟩ := List.getElem?_eq_some_iff.mp hf
  exact ⟨hlt, hlt'⟩

/-- The first declaration of an id is the one that is checked. -/
theorem resolve_of_first {id : String} {place : Place} {fact : TypeFact}
    (h : FirstDeclared ms id place fact) : (ofModules ms).resolve id = judgement fact := by
  have hplace := getElem?_index_iff.mpr ⟨fact, h⟩
  have hfound : ((ofModules ms).index[id]? >>= (ofModules ms).factAt?) = some fact := by
    rw [hplace]
    exact factAt?_eq_some.mpr h.here
  rw [resolve, hfound]
  show (match defect? fact with
    | some reason => .error (.malformedFact id reason)
    | none => .ok fact) = judgement fact
  rw [judgement, ← defect?_eq_head?, h.own_id]

/-- An id that is declared anywhere has a first declaration. -/
theorem exists_first {id : String} {place : Place} {fact : TypeFact}
    (h : DeclaredAt ms place fact) (hid : fact.id = id) :
    ∃ place fact, FirstDeclared ms id place fact := by
  obtain ⟨name, hmem⟩ := declaredAt_iff.mp h
  have hsome : ((declarations ms).find? (·.2.1.id = id)).isSome := by
    rw [List.find?_isSome]
    exact ⟨_, hmem, decide_eq_true hid⟩
  obtain ⟨d, hd⟩ := Option.isSome_iff_exists.mp hsome
  exact ⟨d.2.2, getElem?_index_iff.mp ((getElem?_index ms id).trans (congrArg _ hd))⟩

/-- What no declaration is about is unknown, and nothing else is. -/
theorem resolve_eq_unknown {id : String} :
    (ofModules ms).resolve id = .error (.unknownType id) ↔
      ∀ place fact, DeclaredAt ms place fact → fact.id ≠ id := by
  constructor
  · intro h place fact hdecl hid
    obtain ⟨place', fact', hfirst⟩ := exists_first hdecl hid
    rw [resolve_of_first hfirst, judgement] at h
    split at h
    · exact nomatch h
    · exact nomatch h
  · intro h
    have hnone : (ofModules ms).index[id]? = none := by
      rw [Option.eq_none_iff_forall_ne_some]
      intro place hplace
      obtain ⟨fact, hfact⟩ := getElem?_index_iff.mp hplace
      exact h place fact hfact.here hfact.own_id
    rw [resolve, hnone]
    rfl

/-- The catalog has as many types as there are ids among its declarations. -/
theorem typeCount_eq (ms : List ModuleFacts) :
    (ofModules ms).typeCount = ((facts ms).map (·.id)).toFinset.card := by
  have hkeys : ((facts ms).map (·.id)).toFinset = (ofModules ms).index.keys.toFinset := by
    ext id
    rw [List.mem_toFinset, List.mem_toFinset, Std.ExtTreeMap.mem_keys, mem_table_iff, List.mem_map]
    constructor
    · rintro ⟨fact, hfact, rfl⟩
      rw [← declarations_map_fact] at hfact
      obtain ⟨⟨name, fact, place⟩, hmem, rfl⟩ := List.mem_map.mp hfact
      obtain ⟨place', hfirst⟩ := exists_first (declaredAt_iff.mpr ⟨name, hmem⟩) rfl
      exact ⟨place', getElem?_index_iff.mpr hfirst⟩
    · rintro ⟨place, hplace⟩
      obtain ⟨fact, hfirst⟩ := getElem?_index_iff.mp hplace
      obtain ⟨name, hmem⟩ := declaredAt_iff.mp hfirst.here
      refine ⟨fact, ?_, hfirst.own_id⟩
      rw [← declarations_map_fact]
      exact List.mem_map.mpr ⟨_, hmem, rfl⟩
  rw [hkeys, List.toFinset_card_of_nodup Std.ExtTreeMap.nodup_keys, Std.ExtTreeMap.length_keys]
  rfl

/-! ## The headline -/

/-- A catalog knows an id by its first declaration only. -/
structure GoesByFirst (ms : List ModuleFacts) (c : Catalog) : Prop where
  unknown_iff : ∀ id, c.resolve id = .error (.unknownType id) ↔
    ∀ place fact, DeclaredAt ms place fact → fact.id ≠ id
  has_first : ∀ id place fact, DeclaredAt ms place fact → fact.id = id →
    ∃ place fact, FirstDeclared ms id place fact
  judged : ∀ id place fact, FirstDeclared ms id place fact → c.resolve id = judgement fact
  own_id : ∀ id fact, c.resolve id = .ok fact →
    fact.id = id ∧ ∃ place, FirstDeclared ms id place fact
  indexed : ∀ id place, c.index[id]? = some place ↔ ∃ fact, FirstDeclared ms id place fact
  in_range : ∀ (id : String) (place : Place), c.index[id]? = some place →
    ∃ hm : place.1 < ms.length, place.2 < ms[place.1].types.length
  count : c.typeCount = ((facts ms).map (·.id)).toFinset.card
  sources_agree : ∀ src ∈ c.sources, ∀ id, src.resolve id = c.resolve id

/-- **The first declaration of an id decides what a catalog says about it.**
    Whatever the modules repeat, an id that nothing declares is unknown, and any
    other is answered with its first declaration, in the order of modules and of
    their types, or with the first complaint about that one.  The index holds
    the places of these declarations, one for each id, and all modules answer
    like the catalog. -/
theorem first_declaration_decides (ms : List ModuleFacts) : (ofModules ms).GoesByFirst ms where
  unknown_iff := fun _ => resolve_eq_unknown
  has_first := fun _ _ _ => exists_first
  judged := fun _ _ _ => resolve_of_first
  own_id := by
    intro id fact h
    have hid := id_of_resolve h
    refine ⟨hid, ?_⟩
    obtain ⟨place, hplace⟩ : ∃ place, (ofModules ms).index[id]? = some place := by
      rw [← Option.isSome_iff_exists]
      cases hindex : (ofModules ms).index[id]? with
      | some place => rfl
      | none =>
          rw [resolve, hindex] at h
          exact nomatch h
    obtain ⟨fact', hfirst⟩ := getElem?_index_iff.mp hplace
    rw [resolve_of_first hfirst, judgement] at h
    split at h
    · exact nomatch h
    · exact ⟨place, Except.ok.inj h ▸ hfirst⟩
  indexed := fun _ _ => getElem?_index_iff
  in_range := fun _ _ => index_in_range
  count := typeCount_eq ms
  sources_agree := fun src hsrc id => congrFun (resolve_of_mem_sources hsrc) id

/-- Two modules of one name that declare one type three times, at first with a
    name of white space. -/
def shadowing : List ModuleFacts :=
  [{ name := "m", types := [
      { id := "N.B", name := "B" }, { id := "N.A", name := "\u2003" }, { id := "N.A", name := "A" }] },
    { name := "m", types := [{ id := "N.A", name := "A", space? := some "N" }] }]

/-- The later declarations of the type are sound, and of no use to it. -/
theorem shadowed_declarations_ignored :
    FirstDeclared shadowing "N.A" (0, 1) { id := "N.A", name := "\u2003" } ∧
      (ofModules shadowing).resolve "N.A" = .error (.malformedFact "N.A" "type has no name") ∧
      (ofModules shadowing).typeCount = 2 := by
  have hfirst : FirstDeclared shadowing "N.A" (0, 1) { id := "N.A", name := "\u2003" } := by
    refine ⟨⟨_, rfl, rfl⟩, rfl, ?_⟩
    rintro ⟨i, j⟩ fact' hprec ⟨m, hm, hf⟩
    have hplace : i = 0 ∧ j = 0 := by
      simp only [Precedes] at hprec
      omega
    obtain ⟨rfl, rfl⟩ := hplace
    obtain rfl := Option.some.inj hm
    obtain rfl := Option.some.inj hf
    decide
  have hdecides := first_declaration_decides shadowing
  refine ⟨hfirst, (hdecides.judged _ _ _ hfirst).trans ?_, hdecides.count.trans ?_⟩
  · decide +kernel
  · decide +kernel

end Catalog

end Lineage
