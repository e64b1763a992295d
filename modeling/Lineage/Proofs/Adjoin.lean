import Lineage.Facts.Fact
import Mathlib.Data.List.Forall2
import Mathlib.Data.List.Induction
import Mathlib.Data.List.Nodup

/-! # Lists that keep first comers, tables that keep first entries

    Graphs, documents and queues grow in one way: an element that is there
    already changes nothing, a new one goes to the end.  `adjoin` is that step
    and `adjoinAll` its run, and what is kept beside a graph grows in the same
    way by `insertIfNew`.

    The second half says how a run of steps that may fail is taken apart: from
    the front (`foldlM_cons_eq_ok`), and by an invariant of the state and of
    what is still to be done, once for runs known to succeed
    (`foldlM_invariant`) and once for runs to be shown to (`foldlM_succeeds`). -/

namespace Lineage

variable {α β ε : Type}

/-! ## Keeping first comers -/

section Adjoin

variable [DecidableEq α]

/-- The list with `x` among its members: at the end, unless it is one. -/
def adjoin (xs : List α) (x : α) : List α := if x ∈ xs then xs else xs ++ [x]

/-- Adjoins the members of a list, one after the other. -/
def adjoinAll (xs ys : List α) : List α := ys.foldl adjoin xs

@[simp] theorem adjoinAll_nil (xs : List α) : adjoinAll xs [] = xs := rfl

@[simp] theorem adjoinAll_cons (xs : List α) (y : α) (ys : List α) :
    adjoinAll xs (y :: ys) = adjoinAll (adjoin xs y) ys := rfl

theorem adjoinAll_append (xs ys zs : List α) :
    adjoinAll xs (ys ++ zs) = adjoinAll (adjoinAll xs ys) zs :=
  List.foldl_append

theorem adjoin_of_mem {xs : List α} {x : α} (h : x ∈ xs) : adjoin xs x = xs := if_pos h

theorem adjoin_of_not_mem {xs : List α} {x : α} (h : x ∉ xs) : adjoin xs x = xs ++ [x] :=
  if_neg h

@[simp] theorem mem_adjoin {xs : List α} {x y : α} : y ∈ adjoin xs x ↔ y ∈ xs ∨ y = x := by
  by_cases h : x ∈ xs
  · rw [adjoin_of_mem h]
    exact ⟨Or.inl, fun hy => hy.elim id (fun hy => hy ▸ h)⟩
  · rw [adjoin_of_not_mem h, List.mem_append, List.mem_singleton]

@[simp] theorem mem_adjoinAll {xs ys : List α} {y : α} :
    y ∈ adjoinAll xs ys ↔ y ∈ xs ∨ y ∈ ys := by
  induction ys generalizing xs with
  | nil => simp
  | cons z zs ih => rw [adjoinAll_cons, ih, mem_adjoin, List.mem_cons, or_assoc]

theorem nodup_adjoin {xs : List α} {x : α} (h : xs.Nodup) : (adjoin xs x).Nodup := by
  by_cases hx : x ∈ xs
  · rw [adjoin_of_mem hx]
    exact h
  · rw [adjoin_of_not_mem hx, ← List.concat_eq_append]
    exact h.concat hx

theorem nodup_adjoinAll {xs ys : List α} (h : xs.Nodup) : (adjoinAll xs ys).Nodup := by
  induction ys generalizing xs with
  | nil => exact h
  | cons y ys ih => exact ih (nodup_adjoin h)

theorem prefix_adjoin (xs : List α) (x : α) : xs <+: adjoin xs x := by
  rw [adjoin]
  split
  · exact List.prefix_rfl
  · exact List.prefix_append xs [x]

/-- Members that are all new and different simply follow. -/
theorem adjoinAll_eq_append {xs ys : List α} (hys : ys.Nodup) (hnew : ∀ y ∈ ys, y ∉ xs) :
    adjoinAll xs ys = xs ++ ys := by
  induction ys generalizing xs with
  | nil => simp
  | cons y ys ih =>
      obtain ⟨hy, hys⟩ := List.nodup_cons.mp hys
      rw [adjoinAll_cons, adjoin_of_not_mem (hnew y List.mem_cons_self), ih hys]
      · rw [List.append_assoc, List.singleton_append]
      · intro z hz hmem
        rcases List.mem_append.mp hmem with hzs | hzy
        · exact hnew z (List.mem_cons_of_mem y hz) hzs
        · exact hy (List.mem_singleton.mp hzy ▸ hz)

theorem filter_adjoin (p : α → Bool) (xs : List α) (x : α) :
    (adjoin xs x).filter p = if p x then adjoin (xs.filter p) x else xs.filter p := by
  by_cases hx : x ∈ xs
  · rw [adjoin_of_mem hx]
    split
    · next hp => rw [adjoin_of_mem (List.mem_filter.mpr ⟨hx, hp⟩)]
    · rfl
  · rw [adjoin_of_not_mem hx, List.filter_append]
    split
    · next hp =>
        rw [List.filter_singleton, hp, adjoin_of_not_mem fun h => hx (List.mem_filter.mp h).1]
        rfl
    · next hp => rw [List.filter_singleton, Bool.eq_false_iff.mpr hp, Bool.cond_false, List.append_nil]

/-- Whether members are dropped before or after adjoining makes no difference. -/
theorem filter_adjoinAll (p : α → Bool) (xs ys : List α) :
    (adjoinAll xs ys).filter p = adjoinAll (xs.filter p) (ys.filter p) := by
  induction ys generalizing xs with
  | nil => rfl
  | cons y ys ih =>
      rw [adjoinAll_cons, ih, filter_adjoin, List.filter_cons]
      split
      · rfl
      · rfl

/-- To drop repetitions is to adjoin the members to nothing. -/
theorem eraseDups_eq_adjoinAll (xs : List α) : xs.eraseDups = adjoinAll [] xs := by
  induction xs using List.reverseRecOn with
  | nil => rfl
  | append_singleton xs x ih =>
      have hmem : x ∈ adjoinAll [] xs ↔ x ∈ xs := by simp
      rw [List.eraseDups_append, adjoinAll_append, ← ih, adjoinAll_cons, adjoinAll_nil]
      by_cases hx : x ∈ xs
      · rw [adjoin_of_mem (ih ▸ hmem.mpr hx)]
        simp [List.removeAll, hx]
      · rw [adjoin_of_not_mem (fun h => hx (hmem.mp (ih ▸ h)))]
        simp [List.removeAll, hx, List.eraseDups_cons]

theorem nodup_eraseDups (xs : List α) : xs.eraseDups.Nodup := by
  rw [eraseDups_eq_adjoinAll]
  exact nodup_adjoinAll List.nodup_nil

theorem eraseDups_of_nodup {xs : List α} (h : xs.Nodup) : xs.eraseDups = xs := by
  rw [eraseDups_eq_adjoinAll, adjoinAll_eq_append h fun _ _ => List.not_mem_nil]
  exact List.nil_append xs

theorem adjoinAll_adjoin (xs ys : List α) (y : α) :
    adjoinAll xs (adjoin ys y) = adjoin (adjoinAll xs ys) y := by
  by_cases hy : y ∈ ys
  · rw [adjoin_of_mem hy, adjoin_of_mem (mem_adjoinAll.mpr (Or.inr hy))]
  · rw [adjoin_of_not_mem hy, adjoinAll_append]
    rfl

theorem adjoinAll_adjoinAll (xs ys zs : List α) :
    adjoinAll xs (adjoinAll ys zs) = adjoinAll (adjoinAll xs ys) zs := by
  induction zs generalizing ys with
  | nil => rfl
  | cons z zs ih => rw [adjoinAll_cons, ih, adjoinAll_adjoin, ← adjoinAll_cons]

/-- Members that are there already may as well be dropped. -/
theorem adjoinAll_filter {p : α → Bool} {xs ys : List α} (h : ∀ y ∈ ys, p y = false → y ∈ xs) :
    adjoinAll xs (ys.filter p) = adjoinAll xs ys := by
  induction ys generalizing xs with
  | nil => rfl
  | cons y ys ih =>
      have hys : ∀ z ∈ ys, p z = false → z ∈ adjoin xs y :=
        fun z hz hp => mem_adjoin.mpr (Or.inl (h z (List.mem_cons_of_mem y hz) hp))
      rw [List.filter_cons, adjoinAll_cons, ← ih hys]
      cases hp : p y with
      | true => rfl
      | false =>
          rw [adjoin_of_mem (h y List.mem_cons_self hp)]
          rfl

theorem adjoinAll_of_subset {xs ys : List α} (h : ∀ y ∈ ys, y ∈ xs) : adjoinAll xs ys = xs := by
  rw [← adjoinAll_filter (p := fun _ => false) fun y hy _ => h y hy, List.filter_false]
  rfl

/-- What is new goes to the end, without its repetitions. -/
theorem adjoinAll_eq_append_filter (xs ys : List α) :
    adjoinAll xs ys = xs ++ ys.eraseDups.filter (· ∉ xs) := by
  have hold : ∀ y ∈ ys.eraseDups, decide (y ∉ xs) = false → y ∈ xs := by simp
  have hnew : ∀ y ∈ ys.eraseDups.filter (· ∉ xs), y ∉ xs := by simp
  rw [← adjoinAll_eq_append ((nodup_eraseDups ys).filter _) hnew, adjoinAll_filter hold,
    eraseDups_eq_adjoinAll, adjoinAll_adjoinAll, adjoinAll_nil]

theorem find?_adjoinAll (p : α → Bool) (xs ys : List α) :
    (adjoinAll xs ys).find? p = (xs.find? p).or (ys.find? p) := by
  induction ys generalizing xs with
  | nil => rw [adjoinAll_nil, List.find?_nil, Option.or_none]
  | cons y ys ih =>
      rw [adjoinAll_cons, ih]
      by_cases hy : y ∈ xs
      · rw [adjoin_of_mem hy, List.find?_cons]
        cases hp : p y with
        | true =>
            -- the new member would be found, but so is an old one before it
            obtain ⟨x, hx⟩ := Option.isSome_iff_exists.mp (List.find?_isSome.mpr ⟨y, hy, hp⟩)
            rw [hx, Option.some_or, Option.some_or]
        | false => rfl
      · rw [adjoin_of_not_mem hy, List.find?_append, Option.or_assoc, ← List.find?_append]
        rfl

/-- The first member of a kind is the same with repetitions dropped. -/
theorem find?_eraseDups (p : α → Bool) (xs : List α) : xs.eraseDups.find? p = xs.find? p := by
  rw [eraseDups_eq_adjoinAll, find?_adjoinAll]
  rfl

/-- Whether repetitions are dropped before or after each member is replaced by
    a list makes no difference. -/
theorem eraseDups_flatMap [DecidableEq β] (f : α → List β) (xs : List α) :
    (xs.eraseDups.flatMap f).eraseDups = (xs.flatMap f).eraseDups := by
  rw [eraseDups_eq_adjoinAll xs]
  -- from the end, where one more member is new or not
  induction xs using List.reverseRecOn with
  | nil => rfl
  | append_singleton xs x ih =>
      rw [eraseDups_eq_adjoinAll, eraseDups_eq_adjoinAll] at ih ⊢
      have hone : [x].flatMap f = f x := List.flatMap_singleton f x
      rw [adjoinAll_append, adjoinAll_cons, adjoinAll_nil, List.flatMap_append, adjoinAll_append,
        hone, ← ih]
      by_cases hx : x ∈ adjoinAll [] xs
      · have hold : ∀ y ∈ f x, y ∈ adjoinAll [] ((adjoinAll [] xs).flatMap f) := by
          intro y hy
          exact mem_adjoinAll.mpr (Or.inr (List.mem_flatMap.mpr ⟨x, hx, hy⟩))
        rw [adjoin_of_mem hx, adjoinAll_of_subset hold]
      · rw [adjoin_of_not_mem hx, List.flatMap_append, adjoinAll_append, hone]

end Adjoin

/-! ## Looking up by a key -/

/-- In a list without two members of one key, each is found under its key. -/
theorem find?_of_nodup_map [DecidableEq β] {key : α → β} {xs : List α} (h : (xs.map key).Nodup)
    {x : α} (hx : x ∈ xs) : xs.find? (key · = key x) = some x := by
  cases hfind : xs.find? (key · = key x) with
  | none => exact absurd (decide_eq_true rfl) (List.find?_eq_none.mp hfind x hx)
  | some y =>
      have hkey : key y = key x := by simpa using List.find?_some hfind
      rw [List.inj_on_of_nodup_map h (List.mem_of_find?_eq_some hfind) hx hkey]

/-- Where keys are not repeated, the last of a key is the first of it. -/
theorem find?_reverse_of_nodup_map [DecidableEq β] {key : α → β} {xs : List α}
    (h : (xs.map key).Nodup) (k : β) : xs.reverse.find? (key · = k) = xs.find? (key · = k) := by
  have hreverse : (xs.reverse.map key).Nodup := by
    rw [List.map_reverse]
    exact List.nodup_reverse.mpr h
  cases hfind : xs.find? (key · = k) with
  | none =>
      rw [List.find?_eq_none] at hfind ⊢
      exact fun x hx => hfind x (List.mem_reverse.mp hx)
  | some x =>
      obtain rfl : key x = k := by simpa using List.find?_some hfind
      exact find?_of_nodup_map hreverse (List.mem_reverse.mpr (List.mem_of_find?_eq_some hfind))

/-! ## Tables -/

/-- What a table holds under a key once another entry was added to it. -/
theorem getElem?_insertIfNew (t : Table β) (k a : String) (v : β) :
    (t.insertIfNew k v)[a]? = t[a]?.or (if k = a then some v else none) := by
  simp only [Std.ExtTreeMap.getElem?_insertIfNew, Std.LawfulEqCmp.compare_eq_iff_eq]
  by_cases hka : k = a
  · subst hka
    by_cases hk : k ∈ t
    · obtain ⟨w, hw⟩ := Option.isSome_iff_exists.mp (Std.ExtTreeMap.isSome_getElem?_iff_mem.mpr hk)
      rw [if_neg (fun h => h.2 hk), hw, Option.some_or]
    · have hnone : t[k]? = none := Std.ExtTreeMap.getElem?_eq_none hk
      rw [if_pos ⟨rfl, hk⟩, hnone, Option.none_or, if_pos rfl]
  · rw [if_neg (fun h => hka h.1), if_neg hka, Option.or_none]

/-- What a table holds under a key once an entry was put into it. -/
theorem getElem?_insert (t : Table β) (k a : String) (v : β) :
    (t.insert k v)[a]? = if k = a then some v else t[a]? := by
  simp only [Std.ExtTreeMap.getElem?_insert, Std.LawfulEqCmp.compare_eq_iff_eq]

/-- A key is in a table when something is held under it. -/
theorem mem_table_iff {t : Table β} {k : String} : k ∈ t ↔ ∃ v, t[k]? = some v := by
  rw [Std.ExtTreeMap.mem_iff_isSome_getElem?, Option.isSome_iff_exists]

/-- A table filled with entries for the members of a list holds, under a key
    that was free, the value of the first member of that key. -/
theorem getElem?_foldl_insertIfNew (t : Table β) (xs : List α) (key : α → String) (val : α → β)
    (k : String) :
    (xs.foldl (fun t x => t.insertIfNew (key x) (val x)) t)[k]? =
      t[k]?.or ((xs.find? (key · = k)).map val) := by
  induction xs generalizing t with
  | nil => rw [List.foldl_nil, List.find?_nil, Option.map_none, Option.or_none]
  | cons x xs ih =>
      rw [List.foldl_cons, ih, getElem?_insertIfNew, Option.or_assoc, List.find?_cons]
      by_cases hx : key x = k
      · rw [if_pos hx, decide_eq_true hx, Option.some_or]
        rfl
      · rw [if_neg hx, decide_eq_false hx, Option.none_or]

/-- A table into which entries for the members of a list were put holds, under
    a key, the value of the last member of that key. -/
theorem getElem?_foldl_insert (t : Table β) (xs : List α) (key : α → String) (val : α → β)
    (k : String) :
    (xs.foldl (fun t x => t.insert (key x) (val x)) t)[k]? =
      ((xs.reverse.find? (key · = k)).map val).or t[k]? := by
  induction xs generalizing t with
  | nil => rfl
  | cons x xs ih =>
      rw [List.foldl_cons, ih, getElem?_insert, List.reverse_cons, List.find?_append]
      cases xs.reverse.find? (key · = k) with
      | some y => rfl
      | none =>
          by_cases hx : key x = k
          · simp [hx]
          · simp [hx]

/-- Every descriptor is kept under the id of its type. -/
def SelfKeyed (t : Table Descriptor) : Prop :=
  ∀ (id : NodeId) (d : Descriptor), t[id]? = some d → d.id = id

theorem selfKeyed_empty : SelfKeyed ∅ := by
  intro id d h
  rw [Std.ExtTreeMap.getElem?_empty] at h
  exact nomatch h

theorem SelfKeyed.insert {t : Table Descriptor} (h : SelfKeyed t) (d : Descriptor) :
    SelfKeyed (t.insert d.id d) := by
  intro id d' hd'
  rw [getElem?_insert] at hd'
  by_cases hid : d.id = id
  · rw [if_pos hid] at hd'
    exact Option.some.inj hd' ▸ hid
  · rw [if_neg hid] at hd'
    exact h id d' hd'

/-! ## Runs of steps -/

/-- What no step changes, a run leaves as it was. -/
theorem foldl_kept {σ : Type} (field : σ → β) {f : σ → α → σ} (h : ∀ s x, field (f s x) = field s)
    (xs : List α) (s : σ) : field (xs.foldl f s) = field s := by
  induction xs generalizing s with
  | nil => rfl
  | cons x xs ih => rw [List.foldl_cons, ih, h]

/-! ## Steps that may fail -/

/-- What reads every member of a list back reads the list back. -/
theorem mapM_map_eq_some {write : α → β} {read : β → Option α} {xs : List α}
    (h : ∀ x ∈ xs, read (write x) = some x) : (xs.map write).mapM read = some xs := by
  induction xs with
  | nil => rfl
  | cons x xs ih =>
      rw [List.map_cons, List.mapM_cons, h x List.mem_cons_self,
        ih fun y hy => h y (List.mem_cons_of_mem x hy)]
      rfl

theorem bind_eq_ok {x : Except ε α} {f : α → Except ε β} {b : β} :
    x >>= f = .ok b ↔ ∃ a, x = .ok a ∧ f a = .ok b := by
  cases x with
  | error e => exact ⟨fun h => (nomatch h), fun ⟨_, h, _⟩ => (nomatch h)⟩
  | ok a => exact ⟨fun h => ⟨a, rfl, h⟩, fun ⟨_, ha, h⟩ => Except.ok.inj ha ▸ h⟩

theorem bind_eq_error {x : Except ε α} {f : α → Except ε β} {e : ε} :
    x >>= f = .error e ↔ x = .error e ∨ ∃ a, x = .ok a ∧ f a = .error e := by
  cases x with
  | error e' =>
      constructor
      · intro h
        exact Or.inl (congrArg Except.error (Except.error.inj h))
      · rintro (h | ⟨a, h, -⟩)
        · exact congrArg Except.error (Except.error.inj h)
        · exact nomatch h
  | ok a =>
      constructor
      · intro h
        exact Or.inr ⟨a, rfl, h⟩
      · rintro (h | ⟨a', ha, h⟩)
        · exact nomatch h
        · exact Except.ok.inj ha ▸ h

/-- Every member of a list is mapped, in order, when mapping the list succeeds. -/
theorem mapM_eq_ok {f : α → Except ε β} {as : List α} {bs : List β} :
    as.mapM f = .ok bs ↔ List.Forall₂ (fun a b => f a = .ok b) as bs := by
  induction as generalizing bs with
  | nil =>
      rw [List.mapM_nil, List.forall₂_nil_left_iff]
      exact ⟨fun h => (Except.ok.inj h).symm, fun h => h ▸ rfl⟩
  | cons a as ih =>
      rw [List.mapM_cons, bind_eq_ok]
      constructor
      · rintro ⟨b, hb, h⟩
        obtain ⟨bs', hbs, h⟩ := bind_eq_ok.mp h
        obtain rfl := Except.ok.inj h
        exact .cons hb (ih.mp hbs)
      · intro h
        cases h with
        | cons hb hbs => exact ⟨_, hb, bind_eq_ok.mpr ⟨_, ih.mpr hbs, rfl⟩⟩

/-- Of two lists that go along with each other, each member of the first has
    one of the second. -/
theorem exists_of_forall₂ {r : α → β → Prop} {as : List α} {bs : List β} (h : List.Forall₂ r as bs)
    {a : α} (ha : a ∈ as) : ∃ b ∈ bs, r a b := by
  induction h with
  | nil => exact nomatch ha
  | cons hb _ ih =>
      rcases List.mem_cons.mp ha with rfl | ha
      · exact ⟨_, List.mem_cons_self, hb⟩
      · obtain ⟨b, hmem, hr⟩ := ih ha
        exact ⟨b, List.mem_cons_of_mem _ hmem, hr⟩

theorem mem_of_mapM_eq_ok {f : α → Except ε β} {as : List α} {bs : List β}
    (h : as.mapM f = .ok bs) (b : β) : b ∈ bs ↔ ∃ a ∈ as, f a = .ok b := by
  have hall := mapM_eq_ok.mp h
  clear h
  induction hall with
  | nil => simp
  | cons hb _ ih => simp [ih, hb, eq_comm]

theorem exists_of_mapM_eq_ok {f : α → Except ε β} {as : List α} {bs : List β}
    (h : as.mapM f = .ok bs) {a : α} (ha : a ∈ as) : ∃ b, f a = .ok b := by
  obtain ⟨b, -, hb⟩ := exists_of_forall₂ (mapM_eq_ok.mp h) ha
  exact ⟨b, hb⟩

theorem mapM_succeeds {f : α → Except ε β} {as : List α} (h : ∀ a ∈ as, ∃ b, f a = .ok b) :
    ∃ bs, as.mapM f = .ok bs := by
  induction as with
  | nil => exact ⟨[], rfl⟩
  | cons a as ih =>
      obtain ⟨b, hb⟩ := h a List.mem_cons_self
      obtain ⟨bs, hbs⟩ := ih fun x hx => h x (List.mem_cons_of_mem a hx)
      exact ⟨b :: bs, mapM_eq_ok.mpr (.cons hb (mapM_eq_ok.mp hbs))⟩

/-- Mapping a list fails as the first of its members does that fails. -/
theorem mapM_eq_error {f : α → Except ε β} {as : List α} {e : ε} :
    as.mapM f = .error e ↔ ∃ a, as.find? (fun x => !(f x).isOk) = some a ∧ f a = .error e := by
  induction as with
  | nil => exact ⟨fun h => (nomatch h), fun ⟨_, h, _⟩ => (nomatch h)⟩
  | cons a as ih =>
      rw [List.mapM_cons, bind_eq_error, List.find?_cons]
      cases hfa : f a with
      | error e' =>
          constructor
          · rintro (h | ⟨b, h, -⟩)
            · exact ⟨a, rfl, hfa.trans h⟩
            · exact nomatch h
          · rintro ⟨a', ha, h⟩
            obtain rfl := Option.some.inj ha
            exact Or.inl (hfa.symm.trans h)
      | ok b =>
          constructor
          · rintro (h | ⟨b', -, h⟩)
            · exact nomatch h
            · rcases bind_eq_error.mp h with h | ⟨bs, -, h⟩
              · exact ih.mp h
              · exact nomatch h
          · intro h
            exact Or.inr ⟨b, rfl, bind_eq_error.mpr (Or.inl (ih.mpr h))⟩

/-- Mapping a list succeeds when every step does, and is then a plain map. -/
theorem mapM_eq_map {f : α → Except ε β} {g : α → β} {as : List α}
    (h : ∀ a ∈ as, f a = .ok (g a)) : as.mapM f = .ok (as.map g) :=
  mapM_eq_ok.mpr (List.forall₂_map_right_iff.mpr (List.forall₂_same.mpr h))

theorem filterAuxM_eq_filter {f : α → Except ε Bool} {g : α → Bool} {as : List α}
    (h : ∀ a ∈ as, f a = .ok (g a)) (acc : List α) :
    List.filterAuxM f as acc = .ok ((as.filter g).reverse ++ acc) := by
  induction as generalizing acc with
  | nil => rfl
  | cons a as ih =>
      have hrest := ih fun x hx => h x (List.mem_cons_of_mem a hx)
      refine bind_eq_ok.mpr ⟨g a, h a List.mem_cons_self, ?_⟩
      cases hg : g a with
      | true =>
          rw [List.filter_cons_of_pos hg, List.reverse_cons, List.append_assoc]
          exact hrest (a :: acc)
      | false =>
          rw [List.filter_cons_of_neg (by simp [hg])]
          exact hrest acc

/-- Filtering a list succeeds when every test does, and is then a plain filter. -/
theorem filterM_eq_filter {f : α → Except ε Bool} {g : α → Bool} {as : List α}
    (h : ∀ a ∈ as, f a = .ok (g a)) : as.filterM f = .ok (as.filter g) := by
  refine bind_eq_ok.mpr ⟨_, filterAuxM_eq_filter h [], ?_⟩
  rw [List.append_nil, List.reverse_reverse]
  rfl

theorem foldlM_cons_eq_ok {f : β → α → Except ε β} {a : α} {as : List α} {b c : β} :
    (a :: as).foldlM f b = .ok c ↔ ∃ b', f b a = .ok b' ∧ as.foldlM f b' = .ok c := by
  rw [List.foldlM_cons]
  exact bind_eq_ok

/-- What every step carries from the work ahead to the work that is left holds
    at the end of a run that succeeds. -/
theorem foldlM_invariant (P : List α → β → Prop) {f : β → α → Except ε β}
    (step : ∀ a rest b c, P (a :: rest) b → f b a = .ok c → P rest c)
    {as : List α} {b c : β} (hb : P as b) (h : as.foldlM f b = .ok c) : P [] c := by
  induction as generalizing b with
  | nil => exact Except.ok.inj h ▸ hb
  | cons a as ih =>
      obtain ⟨b', hstep, hrest⟩ := foldlM_cons_eq_ok.mp h
      exact ih (step a as b b' hb hstep) hrest

/-- A run succeeds when every step does and leaves the next one able to. -/
theorem foldlM_succeeds (P : List α → β → Prop) {f : β → α → Except ε β}
    (step : ∀ a rest b, P (a :: rest) b → ∃ c, f b a = .ok c ∧ P rest c)
    {as : List α} {b : β} (hb : P as b) : ∃ c, as.foldlM f b = .ok c ∧ P [] c := by
  induction as generalizing b with
  | nil => exact ⟨b, rfl, hb⟩
  | cons a as ih =>
      obtain ⟨b', hstep, hb'⟩ := step a as b hb
      obtain ⟨c, hrest, hc⟩ := ih hb'
      exact ⟨c, foldlM_cons_eq_ok.mpr ⟨b', hstep, hrest⟩, hc⟩

end Lineage
