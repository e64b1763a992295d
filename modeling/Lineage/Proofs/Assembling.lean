import Lineage.Json.Reader
import Lineage.Proofs.Adjoin
import Lineage.Proofs.Lexing

/-! # A value is put together again from its tokens

    The reader keeps a stack of frames, and the tokens of a value never look
    below the frame they started on: from `value around` they lead to
    `after v around`, whatever `around` is.  That is one induction over the
    value, with a statement for each of the ways `Value.tokens` walks through
    lists and records.

    The reader also refuses two words in a row.  So no value has two in a row
    among its tokens, and a layout of them is cut into just these tokens.
    Together, every layout of a value is parsed to the value
    (`parse_of_laysOut`), the two of the printer included. -/

namespace Lineage.Json

open Value

namespace Reader

/-! ## The way through a value -/

/-- A record whose keys are all whole is a record. -/
theorem recordOf_some (fields : List (String × Value)) :
    recordOf (fields.map fun f => (some f.1, f.2)) = .record fields := by
  have hkeys : (fields.map fun f => (some f.1, f.2)).mapM
      (fun f => f.1.map fun key => (key, f.2)) = some fields :=
    mapM_map_eq_some fun _ _ => rfl
  rw [recordOf]
  simp only [hkeys]

/-- Where a first item may start, any value may; the list around it is begun. -/
theorem foldlM_firstItem (v : Value) (ts : List Token) (around : List Frame) :
    (v.tokens ++ ts).foldlM step (.firstItem around) =
      (v.tokens ++ ts).foldlM step (.value (.list [] :: around)) := by
  cases v with
  | null | bool | size | text | list | record | unread =>
      simp only [tokens]
      rfl

mutual

theorem foldlM_tokens : (v : Value) → (around : List Frame) →
    v.tokens.foldlM step (.value around) = some (.after v around)
  | .null, _ | .bool _, _ | .size _, _ | .text _, _ | .unread, _ => by
      simp only [tokens]
      rfl
  | .list items, around => by
      rw [tokens]
      exact foldlM_itemTokens items around
  | .record fields, around => by
      rw [tokens]
      exact foldlM_fieldTokens fields around

theorem foldlM_itemTokens : (items : List Value) → (around : List Frame) →
    (itemTokens items).foldlM step (.firstItem around) = some (.after (.list items) around)
  | [], _ => by
      rw [itemTokens]
      rfl
  | v :: items, around => by
      rw [itemTokens, foldlM_firstItem, List.foldlM_append, foldlM_tokens v]
      exact foldlM_moreItemTokens items v [] around

theorem foldlM_moreItemTokens : (items : List Value) → (v : Value) → (done : List Value) →
    (around : List Frame) →
    (moreItemTokens items).foldlM step (.after v (.list done :: around)) =
      some (.after (.list ((v :: done).reverse ++ items)) around)
  | [], v, done, around => by
      rw [moreItemTokens, List.append_nil]
      rfl
  | w :: items, v, done, around => by
      have hw : (w.tokens ++ moreItemTokens items).foldlM step
          (.value (.list (v :: done) :: around)) =
          some (.after (.list ((w :: v :: done).reverse ++ items)) around) := by
        rw [List.foldlM_append, foldlM_tokens w]
        exact foldlM_moreItemTokens items w (v :: done) around
      rw [List.reverse_cons, List.append_assoc] at hw
      rw [moreItemTokens]
      exact hw

theorem foldlM_fieldTokens : (fields : List (String × Value)) → (around : List Frame) →
    (fieldTokens fields).foldlM step (.firstKey around) = some (.after (.record fields) around)
  | [], _ => by
      rw [fieldTokens]
      rfl
  | (key, v) :: fields, around => by
      have hv : (v.tokens ++ moreFieldTokens fields).foldlM step
          (.value (.record [] (some key) :: around)) =
          some (.after (.record ((key, v) :: fields)) around) := by
        rw [List.foldlM_append, foldlM_tokens v]
        exact foldlM_moreFieldTokens fields key v [] around
      rw [fieldTokens]
      exact hv

/-- The fields that are done come latest first. -/
theorem foldlM_moreFieldTokens : (fields : List (String × Value)) → (key : String) →
    (v : Value) → (done : List (String × Value)) → (around : List Frame) →
    (moreFieldTokens fields).foldlM step
        (.after v (.record (done.map fun f => (some f.1, f.2)) (some key) :: around)) =
      some (.after (.record (((key, v) :: done).reverse ++ fields)) around)
  | [], key, v, done, around => by
      rw [moreFieldTokens, List.append_nil, ← recordOf_some, List.map_reverse]
      rfl
  | (next, w) :: fields, key, v, done, around => by
      have hw : (w.tokens ++ moreFieldTokens fields).foldlM step
          (.value (.record (((key, v) :: done).map fun f => (some f.1, f.2)) (some next) ::
            around)) =
          some (.after (.record (((next, w) :: (key, v) :: done).reverse ++ fields)) around) := by
        rw [List.foldlM_append, foldlM_tokens w]
        exact foldlM_moreFieldTokens fields next w ((key, v) :: done) around
      rw [List.reverse_cons, List.append_assoc] at hw
      rw [moreFieldTokens]
      exact hw

end

end Reader

/-- A value is put together again from its tokens. -/
theorem assemble_tokens (v : Value) : assemble v.tokens = some v := by
  rw [assemble, Reader.foldlM_tokens]
  rfl

/-! ## No two words in a row -/

namespace Reader

/-- Nothing but a comma or an end may follow a word. -/
theorem apart_of_step {r r' r'' : Reader} {a b : Token} (ha : r.step a = some r')
    (hb : r'.step b = some r'') : a.Apart b := by
  cases a with
  | word v =>
      right
      have hr' : ∃ around, r' = .after v around := by
        cases r <;> simp [step, begin] at ha <;> exact ⟨_, ha.symm⟩
      obtain ⟨around, rfl⟩ := hr'
      cases b with
      | word w => simp [step] at hb
      | _ => rfl
  | _ => exact Or.inl rfl

theorem isChain_of_foldlM {ts : List Token} {r r' : Reader} (h : ts.foldlM step r = some r') :
    ts.IsChain Token.Apart := by
  induction ts generalizing r with
  | nil => exact .nil
  | cons a ts ih =>
      rw [List.foldlM_cons] at h
      obtain ⟨r₁, ha, h⟩ := Option.bind_eq_some_iff.mp h
      cases ts with
      | nil => exact .singleton a
      | cons b ts =>
          refine .cons_cons ?_ (ih h)
          rw [List.foldlM_cons] at h
          obtain ⟨r₂, hb, -⟩ := Option.bind_eq_some_iff.mp h
          exact apart_of_step ha hb

end Reader

/-! ## Every layout of a value -/

namespace Value

/-- A value that JSON text can say: its sizes fit. -/
def Fits (v : Value) : Prop := ∀ t ∈ v.tokens, t.Fits

@[simp] theorem fits_null : Fits .null := by simp [Fits, tokens, Token.Fits]

@[simp] theorem fits_bool (b : Bool) : Fits (.bool b) := by simp [Fits, tokens, Token.Fits]

@[simp] theorem fits_text (s : String) : Fits (.text s) := by simp [Fits, tokens, Token.Fits]

@[simp] theorem fits_size (n : Nat) : Fits (.size n) ↔ n < Text.sizeLimit := by
  simp [Fits, tokens, Token.Fits]

theorem fits_moreItemTokens {items : List Value} (h : ∀ v ∈ items, v.Fits) :
    ∀ t ∈ moreItemTokens items, t.Fits := by
  induction items with
  | nil => simp [moreItemTokens, Token.Fits]
  | cons v items ih =>
      rw [moreItemTokens, List.forall_mem_append, List.forall_mem_cons]
      exact ⟨⟨trivial, h v (by simp)⟩, ih fun w hw => h w (List.mem_cons_of_mem v hw)⟩

theorem fits_list {items : List Value} (h : ∀ v ∈ items, v.Fits) : Fits (.list items) := by
  rw [Fits, tokens, List.forall_mem_cons]
  refine ⟨trivial, ?_⟩
  cases items with
  | nil => simp [itemTokens, Token.Fits]
  | cons v items =>
      rw [itemTokens, List.forall_mem_append]
      exact ⟨h v (by simp), fits_moreItemTokens fun w hw => h w (List.mem_cons_of_mem v hw)⟩

theorem fits_moreFieldTokens {fields : List (String × Value)} (h : ∀ f ∈ fields, f.2.Fits) :
    ∀ t ∈ moreFieldTokens fields, t.Fits := by
  induction fields with
  | nil => simp [moreFieldTokens, Token.Fits]
  | cons f fields ih =>
      rw [moreFieldTokens, List.forall_mem_append]
      simp only [List.forall_mem_cons]
      exact ⟨⟨trivial, trivial, trivial, h f (by simp)⟩,
        ih fun g hg => h g (List.mem_cons_of_mem f hg)⟩

theorem fits_record {fields : List (String × Value)} (h : ∀ f ∈ fields, f.2.Fits) :
    Fits (.record fields) := by
  rw [Fits, tokens, List.forall_mem_cons]
  refine ⟨trivial, ?_⟩
  cases fields with
  | nil => simp [fieldTokens, Token.Fits]
  | cons f fields =>
      rw [fieldTokens, List.forall_mem_append]
      simp only [List.forall_mem_cons]
      exact ⟨⟨trivial, trivial, h f (by simp)⟩,
        fits_moreFieldTokens fun g hg => h g (List.mem_cons_of_mem f hg)⟩

end Value

/-- A value is parsed from its tokens with any white space between them. -/
theorem parse_of_laysOut {v : Value} {text : String} (hv : v.Fits)
    (h : LaysOut v.tokens text.toList) : parse text = some v := by
  have hapart : v.tokens.IsChain Token.Apart :=
    Reader.isChain_of_foldlM (Reader.foldlM_tokens v [])
  rw [parse, tokenize_of_laysOut h hv hapart]
  exact assemble_tokens v

end Lineage.Json
