import Lineage.Json.Printer
import Lineage.Json.Lexer
import Mathlib.Data.List.Chain

/-! # Printed tokens are read back, whatever white space is between them

    A layout of tokens is their print in order, with any white space before,
    between and after them.  Most tokens end by themselves and leave the lexer
    between tokens.  A number does not: after its last digit the lexer is
    still in it, and the next character decides.  `Lexer.Past` says where the
    lexer may stand once some tokens are over, and one lemma each says that it
    gets past white space and past a printed token.  `LaysOut.foldlM_step` is
    the induction over the layout.

    Two words need white space between them.  The tokens of a value have no
    two words in a row, so a layout without any white space is good enough for
    them; that is `tokenize_of_laysOut`. -/

namespace Lineage.Json

open Text

/-! ## What can be written -/

namespace Token

/-- Whether a token is a word. -/
def isWord : Token → Bool
  | word _ => true
  | _ => false

/-- Two tokens that may stand next to each other without white space. -/
def Apart (a b : Token) : Prop := a.isWord = false ∨ b.isWord = false

/-- A token whose print says all of it: a word has to be one, and a size has
    to fit. -/
def Fits : Token → Prop
  | word (.size n) => n < sizeLimit
  | word (.text _) | word (.list _) | word (.record _) => False
  | _ => True

end Token

/-- White space. -/
def IsGap (cs : List Char) : Prop := ∀ c ∈ cs, c = ' ' ∨ c = '\t' ∨ c = '\n' ∨ c = '\r'

/-- The characters are the tokens with white space. -/
inductive LaysOut : List Token → List Char → Prop
  | nil {gap : List Char} : IsGap gap → LaysOut [] gap
  | cons {gap cs : List Char} {t : Token} {ts : List Token} :
      IsGap gap → LaysOut ts cs → LaysOut (t :: ts) (gap ++ (t.print.toList ++ cs))

namespace Lexer

/-! ## Past some tokens -/

/-- The lexer is past the tokens, latest first.  It may still be in the last
    one if that is a number. -/
inductive Past : List Token → Lexer → Prop
  | between (done : List Token) : Past done ⟨.between, done⟩
  | number {n : Numeral} {v : Value} (done : List Token) :
      n.result? = some v → Past (.word v :: done) ⟨.number n, done⟩

/-- Whether a character ends a number that could end. -/
def endsNumber (c : Char) : Bool := !(c.isDigit || c == '.' || c == 'e' || c == 'E')

variable {lx : Lexer} {done : List Token}

theorem next?_of_endsNumber {n : Numeral} {v : Value} {c : Char} (hc : endsNumber c)
    (hn : n.result? = some v) : n.next? c = none := by
  simp only [endsNumber, Bool.not_eq_true', Bool.or_eq_false_iff, beq_eq_false_iff_ne] at hc
  obtain ⟨⟨⟨hdigit, hpoint⟩, he⟩, hE⟩ := hc
  cases n with
  | whole negative n => simp [Numeral.next?, hdigit, hpoint, he, hE]
  | fraction | exponent => simp [Numeral.next?, hdigit, he, hE]
  | minus | point | mark | sign => simp [Numeral.result?] at hn

theorem Past.finish (h : Past done lx) : lx.finish = some done.reverse := by
  cases h with
  | between => rfl
  | number done hn => simp [Lexer.finish, hn]

/-- It does not matter whether the lexer is still in a number once a character
    comes that ends it. -/
theorem Past.step_eq (h : Past done lx) {c : Char} (hc : endsNumber c) :
    lx.step c = start ⟨.between, done⟩ c := by
  cases h with
  | between => rfl
  | number done hn => simp only [step, next?_of_endsNumber hc hn, hn, Option.bind_some, emit]

theorem Past.foldlM_gap {gap : List Char} (hgap : IsGap gap) (h : Past done lx) :
    ∃ lx', gap.foldlM step lx = some lx' ∧ Past done lx' := by
  induction gap generalizing lx with
  | nil => exact ⟨lx, rfl, h⟩
  | cons c gap ih =>
      have hwhite := hgap c (by simp)
      have hc : endsNumber c = true ∧ start ⟨.between, done⟩ c = some ⟨.between, done⟩ := by
        rcases hwhite with rfl | rfl | rfl | rfl <;> exact ⟨rfl, rfl⟩
      rw [List.foldlM_cons, h.step_eq hc.1, hc.2]
      exact ih (fun c' hc' => hgap c' (List.mem_cons_of_mem c hc')) (.between done)

/-! ## Strings -/

theorem hexValue?_hexDigit : ∀ d < 16, hexValue? (hexDigit d) = some d := by decide

theorem ofCode_toNat {c : Char} (hc : c.toNat < 0x20) : Piece.ofCode c.toNat = .char c := by
  have hlow : (decide (0xD800 ≤ c.toNat) && decide (c.toNat < 0xE000)) = false := by
    rw [Bool.and_eq_false_iff]
    exact Or.inl (decide_eq_false (by omega))
  rw [Piece.ofCode, hlow, Char.ofNat_toNat]
  rfl

theorem foldlM_raw {c : Char} (hquote : c ≠ '"') (hbackslash : c ≠ '\\') (hraw : ¬ c.toNat < 0x20)
    (pieces : List Piece) :
    [c].foldlM step ⟨.string pieces .plain, done⟩ =
      some ⟨.string (.char c :: pieces) .plain, done⟩ := by
  simp [step, inString, hquote, hbackslash, hraw]

/-- The code of a control character has two zeros and two more digits. -/
theorem foldlM_code {c : Char} (hc : c.toNat < 0x20) (pieces : List Piece) :
    ['\\', 'u', '0', '0', hexDigit (c.toNat / 16), hexDigit (c.toNat % 16)].foldlM step
        ⟨.string pieces .plain, done⟩ =
      some ⟨.string (.char c :: pieces) .plain, done⟩ := by
  have hzero : hexValue? '0' = some 0 := rfl
  have hhigh : hexValue? (hexDigit (c.toNat / 16)) = some (c.toNat / 16) :=
    hexValue?_hexDigit _ (by omega)
  have hlow : hexValue? (hexDigit (c.toNat % 16)) = some (c.toNat % 16) :=
    hexValue?_hexDigit _ (by omega)
  have hvalue : 16 * (c.toNat / 16) + c.toNat % 16 = c.toNat := by omega
  simp [step, inString, hzero, hhigh, hlow, hvalue, ofCode_toNat hc]

/-- A character that is written is read back as a piece of the string. -/
theorem foldlM_escapedChar (c : Char) (pieces : List Piece) :
    (escapedChar c).foldlM step ⟨.string pieces .plain, done⟩ =
      some ⟨.string (.char c :: pieces) .plain, done⟩ := by
  rw [escapedChar.eq_def]
  split
  -- seven characters have an escape of one letter
  case h_1 | h_2 | h_3 | h_4 | h_5 | h_6 | h_7 => rfl
  case h_8 hquote hbackslash _ _ _ _ _ =>
    split
    · next hcode => exact foldlM_code hcode pieces
    · next hraw => exact foldlM_raw hquote hbackslash hraw pieces

theorem foldlM_flatMap_escapedChar (cs : List Char) (pieces : List Piece) :
    (cs.flatMap escapedChar).foldlM step ⟨.string pieces .plain, done⟩ =
      some ⟨.string ((cs.map Piece.char).reverse ++ pieces) .plain, done⟩ := by
  induction cs generalizing pieces with
  | nil => rfl
  | cons c cs ih =>
      rw [List.flatMap_cons, List.foldlM_append, foldlM_escapedChar]
      refine (ih (.char c :: pieces)).trans ?_
      rw [List.map_cons, List.reverse_cons, List.append_assoc, List.singleton_append]

theorem joinPieces_char (cs : List Char) : joinPieces (cs.map .char) = some cs := by
  induction cs with
  | nil => rfl
  | cons c cs ih => rw [List.map_cons, joinPieces, ih]; rfl

theorem foldlM_quote (s : String) :
    (quote s).toList.foldlM step ⟨.between, done⟩ =
      some ⟨.between, .string (some s) :: done⟩ := by
  have hjoin : (joinPieces ((s.toList.map Piece.char).reverse ++ []).reverse).map String.ofList =
      some s := by
    rw [List.append_nil, List.reverse_reverse, joinPieces_char]
    exact congrArg some String.ofList_toList
  rw [quote, String.toList_ofList, List.cons_append, List.foldlM_cons]
  show (s.toList.flatMap escapedChar ++ ['"']).foldlM step ⟨.string [] .plain, done⟩ = _
  rw [List.foldlM_append, foldlM_flatMap_escapedChar, ← hjoin]
  rfl

/-! ## Numbers -/

theorem isDigit_ofNat : ∀ d < 10, (Char.ofNat (48 + d)).isDigit = true := by decide

theorem start_digit {c : Char} (hc : c.isDigit) :
    start ⟨.between, done⟩ c = some ⟨.number (.whole false (digitValue c)), done⟩ := by
  unfold start
  split
  all_goals first | (exact absurd hc (by decide)) | skip
  rw [if_pos hc]

/-- No leading zero is in the way of the last digit. -/
theorem foldlM_digits (n : Nat) :
    (digits n).foldlM step ⟨.between, done⟩ = some ⟨.number (.whole false n), done⟩ := by
  induction n using digits.induct with
  | case1 n hn =>
      rw [digits, if_pos hn, List.foldlM_cons]
      show (start _ _).bind _ = _
      rw [start_digit (isDigit_ofNat n hn), digitValue_ofNat hn]
      rfl
  | case2 n hn ih =>
      have hlast : n % 10 < 10 := Nat.mod_lt n (by omega)
      have hrest : n / 10 ≠ 0 := by omega
      have hvalue : 10 * (n / 10) + n % 10 = n := by omega
      rw [digits, if_neg hn, List.foldlM_append, ih]
      simp [step, Numeral.next?, isDigit_ofNat _ hlast, hrest, digitValue_ofNat hlast, hvalue]

/-! ## Tokens -/

/-- From between tokens, the lexer gets past a printed token. -/
theorem foldlM_print {t : Token} (ht : t.Fits) (done : List Token) :
    ∃ lx, t.print.toList.foldlM step ⟨.between, done⟩ = some lx ∧ Past (t :: done) lx := by
  cases t with
  | openList | closeList | openRecord | closeRecord | comma | colon =>
      exact ⟨_, rfl, .between _⟩
  | string s =>
      cases s with
      | none => exact ⟨_, rfl, .between _⟩
      | some s => exact ⟨_, foldlM_quote s, .between _⟩
  | word v =>
      cases v with
      | null => exact ⟨_, rfl, .between _⟩
      | bool b => cases b <;> exact ⟨_, rfl, .between _⟩
      | unread => exact ⟨_, rfl, .number _ rfl⟩
      | size n =>
          have hresult : (Numeral.whole false n).result? = some (.size n) :=
            congrArg some (if_pos ht)
          refine ⟨_, ?_, .number done hresult⟩
          rw [Token.print, wordText, String.toList_ofList, foldlM_digits]
      | text | list | record => exact ht.elim

theorem print_of_not_isWord {t : Token} (ht : t.isWord = false) :
    ∃ c cs, t.print.toList = c :: cs ∧ endsNumber c := by
  cases t with
  | openList | closeList | openRecord | closeRecord | comma | colon => exact ⟨_, _, rfl, rfl⟩
  | string s =>
      cases s with
      | none => exact ⟨_, _, rfl, rfl⟩
      | some s => exact ⟨_, _, by rw [Token.print, quote, String.toList_ofList]; rfl, rfl⟩
  | word v => exact absurd ht (by simp [Token.isWord])

/-- The lexer gets past one more token, unless that is a word and comes right
    after another one. -/
theorem Past.foldlM_print {t : Token} (ht : t.Fits) (hlast : ∀ last ∈ done.head?, last.Apart t)
    (h : Past done lx) :
    ∃ lx', t.print.toList.foldlM step lx = some lx' ∧ Past (t :: done) lx' := by
  have hbetween := Lexer.foldlM_print ht done
  cases h with
  | between => exact hbetween
  | @number n v done hn =>
      have hword : t.isWord = false := (hlast (.word v) rfl).resolve_left Bool.noConfusion
      obtain ⟨c, cs, hprint, hc⟩ := print_of_not_isWord hword
      rw [hprint, List.foldlM_cons] at hbetween ⊢
      rw [(Past.number done hn).step_eq hc]
      exact hbetween

end Lexer

/-! ## Layouts -/

/-- The lexer gets past a layout. -/
theorem LaysOut.foldlM_step {ts : List Token} {cs : List Char} (h : LaysOut ts cs)
    (hfits : ∀ t ∈ ts, t.Fits) {lx : Lexer} {done : List Token} (hlx : lx.Past done)
    (hapart : (done.head?.toList ++ ts).IsChain Token.Apart) :
    ∃ lx', cs.foldlM Lexer.step lx = some lx' ∧ lx'.Past (ts.reverse ++ done) := by
  induction h generalizing lx done with
  | nil hgap => exact hlx.foldlM_gap hgap
  | @cons gap cs t ts hgap _ ih =>
      have hlast : ∀ last ∈ done.head?, last.Apart t := by
        intro last hlast
        rw [Option.mem_def.mp hlast] at hapart
        exact (List.isChain_cons_cons.mp hapart).1
      obtain ⟨lx₁, hrun₁, hlx₁⟩ := hlx.foldlM_gap hgap
      obtain ⟨lx₂, hrun₂, hlx₂⟩ := hlx₁.foldlM_print (hfits t (by simp)) hlast
      obtain ⟨lx₃, hrun₃, hlx₃⟩ := ih (fun t' ht' => hfits t' (List.mem_cons_of_mem t ht')) hlx₂
        (hapart.right_of_append)
      refine ⟨lx₃, ?_, ?_⟩
      · rw [List.foldlM_append, hrun₁, Option.bind_eq_bind, Option.bind_some, List.foldlM_append,
          hrun₂]
        exact hrun₃
      · rw [List.reverse_cons, List.append_assoc]
        exact hlx₃

/-- A layout of tokens without two words in a row is cut into these tokens. -/
theorem tokenize_of_laysOut {ts : List Token} {text : String} (h : LaysOut ts text.toList)
    (hfits : ∀ t ∈ ts, t.Fits) (hapart : ts.IsChain Token.Apart) : tokenize text = some ts := by
  obtain ⟨lx, hrun, hlx⟩ := h.foldlM_step hfits (.between []) hapart
  rw [tokenize, hrun, Option.bind_some, hlx.finish, List.append_nil, List.reverse_reverse]

theorem isGap_nil : IsGap [] := List.forall_mem_nil _

theorem laysOut_compact (ts : List Token) : LaysOut ts (compact ts).toList := by
  rw [compact, String.toList_join]
  induction ts with
  | nil => exact .nil isGap_nil
  | cons t ts ih =>
      rw [List.map_cons, List.flatMap_cons]
      exact .cons isGap_nil ih

theorem isGap_freshLine (depth : Nat) : IsGap (freshLine depth).toList := by
  intro c hc
  rw [freshLine, String.toList_ofList, List.mem_cons] at hc
  rcases hc with rfl | hc
  · simp
  · exact Or.inl (List.eq_of_mem_replicate hc)

theorem isGap_gap (depth : Nat) (before after : Token) : IsGap (gap depth before after).toList := by
  unfold gap
  split
  · exact isGap_nil
  split
  · exact isGap_freshLine depth
  split
  · exact isGap_freshLine depth
  · simp [IsGap]
  · exact isGap_nil

theorem laysOut_prettyAfter (depth : Nat) (before : Token) (ts : List Token) :
    LaysOut ts (prettyAfter depth before ts).toList := by
  induction ts generalizing depth before with
  | nil => exact .nil isGap_nil
  | cons t ts ih =>
      rw [prettyAfter, String.toList_append, String.toList_append, List.append_assoc]
      exact .cons (isGap_gap _ _ _) (ih _ _)

theorem laysOut_pretty (ts : List Token) : LaysOut ts (pretty ts).toList := by
  cases ts with
  | nil => exact .nil isGap_nil
  | cons t ts =>
      rw [pretty, String.toList_append]
      exact .cons isGap_nil (laysOut_prettyAfter 0 t ts)

end Lineage.Json
