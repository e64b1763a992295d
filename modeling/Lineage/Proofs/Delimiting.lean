import Lineage.Proofs.Quoting

/-! # Quoted text ends by itself

    Toward: `escaping_is_lossless`, which says that a text between quotes is
    read back whole and without a look at what follows it.  The reader is said
    in words of its own, with no mention of how texts are escaped:

    * `escapes` tells whether the last character of a text is a backslash that
      escapes the next one; a text may stand between quotes (`Enclosed`) when
      each quote in it is escaped so and the quote behind it is not;
    * `decode` resolves the escapes of such a text;
    * `scan` finds that text and decodes it on the way (`scan_eq_some`), so what
      is known of `scan` on escaped texts says where those end and what they
      stand for (`reads_iff`). -/

namespace Lineage.Dot

/-! ## Where a quoted text ends -/

/-- Whether a text ends in a backslash that escapes what follows it, and is not
    escaped itself. -/
def escapes (text : List Char) : Bool := text.foldl (fun escaping c => !escaping && c == '\\') false

/-- A text that may stand between quotes: the quotes in it are escaped, and the
    quote behind it is the first that is not. -/
structure Enclosed (body : List Char) : Prop where
  inner : ∀ front back, body = front ++ '"' :: back → escapes front = true
  outer : escapes body = false

theorem escapes_cons {c : Char} (h : c ≠ '\\') (text : List Char) :
    escapes (c :: text) = escapes text := by
  rw [escapes, List.foldl_cons, beq_eq_false_iff_ne.mpr h]
  rfl

theorem escapes_pair (c : Char) (text : List Char) :
    escapes ('\\' :: c :: text) = escapes text := rfl

theorem enclosed_nil : Enclosed [] where
  inner := fun front back h => by simp at h
  outer := rfl

/-- After a backslash any character may stand. -/
theorem enclosed_pair {c : Char} {body : List Char} :
    Enclosed ('\\' :: c :: body) ↔ Enclosed body := by
  constructor
  · intro h
    refine ⟨fun front back hbody => ?_, (escapes_pair c body).symm.trans h.outer⟩
    rw [← escapes_pair c]
    exact h.inner ('\\' :: c :: front) back (by rw [hbody]; rfl)
  · intro h
    refine ⟨fun front back hbody => ?_, (escapes_pair c body).trans h.outer⟩
    match front with
    | [] => exact absurd (List.cons.inj hbody).1 (by decide)
    | [d] =>
        obtain rfl := (List.cons.inj hbody).1
        rfl
    | d :: e :: front =>
        obtain ⟨rfl, hafter⟩ := List.cons.inj hbody
        obtain ⟨rfl, htail⟩ := List.cons.inj hafter
        rw [escapes_pair]
        exact h.inner front back htail

/-- A quote may not stand by itself, and what is neither a quote nor a
    backslash may stand anywhere. -/
theorem enclosed_cons {c : Char} (hbackslash : c ≠ '\\') {body : List Char} :
    Enclosed (c :: body) ↔ c ≠ '"' ∧ Enclosed body := by
  constructor
  · intro h
    refine ⟨?_, fun front back hbody => ?_, (escapes_cons hbackslash body).symm.trans h.outer⟩
    · rintro rfl
      exact Bool.noConfusion (h.inner [] body rfl)
    · rw [← escapes_cons hbackslash]
      exact h.inner (c :: front) back (by rw [hbody]; rfl)
  · rintro ⟨hquote, h⟩
    refine ⟨fun front back hbody => ?_, (escapes_cons hbackslash body).trans h.outer⟩
    cases front with
    | nil => exact absurd (List.cons.inj hbody).1 hquote
    | cons d front =>
        obtain ⟨rfl, htail⟩ := List.cons.inj hbody
        rw [escapes_cons hbackslash]
        exact h.inner front back htail

/-! ## What a quoted text says -/

/-- What a character stands for after a backslash. -/
def unescape : Char → Option Char
  | '\\' => some '\\'
  | '"' => some '"'
  | 'n' => some '\n'
  | _ => none

/-- The text that stands between quotes, with its escapes resolved. -/
def decode : List Char → Option (List Char)
  | [] => some []
  | ['\\'] => none
  | '\\' :: c :: body => do return (← unescape c) :: (← decode body)
  | c :: body => (decode body).map (c :: ·)

theorem scan_pair (c : Char) (cs : List Char) :
    scan ('\\' :: c :: cs) =
      (unescape c).bind fun d => (scan cs).map fun (text, rest) => (d :: text, rest) := by
  by_cases hbackslash : c = '\\'
  · subst hbackslash
    rfl
  by_cases hquote : c = '"'
  · subst hquote
    rfl
  by_cases hn : c = 'n'
  · subst hn
    rfl
  rw [scan, unescape]
  · rfl
  all_goals simp_all

/-- The last case of `decode` is that of the other characters. -/
theorem ne_backslash {c : Char} {cs : List Char} (hlone : c = '\\' → cs = [] → False)
    (hpair : ∀ d ds, c = '\\' → cs = d :: ds → False) : c ≠ '\\' := by
  rintro rfl
  cases cs with
  | nil => exact hlone rfl rfl
  | cons d ds => exact hpair d ds rfl rfl

/-- A text that may stand between quotes is read up to the quote behind it. -/
theorem scan_enclosed {body : List Char} (h : Enclosed body) (rest : List Char) :
    scan (body ++ '"' :: rest) = (decode body).map (·, rest) := by
  induction body using decode.induct with
  | case1 => rfl
  | case2 => exact Bool.noConfusion h.outer
  | case3 c body ih =>
      rw [List.cons_append, List.cons_append, scan_pair, ih (enclosed_pair.mp h), decode]
      cases unescape c with
      | none => rfl
      | some d => cases decode body <;> rfl
  | case4 c body hlone hpair ih =>
      have hbackslash := ne_backslash hlone hpair
      obtain ⟨hquote, h⟩ := (enclosed_cons hbackslash).mp h
      rw [List.cons_append, scan_plain hbackslash hquote, ih h, decode]
      · cases decode body <;> rfl
      all_goals assumption

/-- Reading ends behind a text that may stand between quotes. -/
theorem enclosed_of_scan {cs text rest : List Char} (h : scan cs = some (text, rest)) :
    ∃ body, cs = body ++ '"' :: rest ∧ Enclosed body := by
  induction cs using decode.induct generalizing text rest with
  | case1 => exact nomatch h
  | case2 => exact nomatch h
  | case3 c cs ih =>
      rw [scan_pair] at h
      obtain ⟨d, -, h⟩ := Option.bind_eq_some_iff.mp h
      obtain ⟨⟨tail, rest'⟩, hscan, heq⟩ := Option.map_eq_some_iff.mp h
      obtain ⟨-, rfl⟩ := Prod.mk.inj heq
      obtain ⟨body, rfl, hbody⟩ := ih hscan
      exact ⟨'\\' :: c :: body, rfl, enclosed_pair.mpr hbody⟩
  | case4 c cs hlone hpair ih =>
      have hbackslash := ne_backslash hlone hpair
      by_cases hquote : c = '"'
      · subst hquote
        obtain ⟨-, rfl⟩ := Prod.mk.inj (Option.some.inj h)
        exact ⟨[], rfl, enclosed_nil⟩
      · rw [scan_plain hbackslash hquote] at h
        obtain ⟨⟨tail, rest'⟩, hscan, heq⟩ := Option.map_eq_some_iff.mp h
        obtain ⟨-, rfl⟩ := Prod.mk.inj heq
        obtain ⟨body, rfl, hbody⟩ := ih hscan
        exact ⟨c :: body, rfl, (enclosed_cons hbackslash).mpr ⟨hquote, hbody⟩⟩

/-- Reading ends at the first quote that is not escaped, and gives what the text
    before it stands for. -/
theorem scan_eq_some {cs text rest : List Char} : scan cs = some (text, rest) ↔
    ∃ body, cs = body ++ '"' :: rest ∧ Enclosed body ∧ decode body = some text := by
  have read : ∀ body, Enclosed body →
      (scan (body ++ '"' :: rest) = some (text, rest) ↔ decode body = some text) := by
    intro body hbody
    rw [scan_enclosed hbody]
    cases decode body <;> simp
  constructor
  · intro h
    obtain ⟨body, rfl, hbody⟩ := enclosed_of_scan h
    exact ⟨body, rfl, hbody, (read body hbody).mp h⟩
  · rintro ⟨body, rfl, hbody, hdecode⟩
    exact (read body hbody).mpr hdecode

/-! ## Reading a quoted text -/

/-- A quoted text that says `text` starts `input`, and `rest` follows: between the
    quotes no other quote is free, and what stands there stands for `text`. -/
def Reads (input text rest : String) : Prop :=
  ∃ body, input.toList = '"' :: (body ++ '"' :: rest.toList) ∧ Enclosed body ∧
    decode body = some text.toList

theorem readQuoted_eq_some {cs rest : List Char} {text : String} :
    readQuoted cs = some (text, rest) ↔
      ∃ tail, cs = '"' :: tail ∧ scan tail = some (text.toList, rest) := by
  constructor
  · intro h
    rw [readQuoted.eq_def] at h
    split at h
    · next tail =>
        obtain ⟨⟨chars, rest'⟩, hscan, heq⟩ := Option.map_eq_some_iff.mp h
        obtain ⟨rfl, rfl⟩ := Prod.mk.inj heq
        exact ⟨tail, rfl, by rw [String.toList_ofList]; exact hscan⟩
    · exact nomatch h
  · rintro ⟨tail, rfl, hscan⟩
    rw [readQuoted, hscan]
    exact congrArg (fun text => some (text, rest)) String.ofList_toList

/-- The reader of quoted texts reads just those. -/
theorem reads_iff {input text rest : String} :
    Reads input text rest ↔ readQuoted input.toList = some (text, rest.toList) := by
  rw [readQuoted_eq_some]
  constructor
  · rintro ⟨body, hinput, hbody, hdecode⟩
    exact ⟨_, hinput, scan_eq_some.mpr ⟨body, rfl, hbody, hdecode⟩⟩
  · rintro ⟨tail, hinput, hscan⟩
    obtain ⟨body, rfl, hbody, hdecode⟩ := scan_eq_some.mp hscan
    exact ⟨body, hinput, hbody, hdecode⟩

/-- **Escaping loses nothing and needs no look ahead.**  Whatever follows a
    quoted text, exactly the text is read back and exactly what follows is left;
    it stays on one line; and escaping goes character by character, though it
    is done in three passes. -/
theorem escaping_is_lossless (s : String) :
    (∀ rest text after, Reads ("\"" ++ escape s ++ "\"" ++ rest) text after ↔
      text = s ∧ after = rest) ∧
    '\n' ∉ (escape s).toList ∧
    (escape s).toList = s.toList.flatMap escapeChar ∧
    ∀ t, escape (s ++ t) = escape s ++ escape t := by
  refine ⟨fun rest text after => ?_, ?_, ?_, fun t => ?_⟩
  · have hread : readQuoted ("\"" ++ escape s ++ "\"" ++ rest).toList = some (s, rest.toList) := by
      rw [String.toList_append]
      exact readQuoted_quoted s rest.toList
    rw [reads_iff, hread, Option.some_inj, Prod.mk.injEq, String.toList_inj]
    exact ⟨fun h => ⟨h.1.symm, h.2.symm⟩, fun h => ⟨h.1.symm, h.2.symm⟩⟩
  · rw [escape, String.toList_ofList]
    exact lineBreak_not_mem_escapeChars s.toList
  · rw [escape, String.toList_ofList, escapeChars_eq]
  · rw [escape, String.toList_append, escapeChars_append, String.ofList_append]
    rfl

end Lineage.Dot
