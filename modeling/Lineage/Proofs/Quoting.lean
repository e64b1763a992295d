import Lineage.Dot.Quoted
import Mathlib.Data.List.Basic

/-! # Quoted text can be read back

    The three replacements of `escapeChars` run one after the other; together
    they put each character in place by itself (`escapeChars_eq`).  So `scan`
    can be followed one character at a time (`scan_escapeChar`): no character
    of the text ends the quoted form, and the quote after it does
    (`scan_escapeChars`).  No line break is left either, so quoted text stays
    on its line. -/

namespace Lineage.Dot

/-- A character as it stands between quotes. -/
def escapeChar (c : Char) : List Char :=
  if c = '\\' then ['\\', '\\']
  else if c = '"' then ['\\', '"']
  else if c = '\n' then ['\\', 'n']
  else [c]

/-- The later replacements do not touch what an earlier one wrote. -/
theorem escapeChars_singleton (c : Char) : escapeChars [c] = escapeChar c := by
  rw [escapeChar]
  by_cases hbackslash : c = '\\'
  · subst hbackslash
    rfl
  by_cases hquote : c = '"'
  · subst hquote
    rfl
  by_cases hbreak : c = '\n'
  · subst hbreak
    rfl
  simp [escapeChars, replaceChar, hbackslash, hquote, hbreak]

theorem escapeChars_append (a b : List Char) :
    escapeChars (a ++ b) = escapeChars a ++ escapeChars b := by
  simp only [escapeChars, replaceChar, List.flatMap_append]

/-- Three replacements come to one substitution. -/
theorem escapeChars_eq (text : List Char) : escapeChars text = text.flatMap escapeChar := by
  induction text with
  | nil => rfl
  | cons c text ih =>
      rw [← List.singleton_append, escapeChars_append, escapeChars_singleton, ih,
        List.singleton_append, List.flatMap_cons]

/-- What is neither a backslash nor a quote stands for itself. -/
theorem scan_plain {c : Char} (hbackslash : c ≠ '\\') (hquote : c ≠ '"') (rest : List Char) :
    scan (c :: rest) = (scan rest).map fun (text, rest) => (c :: text, rest) := by
  rw [scan]
  · rw [if_neg hbackslash]
  all_goals
    intros
    contradiction

/-- A character that is written is read back, and reading goes on after it. -/
theorem scan_escapeChar (c : Char) (rest : List Char) :
    scan (escapeChar c ++ rest) = (scan rest).map fun (text, rest) => (c :: text, rest) := by
  rw [escapeChar]
  by_cases hbackslash : c = '\\'
  · subst hbackslash
    rfl
  by_cases hquote : c = '"'
  · subst hquote
    rfl
  by_cases hbreak : c = '\n'
  · subst hbreak
    rfl
  rw [if_neg hbackslash, if_neg hquote, if_neg hbreak, List.singleton_append,
    scan_plain hbackslash hquote]

theorem scan_escapeChars (text rest : List Char) :
    scan (escapeChars text ++ '"' :: rest) = some (text, rest) := by
  rw [escapeChars_eq]
  induction text with
  | nil => rfl
  | cons c text ih =>
      rw [List.flatMap_cons, List.append_assoc, scan_escapeChar, ih]
      rfl

theorem lineBreak_not_mem_escapeChar (c : Char) : '\n' ∉ escapeChar c := by
  rw [escapeChar]
  by_cases hbreak : c = '\n'
  · subst hbreak
    decide
  split
  · decide
  split
  · decide
  · simp [Ne.symm hbreak]

theorem lineBreak_not_mem_escapeChars (text : List Char) : '\n' ∉ escapeChars text := by
  rw [escapeChars_eq, List.mem_flatMap]
  rintro ⟨c, -, hc⟩
  exact lineBreak_not_mem_escapeChar c hc

/-! ## Between quotes -/

theorem toList_quoted (text : String) :
    (quoted text).toList = '"' :: (escapeChars text.toList ++ ['"']) := by
  simp [quoted, escape]

theorem lineBreak_not_mem_quoted (text : String) : '\n' ∉ (quoted text).toList := by
  have h := lineBreak_not_mem_escapeChars text.toList
  rw [toList_quoted]
  simp [h]

/-- Reads a quoted text, and gives the text and what follows it. -/
def readQuoted : List Char → Option (String × List Char)
  | '"' :: cs => (scan cs).map fun (text, rest) => (String.ofList text, rest)
  | _ => none

/-- A quoted text is read back from the front of whatever follows it. -/
theorem readQuoted_quoted (text : String) (rest : List Char) :
    readQuoted ((quoted text).toList ++ rest) = some (text, rest) := by
  rw [toList_quoted, List.cons_append, List.append_assoc, List.singleton_append, readQuoted,
    scan_escapeChars]
  exact congrArg (fun s => some (s, rest)) String.ofList_toList

end Lineage.Dot
