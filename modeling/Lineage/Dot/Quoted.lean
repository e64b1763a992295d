/-! # Quoted text in DOT

    Ids and labels stand between double quotes.  `escape` makes any text fit
    there: a backslash and a quote get a backslash in front, a line break is
    written as a backslash and an `n`.  `scan` reads such a text back, up to
    the first quote that no backslash escapes.

    The three replacements run one after the other, backslashes first, so that
    no replacement touches what another one has written. -/

namespace Lineage.Dot

/-- Puts the characters of `by'` in place of every `c`. -/
def replaceChar (c : Char) (by' : List Char) (text : List Char) : List Char :=
  text.flatMap fun d => if d = c then by' else [d]

/-- The characters of a text as they stand between quotes. -/
def escapeChars (text : List Char) : List Char :=
  replaceChar '\n' ['\\', 'n'] (replaceChar '"' ['\\', '"'] (replaceChar '\\' ['\\', '\\'] text))

/-- A text as it stands between quotes. -/
def escape (text : String) : String := String.ofList (escapeChars text.toList)

/-- A text between quotes. -/
def quoted (text : String) : String := "\"" ++ escape text ++ "\""

/-- Reads escaped text up to the quote that ends it, and gives the text and
    what follows the quote. -/
def scan : List Char → Option (List Char × List Char)
  | [] => none
  | '"' :: rest => some ([], rest)
  | '\\' :: '\\' :: rest => (scan rest).map fun (text, rest) => ('\\' :: text, rest)
  | '\\' :: '"' :: rest => (scan rest).map fun (text, rest) => ('"' :: text, rest)
  | '\\' :: 'n' :: rest => (scan rest).map fun (text, rest) => ('\n' :: text, rest)
  | c :: rest => if c = '\\' then none else (scan rest).map fun (text, rest) => (c :: text, rest)

end Lineage.Dot
