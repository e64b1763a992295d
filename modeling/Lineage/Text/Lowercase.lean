import Lineage.Unicode.Property

/-! # Lower case

    Texts are put into lower case character by character, with two rules that
    one character alone does not settle.  The capital I with a dot becomes a
    small i and a combining dot.  The capital sigma has two small forms: the
    final one stands at the end of a word, that is, after a cased character
    and not before one, where case-ignorable characters do not count. -/

namespace Lineage.Text

/-- Whether the first character that is not case-ignorable is cased. -/
def meetsCased (cs : List Char) : Bool :=
  match cs.dropWhile Unicode.isCaseIgnorable with
  | [] => false
  | c :: _ => Unicode.isCased c

/-- The lower case of one character between those before it, nearest first,
    and those after it. -/
def lowerBetween (before : List Char) (c : Char) (after : List Char) : List Char :=
  if c = 'Σ' then
    if meetsCased before && !meetsCased after then ['ς'] else ['σ']
  else if c = '\u0130' then ['i', '\u0307']
  else [Unicode.lower c]

/-- The lower case of some characters; `before` holds those before them,
    nearest first. -/
def lowerChars (before : List Char) : List Char → List Char
  | [] => []
  | c :: cs => lowerBetween before c cs ++ lowerChars (c :: before) cs

/-- The lower case of a text. -/
def lowercase (text : String) : String := String.ofList (lowerChars [] text.toList)

end Lineage.Text
