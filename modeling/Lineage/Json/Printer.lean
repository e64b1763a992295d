import Lineage.Json.Value
import Lineage.Text.Digits

/-! # Writing JSON

    A text is written raw but for quotes, backslashes and control characters.
    `compact` writes tokens without any white space.  `pretty` starts a new
    line for every item and field, indented by two spaces for each list and
    record around it, and keeps empty ones on one line. -/

namespace Lineage.Json

/-- A character as it stands in a string. -/
def escapedChar (c : Char) : List Char :=
  match c with
  | '"' => ['\\', '"']
  | '\\' => ['\\', '\\']
  | '\x08' => ['\\', 'b']
  | '\x0c' => ['\\', 'f']
  | '\n' => ['\\', 'n']
  | '\r' => ['\\', 'r']
  | '\t' => ['\\', 't']
  | c =>
      if c.toNat < 0x20 then
        ['\\', 'u', '0', '0', Text.hexDigit (c.toNat / 16), Text.hexDigit (c.toNat % 16)]
      else [c]

/-- A text as a string. -/
def quote (s : String) : String := String.ofList ('"' :: s.toList.flatMap escapedChar ++ ['"'])

/-- The text of a value of one word.  What is never read is written as the
    shortest number that is no size. -/
def wordText : Value → String
  | .null => "null"
  | .bool true => "true"
  | .bool false => "false"
  | .size n => String.ofList (Text.digits n)
  | _ => "-0"

namespace Token

/-- The text of a token. -/
def print : Token → String
  | openList => "["
  | closeList => "]"
  | openRecord => "\x7b"
  | closeRecord => "\x7d"
  | comma => ","
  | colon => ":"
  | string (some s) => quote s
  | string none => "\"\\ud800\""
  | word v => wordText v

/-- Whether a token starts a list or a record. -/
def opens : Token → Bool
  | openList | openRecord => true
  | _ => false

/-- Whether a token ends a list or a record. -/
def closes : Token → Bool
  | closeList | closeRecord => true
  | _ => false

end Token

/-- Tokens without white space. -/
def compact (ts : List Token) : String := String.join (ts.map Token.print)

/-- The start of a new line at a depth. -/
def freshLine (depth : Nat) : String := String.ofList ('\n' :: List.replicate (2 * depth) ' ')

/-- The white space between two tokens, the second one standing at `depth`. -/
def gap (depth : Nat) (before after : Token) : String :=
  if before.opens && after.closes then ""
  else if before.opens || after.closes then freshLine depth
  else
    match before with
    | .comma => freshLine depth
    | .colon => " "
    | _ => ""

/-- The tokens after `before`, which stands at `depth`, with white space. -/
def prettyAfter (depth : Nat) (before : Token) : List Token → String
  | [] => ""
  | t :: ts =>
      let depth := if before.opens then depth + 1 else depth
      let depth := if t.closes then depth - 1 else depth
      gap depth before t ++ t.print ++ prettyAfter depth t ts

/-- Tokens with items and fields on lines of their own. -/
def pretty : List Token → String
  | [] => ""
  | t :: ts => t.print ++ prettyAfter 0 t ts

end Lineage.Json
