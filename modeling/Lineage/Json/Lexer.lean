import Lineage.Json.Value
import Lineage.Text.Digits

/-! # From characters to tokens

    A JSON text is cut into tokens by a machine that takes one character at a
    time.  Its mode says what the current token has been so far.  A number has
    no end of its own, so the character that does not continue it ends it and
    is then looked at afresh. -/

namespace Lineage.Json

/-- A part of a string: a character, or half of a surrogate pair. -/
inductive Piece where
  | char (c : Char)
  | half (n : Nat)
  deriving Repr, DecidableEq

/-- What the last characters of a string were. -/
inductive Escape where
  /-- Not part of an escape. -/
  | plain
  /-- A backslash. -/
  | started
  /-- A backslash, a `u`, and so many of four digits with that value. -/
  | digits (count value : Nat)
  deriving Repr, DecidableEq

/-- How far a number has come. -/
inductive Numeral where
  /-- A minus. -/
  | minus
  /-- A whole number; a leading zero is all of it. -/
  | whole (negative : Bool) (n : Nat)
  /-- A point. -/
  | point
  /-- Digits after the point. -/
  | fraction
  /-- The mark of an exponent. -/
  | mark
  /-- The sign of the exponent. -/
  | sign
  /-- Digits of the exponent. -/
  | exponent
  deriving Repr, DecidableEq

/-- What the current token has been so far. -/
inductive Mode where
  | between
  /-- A word, the letters it still needs, and what it then stands for. -/
  | letters (rest : List Char) (result : Value)
  | number (numeral : Numeral)
  /-- A string with its pieces, latest first. -/
  | string (pieces : List Piece) (escape : Escape)

/-- The machine: its mode and the finished tokens, latest first. -/
structure Lexer where
  mode : Mode := .between
  tokens : List Token := []

/-- Joins the pieces of a string; `none` if half of a pair is left alone. -/
def joinPieces : List Piece → Option (List Char)
  | [] => some []
  | .char c :: ps => (joinPieces ps).map (c :: ·)
  | .half high :: .half low :: ps =>
      if high < 0xDC00 && 0xDC00 ≤ low then
        (joinPieces ps).map
          (Char.ofNat (0x10000 + (high - 0xD800) * 0x400 + (low - 0xDC00)) :: ·)
      else none
  | .half _ :: _ => none

/-- The piece that four hexadecimal digits stand for. -/
def Piece.ofCode (n : Nat) : Piece :=
  if 0xD800 ≤ n && n < 0xE000 then .half n else .char (Char.ofNat n)

/-- The character that a letter after a backslash stands for. -/
def escapedBy? : Char → Option Char
  | '"' => some '"'
  | '\\' => some '\\'
  | '/' => some '/'
  | 'b' => some '\x08'
  | 'f' => some '\x0c'
  | 'n' => some '\n'
  | 'r' => some '\r'
  | 't' => some '\t'
  | _ => none

namespace Numeral

/-- The number with one more character; `none` if that does not continue it. -/
def next? (c : Char) : Numeral → Option Numeral
  | minus => if c.isDigit then some (whole true (Text.digitValue c)) else none
  | whole negative n =>
      if c.isDigit then
        if n = 0 then none else some (whole negative (10 * n + Text.digitValue c))
      else if c = '.' then some point
      else if c = 'e' || c = 'E' then some mark
      else none
  | point => if c.isDigit then some fraction else none
  | fraction =>
      if c.isDigit then some fraction
      else if c = 'e' || c = 'E' then some mark
      else none
  | mark =>
      if c = '+' || c = '-' then some sign
      else if c.isDigit then some exponent
      else none
  | sign => if c.isDigit then some exponent else none
  | exponent => if c.isDigit then some exponent else none

/-- What the number stands for; `none` if it cannot end here. -/
def result? : Numeral → Option Value
  | whole false n => some (if n < Text.sizeLimit then .size n else .unread)
  | whole true _ | fraction | exponent => some .unread
  | minus | point | mark | sign => none

end Numeral

namespace Lexer

/-- Finishes a token. -/
def emit (lx : Lexer) (t : Token) : Lexer := ⟨.between, t :: lx.tokens⟩

/-- Takes a character between tokens. -/
def start (lx : Lexer) (c : Char) : Option Lexer :=
  match c with
  | ' ' | '\t' | '\n' | '\r' => some { lx with mode := .between }
  | '[' => some (lx.emit .openList)
  | ']' => some (lx.emit .closeList)
  | '{' => some (lx.emit .openRecord)
  | '}' => some (lx.emit .closeRecord)
  | ',' => some (lx.emit .comma)
  | ':' => some (lx.emit .colon)
  | '"' => some { lx with mode := .string [] .plain }
  | 'n' => some { lx with mode := .letters ['u', 'l', 'l'] .null }
  | 't' => some { lx with mode := .letters ['r', 'u', 'e'] (.bool true) }
  | 'f' => some { lx with mode := .letters ['a', 'l', 's', 'e'] (.bool false) }
  | '-' => some { lx with mode := .number .minus }
  | c =>
    if c.isDigit then some { lx with mode := .number (.whole false (Text.digitValue c)) }
    else none

/-- Takes a character of a string. -/
def inString (lx : Lexer) (pieces : List Piece) (c : Char) : Escape → Option Lexer
  | .plain =>
      if c = '"' then some (lx.emit (.string ((joinPieces pieces.reverse).map String.ofList)))
      else if c = '\\' then some { lx with mode := .string pieces .started }
      else if c.toNat < 0x20 then none
      else some { lx with mode := .string (.char c :: pieces) .plain }
  | .started =>
      if c = 'u' then some { lx with mode := .string pieces (.digits 0 0) }
      else (escapedBy? c).map fun d => { lx with mode := .string (.char d :: pieces) .plain }
  | .digits count value =>
      (Text.hexValue? c).map fun d =>
        let value := 16 * value + d
        if count = 3 then { lx with mode := .string (Piece.ofCode value :: pieces) .plain }
        else { lx with mode := .string pieces (.digits (count + 1) value) }

/-- Takes a character. -/
def step (lx : Lexer) (c : Char) : Option Lexer :=
  match lx.mode with
  | .between => lx.start c
  | .letters [] _ => none
  | .letters (d :: ds) v =>
      if c = d then
        match ds with
        | [] => some (lx.emit (.word v))
        | _ => some { lx with mode := .letters ds v }
      else none
  | .number n =>
      match n.next? c with
      | some n => some { lx with mode := .number n }
      | none => n.result?.bind fun v => (lx.emit (.word v)).start c
  | .string pieces escape => lx.inString pieces c escape

/-- The tokens, if the text can end here. -/
def finish (lx : Lexer) : Option (List Token) :=
  match lx.mode with
  | .between => some lx.tokens.reverse
  | .number n => n.result?.map fun v => (Token.word v :: lx.tokens).reverse
  | _ => none

end Lexer

/-- The tokens of a JSON text. -/
def tokenize (text : String) : Option (List Token) :=
  (text.toList.foldlM Lexer.step {}).bind Lexer.finish

end Lineage.Json
