import Lineage.Pattern.Regex
import Lineage.Text.Digits

/-! # Reading pieces of a pattern

    The text of a pattern is read from the front; every reader gives what it
    read together with the rest.  In a verbose pattern, white space and
    comments between pieces do not count. -/

namespace Lineage.Pattern

/-- What the letters in `(?…)` turn on and off. -/
structure Flags where
  ignoreCase : Bool := false
  multiLine : Bool := false
  dotAll : Bool := false
  swapGreed : Bool := false
  unicode : Bool := true
  crlf : Bool := false
  verbose : Bool := false
  deriving DecidableEq, Repr

/-- The rest of a pattern. -/
abbrev Rest := List Char

/-- Drops white space and comments, which go from `#` to the end of the line. -/
def dropSpace (inComment : Bool) : Rest → Rest
  | [] => []
  | c :: cs =>
      if inComment then dropSpace (c != '\n') cs
      else if c = '#' then dropSpace true cs
      else if Text.isWhite c then dropSpace false cs
      else c :: cs

namespace Flags

/-- Drops what does not count. -/
def skip (f : Flags) (cs : Rest) : Rest := if f.verbose then dropSpace false cs else cs

/-- The character after the current one that counts. -/
def peek (f : Flags) (cs : Rest) : Option Char := (f.skip cs.tail).head?

end Flags

/-- What a backslash and what follows it stand for. -/
inductive Primitive where
  /-- A character; `byte` if it was given as a byte of two digits. -/
  | literal (c : Char) (byte : Bool)
  /-- A class of the digits, spaces or characters of words. -/
  | short (kind : Char) (negated : Bool)
  /-- A class given by the name of a property. -/
  | property (cls : CharClass) (negated : Bool)
  | look (kind : Bool → Look)

/-- The character of a code point, unless it is none. -/
def charOf? (n : Nat) : Option Char := if n.isValidChar then some (Char.ofNat n) else none

/-- Reads so many hexadecimal digits. -/
def readDigits (f : Flags) : (count value : Nat) → Rest → Option (Nat × Rest)
  | 0, value, cs => some (value, cs)
  | count + 1, value, cs =>
      match cs with
      | [] => none
      | c :: cs => do readDigits f count (16 * value + (← Text.hexValue? c)) (f.skip cs)

/-- Reads the characters up to a closing brace; the fuel is their number. -/
def readBraced (f : Flags) : (fuel : Nat) → Rest → Option (List Char × Rest)
  | 0, _ => none
  | fuel + 1, cs =>
      match f.skip cs with
      | [] => none
      | '\x7d' :: cs => some ([], cs)
      | c :: cs => (readBraced f fuel cs).map fun (body, cs) => (c :: body, cs)

/-- Reads a character given by its code point: so many digits, or any number of
    them between braces. -/
def readCode (f : Flags) (count : Nat) (cs : Rest) : Option (Primitive × Rest) :=
  match f.skip cs with
  | [] => none
  | '\x7b' :: cs => do
      let (body, cs) ← readBraced f (cs.length + 1) cs
      if body.isEmpty || body.any fun c => (Text.hexValue? c).isNone then none
      else return (.literal (← charOf? (Text.ofHex body)) false, f.skip cs)
  | cs => do
      let (n, cs) ← readDigits f count 0 cs
      return (.literal (← charOf? n) (count = 2), cs)

/-- Cuts a text at the first place where the mark stands. -/
def cutAt (mark : List Char) : List Char → Option (List Char × List Char)
  | [] => none
  | c :: cs =>
      if mark.isPrefixOf (c :: cs) then some ([], (c :: cs).drop mark.length)
      else (cutAt mark cs).map fun (before, after) => (c :: before, after)

/-- The class of a property as it stands between braces. -/
def propertyOf (body : List Char) : Option CharClass :=
  let cut := (cutAt ['!', '='] body).or ((cutAt [':'] body).or (cutAt ['='] body))
  match cut with
  | some (name, value) => CharClass.valued? (String.ofList name) (String.ofList value)
  | none => CharClass.named? (String.ofList body)

/-- Reads the name of a property: one letter, or anything between braces. -/
def readProperty (f : Flags) (negated : Bool) (cs : Rest) : Option (Primitive × Rest) :=
  match f.skip cs with
  | [] => none
  | '\x7b' :: cs => do
      let (body, cs) ← readBraced f (cs.length + 1) cs
      return (.property (← propertyOf body) negated, cs)
  | c :: cs =>
      if c = '\\' then none
      else do return (.property (← CharClass.named? (String.singleton c)) negated, cs)

/-- The names of the edges of words. -/
def edgeNames : List (String × (Bool → Look)) :=
  [("start", .wordStart), ("end", .wordStop), ("start-half", .afterNoWord),
    ("end-half", .beforeNoWord)]

/-- Reads the name of an edge of words between braces.  Where no letter or
    hyphen follows the brace, the brace belongs to something else, and the
    edge is any. -/
def readEdge (f : Flags) (cs : Rest) : Option (Primitive × Rest) :=
  match cs with
  | '\x7b' :: inner => do
      let inner := f.skip inner
      let isName (c : Char) : Bool := c.isAlpha || c == '-'
      if !(← inner.head?.map isName) then return (.look .edge, cs)
      else
        let (body, cs) ← readBraced f (inner.length + 1) inner
        if body.all isName then
          return (.look (← edgeNames.lookup (String.ofList body)), cs)
        else none
  | _ => some (.look .edge, cs)

/-- Reads what follows a backslash. -/
def readEscape (f : Flags) : Rest → Option (Primitive × Rest)
  | [] => none
  | 'x' :: cs => readCode f 2 cs
  | 'u' :: cs => readCode f 4 cs
  | 'U' :: cs => readCode f 8 cs
  | 'p' :: cs => readProperty f false cs
  | 'P' :: cs => readProperty f true cs
  | 'b' :: cs => readEdge f cs
  | c :: cs =>
      match c with
      | 'd' | 's' | 'w' => some (.short c false, cs)
      | 'D' | 'S' | 'W' => some (.short c.toLower true, cs)
      | 'a' => some (.literal '\x07' false, cs)
      | 'f' => some (.literal '\x0c' false, cs)
      | 't' => some (.literal '\t' false, cs)
      | 'n' => some (.literal '\n' false, cs)
      | 'r' => some (.literal '\r' false, cs)
      | 'v' => some (.literal '\x0b' false, cs)
      | 'A' => some (.look fun _ => .start, cs)
      | 'z' => some (.look fun _ => .stop, cs)
      | 'B' => some (.look .noEdge, cs)
      | '<' => some (.look .wordStart, cs)
      | '>' => some (.look .wordStop, cs)
      | c => if c.toNat < 0x80 && !c.isAlphanum then some (.literal c false, cs) else none

/-- Reads a decimal number, white space around it left out.  Numbers of 2^32
    and more are refused. -/
def readDecimal (f : Flags) (cs : Rest) : Option (Nat × Rest) :=
  let rec digits : Nat → Rest → List Char × Rest
    | 0, cs => ([], cs)
    | fuel + 1, cs =>
        match cs with
        | c :: rest =>
            if c.isDigit then
              let (ds, rest) := digits fuel (f.skip rest)
              (c :: ds, rest)
            else ([], cs)
        | [] => ([], [])
  let (ds, rest) := digits cs.length (cs.dropWhile Text.isWhite)
  let n := Text.ofDigits ds
  if ds.isEmpty || n ≥ 0x100000000 then none
  else some (n, f.skip (rest.dropWhile Text.isWhite))

namespace Flags

/-- A class with the flags applied: case first, then negation.  Without
    Unicode a negated class would have bytes that are no characters. -/
def finish (f : Flags) (negated : Bool) (cls : CharClass) : Option CharClass :=
  let cls :=
    if !f.ignoreCase then cls else if f.unicode then cls.anyCase else cls.anyAsciiCase
  if negated then if f.unicode then some cls.compl else none else some cls

/-- The class of the digits, spaces or characters of words. -/
def shortClass (f : Flags) (kind : Char) (negated : Bool) : Option CharClass :=
  let cls := match kind, f.unicode with
    | 'd', true => CharClass.digit
    | 'd', false => CharClass.asciiDigit
    | 's', true => CharClass.space
    | 's', false => CharClass.asciiSpace
    | _, true => CharClass.word
    | _, false => CharClass.asciiWord
  if negated then if f.unicode then some cls.compl else none else some cls

/-- The class of a property, which only Unicode has. -/
def propertyClass (f : Flags) (cls : CharClass) (negated : Bool) : Option CharClass :=
  if f.unicode then f.finish negated cls else none

/-- Whether a character may stand where the flags ask for bytes. -/
def allowsLiteral (f : Flags) (c : Char) (byte : Bool) : Bool :=
  f.unicode || !byte || c.toNat < 0x80

end Flags

end Lineage.Pattern
