import Lineage.Text.Digits

/-! # Sets and shifts of code points, written as text

    Properties of characters are listed as stretches of code points, in
    hexadecimal:

    * `41` is one code point,
    * `41-5A` is every code point from the first to the last,
    * `100-12E/2` is every second one.

    A stretch of a mapping also says by how much it moves its code points: up
    after `^`, down after `_`. -/

namespace Lineage.Unicode

/-- Every `stride`-th code point from `first` to `last`. -/
structure Stretch where
  first : Nat
  last : Nat
  stride : Nat
  deriving DecidableEq, Repr

/-- Whether a code point lies on the stretch. -/
def Stretch.has (s : Stretch) (n : Nat) : Bool :=
  s.first ≤ n && n ≤ s.last && (n - s.first) % s.stride == 0

/-- The digits at the start of a text, as a number, and the rest. -/
def readHex (text : List Char) : Nat × List Char :=
  (Text.ofHex (text.takeWhile Char.isAlphanum), text.dropWhile Char.isAlphanum)

/-- Reads a stretch, and gives what follows it. -/
def Stretch.read (text : List Char) : Stretch × List Char :=
  let (first, rest) := readHex text
  match rest with
  | '-' :: rest =>
      let (last, rest) := readHex rest
      match rest with
      | '/' :: rest => let (stride, rest) := readHex rest; (⟨first, last, stride⟩, rest)
      | _ => (⟨first, last, 1⟩, rest)
  | _ => (⟨first, first, 1⟩, rest)

/-- Stretches of code points. -/
abbrev CodeSet := List Stretch

/-- The words of a text, cut at spaces and line breaks. -/
def words (text : String) : List (List Char) := (go text.toList []).filter (!·.isEmpty)
where
  /-- `word` holds the current word, last character first. -/
  go : List Char → List Char → List (List Char)
    | [], word => [word.reverse]
    | c :: cs, word =>
        if c = ' ' || c = '\n' then word.reverse :: go cs [] else go cs (c :: word)

/-- Reads a set of code points. -/
def CodeSet.ofText (text : String) : CodeSet :=
  (words text).map fun word => (Stretch.read word).1

/-- Whether a set has a character. -/
def CodeSet.contains (s : CodeSet) (c : Char) : Bool := s.any (·.has c.toNat)

/-- A stretch of code points that a mapping moves, all by the same amount. -/
structure Shift where
  stretch : Stretch
  amount : Int
  deriving DecidableEq, Repr

namespace Shift

/-- Reads one shift. -/
def read (text : List Char) : Shift :=
  let (stretch, rest) := Stretch.read text
  match rest with
  | '^' :: rest => ⟨stretch, (readHex rest).1⟩
  | '_' :: rest => ⟨stretch, -((readHex rest).1 : Int)⟩
  | _ => ⟨stretch, 0⟩

/-- Reads the shifts of a mapping. -/
def ofText (text : String) : List Shift := (words text).map read

/-- Where a mapping moves a character. -/
def apply (shifts : List Shift) (c : Char) : Char :=
  match shifts.find? (·.stretch.has c.toNat) with
  | some s => Char.ofNat (c.toNat + s.amount).toNat
  | none => c

/-- The character that a shift moves to the given one. -/
def preimage? (s : Shift) (c : Char) : Option Char :=
  let source := ((c.toNat : Int) - s.amount).toNat
  if s.stretch.has source then some (Char.ofNat source) else none

end Shift

end Lineage.Unicode
