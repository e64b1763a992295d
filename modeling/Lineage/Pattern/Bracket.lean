import Lineage.Pattern.Cursor

/-! # Classes between brackets

    A class between brackets lists characters, ranges and other classes.
    Classes nest, and `&&`, `--` and `~~` combine what stands to the left with
    what follows up to the next such sign or the closing bracket.

    The reader keeps a stack of the brackets and signs that are still open.
    Every step takes at least one character, so the length of the pattern is
    fuel enough. -/

namespace Lineage.Pattern

/-- A class under construction, with how deep its parts nest. -/
structure ClassPart where
  cls : CharClass
  depth : Nat

/-- The items of a bracket so far. -/
structure Items where
  cls : CharClass := .empty
  count : Nat := 0
  depth : Nat := 0

namespace Items

/-- The items with one more. -/
def add (items : Items) (part : ClassPart) : Items :=
  ⟨items.cls.union part.cls, items.count + 1, max items.depth part.depth⟩

/-- The items as one part; several count as a level of their own. -/
def part (items : Items) : ClassPart :=
  ⟨items.cls, if items.count ≥ 2 then items.depth + 1 else items.depth⟩

end Items

/-- How two classes are combined. -/
inductive SetSign where
  | inter
  | diff
  | symmDiff
  deriving DecidableEq, Repr

/-- What is still open, innermost first. -/
inductive OpenSet where
  /-- A bracket, with the items before it in the bracket around it. -/
  | bracket (before : Items) (negated : Bool)
  /-- A sign, with what stands to its left. -/
  | sign (sign : SetSign) (left : ClassPart)

namespace Flags

/-- A class without regard to case, if the flags say so. -/
def folded (f : Flags) (cls : CharClass) : CharClass := (f.finish false cls).getD cls

/-- Combines two classes. -/
def combine (f : Flags) (sign : SetSign) (a b : ClassPart) : ClassPart :=
  let left := f.folded a.cls
  let right := f.folded b.cls
  ⟨match sign with
    | .inter => left.inter right
    | .diff => left.diff right
    | .symmDiff => left.symmDiff right,
    max a.depth b.depth + 1⟩

/-- Applies the sign that is open innermost, if one is. -/
def applySign (f : Flags) (right : ClassPart) : List OpenSet → ClassPart × List OpenSet
  | .sign sign left :: rest => (f.combine sign left right, rest)
  | stack => (right, stack)

end Flags

/-- Reads an opening bracket: whether it negates, and the items that may only
    stand first, which are hyphens or one closing bracket. -/
def readOpening (f : Flags) (cs : Rest) : Option (Bool × Items × Rest) := do
  let cs := f.skip cs
  let (negated, cs) := match cs with
    | '^' :: cs => (true, f.skip cs)
    | _ => (false, cs)
  let (items, cs) := hyphens cs.length {} cs
  match cs with
  | [] => none
  | ']' :: rest =>
      if items.count = 0 then
        let rest := f.skip rest
        if rest.isEmpty then none else some (negated, items.add ⟨.one ']', 0⟩, rest)
      else some (negated, items, cs)
  | _ => some (negated, items, cs)
where
  /-- Takes hyphens as characters. -/
  hyphens : Nat → Items → Rest → Items × Rest
    | 0, items, cs => (items, cs)
    | fuel + 1, items, cs =>
        match cs with
        | '-' :: cs => hyphens fuel (items.add ⟨.one '-', 0⟩) (f.skip cs)
        | cs => (items, cs)

/-- Reads a class such as `[:alpha:]`, after its first bracket. -/
def readAsciiClass (f : Flags) (cs : Rest) : Option (Option CharClass × Rest) :=
  match cs with
  | ':' :: cs =>
      let (negated, cs) := match cs with
        | '^' :: cs => (true, cs)
        | _ => (false, cs)
      match cs.dropWhile (· != ':') with
      | ':' :: ']' :: rest =>
          (CharClass.asciiNamed.lookup (String.ofList (cs.takeWhile (· != ':')))).map
            fun cls => (f.finish negated cls, rest)
      | _ => none
  | _ => none

/-- Reads one item: a character, or what a backslash stands for. -/
def readItem (f : Flags) : Rest → Option (Primitive × Rest)
  | [] => none
  | '\\' :: cs => readEscape f cs
  | c :: cs => some (.literal c false, cs)

/-- The character of an item at an end of a range.  Without Unicode it has to
    be ASCII. -/
def rangeEnd? (f : Flags) : Primitive → Option Char
  | .literal c _ => if f.unicode || c.toNat < 0x80 then some c else none
  | _ => none

/-- The class of an item; a condition on positions is none. -/
def itemClass? (f : Flags) : Primitive → Option CharClass
  | .short kind negated => f.shortClass kind negated
  | .property cls negated => f.propertyClass cls negated
  | .look _ => none
  | item => (rangeEnd? f item).map .one

/-- Reads an item or a range. -/
def readRange (f : Flags) (cs : Rest) : Option (CharClass × Rest) := do
  let (first, cs) ← readItem f cs
  let cs := f.skip cs
  let isRange := match cs with
    | '-' :: _ => f.peek cs != some ']' && f.peek cs != some '-'
    | _ => false
  if cs.isEmpty then none
  else if isRange then
    let (last, cs) ← readItem f (f.skip cs.tail)
    let low ← rangeEnd? f first
    let high ← rangeEnd? f last
    if low ≤ high then some (.range low high, cs) else none
  else
    return (← itemClass? f first, cs)

/-- Reads a class up to its closing bracket. -/
def readItems (f : Flags) : (fuel : Nat) → Items → List OpenSet → Rest → Option (ClassPart × Rest)
  | 0, _, _, _ => none
  | fuel + 1, items, stack, cs =>
      match f.skip cs with
      | [] => none
      | '[' :: cs =>
          match readAsciiClass f cs with
          | some (cls?, cs) => do readItems f fuel (items.add ⟨← cls?, 0⟩) stack cs
          | none => do
              let (negated, first, cs) ← readOpening f cs
              readItems f fuel first (.bracket items negated :: stack) cs
      | ']' :: cs =>
          match f.applySign items.part stack with
          | (whole, .bracket before negated :: stack) => do
              let part : ClassPart := ⟨← f.finish negated whole.cls, whole.depth + 1⟩
              if stack.isEmpty then some (part, cs)
              else readItems f fuel (before.add part) stack cs
          | _ => none
      | '&' :: '&' :: cs => sign fuel .inter items stack cs
      | '-' :: '-' :: cs => sign fuel .diff items stack cs
      | '~' :: '~' :: cs => sign fuel .symmDiff items stack cs
      | cs => do
          let (cls, cs) ← readRange f cs
          readItems f fuel (items.add ⟨cls, 0⟩) stack cs
where
  /-- Takes a sign, after which new items start. -/
  sign (fuel : Nat) (s : SetSign) (items : Items) (stack : List OpenSet) (cs : Rest) :
      Option (ClassPart × Rest) :=
    let (left, stack) := f.applySign items.part stack
    readItems f fuel {} (.sign s left :: stack) cs

/-- Reads a class between brackets, after its opening bracket. -/
def readClass (f : Flags) (cs : Rest) : Option (ClassPart × Rest) := do
  let (negated, items, cs) ← readOpening f cs
  readItems f (cs.length + 1) items [.bracket {} negated] cs

end Lineage.Pattern
