import Lineage.Unicode.Property
import Lineage.Unicode.Script

/-! # Classes of characters

    A class is a predicate on characters, and every way of putting classes
    together is the connective it is named after.  A class also carries an
    estimate of how many stretches of code points it has, because the size of
    a pattern is limited and a class counts by its stretches. -/

namespace Lineage.Pattern

/-- A class of characters. -/
structure CharClass where
  has : Char → Bool
  /-- About how many stretches of code points the class has. -/
  stretches : Nat

namespace CharClass

/-- The class of no character. -/
def empty : CharClass := ⟨fun _ => false, 0⟩

/-- The class of one character. -/
def one (c : Char) : CharClass := ⟨(· == c), 1⟩

/-- The class of the characters between two, both included. -/
def range (low high : Char) : CharClass := ⟨fun c => low ≤ c && c ≤ high, 1⟩

/-- The class of the given characters. -/
def ofList (cs : List Char) : CharClass := ⟨cs.contains, cs.length⟩

/-- The characters of either class. -/
def union (a b : CharClass) : CharClass := ⟨fun c => a.has c || b.has c, a.stretches + b.stretches⟩

/-- The characters of both classes. -/
def inter (a b : CharClass) : CharClass := ⟨fun c => a.has c && b.has c, a.stretches + b.stretches⟩

/-- The characters of the first class that are not of the second. -/
def diff (a b : CharClass) : CharClass := ⟨fun c => a.has c && !b.has c, a.stretches + b.stretches⟩

/-- The characters of exactly one of the classes. -/
def symmDiff (a b : CharClass) : CharClass :=
  ⟨fun c => a.has c != b.has c, a.stretches + b.stretches⟩

/-- The characters that are not of the class. -/
def compl (a : CharClass) : CharClass := ⟨fun c => !a.has c, a.stretches + 1⟩

/-- The characters that agree, case aside, with one of the class. -/
def anyCase (a : CharClass) : CharClass :=
  ⟨fun c => a.has c || (Unicode.caseVariants c).any a.has, 2 * a.stretches⟩

/-- The characters that agree, case of ASCII letters aside, with one of the
    class. -/
def anyAsciiCase (a : CharClass) : CharClass :=
  ⟨fun c => a.has c || a.has c.toLower || a.has c.toUpper, 2 * a.stretches⟩

/-- Decimal digits. -/
def digit : CharClass := ⟨Unicode.hasCategory "nd", 71⟩

/-- White space. -/
def space : CharClass := ⟨Text.isWhite, 10⟩

/-- Characters of words: letters, marks, decimal digits, connectors and the
    joiners. -/
def word : CharClass :=
  ⟨fun c => Unicode.isAlphabetic c ||
      ["mn", "mc", "me", "nd", "pc"].any (Unicode.hasCategory · c) ||
      Unicode.hasProperty "joinc" c,
    796⟩

/-- ASCII decimal digits. -/
def asciiDigit : CharClass := range '0' '9'

/-- ASCII white space. -/
def asciiSpace : CharClass := ofList ['\t', '\n', '\x0b', '\x0c', '\r', ' ']

/-- ASCII letters. -/
def asciiAlpha : CharClass := (range 'A' 'Z').union (range 'a' 'z')

/-- ASCII letters and digits. -/
def asciiAlnum : CharClass := asciiDigit.union asciiAlpha

/-- ASCII letters, digits and the low line. -/
def asciiWord : CharClass := asciiAlnum.union (one '_')

/-- The ASCII classes that have a name between `[:` and `:]`. -/
def asciiNamed : List (String × CharClass) :=
  [("alnum", asciiAlnum),
    ("alpha", asciiAlpha),
    ("ascii", range '\x00' '\x7f'),
    ("blank", ofList ['\t', ' ']),
    ("cntrl", (range '\x00' '\x1f').union (one '\x7f')),
    ("digit", asciiDigit),
    ("graph", range '!' '~'),
    ("lower", range 'a' 'z'),
    ("print", range ' ' '~'),
    ("punct", ((range '!' '/').union (range ':' '@')).union
      ((range '[' '\x60').union (range '\x7b' '~'))),
    ("space", asciiSpace),
    ("upper", range 'A' 'Z'),
    ("word", asciiWord),
    ("xdigit", asciiDigit.union ((range 'A' 'F').union (range 'a' 'f')))]

/-- The name of a property as names are compared: without `is` in front,
    spaces, low lines and hyphens, and in lower case.  Characters beyond ASCII
    do not count. -/
def plainName (name : String) : String :=
  let cs := name.toList
  let hasIs := match cs with
    | a :: b :: _ => a.toLower == 'i' && b.toLower == 's'
    | _ => false
  let kept := ((if hasIs then cs.drop 2 else cs).filter fun c =>
    c.toNat < 0x80 && c != ' ' && c != '_' && c != '-').map Char.toLower
  if hasIs && kept == ['c'] then "isc" else String.ofList kept

/-- About how many stretches a property or a general category has. -/
def broad : Nat := 400

/-- About how many stretches a script has. -/
def narrow : Nat := 40

/-- The class of a property given by name alone: a property that characters
    have or have not, a general category, or a script. -/
def named? (name : String) : Option CharClass :=
  let name := plainName name
  match Unicode.property? name, Unicode.category? name, Unicode.script? name with
  | some has, _, _ => some ⟨has, broad⟩
  | none, some has, _ => some ⟨has, broad⟩
  | none, none, some has => some ⟨has, narrow⟩
  | none, none, none => none

/-- The class of a property given by name and value. -/
def valued? (name value : String) : Option CharClass :=
  let value := plainName value
  match plainName name with
  | "gc" | "generalcategory" => (Unicode.category? value).map (⟨·, broad⟩)
  | "sc" | "script" => (Unicode.script? value).map (⟨·, narrow⟩)
  | "scx" | "scriptextensions" => (Unicode.scriptExtension? value).map (⟨·, narrow⟩)
  | _ => none

end CharClass

end Lineage.Pattern
