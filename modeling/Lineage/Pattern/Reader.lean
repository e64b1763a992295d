import Lineage.Pattern.Bracket

/-! # Reading patterns

    A pattern is read from left to right with a stack of the groups that are
    open.  Flags hold from where they are set to the end of the group, across
    its alternatives.

    Every step takes at least one character, so the length of the pattern is
    fuel enough. -/

namespace Lineage.Pattern

/-- A part of a pattern. -/
structure Part where
  regex : Regex
  /-- How many levels its parts nest. -/
  depth : Nat := 0
  /-- Whether a repetition may follow; it may not after bare flags. -/
  repeatable : Bool := true

/-- A group under construction. -/
structure Group where
  /-- The flags outside of the group. -/
  outer : Flags
  /-- Whether the group remembers where it matched. -/
  captures : Bool
  /-- Finished alternatives, latest first. -/
  branches : List Part := []
  /-- The parts of the current alternative, latest first. -/
  parts : List Part := []

/-- The reader's state: the flags, the open groups with the innermost first,
    and the names of groups. -/
structure Reading where
  flags : Flags := {}
  group : Group := ⟨{}, false, [], []⟩
  around : List Group := []
  names : List (List Char) := []

/-- Several parts as one, a level of their own; one part stays as it is. -/
def joinParts (join : Regex → Regex → Regex) : List Part → Part
  | [] => ⟨.empty, 0, true⟩
  | [p] => p
  | p :: ps =>
      ⟨ps.foldl (fun r q => join q.regex r) p.regex, (ps.foldl (max · ·.depth) p.depth) + 1, true⟩

namespace Group

/-- The current alternative, finished. -/
def branch (g : Group) : Part := joinParts .seq g.parts

/-- The group as one part. -/
def whole (g : Group) : Part := joinParts .alt (g.branch :: g.branches)

end Group

namespace Reading

/-- Adds a part to the current alternative. -/
def push (s : Reading) (p : Part) : Reading :=
  { s with group := { s.group with parts := p :: s.group.parts } }

/-- Adds an expression to the current alternative. -/
def pushRegex (s : Reading) (r : Regex) : Reading := s.push ⟨r, 0, true⟩

/-- Starts another alternative. -/
def nextBranch (s : Reading) : Reading :=
  { s with
    group := { s.group with branches := s.group.branch :: s.group.branches, parts := [] } }

/-- Opens a group. -/
def openGroup (s : Reading) (inner : Flags) (captures : Bool) : Reading :=
  { s with flags := inner, group := ⟨s.flags, captures, [], []⟩, around := s.group :: s.around }

/-- Closes the innermost group. -/
def closeGroup (s : Reading) : Option Reading :=
  match s.around with
  | [] => none
  | outer :: around =>
      let whole := s.group.whole
      let regex := if s.group.captures then .group whole.regex else whole.regex
      some <| push { s with flags := s.group.outer, group := outer, around }
        ⟨regex, whole.depth + 1, true⟩

/-- Repeats the last part. -/
def repeatLast (s : Reading) (min : Nat) (max : Option Nat) : Option Reading :=
  match s.group.parts with
  | p :: ps =>
      if p.repeatable then
        some { s with
          group := { s.group with parts := ⟨.times p.regex min max, p.depth + 1, true⟩ :: ps } }
      else none
  | [] => none

end Reading

/-- Turns the flag of a letter on or off. -/
def setFlag (f : Flags) (c : Char) (on : Bool) : Option Flags :=
  match c with
  | 'i' => some { f with ignoreCase := on }
  | 'm' => some { f with multiLine := on }
  | 's' => some { f with dotAll := on }
  | 'U' => some { f with swapGreed := on }
  | 'u' => some { f with unicode := on }
  | 'R' => some { f with crlf := on }
  | 'x' => some { f with verbose := on }
  | _ => none

/-- Reads flags up to a colon or a closing parenthesis, which is given first.
    No letter comes twice, and a hyphen, of which there is at most one, stands
    before a letter.  `seen` holds what came before. -/
def readFlags (f : Flags) (seen : List Char) : Rest → Option (Char × Flags × Rest)
  | [] => none
  | c :: cs =>
      if c = ':' || c = ')' then
        if seen.head? = some '-' then none else some (c, f, cs)
      else if seen.contains c then none
      else if c = '-' then readFlags f (c :: seen) cs
      else do readFlags (← setFlag f c (!seen.contains '-')) (c :: seen) cs

/-- Whether a character may stand in the name of a group. -/
def isNameChar (first : Bool) (c : Char) : Bool :=
  c == '_' || Unicode.isAlphabetic c ||
    (!first && (c == '.' || c == '[' || c == ']' ||
      ["nd", "nl", "no"].any (Unicode.hasCategory · c)))

/-- Reads the name of a group up to its closing angle bracket. -/
def readName (cs : Rest) : Option (List Char × Rest) :=
  match cs.takeWhile (· != '>'), cs.dropWhile (· != '>') with
  | c :: name, _ :: rest =>
      if isNameChar true c && name.all (isNameChar false) then some (c :: name, rest) else none
  | _, _ => none

/-- Reads what follows an opening parenthesis. -/
def readGroup (s : Reading) (cs : Rest) : Option (Reading × Rest) :=
  match s.flags.skip cs with
  | '?' :: '=' :: _ | '?' :: '!' :: _ | '?' :: '<' :: '=' :: _ | '?' :: '<' :: '!' :: _ => none
  | '?' :: 'P' :: '<' :: cs | '?' :: '<' :: cs => do
      let (name, cs) ← readName cs
      if s.names.contains name then none
      else some ({ s.openGroup s.flags true with names := name :: s.names }, cs)
  | '?' :: cs => do
      let (mark, flags, rest) ← readFlags s.flags [] cs
      if mark = ':' then some (s.openGroup flags false, rest)
      else if cs.head? = some ')' then none
      else some ({ s with flags }.push ⟨.empty, 0, false⟩, rest)
  | cs => some (s.openGroup s.flags true, cs)

/-- Reads the bounds of a repetition after the opening brace. -/
def readBounds (f : Flags) (cs : Rest) : Option (Nat × Option Nat × Rest) := do
  let (min, cs) ← readDecimal f (f.skip cs)
  match cs with
  | '\x7d' :: cs => some (min, some min, cs)
  | ',' :: cs =>
      match f.skip cs with
      | '\x7d' :: cs => some (min, none, cs)
      | cs => do
          let (max, cs) ← readDecimal f cs
          match cs with
          | '\x7d' :: cs => if min ≤ max then some (min, some max, cs) else none
          | _ => none
  | _ => none

/-- Drops the sign that makes a repetition lazy. -/
def dropLazy : Rest → Rest
  | '?' :: cs => cs
  | cs => cs

/-- The condition that a character of a pattern stands for. -/
def Flags.lineLook (f : Flags) (c : Char) : Look :=
  match c, f.multiLine with
  | '^', true => .lineStart f.crlf
  | '^', false => .start
  | _, true => .lineStop f.crlf
  | _, false => .stop

/-- The class of the dot, which only Unicode has. -/
def Flags.dot (f : Flags) : Option CharClass :=
  if !f.unicode then none
  else if f.dotAll then some ⟨fun _ => true, 8⟩
  else if f.crlf then some ⟨fun c => c != '\n' && c != '\r', 8⟩
  else some ⟨fun c => c != '\n', 8⟩

/-- The expression of what a backslash or a plain character stands for. -/
def Flags.primitive (f : Flags) : Primitive → Option Regex
  | .literal c byte => if f.allowsLiteral c byte then some (.chars (f.folded (.one c))) else none
  | .short kind negated => (f.shortClass kind negated).map .chars
  | .property cls negated => (f.propertyClass cls negated).map .chars
  | .look kind => some (.look (kind !f.unicode))

/-- Reads one part of a pattern. -/
def readPart (s : Reading) (cs : Rest) : Option (Reading × Rest) :=
  match cs with
  | [] => some (s, [])
  | '(' :: cs => readGroup s cs
  | ')' :: cs => s.closeGroup.map (·, cs)
  | '|' :: cs => some (s.nextBranch, cs)
  | '[' :: cs => (readClass s.flags cs).map fun (part, cs) =>
      (s.push ⟨.chars part.cls, part.depth, true⟩, cs)
  | '?' :: cs => (s.repeatLast 0 (some 1)).map (·, dropLazy cs)
  | '*' :: cs => (s.repeatLast 0 none).map (·, dropLazy cs)
  | '+' :: cs => (s.repeatLast 1 none).map (·, dropLazy cs)
  | '\x7b' :: cs => do
      let (min, max, cs) ← readBounds s.flags cs
      return (← s.repeatLast min max, dropLazy (s.flags.skip cs))
  | '.' :: cs => s.flags.dot.map fun cls => (s.pushRegex (.chars cls), cs)
  | '^' :: cs => some (s.pushRegex (.look (s.flags.lineLook '^')), cs)
  | '$' :: cs => some (s.pushRegex (.look (s.flags.lineLook '$')), cs)
  | '\\' :: cs => do
      let (item, cs) ← readEscape s.flags cs
      return (s.pushRegex (← s.flags.primitive item), cs)
  | c :: cs => (s.flags.primitive (.literal c false)).map fun r => (s.pushRegex r, cs)

/-- Reads a pattern to its end. -/
def readParts : (fuel : Nat) → Reading → Rest → Option Reading
  | 0, s, cs => if cs.isEmpty then some s else none
  | fuel + 1, s, cs =>
      match s.flags.skip cs with
      | [] => some s
      | cs => do
          let (s, cs) ← readPart s cs
          readParts fuel s cs

/-- Patterns nest at most so many levels. -/
def depthLimit : Nat := 250

/-- The expression of a pattern; `none` if it is not well formed or too large. -/
def compile (pattern : String) : Option Regex := do
  let cs := pattern.toList
  let s ← readParts (cs.length + 1) {} cs
  let whole := s.group.whole
  if s.around.isEmpty && whole.depth ≤ depthLimit && whole.regex.size ≤ Regex.sizeLimit then
    some whole.regex
  else none

end Lineage.Pattern
