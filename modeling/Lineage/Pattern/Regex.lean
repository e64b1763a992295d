import Lineage.Pattern.CharClass

/-! # Regular expressions

    A pattern is searched for anywhere in a text, and only whether it matches
    is asked.  So matching computes with sets of positions: from the positions
    where a part may start, all positions where it may end.  Nothing is tried
    and taken back, and preferences of one match over another play no part.

    `Regex.size` estimates how much room a compiled pattern takes; patterns
    above `sizeLimit` are refused. -/

namespace Lineage.Pattern

/-- A condition on a position. -/
inductive Look where
  /-- The start of the text. -/
  | start
  /-- The end of the text. -/
  | stop
  /-- The start of a line; lines end in a line feed, or also in a carriage
      return. -/
  | lineStart (crlf : Bool)
  /-- The end of a line. -/
  | lineStop (crlf : Bool)
  /-- Between a character of a word and one that is not. -/
  | edge (ascii : Bool)
  /-- Not between such characters. -/
  | noEdge (ascii : Bool)
  /-- Where a word starts. -/
  | wordStart (ascii : Bool)
  /-- Where a word ends. -/
  | wordStop (ascii : Bool)
  /-- Not after a character of a word. -/
  | afterNoWord (ascii : Bool)
  /-- Not before a character of a word. -/
  | beforeNoWord (ascii : Bool)
  deriving Repr, DecidableEq

/-- A regular expression. -/
inductive Regex where
  | empty
  | chars (cls : CharClass)
  | look (l : Look)
  | seq (a b : Regex)
  | alt (a b : Regex)
  /-- At least `min` times, and at most `max` times if there is a `max`. -/
  | times (r : Regex) (min : Nat) (max : Option Nat)
  /-- A group that remembers where it matched, which only adds to the size. -/
  | group (r : Regex)

namespace Look

/-- Whether a condition holds between two characters; `none` stands for an end
    of the text. -/
def holds (before after : Option Char) : Look → Bool
  | start => before.isNone
  | stop => after.isNone
  | lineStart false => before.all (· == '\n')
  | lineStop false => after.all (· == '\n')
  | lineStart true => before.all fun b => b == '\n' || (b == '\r' && after != some '\n')
  | lineStop true => after.all fun a => a == '\r' || (a == '\n' && before != some '\r')
  | edge ascii => isWord ascii before != isWord ascii after
  | noEdge ascii => isWord ascii before == isWord ascii after
  | wordStart ascii => !isWord ascii before && isWord ascii after
  | wordStop ascii => isWord ascii before && !isWord ascii after
  | afterNoWord ascii => !isWord ascii before
  | beforeNoWord ascii => !isWord ascii after
where
  /-- Whether there is a character and it belongs to words. -/
  isWord (ascii : Bool) (c : Option Char) : Bool :=
    c.any (if ascii then CharClass.asciiWord else CharClass.word).has

end Look

namespace Regex

/-- Positions in ascending order, each once. -/
abbrev Positions := List Nat

/-- All positions of two sets. -/
def merge : Positions → Positions → Positions
  | [], qs => qs
  | ps, [] => ps
  | p :: ps, q :: qs =>
      if p < q then p :: merge ps (q :: qs)
      else if q < p then q :: merge (p :: ps) qs
      else p :: merge ps qs
termination_by ps qs => ps.length + qs.length

/-- Takes a step so many times, stopping early once it changes nothing. -/
def iterate (step : Positions → Positions) : Nat → Positions → Positions
  | 0, ps => ps
  | n + 1, ps =>
      let next := step ps
      if next = ps then ps else iterate step n next

/-- Where a match may end, given where it may start. -/
def reach (text : Array Char) : Regex → Positions → Positions
  | empty, ps => ps
  | chars cls, ps => (ps.filter fun p => text[p]?.any cls.has).map (· + 1)
  | look l, ps =>
      ps.filter fun p => l.holds (if p = 0 then none else text[p - 1]?) text[p]?
  | seq a b, ps => b.reach text (a.reach text ps)
  | alt a b, ps => merge (a.reach text ps) (b.reach text ps)
  | times r min max, ps =>
      let more := match max with
        | some max => max - min
        | none => text.size + 1
      iterate (fun qs => merge qs (r.reach text qs)) more (iterate (r.reach text) min ps)
  | group r, ps => r.reach text ps

/-- Whether the expression matches somewhere in the text. -/
def isMatch (r : Regex) (text : String) : Bool :=
  let chars := text.toList.toArray
  !(r.reach chars (List.range (chars.size + 1))).isEmpty

/-- Whether the expression matches without taking any character, if it matches
    at all. -/
def takesNothing : Regex → Bool
  | empty | look _ => true
  | chars _ => false
  | seq a b | alt a b => a.takesNothing && b.takesNothing
  | times r _ max => max = some 0 || r.takesNothing
  | group r => r.takesNothing

/-- The room of one state of a compiled expression, in bytes. -/
def stateSize : Nat := 32

/-- The room of a stretch of a class beyond ASCII, in bytes. -/
def stretchSize : Nat := 70

/-- About how much room an expression takes once it is compiled, in bytes. -/
def size : Regex → Nat
  | empty => stateSize
  | chars cls => if cls.stretches ≤ 3 then stateSize else cls.stretches * stretchSize
  | look _ => stateSize
  | seq a b => a.size + b.size
  | alt a b => a.size + b.size + stateSize + 8
  | times r min max =>
      if max = some 0 then stateSize
      else if r.takesNothing then r.size + stateSize
      else
        let once := r.size
        min * once + (match max with
          | some max => (max - min) * (once + stateSize + 8)
          | none => if min = 0 then once + 2 * (stateSize + 8) else stateSize + 8)
  | group r => r.size + 2 * stateSize

/-- The most room a compiled expression may take, in bytes. -/
def sizeLimit : Nat := 10 * 1024 * 1024

end Regex

end Lineage.Pattern
