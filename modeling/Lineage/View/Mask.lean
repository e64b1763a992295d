import Lineage.Ident

/-! # Visibility masks

    A mask is a labelled set of ids that shows or hides its members.  Masks
    are stacked, and the youngest applied mask that covers an id decides about
    it; an id that no applied mask covers is visible. -/

namespace Lineage

/-- A labelled set of ids with a polarity. -/
structure Mask where
  label : String
  /-- Whether the mask shows its members; otherwise it hides them. -/
  shows : Bool
  /-- Whether the mask takes part in decisions. -/
  applied : Bool := true
  members : IdSet

namespace Mask

/-- A mask that shows the given ids. -/
def shown (label : String) (ids : List String) : Mask :=
  { label, shows := true, members := .ofList ids }

/-- A mask that hides the given ids. -/
def hidden (label : String) (ids : List String) : Mask :=
  { label, shows := false, members := .ofList ids }

/-- Whether the id is a member. -/
def covers (m : Mask) (id : String) : Bool := m.members.contains id

@[simp] theorem covers_shown {label : String} {ids : List String} {id : String} :
    (shown label ids).covers id = ids.contains id :=
  Std.ExtTreeSet.contains_ofList

@[simp] theorem covers_hidden {label : String} {ids : List String} {id : String} :
    (hidden label ids).covers id = ids.contains id :=
  Std.ExtTreeSet.contains_ofList

/-- What the mask decides about the id, if it has a say. -/
def decide? (m : Mask) (id : String) : Option Bool :=
  if m.applied && m.covers id then some m.shows else none

end Mask

/-- Masks in the order in which they were pushed, oldest first. -/
abbrev MaskStack := List Mask

namespace MaskStack

/-- Puts a mask on top and gives its position. -/
def push (s : MaskStack) (m : Mask) : MaskStack × Nat := (s ++ [m], s.length)

/-- Takes the mask at a position off the stack, if there is one. -/
def remove (s : MaskStack) (i : Nat) : MaskStack × Option Mask := (s.eraseIdx i, s[i]?)

/-- Turns the mask at a position on or off and says whether there is one. -/
def setApplied (s : MaskStack) (i : Nat) (applied : Bool) : MaskStack × Bool :=
  (s.modify i (fun m => { m with applied }), i < s.length)

/-- Whether the youngest mask with a say about the id shows it. -/
def isVisible (s : MaskStack) (id : String) : Bool :=
  (s.reverse.findSome? (·.decide? id)).getD true

end MaskStack

end Lineage
