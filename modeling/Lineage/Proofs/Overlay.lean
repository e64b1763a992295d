import Lineage.View.Presentation

/-! # Masks laid over each other

    A stack of masks is read from the top: the youngest mask with a say about
    an id decides.  Seen from below it is a picture that is painted over.
    Everything is visible at first, and every mask in turn, oldest first,
    covers what lies under it where it has a say (`MaskStack.overlay`).  Both
    come to the same (`isVisible_eq_overlay`), and from the second the laws of
    masks are read off: a mask that is off is as good as gone, and masks that
    share no member can change places.

    The masks of nodes and those of edges are two stacks.  Whatever is done to
    them in turn, each is what its own operations make of it
    (`masks_maskAll`). -/

namespace Lineage

/-- Of what decides at all in a list, the last one is found first from behind;
    going forward it has the last word. -/
theorem getD_findSome?_reverse {α β : Type} (f : α → Option β) (xs : List α) (b : β) :
    (xs.reverse.findSome? f).getD b = xs.foldl (fun b x => (f x).getD b) b := by
  -- the last of the list is the first from behind, so the start varies
  induction xs generalizing b with
  | nil => rfl
  | cons x xs ih =>
      rw [List.reverse_cons, List.findSome?_append, Option.getD_or, List.foldl_cons, ← ih]
      simp

namespace Mask

/-- What is seen of an id with the mask lying over what was seen before: an
    applied mask with that member decides, any other lets through. -/
def paintOver (m : Mask) (id : String) (seen : Bool) : Bool :=
  if m.applied ∧ m.covers id then m.shows else seen

theorem paintOver_eq_getD (m : Mask) (id : String) (seen : Bool) :
    m.paintOver id seen = (m.decide? id).getD seen := by
  rw [paintOver, decide?]
  by_cases h : m.applied = true ∧ m.covers id = true
  · simp [h]
  · simp [h]

/-- A mask that is off lets everything through. -/
theorem paintOver_off (m : Mask) (id : String) (seen : Bool) :
    Mask.paintOver { m with applied := false } id seen = seen :=
  if_neg fun h => Bool.false_ne_true h.1

/-- The masks share no member. -/
def Apart (m m' : Mask) : Prop := ∀ id, ¬ (m.covers id = true ∧ m'.covers id = true)

/-- At most one of two masks without a common member has a say. -/
theorem Apart.paintOver_comm {m m' : Mask} (h : m.Apart m') (id : String) (seen : Bool) :
    m'.paintOver id (m.paintOver id seen) = m.paintOver id (m'.paintOver id seen) := by
  have hone := h id
  simp only [paintOver]
  -- whichever covers the id, the other one lets through
  by_cases hm : m.covers id = true
  · have hm' : ¬ m'.covers id = true := fun hm' => hone ⟨hm, hm'⟩
    simp [hm']
  · simp [hm]

end Mask

namespace MaskStack

/-! ## Seen from below -/

/-- What is seen of an id with all masks, oldest first, lying over what was
    seen before. -/
def paintOver (s : MaskStack) (id : String) (seen : Bool) : Bool :=
  s.foldl (fun seen m => m.paintOver id seen) seen

/-- What the masks leave of a picture in which everything is visible. -/
def overlay (s : MaskStack) (id : String) : Bool := s.paintOver id true

theorem paintOver_append (s t : MaskStack) (id : String) (seen : Bool) :
    paintOver (s ++ t) id seen = t.paintOver id (s.paintOver id seen) :=
  List.foldl_append

theorem paintOver_cons (m : Mask) (s : MaskStack) (id : String) (seen : Bool) :
    paintOver (m :: s) id seen = s.paintOver id (m.paintOver id seen) := rfl

/-- Reading from the top is the same as painting from below. -/
theorem isVisible_eq_overlay (s : MaskStack) (id : String) : s.isVisible id = s.overlay id := by
  have hpaint : (fun seen (m : Mask) => m.paintOver id seen) =
      fun seen m => (m.decide? id).getD seen := by
    funext seen m
    exact m.paintOver_eq_getD id seen
  rw [isVisible, getD_findSome?_reverse, overlay, paintOver, hpaint]

/-! ## One mask of the stack -/

/-- Where there is a mask, it stands between older and younger ones. -/
theorem exists_split {s : MaskStack} {i : Nat} (hi : i < s.length) :
    ∃ (older : MaskStack) (m : Mask) (younger : MaskStack),
      s = older ++ m :: younger ∧ older.length = i :=
  ⟨s.take i, s[i], s.drop (i + 1), by simp, List.length_take_of_le (Nat.le_of_lt hi)⟩

section Split

variable (older : MaskStack) (m : Mask) (younger : MaskStack)

theorem remove_split :
    remove (older ++ m :: younger) older.length = (older ++ younger, some m) := by
  rw [remove, List.eraseIdx_append_of_length_le (Nat.le_refl _)]
  simp

theorem setApplied_split (applied : Bool) :
    setApplied (older ++ m :: younger) older.length applied =
      (older ++ { m with applied } :: younger, true) := by
  rw [setApplied, List.modify_eq_take_cons_drop (by simp)]
  simp

end Split

/-- Where there is no mask, none is taken off and none is turned. -/
theorem remove_of_le {s : MaskStack} {i : Nat} (hi : s.length ≤ i) : s.remove i = (s, none) := by
  rw [remove, List.eraseIdx_of_length_le hi, List.getElem?_eq_none hi]

theorem setApplied_of_le {s : MaskStack} {i : Nat} (hi : s.length ≤ i) (applied : Bool) :
    s.setApplied i applied = (s, false) := by
  rw [setApplied, List.modify_eq_self hi, decide_eq_false (Nat.not_lt.mpr hi)]

/-- A mask that is off might as well not be there. -/
theorem isVisible_setApplied_false (s : MaskStack) (i : Nat) (id : String) :
    (s.setApplied i false).1.isVisible id = (s.remove i).1.isVisible id := by
  by_cases hi : i < s.length
  · obtain ⟨older, m, younger, rfl, rfl⟩ := exists_split hi
    rw [setApplied_split, remove_split]
    simp only [isVisible_eq_overlay, overlay, paintOver_append, paintOver_cons, Mask.paintOver_off]
  · rw [setApplied_of_le (Nat.not_lt.mp hi), remove_of_le (Nat.not_lt.mp hi)]

/-- Turning a mask back to what it was undoes having turned it. -/
theorem setApplied_setApplied {s : MaskStack} {i : Nat} {m : Mask} (hm : s[i]? = some m)
    (applied : Bool) : ((s.setApplied i applied).1.setApplied i m.applied).1 = s := by
  obtain ⟨hi, rfl⟩ := List.getElem?_eq_some_iff.mp hm
  obtain ⟨older, m, younger, rfl, rfl⟩ := exists_split hi
  rw [setApplied_split]
  dsimp only
  have hback := setApplied_split older { m with applied } younger m.applied
  simpa using congrArg Prod.fst hback

/-- Neighbours without a common member can change places. -/
theorem isVisible_swap (older : MaskStack) {m m' : Mask} (younger : MaskStack) (h : m.Apart m')
    (id : String) :
    isVisible (older ++ m' :: m :: younger) id = isVisible (older ++ m :: m' :: younger) id := by
  simp only [isVisible_eq_overlay, overlay, paintOver_append, paintOver_cons, h.paintOver_comm]

/-! ## Runs -/

/-- Something that is done to a stack of masks. -/
inductive Operation where
  | push (m : Mask)
  | remove (i : Nat)
  | setApplied (i : Nat) (applied : Bool)
  | clear

/-- What an operation reports: the position of a new mask, the mask that was
    taken off, or whether there was a mask to turn. -/
inductive Reply where
  | pushed (i : Nat)
  | removed (m? : Option Mask)
  | turned (found : Bool)
  | cleared

/-- Performs an operation. -/
def perform (s : MaskStack) : Operation → MaskStack × Reply
  | .push m => (s.push m).map id .pushed
  | .remove i => (s.remove i).map id .removed
  | .setApplied i applied => (s.setApplied i applied).map id .turned
  | .clear => ([], .cleared)

/-- The stack that some operations make of another one. -/
def after (s : MaskStack) (ops : List Operation) : MaskStack :=
  ops.foldl (fun s op => (s.perform op).1) s

/-- How the masks of a stack work together. -/
structure Composes (s : MaskStack) : Prop where
  /-- What is visible is what is left when the masks are laid over each other. -/
  overlay : ∀ id, s.isVisible id = s.overlay id
  off : ∀ i id, (s.setApplied i false).1.isVisible id = (s.remove i).1.isVisible id
  restored : ∀ (i : Nat) (m : Mask) (applied : Bool), s[i]? = some m →
    ((s.setApplied i applied).1.setApplied i m.applied).1 = s
  swapped : ∀ (older : MaskStack) (m m' : Mask) (younger : MaskStack),
    s = older ++ m :: m' :: younger → m.Apart m' →
      ∀ id, isVisible (older ++ m' :: m :: younger) id = s.isVisible id
  remove_fails : ∀ i, (s.remove i).2 = none ↔ s.length ≤ i
  setApplied_fails : ∀ i applied, (s.setApplied i applied).2 = false ↔ s.length ≤ i
  unchanged : ∀ i, s.length ≤ i → (s.remove i).1 = s ∧ ∀ applied, (s.setApplied i applied).1 = s

theorem composes (s : MaskStack) : s.Composes where
  overlay := s.isVisible_eq_overlay
  off := s.isVisible_setApplied_false
  restored := fun _ _ applied hm => setApplied_setApplied hm applied
  swapped := by
    rintro older m m' younger rfl h id
    exact isVisible_swap older younger h id
  remove_fails := fun _ => List.getElem?_eq_none_iff
  setApplied_fails := by
    intro i applied
    rw [setApplied, decide_eq_false_iff_not, Nat.not_lt]
  unchanged := by
    intro i hi
    rw [remove_of_le hi]
    exact ⟨rfl, fun applied => by rw [setApplied_of_le hi]⟩

end MaskStack

/-! ## Two stacks -/

/-- What a stack of masks is for. -/
inductive Layer where
  | node
  | edge
  deriving DecidableEq

namespace Presentation

/-- The masks of a layer. -/
def masks (p : Presentation) : Layer → MaskStack
  | .node => p.nodeMasks
  | .edge => p.edgeMasks

/-- Performs an operation on the masks of a layer. -/
def mask (p : Presentation) : Layer → MaskStack.Operation → Presentation × MaskStack.Reply
  | .node, op => (p.nodeMasks.perform op).map (fun s => { p with nodeMasks := s }) id
  | .edge, op => (p.edgeMasks.perform op).map (fun s => { p with edgeMasks := s }) id

/-- The presentation after operations on both layers. -/
def maskAll (p : Presentation) (steps : List (Layer × MaskStack.Operation)) : Presentation :=
  steps.foldl (fun p step => (p.mask step.1 step.2).1) p

/-- The operations that are for a layer. -/
def stepsOn (l : Layer) (steps : List (Layer × MaskStack.Operation)) : List MaskStack.Operation :=
  (steps.filter (·.1 = l)).map (·.2)

theorem masks_mask (p : Presentation) (l l' : Layer) (op : MaskStack.Operation) :
    (p.mask l op).1.masks l' = if l = l' then ((p.masks l').perform op).1 else p.masks l' := by
  cases l <;> cases l' <;> rfl

/-- A layer is what its own operations make of it. -/
theorem masks_maskAll (p : Presentation) (steps : List (Layer × MaskStack.Operation)) (l : Layer) :
    (p.maskAll steps).masks l = (p.masks l).after (stepsOn l steps) := by
  induction steps generalizing p with
  | nil => rfl
  | cons step steps ih =>
      show ((p.mask step.1 step.2).1.maskAll steps).masks l = _
      rw [ih, masks_mask, stepsOn, stepsOn, List.filter_cons]
      by_cases hl : step.1 = l
      · rw [if_pos hl, if_pos (decide_eq_true hl)]
        rfl
      · rw [if_neg hl, if_neg (by simpa using hl)]

/-- Operations on the other layer leave a layer as it is. -/
theorem masks_maskAll_of_ne (p : Presentation) {steps : List (Layer × MaskStack.Operation)}
    {l l' : Layer} (hl : l ≠ l') (h : ∀ step ∈ steps, step.1 = l) :
    (p.maskAll steps).masks l' = p.masks l' := by
  have hnone : stepsOn l' steps = [] := by
    rw [stepsOn, List.map_eq_nil_iff, List.filter_eq_nil_iff]
    intro step hstep hl'
    exact hl ((h step hstep).symm.trans (of_decide_eq_true hl'))
  rw [masks_maskAll, hnone]
  rfl

/-- **Masks are laid over each other.**  Whatever was pushed, removed, turned
    on or off and cleared, a stack shows what is left of everything when its
    masks are laid over each other, oldest first; so a mask that is off is as
    good as removed, and turning it back restores the stack, neighbours without
    a common member can change places, and where there is no mask nothing
    happens.  The masks of nodes and of edges do not meddle with each other. -/
theorem masks_compose (p : Presentation) (steps : List (Layer × MaskStack.Operation)) :
    (∀ ops : List MaskStack.Operation, (MaskStack.after [] ops).Composes) ∧
      (∀ l, (p.maskAll steps).masks l = (p.masks l).after (stepsOn l steps)) ∧
      (∀ id, (p.maskAll steps).picksNode id = ((p.maskAll steps).masks .node).overlay id) ∧
      (∀ e, (p.maskAll steps).picksEdge e = ((p.maskAll steps).masks .edge).overlay e.id) ∧
      ((∀ step ∈ steps, step.1 = .node) → ∀ e, (p.maskAll steps).picksEdge e = p.picksEdge e) ∧
      ((∀ step ∈ steps, step.1 = .edge) → ∀ id, (p.maskAll steps).picksNode id = p.picksNode id) := by
  refine ⟨fun ops => MaskStack.composes _, p.masks_maskAll steps,
    fun id => MaskStack.isVisible_eq_overlay _ id, fun e => MaskStack.isVisible_eq_overlay _ e.id,
    ?_, ?_⟩
  · intro hnode e
    have hsame : (p.maskAll steps).edgeMasks = p.edgeMasks :=
      p.masks_maskAll_of_ne (show Layer.node ≠ .edge by decide) hnode
    rw [picksEdge, picksEdge, hsame]
  · intro hedge id
    have hsame : (p.maskAll steps).nodeMasks = p.nodeMasks :=
      p.masks_maskAll_of_ne (show Layer.edge ≠ .node by decide) hedge
    rw [picksNode, picksNode, hsame]

/-- Four masks on nodes; the youngest is turned off, and one in the middle is
    taken away. -/
def repainting : List (Layer × MaskStack.Operation) :=
  [.push (.hidden "old" ["x", "y"]), .push (.shown "mid" ["x"]), .push (.hidden "new" ["z"]),
    .push (.shown "top" ["y"]), .setApplied 3 false, .remove 1].map (.node, ·)

/-- What the removed mask and the one that is off had shown is hidden again, and
    edges never were. -/
theorem repainting_hides :
    (∀ step ∈ repainting, step.1 = .node) ∧
      (["x", "y", "z", "w"].map (({} : Presentation).maskAll repainting).picksNode =
        [false, false, false, true]) ∧
      ∀ e, (({} : Presentation).maskAll repainting).picksEdge e = true := by
  have hnode : ∀ step ∈ repainting, step.1 = .node := by
    intro step hstep
    obtain ⟨op, -, rfl⟩ := List.mem_map.mp hstep
    rfl
  obtain ⟨-, -, hnodes, -, hedges, -⟩ := masks_compose {} repainting
  refine ⟨hnode, ?_, fun e => hedges hnode e⟩
  simp only [List.map_cons, List.map_nil, hnodes]
  decide +kernel

end Presentation

end Lineage
