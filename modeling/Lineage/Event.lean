import Lineage.Failure
import Lineage.Analysis.Tally
import Lineage.View.DanglingMode

/-! # Reported events

    Everything the library reports on the way is a value: an `Event`, with a
    level and a wording.  `Logged` pairs a value with the events of computing
    it, oldest first, and an `Inquiry` is such a computation that may end in
    trouble.  `Inquiry.verdict` forgets the events, and it passes through
    every way of putting inquiries together. -/

namespace Lineage

/-- How loud an event is. -/
inductive Level where
  | trace
  | debug
  | info
  | warn
  deriving DecidableEq, Repr

/-- Something worth reporting. -/
inductive Event where
  /-- A module declares a type that was declared before. -/
  | redeclared (id moduleName : String)
  /-- A declared type was dropped. -/
  | typeDropped (id : String) (failure : Failure)
  /-- The graph had the edge already. -/
  | edgePresent (source target : NodeId)
  /-- A source was worked through, and the graph has grown to this size. -/
  | sourceDone (tally : Tally) (nodes edges : Nat)
  /-- A module was worked through. -/
  | moduleDone (name : String) (tally : Tally)
  /-- A neighborhood of this size was collected. -/
  | collected (root : NodeId) (types edges : Nat)
  /-- Dangling nodes are about to be hidden. -/
  | danglingFound (mode : DanglingMode) (nodes : Nat)
  deriving DecidableEq, Repr

namespace Event

/-- The level of an event. -/
def level : Event → Level
  | redeclared .. | typeDropped .. => .warn
  | edgePresent .. => .trace
  | sourceDone .. | collected .. | danglingFound .. => .debug
  | moduleDone .. => .info

/-- The words of an event. -/
def message : Event → String
  | redeclared id moduleName =>
      s!"type '{id}' declared again in module '{moduleName}', keeping first declaration"
  | typeDropped id failure => s!"skipping type '{id}': " ++ failure.message
  | edgePresent source target => s!"edge {source} -> {target} already present"
  | sourceDone t nodes edges =>
      s!"processed {t.processed} types ({t.skipped} skipped, {t.malformed} malformed); " ++
        s!"graph has {nodes} nodes, {edges} edges"
  | moduleDone name t =>
      s!"module '{name}': {t.processed} types processed, {t.skipped} skipped, " ++
        s!"{t.malformed} malformed"
  | collected root types edges => s!"neighborhood of '{root}': {types} types, {edges} edges"
  | danglingFound mode nodes => s!"{mode.label}: hiding {nodes} nodes"

end Event

/-- A value and the events of computing it. -/
structure Logged (α : Type) where
  value : α
  events : List Event := []

namespace Logged

instance : Monad Logged where
  pure a := ⟨a, []⟩
  bind x f := ⟨(f x.value).value, x.events ++ (f x.value).events⟩

@[simp] theorem value_pure {α : Type} (a : α) : (pure a : Logged α).value = a := rfl

@[simp] theorem value_bind {α β : Type} (x : Logged α) (f : α → Logged β) :
    (x >>= f).value = (f x.value).value := rfl

@[simp] theorem events_pure {α : Type} (a : α) : (pure a : Logged α).events = [] := rfl

@[simp] theorem events_bind {α β : Type} (x : Logged α) (f : α → Logged β) :
    (x >>= f).events = x.events ++ (f x.value).events := rfl

@[simp] theorem value_foldlM {α β : Type} (f : β → α → Logged β) (b : β) (as : List α) :
    (as.foldlM f b).value = as.foldl (fun b a => (f b a).value) b := by
  induction as generalizing b with
  | nil => rfl
  | cons a as ih => simp only [List.foldlM_cons, value_bind, ih, List.foldl_cons]

end Logged

/-- A computation that reports events and may end in trouble. -/
abbrev Inquiry (α : Type) := ExceptT Trouble Logged α

namespace Inquiry

variable {α β : Type}

/-- The outcome of an inquiry, its events forgotten. -/
def verdict (x : Inquiry α) : Except Trouble α := x.run.value

/-- The events of an inquiry. -/
def events (x : Inquiry α) : List Event := x.run.events

/-- Reports an event. -/
def report (e : Event) : Inquiry Unit := ExceptT.mk ⟨.ok (), [e]⟩

/-- An inquiry that reports nothing. -/
def ofExcept (x : Except Trouble α) : Inquiry α := ExceptT.mk ⟨x, []⟩

/-- An inquiry that cannot end in trouble. -/
def ofLogged (x : Logged α) : Inquiry α := ExceptT.mk ⟨.ok x.value, x.events⟩

/-- A step of the graph side as part of an inquiry. -/
def ofFailure (x : Except Failure α) : Inquiry α := ofExcept (x.mapError .failed)

/-- Says what is being attempted, should the inquiry end in trouble. -/
def attempting (attempt : String) (x : Inquiry α) : Inquiry α :=
  ExceptT.mk ⟨x.verdict.mapError (.during attempt), x.events⟩

@[simp] theorem verdict_pure (a : α) : verdict (pure a) = .ok a := rfl

@[simp] theorem verdict_report (e : Event) : verdict (report e) = .ok () := rfl

@[simp] theorem verdict_ofLogged (x : Logged α) : verdict (ofLogged x) = .ok x.value := rfl

@[simp] theorem verdict_ofExcept (x : Except Trouble α) : verdict (ofExcept x) = x := rfl

@[simp] theorem verdict_ofFailure (x : Except Failure α) :
    verdict (ofFailure x) = x.mapError .failed := rfl

@[simp] theorem verdict_attempting (attempt : String) (x : Inquiry α) :
    verdict (attempting attempt x) = x.verdict.mapError (.during attempt) := rfl

@[simp] theorem verdict_bind (x : Inquiry α) (f : α → Inquiry β) :
    verdict (x >>= f) = x.verdict >>= fun a => verdict (f a) := by
  simp only [verdict, ExceptT.run_bind, Logged.value_bind]
  cases x.run.value with
  | ok a => rfl
  | error t => rfl

end Inquiry

end Lineage
