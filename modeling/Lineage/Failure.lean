import Lineage.Ident

/-! # What can go wrong

    A `Failure` is one cause, told apart by constructor, with its wording in
    `Failure.message`.  A `Trouble` is what a caller of an inspection sees: a
    cause together with what was being attempted, the outermost attempt
    first.  `Trouble.message` joins the whole story where the cause has words
    of its own, and keeps to the outermost attempt where it has none. -/

namespace Lineage

/-- Why a look-up, an introspection or an output did not succeed. -/
inductive Failure where
  /-- A declared type whose facts cannot be used. -/
  | malformedFact (id : NodeId) (reason : String)
  /-- No facts and no descriptor are known for the type. -/
  | unknownType (id : NodeId)
  /-- The graph has no such node. -/
  | unknownNode (id : NodeId)
  /-- The graph has no such cluster. -/
  | unknownCluster (id : ClusterId)
  /-- The edge was never given a kind. -/
  | missingEdgeKind (id : EdgeId)
  /-- The place that output goes to took no more of it. -/
  | outputRefused (reason : String)
  /-- The place that output goes to cannot be opened. -/
  | outputUnavailable
  deriving DecidableEq, Repr

/-- The words for a failure. -/
def Failure.message : Failure → String
  | .malformedFact id reason => s!"type `{id}` cannot be introspected: {reason}"
  | .unknownType id => s!"unknown type `{id}`"
  | .unknownNode id => s!"unknown node `{id}`"
  | .unknownCluster id => s!"unknown cluster `{id}`"
  | .missingEdgeKind id => s!"no edge kind recorded for edge `{id}`"
  | .outputRefused reason => s!"failed to write graph output: {reason}"
  | .outputUnavailable => "failed to write graph output"

/-- Whether the words of a failure say all there is to say: they do not when
    the cause lies with the place that output goes to. -/
def Failure.hasOwnWords : Failure → Bool
  | .outputUnavailable => false
  | _ => true

/-- A cause together with what was being attempted. -/
inductive Trouble where
  /-- A failure of the graph side. -/
  | failed (failure : Failure)
  /-- A text that is no JSON of the expected form. -/
  | unreadableText
  /-- A file that cannot be read as text. -/
  | unreadableFile
  /-- A pattern that does not compile. -/
  | badPattern
  /-- What was being attempted when the inner trouble arose. -/
  | during (attempt : String) (inner : Trouble)
  deriving DecidableEq, Repr

namespace Trouble

/-- The innermost cause. -/
def root : Trouble → Trouble
  | during _ inner => inner.root
  | cause => cause

/-- The words of a cause alone. -/
def causeText : Trouble → String
  | failed f => f.message
  | unreadableText => "not JSON of the expected form"
  | unreadableFile => "cannot be read"
  | badPattern => "not a pattern"
  | during attempt _ => attempt

/-- The outermost attempt, or the cause when nothing was being attempted. -/
def outermost : Trouble → String
  | during attempt _ => attempt
  | cause => cause.causeText

/-- The whole story, outermost attempt first. -/
def story : Trouble → String
  | during attempt inner => attempt ++ ": " ++ inner.story
  | cause => cause.causeText

/-- What the outermost attempt was up to, cause last. -/
def causes : Trouble → List String
  | during _ inner => inner.outermost :: inner.causes
  | _ => []

/-- The whole story if the cause has words of its own, and otherwise the
    outermost attempt. -/
def message (t : Trouble) : String :=
  match t.root with
  | failed f => if f.hasOwnWords then t.story else t.outermost
  | _ => t.outermost

end Trouble

end Lineage
