import Lineage.Event
import Lineage.View.Presentation

/-! # Hiding dangling nodes

    A node is dangling when it lacks visible edges, in the sense of a mode.
    Hiding the dangling nodes among some candidates pushes one mask onto the
    node masks.  Edges are judged by the edge masks alone, so hiding nodes
    never makes another node dangle. -/

namespace Lineage

namespace Presentation

/-- Whether a node lacks the visible edges that the mode asks for. -/
def isDangling (p : Presentation) (mode : DanglingMode) (id : NodeId) : Except Failure Bool := do
  let noIncomings := !(← p.graph.incoming id).any p.picksEdge
  let noOutgoings := !(← p.graph.outgoing id).any p.picksEdge
  return match mode with
    | .all => noIncomings && noOutgoings
    | .incomings => noIncomings
    | .outgoings => noOutgoings

/-- The dangling ones among the candidates. -/
def danglingAmong (p : Presentation) (mode : DanglingMode) (candidates : List NodeId) :
    Except Failure (List NodeId) :=
  candidates.filterM (p.isDangling mode)

/-- Pushes a mask that hides the given nodes. -/
def hide (p : Presentation) (mode : DanglingMode) (nodes : List NodeId) : Presentation :=
  { p with nodeMasks := (p.nodeMasks.push (.hidden mode.label nodes)).1 }

/-- What hiding is about: all nodes, or the members of one cluster. -/
def candidates (p : Presentation) : Option ClusterId → Except Failure (List NodeId)
  | none => .ok p.graph.nodes
  | some cluster =>
      match p.graph.findCluster? cluster with
      | some c => .ok c.members
      | none => .error (.unknownCluster cluster)

/-- Hides the dangling nodes, of the whole graph or of one cluster, and gives
    their number. -/
def hideDangling (p : Presentation) (mode : DanglingMode) (within : Option ClusterId) :
    Except Failure (Presentation × Nat) := do
  let found ← p.danglingAmong mode (← p.candidates within)
  return (p.hide mode found, found.length)

/-- Hides dangling nodes and reports how many. -/
def hideDanglingReported (p : Presentation) (mode : DanglingMode) (within : Option ClusterId) :
    Inquiry (Presentation × Nat) := do
  let (p, count) ← .ofFailure (p.hideDangling mode within)
  .report (.danglingFound mode count)
  return (p, count)

end Presentation

end Lineage
