import Lineage.View.Document
import Lineage.Event

/-! # Neighborhoods

    The neighborhood of a type holds the type and everything that derives from
    it or implements it, directly or through others: the types that reach it
    along edges, and all edges that point at one of them.

    It is collected level by level, against the direction of the edges.  A
    level visits the members of its frontier that were not visited before,
    takes up their incoming edges oldest first, and queues the sources of
    those edges, each once; the next frontier is what was queued and is still
    unvisited.  Every level visits at least one new node, so a graph never
    needs more levels than it has nodes. -/

namespace Lineage

/-- What a neighborhood is collected from. -/
structure Surroundings where
  graph : Graph
  descriptors : Table Descriptor
  edgeKinds : EdgeKinds

/-- A neighborhood under construction. -/
structure Walk where
  document : Document := {}
  /-- The nodes whose incoming edges were taken up, latest first. -/
  visited : List NodeId := []
  /-- The nodes queued for the next level, in order. -/
  queued : List NodeId := []

namespace Surroundings

variable (s : Surroundings)

/-- The descriptor of a type. -/
def descriptor (id : NodeId) : Except Failure Descriptor :=
  match s.descriptors[id]? with
  | some d => .ok d
  | none => .error (.unknownType id)

/-- Takes up one incoming edge of `member`. -/
def takeUp (member : NodeId) (w : Walk) (e : Edge) : Except Failure Walk := do
  let source ← s.descriptor e.source
  let document := ((w.document.addNode source).1.addEdge source.id member).1
  let queued := if source.id ∈ w.queued then w.queued else w.queued ++ [source.id]
  return { w with document, queued }

/-- Visits one member of a frontier, unless it was visited before. -/
def visit (w : Walk) (member : NodeId) : Except Failure Walk := do
  if member ∈ w.visited then
    return w
  else
    let d ← s.descriptor member
    let w : Walk :=
      { w with visited := member :: w.visited, document := (w.document.addNode d).1 }
    (← s.graph.incoming member).foldlM (s.takeUp member) w

/-- Visits a frontier and gives the next one. -/
def level (w : Walk) (frontier : List NodeId) : Except Failure (Walk × List NodeId) := do
  let w ← frontier.foldlM s.visit { w with queued := [] }
  return (w, w.queued.filter (· ∉ w.visited))

/-- At most `rounds` levels, and the frontier that is left. -/
def levels : (rounds : Nat) → Walk → List NodeId → Except Failure (Walk × List NodeId)
  | _, w, [] => .ok (w, [])
  | 0, w, frontier => .ok (w, frontier)
  | rounds + 1, w, frontier => do
      let (w, frontier) ← s.level w frontier
      levels rounds w frontier

/-- Copies the kinds of the edges of a document into it. -/
def withKinds (d : Document) : Except Failure Document :=
  d.edges.foldlM (fun d e =>
    match s.edgeKinds[e.id]? with
    | some kind => .ok (d.setEdgeKind e.id kind).1
    | none => .error (.missingEdgeKind e.id)) d

/-- The neighborhood of a type. -/
def neighborhood (root : NodeId) : Except Failure Document := do
  let d ← s.descriptor root
  if root ∈ s.graph.nodes then
    let (w, _) ← s.levels s.graph.nodeCount {} [d.id]
    s.withKinds w.document
  else
    throw (.unknownNode root)

/-- Collects the neighborhood of a type and reports its size. -/
def neighborhoodReported (root : NodeId) : Inquiry Document := do
  let d ← .ofFailure (s.neighborhood root)
  .report (.collected root d.nodes.length d.edges.length)
  return d

end Surroundings

end Lineage
