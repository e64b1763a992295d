import Lineage.View.Presentation

/-! # Drawings

    A drawing is what the DOT text of a presentation holds, before it becomes
    text: the visible nodes, each once, in the block of the first cluster that
    has it or outside of all blocks; and the edges that the edge masks show.
    `Presentation.draw` makes the drawing of a presentation.

    Every edge has a label, because a layout reserves room for labels and an
    empty one is not accepted: an edge without a caption of its own is
    labelled with a dot. -/

namespace Lineage

/-- How to draw. -/
structure DrawOptions where
  /-- With more visible nodes than this, hints ask for a faster layout. -/
  fastLimit : Option Nat := none
  /-- Leave the colors out. -/
  plain : Bool := false
  deriving DecidableEq, Repr

/-- A node as it is drawn. -/
structure NodeEntry where
  id : NodeId
  label : String
  color : Option String
  deriving DecidableEq, Repr

/-- An edge as it is drawn. -/
structure EdgeEntry where
  source : NodeId
  target : NodeId
  label : String
  color : Option String
  deriving DecidableEq, Repr

/-- A cluster as it is drawn. -/
structure Block where
  id : String
  label : String
  nodes : List NodeEntry
  deriving DecidableEq, Repr

/-- What the DOT text of a presentation holds. -/
structure Drawing where
  hints : Bool
  blocks : List Block
  nodes : List NodeEntry
  edges : List EdgeEntry
  deriving DecidableEq, Repr

/-- The start of a name that makes a layout take a subgraph for a cluster. -/
def clusterMark : String := "cluster_"

/-- The name of the block of a cluster: its id, which gets the mark in front
    unless it starts with it. -/
def blockName (id : ClusterId) : String :=
  if clusterMark.toList.isPrefixOf id.toList then id else clusterMark ++ id

namespace Presentation

/-- How a node is drawn. -/
def nodeEntry (p : Presentation) (o : DrawOptions) (id : NodeId) : NodeEntry where
  id := id
  label := (p.caption id).text
  color := if o.plain then none else some (p.nodeStyle id).fillColor

/-- How an edge is drawn. -/
def edgeEntry (p : Presentation) (o : DrawOptions) (e : Edge) : EdgeEntry where
  source := e.source
  target := e.target
  label := if (p.caption e.id).isDefault then "." else (p.caption e.id).text
  color := if o.plain then none else some (p.edgeStyle e.id).color

/-- The visible members of a cluster.  A member that is no node of the graph
    is a failure. -/
def visibleMembers (p : Presentation) (c : Cluster) : Except Failure (List NodeId) :=
  (c.members.filter (· ∈ p.visibleNodes)).mapM fun id =>
    match p.graph.findNode? id with
    | some node => .ok node
    | none => .error (.unknownNode id)

/-- The blocks of the clusters with visible members, and the nodes that are
    drawn after them.  A node goes to the first cluster that has it; `drawn`
    holds the nodes of earlier clusters. -/
def blocks (p : Presentation) (o : DrawOptions) :
    List Cluster → (drawn : List NodeId) → Except Failure (List Block × List NodeId)
  | [], drawn => .ok ([], drawn)
  | c :: cs, drawn => do
      let members ← p.visibleMembers c
      if members.isEmpty then
        p.blocks o cs drawn
      else
        let fresh := (members.filter (· ∉ drawn)).eraseDups
        let block : Block :=
          ⟨blockName c.id, (p.caption c.id).text, fresh.map (p.nodeEntry o)⟩
        let (rest, drawn) ← p.blocks o cs (drawn ++ fresh)
        return (block :: rest, drawn)

/-- The drawing of a presentation. -/
def draw (p : Presentation) (o : DrawOptions) : Except Failure Drawing := do
  let visible := p.visibleNodes
  let (blocks, drawn) ← p.blocks o p.graph.clusters []
  return {
    hints := o.fastLimit.any (· < visible.length)
    blocks
    nodes := (visible.filter (· ∉ drawn)).eraseDups.map (p.nodeEntry o)
    edges := p.visibleEdges.map (p.edgeEntry o) }

end Presentation

end Lineage
