import Lineage.View.Document
import Lineage.View.Mask

/-! # Presentations

    A presentation is a graph with all that is needed to show it: captions and
    colors, kept under the id of their owner, and one stack of masks for nodes
    and one for edges.  An owner without a caption is captioned with its id,
    and one without a color has the default color of its kind.

    `ofDocument` shows exactly what a document holds. -/

namespace Lineage

/-- Whether a caption still shows the bare id of its owner. -/
def Caption.isDefault (c : Caption) : Bool := c.text == c.owner

/-- The fill color of a node that was given none. -/
def NodeStyle.defaultColor : String := "LightGray"

/-- The line color of an edge that was given none. -/
def EdgeStyle.defaultColor : String := "Black"

/-- A graph and how to show it. -/
structure Presentation where
  graph : Graph := {}
  captions : Table String := ∅
  nodeColors : Table String := ∅
  edgeColors : Table String := ∅
  nodeMasks : MaskStack := []
  edgeMasks : MaskStack := []

namespace Presentation

/-- Captions an owner, in place of an earlier caption. -/
def setCaption (p : Presentation) (c : Caption) : Presentation :=
  { p with captions := p.captions.insert c.owner c.text }

/-- Colors a node, in place of an earlier color. -/
def setNodeStyle (p : Presentation) (s : NodeStyle) : Presentation :=
  { p with nodeColors := p.nodeColors.insert s.owner s.fillColor }

/-- Colors an edge, in place of an earlier color. -/
def setEdgeStyle (p : Presentation) (s : EdgeStyle) : Presentation :=
  { p with edgeColors := p.edgeColors.insert s.owner s.color }

/-- The caption of an owner. -/
def caption (p : Presentation) (owner : String) : Caption :=
  ⟨owner, p.captions.getD owner owner⟩

/-- The fill color of a node. -/
def nodeStyle (p : Presentation) (owner : String) : NodeStyle :=
  ⟨owner, p.nodeColors.getD owner NodeStyle.defaultColor⟩

/-- The line color of an edge. -/
def edgeStyle (p : Presentation) (owner : String) : EdgeStyle :=
  ⟨owner, p.edgeColors.getD owner EdgeStyle.defaultColor⟩

/-- Whether the node masks show the node. -/
def picksNode (p : Presentation) (id : NodeId) : Bool := p.nodeMasks.isVisible id

/-- Whether the edge masks show the edge; its ends have no part in that. -/
def picksEdge (p : Presentation) (e : Edge) : Bool := p.edgeMasks.isVisible e.id

/-- The nodes that are shown, in the order of the graph. -/
def visibleNodes (p : Presentation) : List NodeId := p.graph.nodes.filter p.picksNode

/-- The edges that are shown, in the order of the graph. -/
def visibleEdges (p : Presentation) : List Edge := p.graph.edges.filter p.picksEdge

end Presentation

/-! ## From documents -/

/-- Adds an edge between nodes of the graph.  The first end that is no node is
    a failure. -/
def Graph.connect (g : Graph) (e : Edge) : Except Failure Graph :=
  match [e.source, e.target].find? (· ∉ g.nodes) with
  | some stranger => .error (.unknownNode stranger)
  | none => .ok (g.addEdge e.source e.target).1

/-- The graph of a document: its types, its edges, its clusters by id.  An
    edge or a cluster that names no type of the document is a failure. -/
def Document.graph (d : Document) : Except Failure Graph := do
  let g := d.nodes.foldl (fun g n => g.withNode n.id) {}
  let g ← d.edges.foldlM Graph.connect g
  d.clusters.toList.foldlM (fun g c => return (← g.addCluster c.1 c.2).1) g

namespace Presentation

/-- The presentation of a document.  A type without a caption of its own is
    captioned with its name. -/
def ofDocument (d : Document) : Except Failure Presentation := do
  let graph ← d.graph
  let p : Presentation := { graph }
  let p := d.captions.foldl setCaption p
  let p := d.nodes.foldl (fun p n =>
    if p.captions.contains n.id then p else p.setCaption ⟨n.id, n.name⟩) p
  let p := d.nodeStyles.foldl setNodeStyle p
  return d.edgeStyles.foldl setEdgeStyle p

end Presentation

end Lineage
