import Lineage.Graph.EdgeKind
import Lineage.Facts.Fact
import Lineage.Graph.Basic

/-! # Documents

    A document is the result of one traversal: types, edges between them, and
    hints for showing them.  Every collection is free of duplicates and keeps
    the order of first insertion, clusters excepted, which are listed by id.
    Captions and styles belong to their owner's first writer.

    Each operation gives the document after it together with what it reports:
    for the adding ones, whether anything was added. -/

namespace Lineage

/-- The text shown for the element of that id. -/
structure Caption where
  owner : String
  text : String
  deriving DecidableEq, Repr

/-- The fill color of a node. -/
structure NodeStyle where
  owner : String
  fillColor : String
  deriving DecidableEq, Repr

/-- The line color of an edge. -/
structure EdgeStyle where
  owner : String
  color : String
  deriving DecidableEq, Repr

/-- Types, edges and hints for showing them.  Edges need not join types of the
    document, and clusters need not hold any. -/
structure Document where
  nodes : List Descriptor := []
  edges : List Edge := []
  clusters : Table (List NodeId) := ∅
  captions : List Caption := []
  nodeStyles : List NodeStyle := []
  edgeStyles : List EdgeStyle := []
  edgeKinds : EdgeKinds := ∅

/-- What is kept of a document outside: the types by id only. -/
structure DocumentExport where
  nodes : List NodeId
  edges : List (NodeId × NodeId)
  clusters : Table (List NodeId)
  captions : List Caption
  nodeStyles : List NodeStyle
  edgeStyles : List EdgeStyle
  edgeKinds : EdgeKinds

namespace Document

/-! ## Types and edges -/

/-- Adds a type unless one of the same id is there. -/
def addNode (d : Document) (node : Descriptor) : Document × Bool :=
  if d.nodes.any (·.id = node.id) then (d, false)
  else ({ d with nodes := d.nodes ++ [node] }, true)

/-- Adds an edge unless it is there. -/
def addEdge (d : Document) (source target : NodeId) : Document × Bool :=
  let e : Edge := ⟨source, target⟩
  if e ∈ d.edges then (d, false) else ({ d with edges := d.edges ++ [e] }, true)

/-! ## Hints for showing -/

/-- The members of a cluster; a cluster that does not exist has none. -/
def members (d : Document) (cluster : ClusterId) : List NodeId := d.clusters.getD cluster []

/-- Makes a node a member of a cluster, which then exists. -/
def addToCluster (d : Document) (cluster : ClusterId) (node : NodeId) : Document :=
  let ms := d.members cluster
  let ms := if node ∈ ms then ms else ms ++ [node]
  { d with clusters := d.clusters.insert cluster ms }

/-- Adds a caption unless its owner has one. -/
def addCaption (d : Document) (caption : Caption) : Document × Bool :=
  if d.captions.any (·.owner = caption.owner) then (d, false)
  else ({ d with captions := d.captions ++ [caption] }, true)

/-- Adds a fill color unless its owner has one. -/
def addNodeStyle (d : Document) (style : NodeStyle) : Document × Bool :=
  if d.nodeStyles.any (·.owner = style.owner) then (d, false)
  else ({ d with nodeStyles := d.nodeStyles ++ [style] }, true)

/-- Adds a line color unless its owner has one. -/
def addEdgeStyle (d : Document) (style : EdgeStyle) : Document × Bool :=
  if d.edgeStyles.any (·.owner = style.owner) then (d, false)
  else ({ d with edgeStyles := d.edgeStyles ++ [style] }, true)

/-- Records the kind of an edge unless it has one. -/
def setEdgeKind (d : Document) (edge : EdgeId) (kind : EdgeKind) : Document × Bool :=
  let (edgeKinds, isNew) := d.edgeKinds.record edge kind
  ({ d with edgeKinds }, isNew)

/-! ## Looking up -/

/-- The type of that id. -/
def node? (d : Document) (id : NodeId) : Option Descriptor := d.nodes.find? (·.id = id)

/-- The part of a document that is kept outside. -/
def exported (d : Document) : DocumentExport where
  nodes := d.nodes.map (·.id)
  edges := d.edges.map fun e => (e.source, e.target)
  clusters := d.clusters
  captions := d.captions
  nodeStyles := d.nodeStyles
  edgeStyles := d.edgeStyles
  edgeKinds := d.edgeKinds

end Document

end Lineage
