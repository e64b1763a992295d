import Lineage.View.Document

/-! # Decorating documents

    A document for showing gets a caption and, if wanted, a cluster for each
    of its types, a color for each of its edges by kind, and a mark on each
    interface.  Interfaces are told by the edges of the document itself: they
    are the ends of its `implements` edges.  What was there before decorating
    stays. -/

namespace Lineage

/-- The line color of an edge of a kind. -/
def EdgeKind.color : EdgeKind → String
  | .derivesFrom => "Black"
  | .implements => "Blue"

/-- The fill color of an interface. -/
def interfaceColor : String := "LightBlue"

namespace Document

/-- The kind that an edge is drawn as: one of no known kind passes for a
    derivation. -/
def drawnKind (d : Document) (e : Edge) : EdgeKind := (d.edgeKinds[e.id]?).getD .derivesFrom

/-- The types that some type of the document implements. -/
def interfaces (d : Document) : List NodeId :=
  (d.edges.filter fun e => d.drawnKind e = .implements).map (·.target)

/-- Colors every edge by its kind. -/
def colorEdges (d : Document) : Document :=
  d.edges.foldl (fun d' e => (d'.addEdgeStyle ⟨e.id, (d.drawnKind e).color⟩).1) d

/-- Captions a type, marks it if it is an interface, and puts it into the
    cluster of its namespace. -/
def decorateNode (interfaces : List NodeId) (clusterByNamespace : Bool) (d : Document)
    (n : Descriptor) : Document :=
  let d := (d.addCaption ⟨n.id, n.name⟩).1
  let d := if n.id ∈ interfaces then (d.addNodeStyle ⟨n.id, interfaceColor⟩).1 else d
  if clusterByNamespace && n.space != "" then d.addToCluster n.space n.id else d

/-- Adds the captions, colors and clusters of a view.  What is there already
    stays. -/
def decorate (d : Document) (clusterByNamespace : Bool) : Document :=
  d.nodes.foldl (decorateNode d.interfaces clusterByNamespace) d.colorEdges

end Document

end Lineage
