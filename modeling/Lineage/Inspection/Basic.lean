import Lineage.Analysis.Basic
import Lineage.Facts.Catalog
import Lineage.View.Dangling
import Lineage.View.Decoration
import Lineage.Dot.Output
import Lineage.Inspection.Exchange
import Lineage.Text.Lowercase

/-! # Inspecting a catalog

    An inspection analyzes every module of a catalog into one graph and then
    answers questions about it: how large it is, which types match a pattern,
    what the neighborhood of a type is, and how a part of it is drawn.

    The documents of a part and of the whole are decorated alike, and both
    hold all edges that point at their types, so the view of a part agrees
    with the view of the whole. -/

namespace Lineage

/-- An analyzed catalog. -/
structure Inspection where
  analysis : Analysis
  modules : List ModuleSummary

namespace Inspection

/-- Analyzes one module of a catalog after others. -/
def addModule (o : Options) (c : Catalog) (i : Inspection) (m : ModuleFacts) :
    Logged Inspection := do
  let (analysis, tally) ← i.analysis.process o (c.source m)
  ⟨(), [.moduleDone m.name tally]⟩
  return ⟨analysis, i.modules ++ [⟨m.name, tally⟩]⟩

/-- Analyzes every module of a catalog. -/
def ofCatalog (o : Options) (c : Catalog) : Logged Inspection :=
  c.modules.foldlM (addModule o c) ⟨{}, []⟩

variable (i : Inspection)

/-- The relationship graph. -/
def graph : Graph := i.analysis.graph

/-- The size of the graph, and what became of the types of each module. -/
def summary : Summary where
  modules := i.modules
  nodes := i.graph.nodeCount
  edges := i.graph.edgeCount
  derivesFrom := i.analysis.edgeKinds.countOf .derivesFrom
  implements := i.analysis.edgeKinds.countOf .implements

/-- What a search tells about a node. -/
def item (id : NodeId) : Except Failure TypeItem := do
  let d ← i.analysis.surroundings.descriptor id
  return {
    id
    name := d.name
    space := d.space
    incoming := (← i.graph.incoming id).length
    outgoing := (← i.graph.outgoing id).length }

/-- The nodes whose id contains a pattern, both in lower case. -/
def matching (pattern : String) : List NodeId :=
  let wanted := Text.lowercase pattern
  i.graph.nodes.filter fun id => Text.occursIn wanted (Text.lowercase id)

/-- The types whose id contains a pattern, whatever its case, by id.  A limit
    cuts the list but not the count. -/
def search (pattern : String) (limit? : Option Nat) : Except Failure SearchResult := do
  let items ← (i.matching pattern).mapM i.item
  let items := items.mergeSort fun a b => decide (a.id ≤ b.id)
  return ⟨limit?.elim items items.take, items.length⟩

/-- The decorated neighborhood of a type. -/
def document (id : NodeId) (clusterByNamespace : Bool) : Inquiry Document := do
  let d ← (i.analysis.surroundings.neighborhoodReported id).attempting
    s!"Failed to collect neighborhood of '{id}'"
  return d.decorate clusterByNamespace

/-- Adds an edge of the graph and its kind to a document. -/
def withEdge (d : Document) (e : Edge) : Except Failure Document :=
  match i.analysis.edgeKinds[e.id]? with
  | some kind => .ok ((d.addEdge e.source e.target).1.setEdgeKind e.id kind).1
  | none => .error (.missingEdgeKind e.id)

/-- The decorated document of the whole graph. -/
def fullDocument (clusterByNamespace : Bool) : Except Failure Document := do
  let d ← i.graph.nodes.foldlM (fun d id =>
    return (d.addNode (← i.analysis.surroundings.descriptor id)).1) ({} : Document)
  let d ← i.graph.edges.foldlM i.withEdge d
  return d.decorate clusterByNamespace

/-- The document that a request is about. -/
def requested (r : RenderRequest) : Inquiry Document :=
  match r.root? with
  | some id => i.document id r.clusterByNamespace
  | none => .ofFailure (i.fullDocument r.clusterByNamespace)

/-- The presentation that a request asks for, its dangling nodes hidden. -/
def presentation (r : RenderRequest) : Inquiry Presentation := do
  let d ← i.requested r
  let p ← (Inquiry.ofFailure (Presentation.ofDocument d)).attempting
    "Failed to build graph presentation"
  match r.dropDangling with
  | some mode => return (← p.hideDanglingReported mode none).1
  | none => return p

/-- The drawing that a request asks for, as text. -/
def render (r : RenderRequest) : Inquiry RenderResponse := do
  let p ← i.presentation r
  let (dot, visibleNodes) ←
    (Inquiry.ofFailure (p.render r.drawOptions)).attempting "Failed to render DOT"
  return { dot, visibleNodes, nodes := p.graph.nodeCount, edges := p.graph.edgeCount }

/-- Writes the drawing that a request asks for to a file, and gives the number
    of visible nodes. -/
def renderToFile {m : Type → Type} [Monad m] (files : Files m) (r : RenderRequest)
    (path : String) : m (Inquiry Nat) := do
  let p := i.presentation r
  let written ← match p.verdict with
    | .error t => pure (.error t)
    | .ok shown => do
        let written ← shown.writeFile files r.drawOptions path
        pure ((Inquiry.ofFailure written).attempting s!"Failed to write DOT file: {path}").verdict
  return ExceptT.mk ⟨written, p.events⟩

end Inspection

end Lineage
