import Lineage.Analysis.Plan
import Lineage.Event
import Lineage.View.Neighborhood

/-! # Deriving the relationship graph

    An analysis keeps one graph that grows with every source it works through.
    For each declared type that takes part, `Analysis.takeUp` changes the
    graph and what is kept beside it, as its plan says.

    * A type has an edge to its base, unless the base is a configured root.
    * It has an edge to each interface of its own: one that its base lists is
      inherited and gets no edge.
    * Types of an ignored namespace neither take part nor become ends of
      edges; an ignored base still passes its interfaces on.
    * An edge keeps the kind it had first. -/

namespace Lineage

/-- The graph, and what is kept beside it about its nodes and edges. -/
structure Analysis where
  graph : Graph := {}
  descriptors : Table Descriptor := ∅
  edgeKinds : EdgeKinds := ∅

namespace Analysis

/-- Keeps a descriptor, in place of an earlier one of the same type. -/
def describe (a : Analysis) (d : Descriptor) : Analysis :=
  { a with descriptors := a.descriptors.insert d.id d }

/-- Adds an edge of a kind, and says whether the graph lacked it. -/
def link (a : Analysis) (kind : EdgeKind) (source target : NodeId) : Analysis × Bool :=
  match a.graph.addEdge source target with
  | (graph, some e) => ({ a with graph, edgeKinds := (a.edgeKinds.record e.id kind).1 }, true)
  | (graph, none) => ({ a with graph }, false)

/-- Links a type to its base, which is described anew even if the edge is
    there. -/
def takeUpBase (o : Options) (id : NodeId) (a : Analysis) (base : TypeFact) : Analysis :=
  if o.ignores base then a
  else (a.link .derivesFrom id base.id).1.describe (.ofFact base)

/-- Links a type to an interface, which is described along with a new edge
    only. -/
def takeUpInterface (o : Options) (id : NodeId) (a : Analysis) (interface : TypeFact) :
    Logged Analysis :=
  if o.ignores interface then ⟨a, []⟩
  else
    match a.link .implements id interface.id with
    | (a, true) => ⟨a.describe (.ofFact interface), []⟩
    | (a, false) => ⟨a, [.edgePresent id interface.id]⟩

/-- Takes up a type that takes part. -/
def takeUp (o : Options) (a : Analysis) (plan : Plan) : Logged Analysis := do
  let type := Descriptor.ofFact plan.fact
  let a := { a with graph := a.graph.withNode type.id }
  let a := plan.base?.elim a (takeUpBase o type.id a)
  let a ← plan.interfaces.foldlM (takeUpInterface o type.id) a
  return a.describe type

/-- Works on one declared type, and counts what became of it. -/
def step (o : Options) (src : FactSource) (state : Analysis × Tally) (id : String) :
    Logged (Analysis × Tally) :=
  let (a, tally) := state
  match o.plan src id with
  | .ok (some plan) => do
      return (← takeUp o a plan, { tally with processed := tally.processed + 1 })
  | .ok none => ⟨(a, { tally with skipped := tally.skipped + 1 }), []⟩
  | .error f => ⟨(a, { tally with malformed := tally.malformed + 1 }), [.typeDropped id f]⟩

/-- Works through a source: every type it declares, in order. -/
def process (o : Options) (a : Analysis) (src : FactSource) : Logged (Analysis × Tally) := do
  let (a, tally) ← src.declared.foldlM (step o src) (a, {})
  ⟨(), [.sourceDone tally a.graph.nodeCount a.graph.edgeCount]⟩
  return (a, tally)

/-- What neighborhoods are collected from. -/
def surroundings (a : Analysis) : Surroundings := ⟨a.graph, a.descriptors, a.edgeKinds⟩

end Analysis

end Lineage
