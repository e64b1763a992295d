import Lineage.Ident

/-! # Kinds of edges

    Kinds are kept beside the graph, under the ids of its edges, so that a
    consumer of the bare structure need not know them.  An edge keeps the
    kind it was first given: `EdgeKinds.record` never replaces an entry. -/

namespace Lineage

/-- How a type refers to another one. -/
inductive EdgeKind where
  /-- From a type to its base type. -/
  | derivesFrom
  /-- From a type to an interface. -/
  | implements
  deriving DecidableEq, Repr

/-- The kind of each edge, under the id of the edge. -/
abbrev EdgeKinds := Table EdgeKind

/-- Records the kind of an edge that has none yet, and says whether it did. -/
def EdgeKinds.record (kinds : EdgeKinds) (edge : EdgeId) (kind : EdgeKind) : EdgeKinds × Bool :=
  (kinds.insertIfNew edge kind, !kinds.contains edge)

/-- How many edges have the given kind. -/
def EdgeKinds.countOf (kinds : EdgeKinds) (kind : EdgeKind) : Nat :=
  kinds.toList.countP (fun entry => entry.2 = kind)

end Lineage
