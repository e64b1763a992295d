/-! # Which nodes count as dangling -/

namespace Lineage

/-- What a node lacks when it is called dangling. -/
inductive DanglingMode where
  /-- No visible edge at all. -/
  | all
  /-- No visible edge that points at it. -/
  | incomings
  /-- No visible edge that leaves it. -/
  | outgoings
  deriving DecidableEq, Repr

/-- The label of the mask that hides the dangling nodes of a mode. -/
def DanglingMode.label : DanglingMode → String
  | .all => "Nodes without edges"
  | .incomings => "Nodes without incomings"
  | .outgoings => "Nodes without outgoings"

end Lineage
