import Lineage.View.DanglingMode
import Lineage.Dot.Drawing
import Lineage.Analysis.Tally

/-! # What an inspection is asked, and what it answers -/

namespace Lineage

/-- Which dangling nodes to hide, if any. -/
abbrev DanglingFilter := Option DanglingMode

namespace DanglingFilter

/-- The name of a filter. -/
def name : DanglingFilter → String
  | none => "none"
  | some .all => "all"
  | some .incomings => "incomings"
  | some .outgoings => "outgoings"

/-- The filters under their names. -/
def names : List (String × DanglingFilter) :=
  [none, some .all, some .incomings, some .outgoings].map fun f => (name f, f)

end DanglingFilter

/-- Asks for a drawing. -/
structure RenderRequest where
  /-- The type whose neighborhood is drawn; without one the whole graph is. -/
  root? : Option NodeId := none
  /-- Draw the types of a namespace as one cluster. -/
  clusterByNamespace : Bool := false
  /-- The dangling nodes to hide. -/
  dropDangling : DanglingFilter := none
  /-- Leave the colors out. -/
  plain : Bool := false
  /-- With more visible nodes than this, ask for a faster layout. -/
  fastLimit : Option Nat := none
  deriving DecidableEq, Repr

/-- How the request wants its drawing. -/
def RenderRequest.drawOptions (r : RenderRequest) : DrawOptions := ⟨r.fastLimit, r.plain⟩

/-- A drawing as text, with the size of what it shows and of the graph. -/
structure RenderResponse where
  dot : String
  visibleNodes : Nat
  nodes : Nat
  edges : Nat
  deriving DecidableEq, Repr

/-- What became of the types of one module. -/
structure ModuleSummary where
  name : String
  tally : Tally
  deriving DecidableEq, Repr

/-- The size of the graph, and what became of the types of each module. -/
structure Summary where
  modules : List ModuleSummary
  nodes : Nat
  edges : Nat
  derivesFrom : Nat
  implements : Nat
  deriving DecidableEq, Repr

/-- A type that a search found. -/
structure TypeItem where
  id : NodeId
  name : String
  space : String
  /-- How many types derive from it or implement it. -/
  incoming : Nat
  /-- How many types it derives from or implements. -/
  outgoing : Nat
  deriving DecidableEq, Repr

/-- The types that a search found, and how many there are in all. -/
structure SearchResult where
  items : List TypeItem
  total : Nat
  deriving DecidableEq, Repr

end Lineage
