import Std.Data.ExtTreeMap
import Std.Data.ExtTreeSet

/-! # Identifiers, and collections keyed by them

    Nodes, edges and clusters are named by text.  The three names live in one
    space on purpose: captions and styles are kept under the text of their
    owner, whatever kind of element the owner is.

    Order is code point order everywhere.  A `Table` lists its entries by key
    and an `IdSet` its members, and both are extensional: two tables with the
    same look-ups are the same table. -/

namespace Lineage

/-- Names a node of the relationship graph: the id of a type. -/
abbrev NodeId := String

/-- Names an edge: its two ends joined by an arrow, see `edgeId`. -/
abbrev EdgeId := String

/-- Names a cluster: a namespace, when clusters come from namespaces. -/
abbrev ClusterId := String

/-- Joins the two ends of an edge in the id of the edge. -/
def arrow : String := "->"

/-- A graph has at most one edge for an ordered pair, so the pair names it. -/
def edgeId (source target : NodeId) : EdgeId := source ++ arrow ++ target

/-- A finite map from texts, listed in code point order of its keys. -/
abbrev Table (α : Type) := Std.ExtTreeMap String α compare

/-- A finite set of texts, listed in code point order. -/
abbrev IdSet := Std.ExtTreeSet String compare

/-- The given texts in code point order, repetitions kept. -/
def sortIds (ids : List String) : List String := ids.mergeSort (fun a b => decide (a ≤ b))

end Lineage
