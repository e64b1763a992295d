import Lineage.Ident
import Lineage.Failure

/-! # The relationship graph

    A directed graph that only grows.  Node ids are unique, an ordered pair of
    nodes has at most one edge, and every collection lists its elements in the
    order in which they came.  Adding what is already there changes nothing
    and is reported as `none`.

    Edges are their pair of ends.  The id of an edge is read off the pair, and
    two different edges can have one id when ids of nodes hold an arrow;
    `findEdge?` then gives the younger one. -/

namespace Lineage

/-- A directed edge. -/
structure Edge where
  source : NodeId
  target : NodeId
  deriving DecidableEq, Repr

/-- The id of an edge. -/
def Edge.id (e : Edge) : EdgeId := edgeId e.source e.target

/-- A named group of nodes, drawn as a nested region. -/
structure Cluster where
  id : ClusterId
  members : List NodeId
  deriving DecidableEq, Repr

/-- Nodes, edges and clusters, each oldest first. -/
structure Graph where
  nodes : List NodeId := []
  edges : List Edge := []
  clusters : List Cluster := []
  deriving DecidableEq, Repr

namespace Graph

/-! ## Adding -/

/-- The graph with `id` among its nodes. -/
def withNode (g : Graph) (id : NodeId) : Graph :=
  if id ∈ g.nodes then g else { g with nodes := g.nodes ++ [id] }

@[simp] theorem mem_nodes_withNode {g : Graph} {id x : NodeId} :
    x ∈ (g.withNode id).nodes ↔ x ∈ g.nodes ∨ x = id := by
  rw [withNode]
  split
  · next h => exact ⟨Or.inl, fun hx => hx.elim (fun hx => hx) (fun hx => hx ▸ h)⟩
  · simp

@[simp] theorem edges_withNode {g : Graph} {id : NodeId} : (g.withNode id).edges = g.edges := by
  rw [withNode]
  split <;> rfl

@[simp] theorem clusters_withNode {g : Graph} {id : NodeId} :
    (g.withNode id).clusters = g.clusters := by
  rw [withNode]
  split <;> rfl

/-- Adds a node and gives its position, unless the graph has it already. -/
def addNode (g : Graph) (id : NodeId) : Graph × Option Nat :=
  if id ∈ g.nodes then (g, none) else (g.withNode id, some g.nodes.length)

/-- Adds an edge, and its ends where they are missing, unless the graph has
    the edge already. -/
def addEdge (g : Graph) (source target : NodeId) : Graph × Option Edge :=
  let g := (g.withNode source).withNode target
  let e : Edge := ⟨source, target⟩
  if e ∈ g.edges then (g, none) else ({ g with edges := g.edges ++ [e] }, some e)

/-- Adds a cluster of existing nodes, unless its id is taken.  The first
    member that is no node of the graph is a failure and nothing is added. -/
def addCluster (g : Graph) (id : ClusterId) (members : List NodeId) :
    Except Failure (Graph × Option Cluster) :=
  if g.clusters.any (·.id = id) then .ok (g, none)
  else
    match members.find? (· ∉ g.nodes) with
    | some stranger => .error (.unknownNode stranger)
    | none =>
        let c : Cluster := ⟨id, members.eraseDups⟩
        .ok ({ g with clusters := g.clusters ++ [c] }, some c)

/-! ## Looking up -/

/-- Whether the graph has the node. -/
def containsNode (g : Graph) (id : NodeId) : Bool := id ∈ g.nodes

/-- The node of that id. -/
def findNode? (g : Graph) (id : NodeId) : Option NodeId := g.nodes.find? (· = id)

/-- The youngest edge of that id. -/
def findEdge? (g : Graph) (id : EdgeId) : Option Edge := g.edges.reverse.find? (·.id = id)

/-- The cluster of that id. -/
def findCluster? (g : Graph) (id : ClusterId) : Option Cluster := g.clusters.find? (·.id = id)

/-- The edges that point at a node, oldest first. -/
def incoming (g : Graph) (id : NodeId) : Except Failure (List Edge) :=
  if id ∈ g.nodes then .ok (g.edges.filter (·.target = id)) else .error (.unknownNode id)

/-- The edges that leave a node, oldest first. -/
def outgoing (g : Graph) (id : NodeId) : Except Failure (List Edge) :=
  if id ∈ g.nodes then .ok (g.edges.filter (·.source = id)) else .error (.unknownNode id)

/-- How many nodes there are. -/
def nodeCount (g : Graph) : Nat := g.nodes.length

/-- How many edges there are. -/
def edgeCount (g : Graph) : Nat := g.edges.length

end Graph

end Lineage
