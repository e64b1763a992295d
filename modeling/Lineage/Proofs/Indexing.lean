import Lineage.Proofs.Operations

/-! # Graphs kept with indexes

    `Graph` lists its elements and looks for them in its lists.  A graph that
    is to be fast keeps indexes instead: nodes and edges have positions, an
    edge is stored with the positions of its ends, and two tables lead from ids
    to positions.  `IndexedGraph` is that representation.  Membership is asked
    of the tables, an edge is recognized by the positions of its ends, and the
    edges at a node are collected by position and put in order.

    Nothing of this can be told from outside.  What keeps the tables in step
    with the lists is `Indexed`; every operation preserves it and does to the
    lists what the operation of `Graph` does (`addNode_spec`, `addEdge_spec`,
    `addCluster_spec`).  The headline, `indexed_graph_is_graph`, is about runs
    of operations of any length, with what each of them reports. -/

namespace Lineage

/-! ## The representation -/

/-- An edge with the positions of its ends. -/
structure Arc where
  source : Nat
  target : Nat
  edge : Edge

/-- Nodes and edges in order of position, and tables from ids to positions:
    each node, and the youngest edge of an id. -/
structure IndexedGraph where
  nodes : List NodeId := []
  arcs : List Arc := []
  nodeAt : Table Nat := ∅
  edgeAt : Table Nat := ∅
  clusters : List Cluster := []

namespace IndexedGraph

/-- The graph that is represented. -/
def graph (x : IndexedGraph) : Graph := ⟨x.nodes, x.arcs.map (·.edge), x.clusters⟩

/-- Stores a new node. -/
def enter (x : IndexedGraph) (id : NodeId) : IndexedGraph :=
  { x with nodes := x.nodes ++ [id], nodeAt := x.nodeAt.insert id x.nodes.length }

/-- Adds a node unless its id has a position. -/
def addNode (x : IndexedGraph) (id : NodeId) : IndexedGraph × Option Nat :=
  if x.nodeAt.contains id then (x, none) else (x.enter id, some x.nodes.length)

/-- The position of a node, which is stored if need be. -/
def place (x : IndexedGraph) (id : NodeId) : IndexedGraph × Nat :=
  match x.nodeAt[id]? with
  | some i => (x, i)
  | none => (x.enter id, x.nodes.length)

/-- Adds an edge unless there is one between the positions of its ends. -/
def addEdge (x : IndexedGraph) (source target : NodeId) : IndexedGraph × Option Edge :=
  let (x, i) := x.place source
  let (x, j) := x.place target
  if x.arcs.any fun a => a.source = i && a.target = j then (x, none)
  else
    let e : Edge := ⟨source, target⟩
    ({ x with arcs := x.arcs ++ [⟨i, j, e⟩], edgeAt := x.edgeAt.insert e.id x.arcs.length },
      some e)

/-- Takes one more member into a cluster, if it has a position. -/
def gather (x : IndexedGraph) (ms : List NodeId) (m : NodeId) : Except Failure (List NodeId) :=
  if x.nodeAt.contains m then .ok (if m ∈ ms then ms else ms ++ [m]) else .error (.unknownNode m)

/-- Adds a cluster unless its id is taken. -/
def addCluster (x : IndexedGraph) (id : ClusterId) (members : List NodeId) :
    Except Failure (IndexedGraph × Option Cluster) :=
  if x.clusters.any (·.id = id) then .ok (x, none)
  else do
    let c : Cluster := ⟨id, ← members.foldlM x.gather []⟩
    return ({ x with clusters := x.clusters ++ [c] }, some c)

/-- Performs an operation; one that fails leaves everything as it is. -/
def perform (x : IndexedGraph) : Graph.Operation → IndexedGraph × Graph.Reply
  | .node id => let (x, i?) := x.addNode id; (x, .node i?)
  | .edge source target => let (x, e?) := x.addEdge source target; (x, .edge e?)
  | .cluster id members =>
      match x.addCluster id members with
      | .ok (x, c?) => (x, .cluster (.ok c?))
      | .error f => (x, .cluster (.error f))

/-- What some operations make of nothing. -/
def after (ops : List Graph.Operation) : IndexedGraph :=
  ops.foldl (fun x op => (x.perform op).1) {}

/-- Whether the id has a position. -/
def containsNode (x : IndexedGraph) (id : NodeId) : Bool := x.nodeAt.contains id

/-- The node at the position of the id. -/
def findNode? (x : IndexedGraph) (id : NodeId) : Option NodeId := x.nodeAt[id]?.bind (x.nodes[·]?)

/-- The edge at the position of the id. -/
def findEdge? (x : IndexedGraph) (id : EdgeId) : Option Edge :=
  (x.edgeAt[id]?.bind (x.arcs[·]?)).map (·.edge)

/-- The edges that have a position for an end: adjacency lists give them
    youngest first, and sorting by their own position turns them round. -/
def edgesAt (x : IndexedGraph) (endOf : Arc → Nat) (i : Nat) : List Edge :=
  let adjacent := (x.arcs.zipIdx.filter fun a => endOf a.1 = i).reverse
  (adjacent.mergeSort fun a b => a.2 ≤ b.2).map (·.1.edge)

/-- The edges that point at a node, oldest first. -/
def incoming (x : IndexedGraph) (id : NodeId) : Except Failure (List Edge) :=
  match x.nodeAt[id]? with
  | some i => .ok (x.edgesAt (·.target) i)
  | none => .error (.unknownNode id)

/-- The edges that leave a node, oldest first. -/
def outgoing (x : IndexedGraph) (id : NodeId) : Except Failure (List Edge) :=
  match x.nodeAt[id]? with
  | some i => .ok (x.edgesAt (·.source) i)
  | none => .error (.unknownNode id)

/-! ## The tables are in step with the lists -/

/-- The tables give the positions in the lists, and arcs those of their ends. -/
structure Indexed (x : IndexedGraph) : Prop where
  nodeAt : ∀ (id : NodeId) i, x.nodeAt[id]? = some i ↔ x.nodes[i]? = some id
  edgeAt_lt : ∀ (id : EdgeId) i, x.edgeAt[id]? = some i → i < x.arcs.length
  findEdge : ∀ id, x.findEdge? id = x.graph.findEdge? id
  ends : ∀ a ∈ x.arcs,
    x.nodes[a.source]? = some a.edge.source ∧ x.nodes[a.target]? = some a.edge.target

/-- What stands at a position of a list with one more member. -/
theorem getElem?_concat_eq_some {α : Type} {xs : List α} {x y : α} {i : Nat} :
    (xs ++ [x])[i]? = some y ↔ xs[i]? = some y ∨ i = xs.length ∧ x = y := by
  rcases Nat.lt_trichotomy i xs.length with h | rfl | h
  · rw [List.getElem?_append_left h]
    simp [Nat.ne_of_lt h]
  · simp
  · have hxs : xs[i]? = none := List.getElem?_eq_none (Nat.le_of_lt h)
    have hxsx : (xs ++ [x])[i]? = none := List.getElem?_eq_none (by simp; omega)
    simp [hxs, hxsx, Nat.ne_of_gt h]

variable {x : IndexedGraph}

theorem Indexed.empty : Indexed {} where
  nodeAt := by
    intro id i
    rw [Std.ExtTreeMap.getElem?_empty]
    simp
  edgeAt_lt := by
    intro id i h
    exact nomatch Std.ExtTreeMap.getElem?_empty.symm.trans h
  findEdge := by
    intro id
    rw [findEdge?, Std.ExtTreeMap.getElem?_empty]
    rfl
  ends := fun a ha => nomatch ha

namespace Indexed

theorem contains_iff (h : x.Indexed) (id : NodeId) :
    x.nodeAt.contains id = true ↔ id ∈ x.nodes := by
  rw [Std.ExtTreeMap.contains_iff_mem, mem_table_iff, List.mem_iff_getElem?]
  exact exists_congr fun i => h.nodeAt id i

theorem nodeAt_eq_none (h : x.Indexed) (id : NodeId) : x.nodeAt[id]? = none ↔ id ∉ x.nodes := by
  rw [← h.contains_iff id, Bool.not_eq_true, Std.ExtTreeMap.contains_eq_isSome_getElem?,
    Option.isSome_eq_false_iff, Option.isNone_iff_eq_none]

/-- A node has one position. -/
theorem position_unique (h : x.Indexed) {id : NodeId} {i j : Nat} (hi : x.nodes[i]? = some id)
    (hj : x.nodes[j]? = some id) : i = j :=
  Option.some.inj (((h.nodeAt id i).mpr hi).symm.trans ((h.nodeAt id j).mpr hj))

/-! ## Nodes -/

/-- A new node gets the next position. -/
theorem enter (h : x.Indexed) {id : NodeId} (hid : id ∉ x.nodes) : (x.enter id).Indexed where
  nodeAt := by
    intro id' i
    show (x.nodeAt.insert id x.nodes.length)[id']? = some i ↔ (x.nodes ++ [id])[i]? = some id'
    rw [getElem?_insert, getElem?_concat_eq_some]
    by_cases hid' : id = id'
    · subst hid'
      have hfree : x.nodes[i]? ≠ some id := fun hi => hid (List.mem_iff_getElem?.mpr ⟨i, hi⟩)
      rw [if_pos rfl, Option.some.injEq]
      simp [hfree, eq_comm]
    · rw [if_neg hid', h.nodeAt]
      simp [hid']
  edgeAt_lt := h.edgeAt_lt
  findEdge := h.findEdge
  ends := by
    intro a ha
    obtain ⟨hs, ht⟩ := h.ends a ha
    exact ⟨getElem?_concat_eq_some.mpr (Or.inl hs), getElem?_concat_eq_some.mpr (Or.inl ht)⟩

theorem graph_enter {id : NodeId} (hid : id ∉ x.nodes) :
    (x.enter id).graph = x.graph.withNode id := by
  rw [Graph.withNode, if_neg (show id ∉ x.graph.nodes from hid)]
  rfl

theorem addNode_spec (h : x.Indexed) (id : NodeId) :
    (x.addNode id).1.Indexed ∧
      ((x.addNode id).1.graph, (x.addNode id).2) = x.graph.addNode id ∧
      ((x.addNode id).2 = none → (x.addNode id).1 = x) := by
  rw [addNode, Graph.addNode]
  by_cases hid : id ∈ x.nodes
  · rw [if_pos ((h.contains_iff id).mpr hid), if_pos (show id ∈ x.graph.nodes from hid)]
    exact ⟨h, rfl, fun _ => rfl⟩
  · rw [if_neg (fun hc => hid ((h.contains_iff id).mp hc)), if_neg (show id ∉ x.graph.nodes from hid)]
    refine ⟨h.enter hid, Prod.ext (graph_enter hid) rfl, fun hno => ?_⟩
    exact absurd hno (Option.some_ne_none _)

/-- What is made of `x` by placing a node: it stands at the position, other
    nodes stand where they stood, and a node that was there changes nothing. -/
structure Placed (x y : IndexedGraph) (id : NodeId) (i : Nat) : Prop where
  indexed : y.Indexed
  graph : y.graph = x.graph.withNode id
  stands : y.nodes[i]? = some id
  others : ∀ (j : Nat) (id' : NodeId), x.nodes[j]? = some id' → y.nodes[j]? = some id'
  unchanged : id ∈ x.nodes → y = x

theorem placed (h : x.Indexed) (id : NodeId) : Placed x (x.place id).1 id (x.place id).2 := by
  rw [place]
  cases hat : x.nodeAt[id]? with
  | some i =>
      have hi := (h.nodeAt id i).mp hat
      have hid : id ∈ x.nodes := List.mem_iff_getElem?.mpr ⟨i, hi⟩
      exact ⟨h, (if_pos hid).symm, hi, fun _ _ hj => hj, fun _ => rfl⟩
  | none =>
      have hid := (h.nodeAt_eq_none id).mp hat
      refine ⟨h.enter hid, graph_enter hid, List.getElem?_concat_length, ?_, ?_⟩
      · intro j id' hj
        exact getElem?_concat_eq_some.mpr (Or.inl hj)
      · intro hmem
        exact absurd hmem hid

/-! ## Edges -/

/-- Arcs between two positions are edges between their nodes. -/
theorem any_arcs_iff (h : x.Indexed) {source target : NodeId} {i j : Nat}
    (hi : x.nodes[i]? = some source) (hj : x.nodes[j]? = some target) :
    x.arcs.any (fun a => a.source = i && a.target = j) = true ↔
      (⟨source, target⟩ : Edge) ∈ x.graph.edges := by
  show _ ↔ _ ∈ x.arcs.map (·.edge)
  rw [List.any_eq_true, List.mem_map]
  refine exists_congr fun a => and_congr_right fun ha => ?_
  obtain ⟨hs, ht⟩ := h.ends a ha
  rw [Bool.and_eq_true, decide_eq_true_iff, decide_eq_true_iff]
  constructor
  · rintro ⟨rfl, rfl⟩
    rw [Option.some.inj (hi.symm.trans hs), Option.some.inj (hj.symm.trans ht)]
  · intro hedge
    rw [hedge] at hs ht
    exact ⟨h.position_unique hs hi, h.position_unique ht hj⟩

/-- A new arc gets the next position, and its id leads to it from now on. -/
theorem link (h : x.Indexed) {source target : NodeId} {i j : Nat}
    (hi : x.nodes[i]? = some source) (hj : x.nodes[j]? = some target) :
    Indexed { x with
      arcs := x.arcs ++ [⟨i, j, ⟨source, target⟩⟩]
      edgeAt := x.edgeAt.insert (edgeId source target) x.arcs.length } where
  nodeAt := h.nodeAt
  edgeAt_lt := by
    intro id k hk
    rw [getElem?_insert] at hk
    show k < (x.arcs ++ _).length
    rw [List.length_append, List.length_singleton]
    split at hk
    · rw [← Option.some.inj hk]
      omega
    · have := h.edgeAt_lt id k hk
      omega
  findEdge := by
    intro id
    rw [findEdge?, Graph.findEdge?]
    show (((x.edgeAt.insert _ _)[id]?).bind ((x.arcs ++ _)[·]?)).map (·.edge) =
      ((x.arcs ++ _).map (·.edge)).reverse.find? (·.id = id)
    rw [getElem?_insert, List.map_append, List.reverse_append]
    by_cases hid : edgeId source target = id
    · subst hid
      simp [Edge.id]
    · have hold := h.findEdge id
      rw [findEdge?, Graph.findEdge?] at hold
      rw [if_neg hid]
      have hkeep : (x.edgeAt[id]?).bind ((x.arcs ++ [⟨i, j, ⟨source, target⟩⟩])[·]?) =
          (x.edgeAt[id]?).bind (x.arcs[·]?) := by
        cases hat : x.edgeAt[id]? with
        | none => rfl
        | some k => exact List.getElem?_append_left (h.edgeAt_lt id k hat)
      rw [hkeep, hold]
      simp [Edge.id, hid, graph]
  ends := by
    intro a ha
    rcases List.mem_append.mp ha with ha | ha
    · exact h.ends a ha
    · rw [List.mem_singleton.mp ha]
      exact ⟨hi, hj⟩

theorem addEdge_spec (h : x.Indexed) (source target : NodeId) :
    (x.addEdge source target).1.Indexed ∧
      ((x.addEdge source target).1.graph, (x.addEdge source target).2) =
        x.graph.addEdge source target ∧
      ((x.addEdge source target).2 = none → (x.addEdge source target).1 = x) := by
  rw [addEdge, Graph.addEdge]
  have hy := h.placed source
  generalize x.place source = y at hy ⊢
  have hz := hy.indexed.placed target
  dsimp only
  generalize y.1.place target = z at hz ⊢
  have hgraph : z.1.graph = (x.graph.withNode source).withNode target := by
    rw [hz.graph, hy.graph]
  have hany := hz.indexed.any_arcs_iff (hz.others _ _ hy.stands) hz.stands
  rw [← hgraph]
  by_cases hedge : (⟨source, target⟩ : Edge) ∈ z.1.graph.edges
  · rw [if_pos (hany.mpr hedge), if_pos hedge]
    refine ⟨hz.indexed, rfl, fun _ => ?_⟩
    -- the edge was there, hence so were its ends
    rw [hgraph, Graph.edges_withNode, Graph.edges_withNode] at hedge
    obtain ⟨a, ha, hae⟩ := List.mem_map.mp hedge
    have hends := h.ends a ha
    rw [hae] at hends
    have hsource := hy.unchanged (List.mem_iff_getElem?.mpr ⟨_, hends.1⟩)
    rw [hz.unchanged (hsource ▸ List.mem_iff_getElem?.mpr ⟨_, hends.2⟩), hsource]
  · rw [if_neg (fun hc => hedge (hany.mp hc)), if_neg hedge]
    refine ⟨hz.indexed.link (hz.others _ _ hy.stands) hz.stands, ?_, fun hno => ?_⟩
    · simp [graph]
    · exact absurd hno (Option.some_ne_none _)

/-! ## Clusters -/

/-- Members are gathered as long as they are nodes, each once. -/
theorem foldlM_gather (h : x.Indexed) (members ms : List NodeId) :
    members.foldlM x.gather ms =
      match members.find? (· ∉ x.nodes) with
      | some stranger => .error (.unknownNode stranger)
      | none => .ok (adjoinAll ms members) := by
  induction members generalizing ms with
  | nil => rfl
  | cons m members ih =>
      rw [List.foldlM_cons, gather, List.find?_cons]
      by_cases hm : m ∈ x.nodes
      · rw [if_pos ((h.contains_iff m).mpr hm)]
        simp only [hm, not_true_eq_false, decide_false]
        exact ih (adjoin ms m)
      · rw [if_neg (fun hc => hm ((h.contains_iff m).mp hc))]
        simp only [hm, not_false_eq_true, decide_true]
        rfl

theorem addCluster_spec (h : x.Indexed) (id : ClusterId) (members : List NodeId) :
    (x.addCluster id members).map (fun added => (added.1.graph, added.2)) =
        x.graph.addCluster id members ∧
      ∀ added, x.addCluster id members = .ok added →
        added.1.Indexed ∧ (added.2 = none → added.1 = x) := by
  have hstrangers : members.find? (· ∉ x.graph.nodes) = members.find? (· ∉ x.nodes) := rfl
  rw [addCluster, Graph.addCluster, h.foldlM_gather, ← eraseDups_eq_adjoinAll, hstrangers]
  by_cases htaken : x.clusters.any (·.id = id) = true
  · rw [if_pos htaken, if_pos (show x.graph.clusters.any (·.id = id) = true from htaken)]
    refine ⟨rfl, fun added hadded => ?_⟩
    obtain rfl := Except.ok.inj hadded
    exact ⟨h, fun _ => rfl⟩
  · rw [if_neg htaken, if_neg (show ¬ x.graph.clusters.any (·.id = id) = true from htaken)]
    cases members.find? (· ∉ x.nodes) with
    | some stranger =>
        refine ⟨rfl, fun added hadded => ?_⟩
        cases hadded
    | none =>
        refine ⟨rfl, fun added hadded => ?_⟩
        obtain rfl := Except.ok.inj hadded
        refine ⟨⟨h.nodeAt, h.edgeAt_lt, h.findEdge, h.ends⟩, fun hno => ?_⟩
        exact absurd hno (Option.some_ne_none _)

/-! ## Looking up -/

theorem findNode?_eq (h : x.Indexed) (id : NodeId) : x.findNode? id = x.graph.findNode? id := by
  rw [findNode?]
  cases hat : x.nodeAt[id]? with
  | none =>
      have hid := (h.nodeAt_eq_none id).mp hat
      rw [Graph.findNode?_eq, if_neg (show id ∉ x.graph.nodes from hid)]
      rfl
  | some i =>
      have hi := (h.nodeAt id i).mp hat
      have hid : id ∈ x.graph.nodes := List.mem_iff_getElem?.mpr ⟨i, hi⟩
      rw [Graph.findNode?_eq, if_pos hid]
      exact hi

theorem containsNode_eq (h : x.Indexed) (id : NodeId) :
    x.containsNode id = x.graph.containsNode id := by
  rw [Bool.eq_iff_iff, containsNode, h.contains_iff, Graph.containsNode, decide_eq_true_iff]
  rfl

end Indexed

/-- Sorting by position undoes that adjacency lists are youngest first. -/
theorem edgesAt_eq (x : IndexedGraph) (endOf : Arc → Nat) (i : Nat) :
    x.edgesAt endOf i = (x.arcs.filter (endOf · = i)).map (·.edge) := by
  let found := x.arcs.zipIdx.filter fun a => endOf a.1 = i
  have hsorted : found.Pairwise fun a b => decide (a.2 ≤ b.2) = true := by
    refine List.Pairwise.filter _ ?_
    have hpositions := List.pairwise_lt_range' (s := 0) (n := x.arcs.length) 1
    rw [← List.zipIdx_map_snd, List.pairwise_map] at hpositions
    exact hpositions.imp fun hlt => decide_eq_true (Nat.le_of_lt hlt)
  have hperm : (found.reverse.mergeSort fun a b => a.2 ≤ b.2).Perm found :=
    (List.mergeSort_perm _ _).trans (List.reverse_perm found)
  have hsame : (found.reverse.mergeSort fun a b => a.2 ≤ b.2) = found := by
    refine hperm.eq_of_pairwise ?_ (List.pairwise_mergeSort ?_ ?_ _) hsorted
    · -- at one position there is one arc
      intro a b ha hb hab hba
      have hat : a.2 = b.2 := Nat.le_antisymm (of_decide_eq_true hab) (of_decide_eq_true hba)
      have ha' := List.mem_zipIdx_iff_getElem?.mp (List.mem_filter.mp (hperm.mem_iff.mp ha)).1
      have hb' := List.mem_zipIdx_iff_getElem?.mp (List.mem_filter.mp hb).1
      rw [hat] at ha'
      exact Prod.ext (Option.some.inj (ha'.symm.trans hb')) hat
    · intro a b c hab hbc
      exact decide_eq_true (Nat.le_trans (of_decide_eq_true hab) (of_decide_eq_true hbc))
    · intro a b
      rw [Bool.or_eq_true, decide_eq_true_iff, decide_eq_true_iff]
      exact Nat.le_total a.2 b.2
  show (found.reverse.mergeSort fun a b => a.2 ≤ b.2).map ((·.edge) ∘ Prod.fst) = _
  rw [hsame, ← List.map_map]
  have hfst : found.map Prod.fst = (x.arcs.zipIdx.map Prod.fst).filter (endOf · = i) := by
    rw [List.filter_map]
    rfl
  rw [hfst, List.zipIdx_map_fst]

namespace Indexed

/-- The edges with an end at the position of a node are those with that node
    for an end. -/
theorem edgesAt_eq_filter (h : x.Indexed) {endOf : Arc → Nat} {nodeOf : Edge → NodeId}
    (hends : ∀ a ∈ x.arcs, x.nodes[endOf a]? = some (nodeOf a.edge)) {id : NodeId} {i : Nat}
    (hi : x.nodes[i]? = some id) :
    x.edgesAt endOf i = x.graph.edges.filter (nodeOf · = id) := by
  rw [edgesAt_eq, graph, List.filter_map]
  refine congrArg (List.map Arc.edge) (List.filter_congr fun a ha => ?_)
  have hat := hends a ha
  rw [Bool.eq_iff_iff, Function.comp_apply, decide_eq_true_iff, decide_eq_true_iff]
  constructor
  · rintro rfl
    exact Option.some.inj (hat.symm.trans hi)
  · intro hid
    exact h.position_unique (hid ▸ hat) hi

/-- The edges at a node are found from its position, which it has when it is
    a node. -/
theorem edgesOf_eq (h : x.Indexed) {endOf : Arc → Nat} {nodeOf : Edge → NodeId}
    (hends : ∀ a ∈ x.arcs, x.nodes[endOf a]? = some (nodeOf a.edge)) (id : NodeId) :
    (match x.nodeAt[id]? with
      | some i => .ok (x.edgesAt endOf i)
      | none => .error (.unknownNode id)) =
    (if id ∈ x.graph.nodes then .ok (x.graph.edges.filter (nodeOf · = id))
      else .error (.unknownNode id) : Except Failure (List Edge)) := by
  cases hat : x.nodeAt[id]? with
  | none => exact (if_neg ((h.nodeAt_eq_none id).mp hat)).symm
  | some i =>
      have hi := (h.nodeAt id i).mp hat
      rw [if_pos (show id ∈ x.graph.nodes from List.mem_iff_getElem?.mpr ⟨i, hi⟩)]
      exact congrArg Except.ok (h.edgesAt_eq_filter hends hi)

theorem incoming_eq (h : x.Indexed) (id : NodeId) : x.incoming id = x.graph.incoming id :=
  h.edgesOf_eq (fun a ha => (h.ends a ha).2) id

theorem outgoing_eq (h : x.Indexed) (id : NodeId) : x.outgoing id = x.graph.outgoing id :=
  h.edgesOf_eq (fun a ha => (h.ends a ha).1) id

/-! ## Runs -/

/-- An operation keeps the tables in step, does to the lists what it does to a
    graph, and changes nothing at all unless it reports something new. -/
theorem perform_spec (h : x.Indexed) (op : Graph.Operation) :
    (x.perform op).1.Indexed ∧
      ((x.perform op).1.graph, (x.perform op).2) = x.graph.perform op ∧
      ((x.perform op).2.added = false → (x.perform op).1 = x) := by
  cases op with
  | node id =>
      obtain ⟨hindexed, hsame, hkept⟩ := h.addNode_spec id
      rw [perform, Graph.perform, ← hsame]
      exact ⟨hindexed, rfl, fun hno => hkept (by simpa [Graph.Reply.added] using hno)⟩
  | edge source target =>
      obtain ⟨hindexed, hsame, hkept⟩ := h.addEdge_spec source target
      rw [perform, Graph.perform, ← hsame]
      exact ⟨hindexed, rfl, fun hno => hkept (by simpa [Graph.Reply.added] using hno)⟩
  | cluster id members =>
      obtain ⟨hsame, hadded⟩ := h.addCluster_spec id members
      rw [perform, Graph.perform, ← hsame]
      cases hadd : x.addCluster id members with
      | error f => exact ⟨h, rfl, fun _ => rfl⟩
      | ok added =>
          obtain ⟨hindexed, hkept⟩ := hadded added hadd
          exact ⟨hindexed, rfl, fun hno => hkept (by simpa [Graph.Reply.added] using hno)⟩

theorem after (ops : List Graph.Operation) :
    (IndexedGraph.after ops).Indexed ∧ (IndexedGraph.after ops).graph = Graph.after ops := by
  have hrun : ∀ (ops : List Graph.Operation) (x : IndexedGraph), x.Indexed →
      (ops.foldl (fun x op => (x.perform op).1) x).Indexed ∧
        (ops.foldl (fun x op => (x.perform op).1) x).graph =
          ops.foldl (fun g op => (g.perform op).1) x.graph := by
    intro ops
    induction ops with
    | nil => exact fun x h => ⟨h, rfl⟩
    | cons op ops ih =>
        intro x h
        obtain ⟨hindexed, hsame, -⟩ := h.perform_spec op
        obtain ⟨hend, hgraph⟩ := ih _ hindexed
        refine ⟨hend, ?_⟩
        rw [List.foldl_cons, hgraph, List.foldl_cons, ← hsame]
  exact hrun ops {} .empty

end Indexed

/-- What can be asked of a graph is answered by its lists, and no representation
    answers otherwise. -/
structure Answers (x : IndexedGraph) (g : Graph) : Prop where
  containsNode : ∀ id, x.containsNode id = g.containsNode id ∧
    (g.containsNode id = true ↔ id ∈ g.nodes)
  findNode : ∀ id, x.findNode? id = g.findNode? id ∧
    g.findNode? id = if id ∈ g.nodes then some id else none
  /-- The edge that was added last under the id. -/
  findEdge : ∀ id, x.findEdge? id = g.findEdge? id ∧
    g.findEdge? id = (g.edges.filter (·.id = id)).getLast?
  incoming : ∀ id, x.incoming id = g.incoming id ∧
    g.incoming id = if id ∈ g.nodes then .ok (g.edges.filter (·.target = id))
      else .error (.unknownNode id)
  outgoing : ∀ id, x.outgoing id = g.outgoing id ∧
    g.outgoing id = if id ∈ g.nodes then .ok (g.edges.filter (·.source = id))
      else .error (.unknownNode id)
  /-- An edge from a node to itself is listed once on either side. -/
  loop : ∀ id, (⟨id, id⟩ : Edge) ∈ g.edges →
    (g.edges.filter (·.target = id)).count ⟨id, id⟩ = 1 ∧
      (g.edges.filter (·.source = id)).count ⟨id, id⟩ = 1

theorem Indexed.answers (h : x.Indexed) (hg : x.graph.WellFormed) : x.Answers x.graph where
  containsNode id := ⟨h.containsNode_eq id, decide_eq_true_iff⟩
  findNode id := ⟨h.findNode?_eq id, Graph.findNode?_eq x.graph id⟩
  findEdge id := ⟨h.findEdge id, List.getLast?_filter.symm⟩
  incoming id := ⟨h.incoming_eq id, rfl⟩
  outgoing id := ⟨h.outgoing_eq id, rfl⟩
  loop := by
    intro id hloop
    constructor
    · exact List.count_eq_one_of_mem (hg.edges_nodup.filter _) (List.mem_filter.mpr ⟨hloop, by simp⟩)
    · exact List.count_eq_one_of_mem (hg.edges_nodup.filter _) (List.mem_filter.mpr ⟨hloop, by simp⟩)

/-- One operation on a graph and on its representation. -/
structure Performs (x : IndexedGraph) (g : Graph) (op : Graph.Operation) : Prop where
  graph : (x.perform op).1.graph = (g.perform op).1
  reply : (x.perform op).2 = (g.perform op).2
  does : g.Does op (g.perform op).1 (g.perform op).2
  /-- It reports something new when the graph lacked it and now has it. -/
  added : (g.perform op).2.added = true ↔ ¬ g.Has op ∧ (g.perform op).1.Has op
  /-- Otherwise lists and tables stay as they are. -/
  unchanged : (g.perform op).2.added = false → (x.perform op).1 = x ∧ (g.perform op).1 = g
  older : g.nodes <+: (g.perform op).1.nodes ∧ g.edges <+: (g.perform op).1.edges ∧
    g.clusters <+: (g.perform op).1.clusters

/-- **A graph with indexes is the graph.**  Whatever operations were performed
    on an empty graph, it is well formed, its look-ups answer as its lists say,
    also when they go by indexes, and one more operation does what it reports:
    it adds its element, or leaves everything as it is. -/
theorem indexed_graph_is_graph (ops : List Graph.Operation) :
    (after ops).graph = Graph.after ops ∧ (Graph.after ops).WellFormed ∧
      (after ops).Answers (Graph.after ops) ∧
      ∀ op, (after ops).Performs (Graph.after ops) op := by
  obtain ⟨hindexed, hgraph⟩ := Indexed.after ops
  have hformed : (Graph.after ops).WellFormed := (Graph.built_after ops).wellFormed
  refine ⟨hgraph, hformed, hgraph ▸ hindexed.answers (hgraph.symm ▸ hformed), fun op => ?_⟩
  obtain ⟨-, hsame, hkept⟩ := hindexed.perform_spec op
  rw [hgraph] at hsame
  have hreply : ((after ops).perform op).2 = ((Graph.after ops).perform op).2 :=
    congrArg Prod.snd hsame
  have hnext : ((after ops).perform op).1.graph = ((Graph.after ops).perform op).1 :=
    congrArg Prod.fst hsame
  have hdoes := Graph.does_perform hformed op
  refine ⟨hnext, hreply, hdoes, hdoes.added_iff, fun hno => ?_, hdoes.older⟩
  have hstays := hkept (hreply ▸ hno)
  exact ⟨hstays, hnext.symm.trans ((congrArg graph hstays).trans hgraph)⟩

end IndexedGraph

end Lineage
