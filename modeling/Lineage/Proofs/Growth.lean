import Lineage.Graph.Basic
import Lineage.Proofs.Adjoin
import Mathlib.Logic.Relation

/-! # How graphs grow

    `Graph.Built` holds of the graphs that the operations make of the empty
    one, in any order and with any arguments.  What an operation can do is said
    once: `withNode` and `addEdge` adjoin to the nodes and the edges
    (`nodes_addEdge`, `edges_addEdge`), `addCluster` either leaves the graph
    alone or appends one cluster (`addCluster_eq_ok`).  From that every built
    graph is well formed (`Built.wellFormed`).

    `Graph.Reaches` is the relation that neighborhoods are about. -/

namespace Lineage

namespace Graph

variable {g g' : Graph}

/-! ## What one operation does -/

theorem nodes_withNode (g : Graph) (id : NodeId) : (g.withNode id).nodes = adjoin g.nodes id := by
  by_cases h : id ∈ g.nodes
  · rw [withNode, if_pos h, adjoin_of_mem h]
  · rw [withNode, if_neg h, adjoin_of_not_mem h]

theorem addNode_fst (g : Graph) (id : NodeId) : (g.addNode id).1 = g.withNode id := by
  by_cases h : id ∈ g.nodes
  · rw [addNode, if_pos h, withNode, if_pos h]
  · rw [addNode, if_neg h]

/-- The graph with both ends of an edge, and then the edge. -/
theorem addEdge_eq (g : Graph) (source target : NodeId) :
    g.addEdge source target =
      if (⟨source, target⟩ : Edge) ∈ g.edges then ((g.withNode source).withNode target, none)
      else ({ (g.withNode source).withNode target with edges := g.edges ++ [⟨source, target⟩] },
        some ⟨source, target⟩) := by
  rw [addEdge]
  simp only [edges_withNode]

@[simp] theorem nodes_addEdge (g : Graph) (source target : NodeId) :
    (g.addEdge source target).1.nodes = adjoin (adjoin g.nodes source) target := by
  rw [addEdge_eq, ← nodes_withNode, ← nodes_withNode]
  split <;> rfl

@[simp] theorem edges_addEdge (g : Graph) (source target : NodeId) :
    (g.addEdge source target).1.edges = adjoin g.edges ⟨source, target⟩ := by
  rw [addEdge_eq]
  split
  · next h => rw [adjoin_of_mem h, edges_withNode, edges_withNode]
  · next h => rw [adjoin_of_not_mem h]

@[simp] theorem clusters_addEdge (g : Graph) (source target : NodeId) :
    (g.addEdge source target).1.clusters = g.clusters := by
  rw [addEdge_eq]
  split <;> simp

/-- An edge between nodes of the graph leaves the nodes alone. -/
theorem addEdge_of_mem {source target : NodeId} (hsource : source ∈ g.nodes)
    (htarget : target ∈ g.nodes) :
    (g.addEdge source target).1 = { g with edges := adjoin g.edges ⟨source, target⟩ } := by
  have hends : (g.withNode source).withNode target = g := by
    rw [withNode, withNode, if_pos hsource, if_pos htarget]
  rw [addEdge_eq, hends]
  by_cases h : (⟨source, target⟩ : Edge) ∈ g.edges
  · rw [if_pos h, adjoin_of_mem h]
  · rw [if_neg h, adjoin_of_not_mem h]

theorem addEdge_snd (g : Graph) (source target : NodeId) :
    (g.addEdge source target).2 =
      if (⟨source, target⟩ : Edge) ∈ g.edges then none else some ⟨source, target⟩ := by
  rw [addEdge_eq]
  split <;> rfl

/-- A cluster is added to a graph that lacks its id and has all its members;
    a taken id leaves the graph alone, and nothing else succeeds. -/
theorem addCluster_eq_ok {id : ClusterId} {members : List NodeId} {c? : Option Cluster} :
    g.addCluster id members = .ok (g', c?) ↔
      ((∃ c ∈ g.clusters, c.id = id) ∧ g' = g ∧ c? = none) ∨
      ((∀ c ∈ g.clusters, c.id ≠ id) ∧ (∀ m ∈ members, m ∈ g.nodes) ∧
        g' = { g with clusters := g.clusters ++ [⟨id, members.eraseDups⟩] } ∧
        c? = some ⟨id, members.eraseDups⟩) := by
  rw [addCluster]
  by_cases htaken : ∃ c ∈ g.clusters, c.id = id
  · have hany : g.clusters.any (·.id = id) = true := by simpa using htaken
    rw [if_pos hany]
    constructor
    · intro h
      obtain ⟨rfl, rfl⟩ := Prod.mk.inj (Except.ok.inj h)
      exact Or.inl ⟨htaken, rfl, rfl⟩
    · rintro (⟨-, rfl, rfl⟩ | ⟨hfree, -⟩)
      · rfl
      · obtain ⟨c, hc, hid⟩ := htaken
        exact absurd hid (hfree c hc)
  · have hany : ¬ g.clusters.any (·.id = id) = true := by simpa using htaken
    have hfree : ∀ c ∈ g.clusters, c.id ≠ id := fun c hc hid => htaken ⟨c, hc, hid⟩
    rw [if_neg hany]
    cases hfind : members.find? (· ∉ g.nodes) with
    | some stranger =>
        have hmem := List.mem_of_find?_eq_some hfind
        have hnew : stranger ∉ g.nodes := by simpa using List.find?_some hfind
        constructor
        · intro h
          exact nomatch h
        · rintro (⟨htaken', -⟩ | ⟨-, hknown, -⟩)
          · exact absurd htaken' htaken
          · exact absurd (hknown stranger hmem) hnew
    | none =>
        have hknown : ∀ m ∈ members, m ∈ g.nodes := by
          simpa using List.find?_eq_none.mp hfind
        constructor
        · intro h
          obtain ⟨rfl, rfl⟩ := Prod.mk.inj (Except.ok.inj h)
          exact Or.inr ⟨hfree, hknown, rfl, rfl⟩
        · rintro (⟨htaken', -⟩ | ⟨-, -, rfl, rfl⟩)
          · exact absurd htaken' htaken
          · rfl

/-- A node is found when it is there. -/
theorem findNode?_eq (g : Graph) (id : NodeId) :
    g.findNode? id = if id ∈ g.nodes then some id else none := by
  rw [findNode?]
  by_cases hid : id ∈ g.nodes
  · rw [if_pos hid]
    cases hfind : g.nodes.find? (· = id) with
    | none => exact absurd (decide_eq_true rfl) (List.find?_eq_none.mp hfind id hid)
    | some x => rw [show x = id by simpa using List.find?_some hfind]
  · rw [if_neg hid, List.find?_eq_none]
    intro x hx hxid
    exact hid (of_decide_eq_true hxid ▸ hx)

theorem findNode?_of_mem {id : NodeId} (h : id ∈ g.nodes) : g.findNode? id = some id := by
  rw [findNode?_eq, if_pos h]

/-! ## Every built graph is well formed -/

/-- The graphs that the operations make of the empty graph. -/
inductive Built : Graph → Prop where
  | empty : Built {}
  | node {g : Graph} (id : NodeId) : Built g → Built (g.addNode id).1
  | edge {g : Graph} (source target : NodeId) : Built g → Built (g.addEdge source target).1
  | cluster {g g' : Graph} {c? : Option Cluster} (id : ClusterId) (members : List NodeId) :
      Built g → g.addCluster id members = .ok (g', c?) → Built g'

theorem Built.withNode (h : g.Built) (id : NodeId) : (g.withNode id).Built :=
  g.addNode_fst id ▸ h.node id

/-- No element twice, and none that names a missing one. -/
structure WellFormed (g : Graph) : Prop where
  nodes_nodup : g.nodes.Nodup
  edges_nodup : g.edges.Nodup
  ends : ∀ e ∈ g.edges, e.source ∈ g.nodes ∧ e.target ∈ g.nodes
  cluster_ids_nodup : (g.clusters.map (·.id)).Nodup
  members_nodup : ∀ c ∈ g.clusters, c.members.Nodup
  members_known : ∀ c ∈ g.clusters, ∀ m ∈ c.members, m ∈ g.nodes

theorem WellFormed.withNode (h : g.WellFormed) (id : NodeId) : (g.withNode id).WellFormed where
  nodes_nodup := by
    rw [nodes_withNode]
    exact nodup_adjoin h.nodes_nodup
  edges_nodup := by
    rw [edges_withNode]
    exact h.edges_nodup
  ends := by
    intro e he
    rw [edges_withNode] at he
    obtain ⟨hs, ht⟩ := h.ends e he
    exact ⟨mem_nodes_withNode.mpr (Or.inl hs), mem_nodes_withNode.mpr (Or.inl ht)⟩
  cluster_ids_nodup := by
    rw [clusters_withNode]
    exact h.cluster_ids_nodup
  members_nodup := by
    rw [clusters_withNode]
    exact h.members_nodup
  members_known := by
    intro c hc m hm
    rw [clusters_withNode] at hc
    exact mem_nodes_withNode.mpr (Or.inl (h.members_known c hc m hm))

theorem WellFormed.addEdge (h : g.WellFormed) (source target : NodeId) :
    (g.addEdge source target).1.WellFormed where
  nodes_nodup := by
    rw [nodes_addEdge]
    exact nodup_adjoin (nodup_adjoin h.nodes_nodup)
  edges_nodup := by
    rw [edges_addEdge]
    exact nodup_adjoin h.edges_nodup
  ends := by
    intro e he
    rw [edges_addEdge, mem_adjoin] at he
    rw [nodes_addEdge, mem_adjoin, mem_adjoin, mem_adjoin, mem_adjoin]
    rcases he with he | rfl
    · obtain ⟨hs, ht⟩ := h.ends e he
      exact ⟨Or.inl (Or.inl hs), Or.inl (Or.inl ht)⟩
    · exact ⟨Or.inl (Or.inr rfl), Or.inr rfl⟩
  cluster_ids_nodup := by
    rw [clusters_addEdge]
    exact h.cluster_ids_nodup
  members_nodup := by
    rw [clusters_addEdge]
    exact h.members_nodup
  members_known := by
    intro c hc m hm
    rw [clusters_addEdge] at hc
    rw [nodes_addEdge, mem_adjoin, mem_adjoin]
    exact Or.inl (Or.inl (h.members_known c hc m hm))

theorem WellFormed.addCluster (h : g.WellFormed) {id : ClusterId} {members : List NodeId}
    {c? : Option Cluster} (hadd : g.addCluster id members = .ok (g', c?)) : g'.WellFormed := by
  rcases addCluster_eq_ok.mp hadd with ⟨-, rfl, -⟩ | ⟨hfree, hknown, rfl, -⟩
  · exact h
  · refine ⟨h.nodes_nodup, h.edges_nodup, h.ends, ?_, ?_, ?_⟩
    · rw [List.map_append, List.map_singleton, ← List.concat_eq_append]
      refine h.cluster_ids_nodup.concat ?_
      intro hmem
      obtain ⟨c, hc, hid⟩ := List.mem_map.mp hmem
      exact hfree c hc hid
    · intro c hc
      rcases List.mem_append.mp hc with hc | hc
      · exact h.members_nodup c hc
      · rw [List.mem_singleton.mp hc]
        exact nodup_eraseDups members
    · intro c hc m hm
      rcases List.mem_append.mp hc with hc | hc
      · exact h.members_known c hc m hm
      · rw [List.mem_singleton.mp hc] at hm
        exact hknown m (List.mem_eraseDups.mp hm)

/-- Whatever the operations were, the graph they built is well formed. -/
theorem Built.wellFormed (h : g.Built) : g.WellFormed := by
  induction h with
  | empty =>
      constructor <;> simp
  | node id _ ih =>
      rw [addNode_fst]
      exact ih.withNode id
  | edge source target _ ih => exact ih.addEdge source target
  | cluster id members _ hadd ih => exact ih.addCluster hadd

/-! ## Edges at a node -/

/-- The edges that point at a node, oldest first. -/
def into (g : Graph) (id : NodeId) : List Edge := g.edges.filter (·.target = id)

@[simp] theorem mem_into {id : NodeId} {e : Edge} :
    e ∈ g.into id ↔ e ∈ g.edges ∧ e.target = id := by
  rw [into, List.mem_filter, decide_eq_true_iff]

theorem incoming_eq_ok {id : NodeId} {es : List Edge} :
    g.incoming id = .ok es ↔ id ∈ g.nodes ∧ es = g.into id := by
  rw [incoming]
  by_cases h : id ∈ g.nodes
  · rw [if_pos h]
    exact ⟨fun heq => ⟨h, (Except.ok.inj heq).symm⟩, fun ⟨_, heq⟩ => heq ▸ rfl⟩
  · rw [if_neg h]
    exact ⟨fun heq => (nomatch heq), fun ⟨hmem, _⟩ => absurd hmem h⟩

theorem incoming_of_mem {id : NodeId} (h : id ∈ g.nodes) : g.incoming id = .ok (g.into id) :=
  incoming_eq_ok.mpr ⟨h, rfl⟩

/-- The edges that leave a node, oldest first. -/
def outOf (g : Graph) (id : NodeId) : List Edge := g.edges.filter (·.source = id)

theorem outgoing_of_mem {id : NodeId} (h : id ∈ g.nodes) : g.outgoing id = .ok (g.outOf id) :=
  if_pos h

/-! ## Reaching a node -/

/-- There is a directed path, of zero or more edges. -/
def Reaches (g : Graph) : NodeId → NodeId → Prop :=
  Relation.ReflTransGen fun source target => (⟨source, target⟩ : Edge) ∈ g.edges

theorem Reaches.refl (id : NodeId) : g.Reaches id id := Relation.ReflTransGen.refl

/-- A path gets longer at its start. -/
theorem Reaches.cons {e : Edge} {root : NodeId} (he : e ∈ g.edges)
    (h : g.Reaches e.target root) : g.Reaches e.source root :=
  Relation.ReflTransGen.head he h

/-- What reaches a node of a well formed graph is a node as well. -/
theorem Reaches.mem_nodes {id root : NodeId} (h : g.Reaches id root) (hg : g.WellFormed)
    (hroot : root ∈ g.nodes) : id ∈ g.nodes := by
  induction h using Relation.ReflTransGen.head_induction_on with
  | refl => exact hroot
  | head he _ _ => exact (hg.ends _ he).1

/-- A set of nodes that has the root, and the source of every edge into one of
    its members, has everything that reaches the root. -/
theorem Reaches.mem_of_closed {id root : NodeId} {P : NodeId → Prop} (h : g.Reaches id root)
    (hroot : P root) (hclosed : ∀ e ∈ g.edges, P e.target → P e.source) : P id := by
  induction h using Relation.ReflTransGen.head_induction_on with
  | refl => exact hroot
  | head he _ ih => exact hclosed _ he ih

end Graph

end Lineage
