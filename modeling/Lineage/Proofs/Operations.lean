import Lineage.Proofs.Growth

/-! # Operations on graphs

    A graph is made by operations, and each of them reports whether it added
    anything.  `Graph.Does` lists all that an operation can do, with the graph
    it leaves and its report: seven cases, of which four leave the graph alone.
    On a well formed graph every operation does one of these (`does_perform`),
    so what holds of operations is read off the list: older elements stay where
    they are (`Does.older`), and an element is reported as added exactly when
    the graph lacked it and now has it (`Does.added_iff`). -/

namespace Lineage

namespace Graph

/-- Something that is done to a graph. -/
inductive Operation where
  | node (id : NodeId)
  | edge (source target : NodeId)
  | cluster (id : ClusterId) (members : List NodeId)
  deriving DecidableEq, Repr

/-- What an operation reports: the position of a new node, a new edge, a new
    cluster, or that nothing was added. -/
inductive Reply where
  | node (position? : Option Nat)
  | edge (edge? : Option Edge)
  | cluster (cluster? : Except Failure (Option Cluster))

/-- Whether the operation reports that it added its element. -/
def Reply.added : Reply → Bool
  | node position? => position?.isSome
  | edge edge? => edge?.isSome
  | cluster (.ok cluster?) => cluster?.isSome
  | cluster (.error _) => false

/-- Performs an operation; one that fails leaves the graph as it is. -/
def perform (g : Graph) : Operation → Graph × Reply
  | .node id => let (g, i?) := g.addNode id; (g, .node i?)
  | .edge source target => let (g, e?) := g.addEdge source target; (g, .edge e?)
  | .cluster id members =>
      match g.addCluster id members with
      | .ok (g, c?) => (g, .cluster (.ok c?))
      | .error f => (g, .cluster (.error f))

/-- The graph that some operations make of the empty one, and their replies. -/
def after (ops : List Operation) : Graph := ops.foldl (fun g op => (g.perform op).1) {}

theorem built_perform {g : Graph} (h : g.Built) (op : Operation) : (g.perform op).1.Built := by
  cases op with
  | node id => exact h.node id
  | edge source target => exact h.edge source target
  | cluster id members =>
      rw [perform]
      cases hadd : g.addCluster id members with
      | ok added => exact h.cluster id members hadd
      | error f => exact h

theorem built_after (ops : List Operation) : (after ops).Built :=
  List.foldlRecOn ops _ (motive := Graph.Built) .empty fun _ hg op _ => built_perform hg op

/-- The graph has what the operation is about: the node, the edge, a cluster of
    that id. -/
def Has (g : Graph) : Operation → Prop
  | .node id => id ∈ g.nodes
  | .edge source target => (⟨source, target⟩ : Edge) ∈ g.edges
  | .cluster id _ => ∃ c ∈ g.clusters, c.id = id

/-- All that an operation can do, case by case: the graph it leaves, and what it
    reports. -/
inductive Does (g : Graph) : Operation → Graph → Reply → Prop where
  | newNode {id : NodeId} : id ∉ g.nodes →
      g.Does (.node id) { g with nodes := g.nodes ++ [id] } (.node (some g.nodes.length))
  | oldNode {id : NodeId} : id ∈ g.nodes → g.Does (.node id) g (.node none)
  | newEdge {s t : NodeId} : (⟨s, t⟩ : Edge) ∉ g.edges →
      g.Does (.edge s t)
        { g with nodes := adjoin (adjoin g.nodes s) t, edges := g.edges ++ [⟨s, t⟩] }
        (.edge (some ⟨s, t⟩))
  | oldEdge {s t : NodeId} : (⟨s, t⟩ : Edge) ∈ g.edges → g.Does (.edge s t) g (.edge none)
  | newCluster {id : ClusterId} {ms : List NodeId} : (∀ c ∈ g.clusters, c.id ≠ id) →
      (∀ m ∈ ms, m ∈ g.nodes) →
      g.Does (.cluster id ms) { g with clusters := g.clusters ++ [⟨id, ms.eraseDups⟩] }
        (.cluster (.ok (some ⟨id, ms.eraseDups⟩)))
  | takenId {id : ClusterId} {ms : List NodeId} : (∃ c ∈ g.clusters, c.id = id) →
      g.Does (.cluster id ms) g (.cluster (.ok none))
  | stranger {id : ClusterId} {ms : List NodeId} {m : NodeId} : (∀ c ∈ g.clusters, c.id ≠ id) →
      ms.find? (· ∉ g.nodes) = some m →
      g.Does (.cluster id ms) g (.cluster (.error (.unknownNode m)))

theorem does_perform {g : Graph} (h : g.WellFormed) (op : Operation) :
    g.Does op (g.perform op).1 (g.perform op).2 := by
  cases op with
  | node id =>
      rw [perform, addNode]
      by_cases hid : id ∈ g.nodes
      · rw [if_pos hid]
        exact .oldNode hid
      · rw [if_neg hid, withNode, if_neg hid]
        exact .newNode hid
  | edge s t =>
      rw [perform, addEdge_eq]
      by_cases he : (⟨s, t⟩ : Edge) ∈ g.edges
      · -- both ends are there already
        obtain ⟨hs, ht⟩ := h.ends _ he
        rw [if_pos he, withNode, withNode, if_pos hs, if_pos ht]
        exact .oldEdge he
      · rw [if_neg he]
        have hnodes : ((g.withNode s).withNode t).nodes = adjoin (adjoin g.nodes s) t := by
          rw [nodes_withNode, nodes_withNode]
        have hclusters : ((g.withNode s).withNode t).clusters = g.clusters := by
          rw [clusters_withNode, clusters_withNode]
        simp only [hnodes, hclusters]
        exact .newEdge he
  | cluster id ms =>
      rw [perform, addCluster]
      by_cases htaken : ∃ c ∈ g.clusters, c.id = id
      · rw [if_pos (by simpa using htaken)]
        exact .takenId htaken
      · have hfree : ∀ c ∈ g.clusters, c.id ≠ id := fun c hc hid => htaken ⟨c, hc, hid⟩
        rw [if_neg (by simpa using htaken)]
        cases hfind : ms.find? (· ∉ g.nodes) with
        | some m => exact .stranger hfree hfind
        | none => exact .newCluster hfree (by simpa using List.find?_eq_none.mp hfind)

namespace Does

variable {g g' : Graph} {op : Operation} {reply : Reply}

/-- Nothing that is there is changed or put elsewhere. -/
theorem older (h : g.Does op g' reply) :
    g.nodes <+: g'.nodes ∧ g.edges <+: g'.edges ∧ g.clusters <+: g'.clusters := by
  cases h with
  | newNode hid => exact ⟨List.prefix_append _ _, List.prefix_rfl, List.prefix_rfl⟩
  | newEdge he =>
      exact ⟨(prefix_adjoin _ _).trans (prefix_adjoin _ _), List.prefix_append _ _, List.prefix_rfl⟩
  | newCluster hfree hknown => exact ⟨List.prefix_rfl, List.prefix_rfl, List.prefix_append _ _⟩
  | oldNode _ | oldEdge _ | takenId _ | stranger _ _ =>
      exact ⟨List.prefix_rfl, List.prefix_rfl, List.prefix_rfl⟩

/-- An operation reports its element as added when the graph lacked it and now
    has it. -/
theorem added_iff (h : g.Does op g' reply) : reply.added = true ↔ ¬ g.Has op ∧ g'.Has op := by
  cases h with
  | newNode hid => simp [Reply.added, Has, hid]
  | newEdge he => simp [Reply.added, Has, he]
  | newCluster hfree hknown => simpa [Reply.added, Has] using hfree
  | oldNode _ | oldEdge _ | takenId _ | stranger _ _ =>
      -- the graph is the same, so it cannot have what it lacked
      exact iff_of_false Bool.false_ne_true fun h => h.1 h.2

end Does

end Graph

end Lineage
