import Lineage.View.Decoration
import Lineage.Proofs.Adjoin

/-! # How documents grow

    What each operation on a document changes is said once: the types and the
    edges are adjoined to, a caption or a color is added for an owner without
    one, a member is adjoined to its cluster, and the rest stays.

    Decorating is a run of such operations.  It leaves the types, the edges and
    the kinds alone (`decorate_kept`), puts only types of the document into
    clusters (`Hints.decorate`), and uses no color but those of the two
    kinds and of interfaces.  So a document that was collected is closed after
    decorating: whatever it names is one of its types (`Collected.closed`). -/

namespace Lineage

namespace Document

variable {d : Document} {β : Type}

/-! ## Types and edges -/

/-- The ids of the types of a document, in order. -/
def ids (d : Document) : List NodeId := d.nodes.map (·.id)

theorem ids_addNode (d : Document) (n : Descriptor) : (d.addNode n).1.ids = adjoin d.ids n.id := by
  have hany : d.nodes.any (·.id = n.id) = true ↔ n.id ∈ d.ids := by simp [ids]
  rw [addNode]
  by_cases h : n.id ∈ d.ids
  · rw [if_pos (hany.mpr h), adjoin_of_mem h]
  · rw [if_neg (fun h' => h (hany.mp h')), adjoin_of_not_mem h]
    simp [ids]

theorem addNode_fst (d : Document) (n : Descriptor) :
    (d.addNode n).1 = { d with nodes := (d.addNode n).1.nodes } := by
  rw [addNode]
  split <;> rfl

theorem addNode_of_not_mem {n : Descriptor} (h : n.id ∉ d.ids) :
    (d.addNode n).1 = { d with nodes := d.nodes ++ [n] } := by
  rw [addNode, if_neg]
  simpa [ids] using h

theorem mem_nodes_addNode {d : Document} {n x : Descriptor} (h : x ∈ (d.addNode n).1.nodes) :
    x ∈ d.nodes ∨ x = n := by
  rw [addNode] at h
  split at h
  · exact Or.inl h
  · exact (List.mem_append.mp h).imp_right List.mem_singleton.mp

theorem addEdge_fst (d : Document) (source target : NodeId) :
    (d.addEdge source target).1 = { d with edges := adjoin d.edges ⟨source, target⟩ } := by
  rw [addEdge]
  by_cases h : (⟨source, target⟩ : Edge) ∈ d.edges
  · rw [if_pos h, adjoin_of_mem h]
  · rw [if_neg h, adjoin_of_not_mem h]

/-- In a document without two types of one id, each is found under its id. -/
theorem node?_eq_some {d : Document} (hd : d.ids.Nodup) {n : Descriptor} (hn : n ∈ d.nodes) :
    d.node? n.id = some n := find?_of_nodup_map hd hn

/-! ## Hints for showing -/

theorem addCaption_fst (d : Document) (c : Caption) :
    (d.addCaption c).1 = { d with captions := (d.addCaption c).1.captions } := by
  rw [addCaption]
  split <;> rfl

theorem addNodeStyle_fst (d : Document) (s : NodeStyle) :
    (d.addNodeStyle s).1 = { d with nodeStyles := (d.addNodeStyle s).1.nodeStyles } := by
  rw [addNodeStyle]
  split <;> rfl

theorem mem_addNodeStyle {s x : NodeStyle} (h : x ∈ (d.addNodeStyle s).1.nodeStyles) :
    x ∈ d.nodeStyles ∨ x = s := by
  rw [addNodeStyle] at h
  split at h
  · exact Or.inl h
  · exact (List.mem_append.mp h).imp_right List.mem_singleton.mp

theorem addEdgeStyle_fst (d : Document) (s : EdgeStyle) :
    (d.addEdgeStyle s).1 = { d with edgeStyles := (d.addEdgeStyle s).1.edgeStyles } := by
  rw [addEdgeStyle]
  split <;> rfl

theorem mem_addEdgeStyle {s x : EdgeStyle} (h : x ∈ (d.addEdgeStyle s).1.edgeStyles) :
    x ∈ d.edgeStyles ∨ x = s := by
  rw [addEdgeStyle] at h
  split at h
  · exact Or.inl h
  · exact (List.mem_append.mp h).imp_right List.mem_singleton.mp

theorem members_addToCluster (d : Document) (cluster c : ClusterId) (node : NodeId) :
    (d.addToCluster cluster node).members c =
      if cluster = c then adjoin (d.members cluster) node else d.members c := by
  have hclusters : (d.addToCluster cluster node).clusters =
      d.clusters.insert cluster (adjoin (d.members cluster) node) := rfl
  rw [members, hclusters, Std.ExtTreeMap.getD_eq_getD_getElem?, getElem?_insert]
  split
  · rfl
  · rw [members, Std.ExtTreeMap.getD_eq_getD_getElem?]

/-! ## Decorating -/

/-- Adding hints for showing touches neither types nor edges nor kinds. -/
theorem decorate_kept (d : Document) (clusterByNamespace : Bool) :
    ((d.decorate clusterByNamespace).nodes, (d.decorate clusterByNamespace).edges,
      (d.decorate clusterByNamespace).edgeKinds) = (d.nodes, d.edges, d.edgeKinds) := by
  let field : Document → List Descriptor × List Edge × EdgeKinds :=
    fun d => (d.nodes, d.edges, d.edgeKinds)
  have hcaption : ∀ d c, field (d.addCaption c).1 = field d := fun d c => by rw [addCaption_fst]
  have hnode : ∀ d s, field (d.addNodeStyle s).1 = field d := fun d s => by rw [addNodeStyle_fst]
  have hedge : ∀ d s, field (d.addEdgeStyle s).1 = field d := fun d s => by rw [addEdgeStyle_fst]
  have hcluster : ∀ d c n, field (d.addToCluster c n) = field d := fun _ _ _ => rfl
  have hstep : ∀ d' n, field (decorateNode d.interfaces clusterByNamespace d' n) = field d' := by
    intro d' n
    dsimp only [decorateNode]
    split <;> split <;> simp only [hcluster, hnode, hcaption]
  show field (d.decorate clusterByNamespace) = field d
  rw [decorate, foldl_kept field hstep, colorEdges, foldl_kept field fun d _ => hedge d _]

@[simp] theorem nodes_decorate (d : Document) (b : Bool) : (d.decorate b).nodes = d.nodes :=
  congrArg (·.1) (decorate_kept d b)

@[simp] theorem edges_decorate (d : Document) (b : Bool) : (d.decorate b).edges = d.edges :=
  congrArg (·.2.1) (decorate_kept d b)

@[simp] theorem edgeKinds_decorate (d : Document) (b : Bool) :
    (d.decorate b).edgeKinds = d.edgeKinds :=
  congrArg (·.2.2) (decorate_kept d b)

@[simp] theorem ids_decorate (d : Document) (b : Bool) : (d.decorate b).ids = d.ids := by
  rw [ids, nodes_decorate, ids]

/-- The hints of `d'` are those of `d` and others that fit its types: the
    colors are known ones, and only types of `d` came into clusters. -/
structure Hints (d d' : Document) : Prop where
  nodeStyles : ∀ s ∈ d'.nodeStyles, s ∈ d.nodeStyles ∨ s.fillColor = interfaceColor
  edgeStyles : ∀ s ∈ d'.edgeStyles, s ∈ d.edgeStyles ∨ ∃ kind, s.color = EdgeKind.color kind
  members : ∀ c, ∀ m ∈ d'.members c, m ∈ d.members c ∨ m ∈ d.ids

namespace Hints

variable {d' : Document}

theorem refl (d : Document) : Hints d d := ⟨fun _ => Or.inl, fun _ => Or.inl, fun _ _ => Or.inl⟩

theorem addCaption (h : Hints d d') (c : Caption) : Hints d (d'.addCaption c).1 := by
  rw [addCaption_fst]
  exact ⟨h.nodeStyles, h.edgeStyles, h.members⟩

theorem addNodeStyle (h : Hints d d') (owner : NodeId) :
    Hints d (d'.addNodeStyle ⟨owner, interfaceColor⟩).1 where
  nodeStyles := by
    intro s hs
    rcases mem_addNodeStyle hs with hs | rfl
    · exact h.nodeStyles s hs
    · exact Or.inr rfl
  edgeStyles := by
    rw [addNodeStyle_fst]
    exact h.edgeStyles
  members := by
    rw [addNodeStyle_fst]
    exact h.members

theorem addEdgeStyle (h : Hints d d') (owner : EdgeId) (kind : EdgeKind) :
    Hints d (d'.addEdgeStyle ⟨owner, kind.color⟩).1 where
  nodeStyles := by
    rw [addEdgeStyle_fst]
    exact h.nodeStyles
  edgeStyles := by
    intro s hs
    rcases mem_addEdgeStyle hs with hs | rfl
    · exact h.edgeStyles s hs
    · exact Or.inr ⟨kind, rfl⟩
  members := by
    rw [addEdgeStyle_fst]
    exact h.members

theorem addToCluster (h : Hints d d') (cluster : ClusterId) {node : NodeId} (hnode : node ∈ d.ids) :
    Hints d (d'.addToCluster cluster node) where
  nodeStyles := h.nodeStyles
  edgeStyles := h.edgeStyles
  members := by
    intro c m hm
    rw [members_addToCluster] at hm
    by_cases hc : cluster = c
    · -- this cluster may have got the node, the others are as they were
      subst hc
      rw [if_pos rfl, mem_adjoin] at hm
      rcases hm with hm | rfl
      · exact h.members cluster m hm
      · exact Or.inr hnode
    · rw [if_neg hc] at hm
      exact h.members c m hm

/-- One type is decorated with hints that fit. -/
theorem decorateNode (h : Hints d d') (interfaces : List NodeId) (b : Bool) {n : Descriptor}
    (hn : n.id ∈ d.ids) : Hints d (decorateNode interfaces b d' n) := by
  have hcaption := h.addCaption ⟨n.id, n.name⟩
  dsimp only [Document.decorateNode]
  split <;> split
  · exact (hcaption.addNodeStyle n.id).addToCluster n.space hn
  · exact hcaption.addToCluster n.space hn
  · exact hcaption.addNodeStyle n.id
  · exact hcaption

theorem decorate (d : Document) (b : Bool) : Hints d (d.decorate b) := by
  refine List.foldlRecOn d.nodes _ ?_ ?_
  · exact List.foldlRecOn d.edges _ (refl d) fun d' h e _ => h.addEdgeStyle e.id (d.drawnKind e)
  · intro d' h n hn
    exact h.decorateNode d.interfaces b (List.mem_map_of_mem hn)

end Hints

/-! ## Closed documents -/

/-- Edges join types of the document, and clusters hold types of it. -/
structure Closed (d : Document) : Prop where
  ends : ∀ e ∈ d.edges, e.source ∈ d.ids ∧ e.target ∈ d.ids
  members : ∀ c, ∀ m ∈ d.members c, m ∈ d.ids

/-- A document as it is collected: types, edges between them, and their kinds. -/
structure Collected (d : Document) : Prop where
  ids_nodup : d.ids.Nodup
  edges_nodup : d.edges.Nodup
  ends : ∀ e ∈ d.edges, e.source ∈ d.ids ∧ e.target ∈ d.ids
  bare : d = { nodes := d.nodes, edges := d.edges, edgeKinds := d.edgeKinds }

namespace Collected

theorem members (h : d.Collected) (c : ClusterId) : d.members c = [] := by
  rw [h.bare]
  exact Std.ExtTreeMap.getD_empty

theorem nodeStyles (h : d.Collected) : d.nodeStyles = [] := by rw [h.bare]

theorem edgeStyles (h : d.Collected) : d.edgeStyles = [] := by rw [h.bare]

/-- Decorating names nothing but the types that were collected. -/
theorem closed (h : d.Collected) (b : Bool) : (d.decorate b).Closed where
  ends := by
    rw [edges_decorate, ids_decorate]
    exact h.ends
  members := by
    intro c m hm
    rw [ids_decorate]
    rcases (Hints.decorate d b).members c m hm with hm | hm
    · rw [h.members c] at hm
      exact nomatch hm
    · exact hm

end Collected

end Document

end Lineage
