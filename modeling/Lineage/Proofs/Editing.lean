import Lineage.Proofs.Decorating

/-! # What can be done to a document

    A document is made by operations on the empty one, in any order and with
    any arguments (`Document.after`).  Whatever was done, nothing is in it
    twice: no id of a type, no edge, no owner of a caption or a color, and no
    member of a cluster (`tidy_after`).  Every list is kept by one of two steps,
    `adjoin` and `keepFirst`, so that is one look at each operation. -/

namespace Lineage

namespace Document

/-- Something that is done to a document. -/
inductive Operation where
  | node (n : Descriptor)
  | edge (source target : NodeId)
  | member (cluster : ClusterId) (node : NodeId)
  | caption (c : Caption)
  | nodeStyle (s : NodeStyle)
  | edgeStyle (s : EdgeStyle)
  | edgeKind (edge : EdgeId) (kind : EdgeKind)
  deriving DecidableEq, Repr

/-- Performs an operation.  All but one report whether they added anything. -/
def perform (d : Document) : Operation → Document × Option Bool
  | .node n => (d.addNode n).map id some
  | .edge source target => (d.addEdge source target).map id some
  | .member cluster node => (d.addToCluster cluster node, none)
  | .caption c => (d.addCaption c).map id some
  | .nodeStyle s => (d.addNodeStyle s).map id some
  | .edgeStyle s => (d.addEdgeStyle s).map id some
  | .edgeKind edge kind => (d.setEdgeKind edge kind).map id some

/-- The document that some operations make of the empty one. -/
def after (ops : List Operation) : Document := ops.foldl (fun d op => (d.perform op).1) {}

theorem addNode_eq (d : Document) (n : Descriptor) :
    (d.addNode n).1 = { d with nodes := keepFirst Descriptor.id d.nodes n } := by
  rw [addNode, keepFirst]
  split <;> rfl

/-- Nothing is in the document twice. -/
structure Tidy (d : Document) : Prop where
  ids : d.ids.Nodup
  edges : d.edges.Nodup
  members : ∀ c, (d.members c).Nodup
  captions : (d.captions.map (·.owner)).Nodup
  nodeStyles : (d.nodeStyles.map (·.owner)).Nodup
  edgeStyles : (d.edgeStyles.map (·.owner)).Nodup

variable {d : Document}

theorem tidy_empty : Tidy {} where
  ids := List.nodup_nil
  edges := List.nodup_nil
  members c := by
    rw [members, Std.ExtTreeMap.getD_empty]
    exact List.nodup_nil
  captions := List.nodup_nil
  nodeStyles := List.nodup_nil
  edgeStyles := List.nodup_nil

theorem Tidy.perform (h : d.Tidy) (op : Operation) : (d.perform op).1.Tidy := by
  cases op with
  | node n =>
      show (d.addNode n).1.Tidy
      rw [addNode_eq]
      exact { h with ids := nodup_map_keepFirst Descriptor.id h.ids n }
  | edge source target =>
      show (d.addEdge source target).1.Tidy
      rw [addEdge_fst]
      exact { h with edges := nodup_adjoin h.edges }
  | member cluster node =>
      refine { h with members := fun c => ?_ }
      show ((d.addToCluster cluster node).members c).Nodup
      rw [members_addToCluster]
      split
      · exact nodup_adjoin (h.members cluster)
      · exact h.members c
  | caption c =>
      show (d.addCaption c).1.Tidy
      rw [addCaption_eq]
      exact { h with captions := nodup_map_keepFirst Caption.owner h.captions c }
  | nodeStyle s =>
      show (d.addNodeStyle s).1.Tidy
      rw [addNodeStyle_eq]
      exact { h with nodeStyles := nodup_map_keepFirst NodeStyle.owner h.nodeStyles s }
  | edgeStyle s =>
      show (d.addEdgeStyle s).1.Tidy
      rw [addEdgeStyle_eq]
      exact { h with edgeStyles := nodup_map_keepFirst EdgeStyle.owner h.edgeStyles s }
  | edgeKind edge kind => exact { h with }

/-- Whatever was done to a document, nothing is in it twice. -/
theorem tidy_after (ops : List Operation) : (after ops).Tidy :=
  List.foldlRecOn ops _ (motive := Tidy) tidy_empty fun _ hd op _ => hd.perform op

/-- Decorating puts nothing into a document twice. -/
theorem Tidy.decorate (h : d.Tidy) (b : Bool) : (d.decorate b).Tidy := by
  have hstep : ∀ (d' : Document) (n : Descriptor), d'.Tidy →
      (decorateNode d.interfaces b d' n).Tidy := by
    intro d' n h
    have hcaption := h.perform (.caption ⟨n.id, n.name⟩)
    have hmark := hcaption.perform (.nodeStyle ⟨n.id, interfaceColor⟩)
    dsimp only [decorateNode]
    split <;> split
    · exact hmark.perform (.member n.space n.id)
    · exact hcaption.perform (.member n.space n.id)
    · exact hmark
    · exact hcaption
  refine List.foldlRecOn d.nodes _ (motive := Tidy) ?_ fun d' h n _ => hstep d' n h
  exact List.foldlRecOn d.edges _ (motive := Tidy) h
    fun _ h e _ => h.perform (.edgeStyle ⟨e.id, (d.drawnKind e).color⟩)

theorem Collected.tidy (h : d.Collected) : d.Tidy where
  ids := h.ids_nodup
  edges := h.edges_nodup
  members := by
    intro c
    rw [h.members]
    exact List.nodup_nil
  captions := by
    rw [h.bare]
    exact List.nodup_nil
  nodeStyles := by
    rw [h.nodeStyles]
    exact List.nodup_nil
  edgeStyles := by
    rw [h.edgeStyles]
    exact List.nodup_nil

end Document

end Lineage
