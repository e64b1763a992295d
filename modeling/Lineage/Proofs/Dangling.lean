import Lineage.View.Dangling
import Lineage.Proofs.Growth

/-! # What hiding dangling nodes does

    An edge keeps some nodes from dangling: both its ends, or only the one that
    the mode looks at (`DanglingMode.Keeps`).  A node dangles when no visible
    edge keeps it (`dangles_iff`).  Hiding the dangling nodes of a whole graph
    always succeeds (`hideDangling_none`); it hides these nodes and leaves the
    edges as they were, so an edge can lose an end that it does not keep. -/

namespace Lineage

/-- The edge keeps the node from dangling. -/
def DanglingMode.Keeps (mode : DanglingMode) (e : Edge) (id : NodeId) : Prop :=
  match mode with
  | .all => e.target = id ∨ e.source = id
  | .incomings => e.target = id
  | .outgoings => e.source = id

instance (mode : DanglingMode) (e : Edge) (id : NodeId) : Decidable (mode.Keeps e id) :=
  match mode with
  | .all => inferInstanceAs (Decidable (e.target = id ∨ e.source = id))
  | .incomings => inferInstanceAs (Decidable (e.target = id))
  | .outgoings => inferInstanceAs (Decidable (e.source = id))

namespace MaskStack

/-- A mask on top hides its members and has no say about anything else. -/
theorem isVisible_push_hidden (s : MaskStack) (label : String) (ids : List String) (id : String) :
    (s.push (.hidden label ids)).1.isVisible id = (s.isVisible id && id ∉ ids) := by
  have hdecide : (Mask.hidden label ids).decide? id = if id ∈ ids then some false else none := by
    simp [Mask.decide?, Mask.hidden, Mask.covers]
  show (((s ++ [Mask.hidden label ids]).reverse.findSome? (·.decide? id)).getD true) = _
  rw [List.reverse_append, List.reverse_singleton, List.singleton_append, List.findSome?_cons,
    hdecide]
  by_cases h : id ∈ ids
  · simp [h]
  · simp [h, isVisible]

end MaskStack

namespace Presentation

variable {p : Presentation} {mode : DanglingMode}

/-- Whether a node lacks the visible edges that the mode asks for. -/
def dangles (p : Presentation) (mode : DanglingMode) (id : NodeId) : Bool :=
  let noIncomings := !(p.graph.into id).any p.picksEdge
  let noOutgoings := !(p.graph.outOf id).any p.picksEdge
  match mode with
  | .all => noIncomings && noOutgoings
  | .incomings => noIncomings
  | .outgoings => noOutgoings

theorem isDangling_eq {id : NodeId} (hid : id ∈ p.graph.nodes) :
    p.isDangling mode id = .ok (p.dangles mode id) := by
  refine bind_eq_ok.mpr ⟨_, Graph.incoming_of_mem hid, ?_⟩
  refine bind_eq_ok.mpr ⟨_, Graph.outgoing_of_mem hid, ?_⟩
  cases mode with
  | all => rfl
  | incomings => rfl
  | outgoings => rfl

/-- Nodes of the graph are all judged. -/
theorem danglingAmong_eq {ids : List NodeId} (hids : ∀ id ∈ ids, id ∈ p.graph.nodes) :
    p.danglingAmong mode ids = .ok (ids.filter (p.dangles mode)) :=
  filterM_eq_filter fun id hid => isDangling_eq (hids id hid)

theorem mem_visibleEdges {e : Edge} :
    e ∈ p.visibleEdges ↔ e ∈ p.graph.edges ∧ p.picksEdge e = true := List.mem_filter

/-- A node dangles when no visible edge keeps it. -/
theorem dangles_iff {id : NodeId} :
    p.dangles mode id = true ↔ ∀ e ∈ p.visibleEdges, ¬ mode.Keeps e id := by
  have hnone : ∀ touches : Edge → Bool, (!(p.graph.edges.filter touches).any p.picksEdge) = true ↔
      ∀ e ∈ p.visibleEdges, ¬ touches e = true := by
    intro touches
    rw [Bool.not_eq_true', List.any_eq_false]
    constructor
    · intro h e he htouches
      obtain ⟨hedge, hpick⟩ := mem_visibleEdges.mp he
      exact h e (List.mem_filter.mpr ⟨hedge, htouches⟩) hpick
    · intro h e he hpick
      obtain ⟨hedge, htouches⟩ := List.mem_filter.mp he
      exact h e (mem_visibleEdges.mpr ⟨hedge, hpick⟩) htouches
  have hin := hnone (·.target = id)
  have hout := hnone (·.source = id)
  simp only [decide_eq_true_eq] at hin hout
  cases mode with
  | all =>
      show (!(p.graph.into id).any p.picksEdge && !(p.graph.outOf id).any p.picksEdge) = true ↔ _
      rw [Bool.and_eq_true, Graph.into, Graph.outOf, hin, hout]
      constructor
      · rintro ⟨htarget, hsource⟩ e he (h | h)
        · exact htarget e he h
        · exact hsource e he h
      · intro h
        exact ⟨fun e he htarget => h e he (Or.inl htarget),
          fun e he hsource => h e he (Or.inr hsource)⟩
  | incomings => exact hin
  | outgoings => exact hout

/-- The presentation with its dangling nodes hidden. -/
def swept (p : Presentation) (mode : DanglingMode) : Presentation :=
  p.hide mode (p.graph.nodes.filter (p.dangles mode))

/-- Hiding the dangling nodes of the whole graph always succeeds. -/
theorem hideDangling_none (p : Presentation) (mode : DanglingMode) :
    p.hideDangling mode none =
      .ok (p.swept mode, (p.graph.nodes.filter (p.dangles mode)).length) :=
  bind_eq_ok.mpr ⟨_, rfl, bind_eq_ok.mpr ⟨_, danglingAmong_eq fun _ hid => hid, rfl⟩⟩

/-- After that the nodes are shown that were shown and that some visible edge
    keeps. -/
theorem mem_visibleNodes_swept {id : NodeId} :
    id ∈ (p.swept mode).visibleNodes ↔
      id ∈ p.visibleNodes ∧ ∃ e ∈ p.visibleEdges, mode.Keeps e id := by
  have hkept : p.dangles mode id = false ↔ ∃ e ∈ p.visibleEdges, mode.Keeps e id := by
    rw [← Bool.not_eq_true, dangles_iff]
    simp
  have hpicks : (p.swept mode).picksNode id =
      (p.picksNode id && id ∉ p.graph.nodes.filter (p.dangles mode)) :=
    MaskStack.isVisible_push_hidden p.nodeMasks mode.label _ id
  rw [visibleNodes, visibleNodes, List.mem_filter, List.mem_filter, hpicks, ← hkept,
    Bool.and_eq_true, decide_eq_true_iff, ← and_assoc]
  refine and_congr_right fun h => ?_
  -- a node of the graph is among the hidden ones when it dangles
  rw [List.mem_filter, not_and, Bool.not_eq_true]
  exact ⟨fun h' => h' h.1, fun h' _ => h'⟩

end Presentation

end Lineage
