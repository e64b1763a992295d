import Lineage.Proofs.Indexing
import Lineage.Proofs.Recording
import Mathlib.Data.Finset.Insert

/-! # Documents kept with indexes

    `Document` looks for what it has in its lists.  A document that is to be
    fast keeps an index beside each list: the position of each type under its
    id, the set of the edges, and for captions and colors the sets of their
    owners.  Whether something is new is asked of the index, and it is put into
    both or into neither.  `IndexedDocument` is that representation.

    What keeps an index in step with its list is said once for the lists that go
    by owner (`Owned.InStep`) and then for the whole (`Indexed`).  Every
    operation preserves it, does to the lists what it does to a document, and
    leaves lists and indexes alone when there is nothing to add
    (`Indexed.performs`).  The headline, `indexed_document_is_document`, adds
    what a document holds after a run of operations of any length. -/

namespace Lineage

/-! ## Lists that go by owner -/

/-- Elements of different owners, and the set of the owners. -/
structure Owned (α : Type) where
  items : List α := []
  owners : IdSet := ∅

namespace Owned

variable {α : Type} {owner : α → String} {o : Owned α}

/-- Adds an element unless its owner has one. -/
def add (owner : α → String) (o : Owned α) (x : α) : Owned α × Bool :=
  if o.owners.contains (owner x) then (o, false)
  else ({ items := o.items ++ [x], owners := o.owners.insert (owner x) }, true)

/-- The set holds the owners of the elements and no others. -/
def InStep (owner : α → String) (o : Owned α) : Prop :=
  ∀ k, k ∈ o.owners ↔ k ∈ o.items.map owner

theorem InStep.empty : InStep owner {} := by
  intro k
  simp [Std.ExtTreeSet.not_mem_empty]

theorem add_of_mem (h : o.InStep owner) {x : α} (hx : owner x ∈ o.items.map owner) :
    o.add owner x = (o, false) := by
  rw [add, if_pos]
  exact Std.ExtTreeSet.contains_iff_mem.mpr ((h _).mpr hx)

theorem add_of_not_mem (h : o.InStep owner) {x : α} (hx : owner x ∉ o.items.map owner) :
    o.add owner x =
      ({ items := o.items ++ [x], owners := o.owners.insert (owner x) }, true) := by
  rw [add, if_neg]
  exact fun hc => hx ((h _).mp (Std.ExtTreeSet.contains_iff_mem.mp hc))

/-- List and set take up the same. -/
theorem InStep.add (h : o.InStep owner) (x : α) : (o.add owner x).1.InStep owner := by
  by_cases hx : owner x ∈ o.items.map owner
  · rw [add_of_mem h hx]
    exact h
  · rw [add_of_not_mem h hx]
    intro k
    show k ∈ o.owners.insert (owner x) ↔ k ∈ (o.items ++ [x]).map owner
    rw [Std.ExtTreeSet.mem_insert, Std.LawfulEqCmp.compare_eq_iff_eq, h k, List.map_append,
      List.mem_append, List.map_singleton, List.mem_singleton, or_comm, eq_comm]

/-- Asking the set or the list is the same. -/
theorem InStep.add_eq (h : o.InStep owner) (x : α) :
    o.add owner x =
      if o.items.any (owner · = owner x) then (o, false)
      else ({ items := o.items ++ [x], owners := o.owners.insert (owner x) }, true) := by
  by_cases hx : owner x ∈ o.items.map owner
  · rw [add_of_mem h hx, if_pos (any_key_iff.mpr hx)]
  · rw [add_of_not_mem h hx, if_neg fun hc => hx (any_key_iff.mp hc)]

/-- Inside of something larger that forgets the set, only the list is added to. -/
theorem InStep.add_within {β : Type} (h : o.InStep owner) (x : α) (whole : Owned α → β)
    (listed : List α → β) (hforgets : ∀ o, whole o = listed o.items) :
    (whole (o.add owner x).1, some (o.add owner x).2) =
      (if o.items.any (owner · = owner x) then (listed o.items, false)
        else (listed (o.items ++ [x]), true)).map id some := by
  rw [h.add_eq]
  split
  · exact Prod.ext (hforgets _) rfl
  · exact Prod.ext (hforgets _) rfl

end Owned

/-! ## The representation -/

/-- Lists beside their indexes. -/
structure IndexedDocument where
  nodes : List Descriptor := []
  nodeAt : Table Nat := ∅
  edges : List Edge := []
  edgeSet : Finset Edge := ∅
  clusters : Table (List NodeId) := ∅
  captions : Owned Caption := {}
  nodeStyles : Owned NodeStyle := {}
  edgeStyles : Owned EdgeStyle := {}
  edgeKinds : EdgeKinds := ∅

namespace IndexedDocument

/-- The document that is represented. -/
def document (x : IndexedDocument) : Document where
  nodes := x.nodes
  edges := x.edges
  clusters := x.clusters
  captions := x.captions.items
  nodeStyles := x.nodeStyles.items
  edgeStyles := x.edgeStyles.items
  edgeKinds := x.edgeKinds

/-- Adds a type unless its id has a position. -/
def addNode (x : IndexedDocument) (n : Descriptor) : IndexedDocument × Bool :=
  if x.nodeAt.contains n.id then (x, false)
  else
    ({ x with nodes := x.nodes ++ [n], nodeAt := x.nodeAt.insert n.id x.nodes.length }, true)

/-- Adds an edge unless the set has it. -/
def addEdge (x : IndexedDocument) (source target : NodeId) : IndexedDocument × Bool :=
  let e : Edge := ⟨source, target⟩
  if e ∈ x.edgeSet then (x, false)
  else ({ x with edges := x.edges ++ [e], edgeSet := insert e x.edgeSet }, true)

/-- Performs an operation. -/
def perform (x : IndexedDocument) : Document.Operation → IndexedDocument × Option Bool
  | .node n => (x.addNode n).map id some
  | .edge source target => (x.addEdge source target).map id some
  | .member cluster node =>
      ({ x with clusters := (x.document.addToCluster cluster node).clusters }, none)
  | .caption c =>
      (x.captions.add Caption.owner c).map (fun captions => { x with captions }) some
  | .nodeStyle s =>
      (x.nodeStyles.add NodeStyle.owner s).map (fun nodeStyles => { x with nodeStyles }) some
  | .edgeStyle s =>
      (x.edgeStyles.add EdgeStyle.owner s).map (fun edgeStyles => { x with edgeStyles }) some
  | .edgeKind edge kind =>
      (x.edgeKinds.record edge kind).map (fun edgeKinds => { x with edgeKinds }) some

/-- What some operations make of nothing. -/
def after (ops : List Document.Operation) : IndexedDocument :=
  ops.foldl (fun x op => (x.perform op).1) {}

/-- The type at the position of the id. -/
def node? (x : IndexedDocument) (id : NodeId) : Option Descriptor :=
  x.nodeAt[id]?.bind (x.nodes[·]?)

/-! ## The indexes are in step with the lists -/

/-- The indexes hold what is in the lists and nothing else. -/
structure Indexed (x : IndexedDocument) : Prop where
  nodeAt : ∀ (id : NodeId) i, x.nodeAt[id]? = some i ↔ x.document.ids[i]? = some id
  edgeSet : ∀ e, e ∈ x.edgeSet ↔ e ∈ x.edges
  captions : x.captions.InStep Caption.owner
  nodeStyles : x.nodeStyles.InStep NodeStyle.owner
  edgeStyles : x.edgeStyles.InStep EdgeStyle.owner

variable {x : IndexedDocument}

theorem Indexed.empty : Indexed {} where
  nodeAt := by
    intro id i
    rw [Std.ExtTreeMap.getElem?_empty]
    simp [document, Document.ids]
  edgeSet := by simp
  captions := .empty
  nodeStyles := .empty
  edgeStyles := .empty

namespace Indexed

theorem contains_iff (h : x.Indexed) (id : NodeId) :
    x.nodeAt.contains id = true ↔ id ∈ x.document.ids := by
  rw [Std.ExtTreeMap.contains_iff_mem, mem_table_iff, List.mem_iff_getElem?]
  exact exists_congr fun i => h.nodeAt id i

/-- The position of an id is that of a type with that id, the only one. -/
theorem node?_eq (h : x.Indexed) (hids : x.document.ids.Nodup) (id : NodeId) :
    x.node? id = x.document.node? id := by
  rw [node?]
  cases hat : x.nodeAt[id]? with
  | none =>
      have hid : id ∉ x.document.ids := by
        rw [← h.contains_iff, Std.ExtTreeMap.contains_eq_isSome_getElem?, hat]
        exact Bool.false_ne_true
      refine (List.find?_eq_none.mpr fun n hn hkey => hid ?_).symm
      exact of_decide_eq_true hkey ▸ List.mem_map_of_mem hn
  | some i =>
      have hi := (h.nodeAt id i).mp hat
      rw [Document.ids, List.getElem?_map] at hi
      obtain ⟨n, hn, rfl⟩ := Option.map_eq_some_iff.mp hi
      rw [Document.node?_eq_some hids (List.mem_of_getElem? hn)]
      exact hn

/-! ## One operation -/

/-- A new type gets the next position. -/
theorem addNode (h : x.Indexed) (n : Descriptor) : (x.addNode n).1.Indexed := by
  rw [IndexedDocument.addNode]
  split
  · exact h
  · next hnew =>
      have hid : n.id ∉ x.document.ids := fun hmem => hnew ((h.contains_iff n.id).mpr hmem)
      refine ⟨fun id i => ?_, h.edgeSet, h.captions, h.nodeStyles, h.edgeStyles⟩
      have hids : (x.nodes ++ [n]).map (·.id) = x.document.ids ++ [n.id] := by
        rw [List.map_append]
        rfl
      have hlength : x.nodes.length = x.document.ids.length := (List.length_map _).symm
      show (x.nodeAt.insert n.id x.nodes.length)[id]? = some i ↔
        ((x.nodes ++ [n]).map (·.id))[i]? = some id
      rw [getElem?_insert, hids, IndexedGraph.getElem?_concat_eq_some, hlength]
      by_cases hsame : n.id = id
      · -- no other position is that of the new id, or it would not be new
        subst hsame
        have hfree : x.document.ids[i]? ≠ some n.id := fun hi => hid (List.mem_of_getElem? hi)
        rw [if_pos rfl, Option.some.injEq]
        simp [hfree, eq_comm]
      · rw [if_neg hsame, h.nodeAt]
        simp [hsame]

theorem addEdge (h : x.Indexed) (source target : NodeId) : (x.addEdge source target).1.Indexed := by
  dsimp only [IndexedDocument.addEdge]
  split
  · exact h
  · refine ⟨h.nodeAt, fun e => ?_, h.captions, h.nodeStyles, h.edgeStyles⟩
    rw [Finset.mem_insert, h.edgeSet, List.mem_append, List.mem_singleton, or_comm]

theorem perform (h : x.Indexed) (op : Document.Operation) : (x.perform op).1.Indexed := by
  cases op with
  | node n => exact h.addNode n
  | edge source target => exact h.addEdge source target
  | member cluster node => exact { h with }
  | caption c => exact { h with captions := h.captions.add c }
  | nodeStyle s => exact { h with nodeStyles := h.nodeStyles.add s }
  | edgeStyle s => exact { h with edgeStyles := h.edgeStyles.add s }
  | edgeKind edge kind => exact { h with }

/-- An operation does to the lists what it does to a document. -/
theorem document_perform (h : x.Indexed) (op : Document.Operation) :
    ((x.perform op).1.document, (x.perform op).2) = x.document.perform op := by
  cases op with
  | node n =>
      dsimp only [IndexedDocument.perform, Document.perform, IndexedDocument.addNode,
        Document.addNode]
      by_cases hmem : n.id ∈ x.document.ids
      · rw [if_pos ((h.contains_iff _).mpr hmem), if_pos (any_key_iff.mpr hmem)]
        rfl
      · rw [if_neg fun hc => hmem ((h.contains_iff _).mp hc), if_neg fun hc => hmem (any_key_iff.mp hc)]
        rfl
  | edge source target =>
      dsimp only [IndexedDocument.perform, Document.perform, IndexedDocument.addEdge,
        Document.addEdge]
      by_cases hmem : (⟨source, target⟩ : Edge) ∈ x.document.edges
      · rw [if_pos ((h.edgeSet _).mpr hmem), if_pos hmem]
        rfl
      · rw [if_neg fun hc => hmem ((h.edgeSet _).mp hc), if_neg hmem]
        rfl
  | member cluster node => rfl
  | caption c =>
      exact h.captions.add_within c (fun captions => document { x with captions })
        (fun captions => { x.document with captions }) fun _ => rfl
  | nodeStyle s =>
      exact h.nodeStyles.add_within s (fun nodeStyles => document { x with nodeStyles })
        (fun nodeStyles => { x.document with nodeStyles }) fun _ => rfl
  | edgeStyle s =>
      exact h.edgeStyles.add_within s (fun edgeStyles => document { x with edgeStyles })
        (fun edgeStyles => { x.document with edgeStyles }) fun _ => rfl
  | edgeKind edge kind => rfl

/-- Where there is nothing to add, lists and indexes stay as they are. -/
theorem perform_of_has (h : x.Indexed) {op : Document.Operation} (hop : x.document.Has op) :
    (x.perform op).1 = x := by
  cases op with
  | node n =>
      have hadd : x.addNode n = (x, false) := if_pos ((h.contains_iff _).mpr hop)
      rw [IndexedDocument.perform, hadd]
      rfl
  | edge source target =>
      have hadd : x.addEdge source target = (x, false) := if_pos ((h.edgeSet _).mpr hop)
      rw [IndexedDocument.perform, hadd]
      rfl
  | member cluster node =>
      -- clusters and kinds have no index, so the document decides
      have hsame : (x.document.addToCluster cluster node).clusters = x.clusters :=
        congrArg (·.clusters) (Document.perform_of_has hop)
      rw [IndexedDocument.perform, hsame]
  | caption c =>
      rw [IndexedDocument.perform, Owned.add_of_mem h.captions hop]
      rfl
  | nodeStyle s =>
      rw [IndexedDocument.perform, Owned.add_of_mem h.nodeStyles hop]
      rfl
  | edgeStyle s =>
      rw [IndexedDocument.perform, Owned.add_of_mem h.edgeStyles hop]
      rfl
  | edgeKind edge kind =>
      have hsame : (x.document.setEdgeKind edge kind).1.edgeKinds = x.edgeKinds :=
        congrArg (·.edgeKinds) (Document.perform_of_has hop)
      show { x with edgeKinds := (x.document.setEdgeKind edge kind).1.edgeKinds } = x
      rw [hsame]

/-! ## Runs -/

theorem after (ops : List Document.Operation) :
    (IndexedDocument.after ops).Indexed ∧
      (IndexedDocument.after ops).document = Document.after ops := by
  have hrun : ∀ (ops : List Document.Operation) (x : IndexedDocument), x.Indexed →
      (ops.foldl (fun x op => (x.perform op).1) x).Indexed ∧
        (ops.foldl (fun x op => (x.perform op).1) x).document =
          ops.foldl (fun d op => (d.perform op).1) x.document := by
    intro ops
    -- over the operations from any representation whose indexes are in step
    induction ops with
    | nil => exact fun x h => ⟨h, rfl⟩
    | cons op ops ih =>
        intro x h
        obtain ⟨hend, hdocument⟩ := ih _ (h.perform op)
        refine ⟨hend, ?_⟩
        rw [List.foldl_cons, hdocument, List.foldl_cons, ← h.document_perform op]
  exact hrun ops {} .empty

end Indexed

/-- One operation on a document and on its representation. -/
structure Performs (x : IndexedDocument) (d : Document) (op : Document.Operation) : Prop where
  document : (x.perform op).1.document = (d.perform op).1
  reply : (x.perform op).2 = (d.perform op).2
  /-- Every operation but one reports, and it says whether something was missing. -/
  silent : (d.perform op).2 = none ↔ ∃ cluster node, op = .member cluster node
  reports : ∀ added, (d.perform op).2 = some added → (added = true ↔ ¬ d.Has op)
  added : (d.perform op).1.Has op
  /-- Where nothing was missing, lists and indexes stay as they are. -/
  unchanged : d.Has op → (x.perform op).1 = x ∧ (d.perform op).1 = d

theorem Indexed.performs (h : x.Indexed) (op : Document.Operation) : x.Performs x.document op where
  document := congrArg Prod.fst (h.document_perform op)
  reply := congrArg Prod.snd (h.document_perform op)
  silent := Document.perform_snd_eq_none
  reports := fun _ => Document.perform_reports
  added := x.document.has_perform op
  unchanged := fun hop => ⟨h.perform_of_has hop, Document.perform_of_has hop⟩

/-- **A document is the record of what was done to it.**  Whatever operations
    were performed on an empty document, its lists hold what they gave, each
    thing once and in the order in which it first came, and its indexes hold what
    is in the lists.  A type is found as it was first given, an edge keeps its
    first kind, and the two kinds make up all that were recorded.  An operation
    reports whether its key was missing, and otherwise leaves everything as it
    is.  What is kept outside is this state, in this order. -/
theorem indexed_document_is_document (ops : List Document.Operation) :
    (after ops).document = Document.after ops ∧ (after ops).Indexed ∧
      (Document.after ops).Tidy ∧ (Document.after ops).Records ops ∧
      (∀ id, (after ops).node? id = (ops.filterMap (·.node?)).find? (·.id = id) ∧
        (Document.after ops).node? id = (after ops).node? id) ∧
      (Document.after ops).edgeKinds.countOf .derivesFrom +
        (Document.after ops).edgeKinds.countOf .implements =
          (Document.after ops).edgeKinds.size ∧
      (∀ op, (after ops).Performs (Document.after ops) op) ∧
      Document.Keeps (Document.after ops).exported (Document.after ops) := by
  obtain ⟨hindexed, hdocument⟩ := Indexed.after ops
  have htidy := Document.tidy_after ops
  have hrecords := Document.records_after ops
  refine ⟨hdocument, hindexed, htidy, hrecords, fun id => ?_, EdgeKinds.countOf_add_countOf _,
    fun op => hdocument ▸ hindexed.performs op, Document.keeps_exported _⟩
  have hfound := hindexed.node?_eq (hdocument ▸ htidy.ids) id
  rw [hdocument] at hfound
  exact ⟨hfound.trans (hrecords.nodes.first id), hfound.symm⟩

end IndexedDocument

end Lineage
