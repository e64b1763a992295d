import Lineage.Proofs.Counting
import Lineage.Proofs.Editing

/-! # What a document records

    Each list of a document is fed by one operation, and the others leave it
    alone (`perform_fst`).  So it can be read off a run what is in the document
    in the end: the arguments of the operations that feed a list, without those
    that came too late (`field_after`, `records_after`).

    An operation that would add what is there already changes nothing
    (`perform_of_has`), and if it reports at all, it reports just that
    (`perform_reports`). -/

namespace Lineage

section KeepFirst

variable {α : Type} {key : α → String}

theorem keepFirst_of_mem {xs : List α} {x : α} (h : key x ∈ xs.map key) :
    keepFirst key xs x = xs := by
  rw [keepFirst, if_pos (any_key_iff.mpr h)]

theorem key_mem_keepFirst (xs : List α) (x : α) : key x ∈ (keepFirst key xs x).map key := by
  rw [map_keepFirst, mem_adjoin]
  exact Or.inr rfl

theorem map_foldl_keepFirst (ys xs : List α) :
    (ys.foldl (keepFirst key) xs).map key = adjoinAll (xs.map key) (ys.map key) := by
  induction ys generalizing xs with
  | nil => rfl
  | cons y ys ih => rw [List.foldl_cons, ih, map_keepFirst, List.map_cons, adjoinAll_cons]

/-- Of what was given, the first of each key is kept, and these in the order in
    which they came. -/
structure FirstComers (key : α → String) (given kept : List α) : Prop where
  keys : kept.map key = (given.map key).eraseDups
  first : ∀ k, kept.find? (key · = k) = given.find? (key · = k)

theorem firstComers_foldl (given : List α) :
    FirstComers key given (given.foldl (keepFirst key) []) where
  keys := by
    rw [map_foldl_keepFirst, eraseDups_eq_adjoinAll]
    rfl
  first := by
    intro k
    rw [find?_foldl_keepFirst, List.find?_nil, Option.none_or]

end KeepFirst

namespace Document

/-! ## What operations give -/

namespace Operation

/-- The type that an operation gives to the document. -/
def node? : Operation → Option Descriptor
  | .node n => some n
  | _ => none

/-- The edge that an operation gives to the document. -/
def edge? : Operation → Option Edge
  | .edge source target => some ⟨source, target⟩
  | _ => none

/-- The member that an operation gives to a cluster. -/
def member? (cluster : ClusterId) : Operation → Option NodeId
  | .member c id => if c = cluster then some id else none
  | _ => none

/-- The caption that an operation gives to the document. -/
def caption? : Operation → Option Caption
  | .caption c => some c
  | _ => none

/-- The fill color that an operation gives to the document. -/
def nodeStyle? : Operation → Option NodeStyle
  | .nodeStyle s => some s
  | _ => none

/-- The line color that an operation gives to the document. -/
def edgeStyle? : Operation → Option EdgeStyle
  | .edgeStyle s => some s
  | _ => none

/-- The kind that an operation gives to an edge. -/
def edgeKind? : Operation → Option (EdgeId × EdgeKind)
  | .edgeKind id kind => some (id, kind)
  | _ => none

end Operation

/-! ## One operation -/

variable {d : Document}

/-- What each operation changes. -/
theorem perform_fst (d : Document) (op : Operation) :
    (d.perform op).1 = match op with
      | .node n => { d with nodes := keepFirst Descriptor.id d.nodes n }
      | .edge source target => { d with edges := adjoin d.edges ⟨source, target⟩ }
      | .member cluster node =>
          { d with clusters := d.clusters.insert cluster (adjoin (d.members cluster) node) }
      | .caption c => { d with captions := keepFirst Caption.owner d.captions c }
      | .nodeStyle s => { d with nodeStyles := keepFirst NodeStyle.owner d.nodeStyles s }
      | .edgeStyle s => { d with edgeStyles := keepFirst EdgeStyle.owner d.edgeStyles s }
      | .edgeKind edge kind => { d with edgeKinds := d.edgeKinds.insertIfNew edge kind } := by
  cases op with
  | node n => exact d.addNode_eq n
  | edge source target => exact d.addEdge_fst source target
  | member cluster node => rfl
  | caption c => exact d.addCaption_eq c
  | nodeStyle s => exact d.addNodeStyle_eq s
  | edgeStyle s => exact d.addEdgeStyle_eq s
  | edgeKind edge kind => rfl

/-- What an operation is to add is there already. -/
def Has (d : Document) : Operation → Prop
  | .node n => n.id ∈ d.ids
  | .edge source target => ⟨source, target⟩ ∈ d.edges
  | .member cluster node => node ∈ d.members cluster
  | .caption c => c.owner ∈ d.captions.map (·.owner)
  | .nodeStyle s => s.owner ∈ d.nodeStyles.map (·.owner)
  | .edgeStyle s => s.owner ∈ d.edgeStyles.map (·.owner)
  | .edgeKind edge _ => edge ∈ d.edgeKinds

/-- Only a new member is added in silence. -/
theorem perform_snd_eq_none {op : Operation} :
    (d.perform op).2 = none ↔ ∃ cluster node, op = .member cluster node := by
  cases op <;> simp [perform]

/-- An operation that reports says whether something was missing before. -/
theorem perform_reports {op : Operation} {added : Bool} (h : (d.perform op).2 = some added) :
    added = true ↔ ¬ d.Has op := by
  have hif : ∀ {p : Prop} [Decidable p] {d' : Document},
      (if p then (d, false) else (d', true)).2 = true ↔ ¬ p := by
    intro p _ d'
    by_cases hp : p
    · simp [hp]
    · simp [hp]
  cases op with
  | node n =>
      obtain rfl := Option.some.inj h
      exact hif.trans (not_congr any_key_iff)
  | edge source target =>
      obtain rfl := Option.some.inj h
      exact hif
  | member cluster node => cases h
  | caption c =>
      obtain rfl := Option.some.inj h
      exact hif.trans (not_congr any_key_iff)
  | nodeStyle s =>
      obtain rfl := Option.some.inj h
      exact hif.trans (not_congr any_key_iff)
  | edgeStyle s =>
      obtain rfl := Option.some.inj h
      exact hif.trans (not_congr any_key_iff)
  | edgeKind edge kind =>
      obtain rfl := Option.some.inj h
      show (!d.edgeKinds.contains edge) = true ↔ edge ∉ d.edgeKinds
      rw [Bool.not_eq_true', ← Bool.not_eq_true, Std.ExtTreeMap.contains_iff_mem]

/-- What an operation is to add is there after it. -/
theorem has_perform (d : Document) (op : Operation) : (d.perform op).1.Has op := by
  rw [perform_fst]
  cases op with
  | node n => exact key_mem_keepFirst d.nodes n
  | edge source target => exact mem_adjoin.mpr (Or.inr rfl)
  | member cluster node =>
      show node ∈ (d.addToCluster cluster node).members cluster
      rw [members_addToCluster, if_pos rfl, mem_adjoin]
      exact Or.inr rfl
  | caption c => exact key_mem_keepFirst d.captions c
  | nodeStyle s => exact key_mem_keepFirst d.nodeStyles s
  | edgeStyle s => exact key_mem_keepFirst d.edgeStyles s
  | edgeKind edge kind =>
      show edge ∈ d.edgeKinds.insertIfNew edge kind
      rw [Std.ExtTreeMap.mem_insertIfNew]
      exact Or.inl (Std.LawfulEqCmp.compare_eq_iff_eq.mpr rfl)

/-- Putting a cluster back that has members changes nothing. -/
theorem insert_members {cluster : ClusterId} {node : NodeId} (h : node ∈ d.members cluster) :
    d.clusters.insert cluster (d.members cluster) = d.clusters := by
  refine Std.ExtTreeMap.ext_getElem? fun c => ?_
  rw [getElem?_insert]
  split
  · next hc =>
      subst hc
      rw [members, Std.ExtTreeMap.getD_eq_getD_getElem?] at h ⊢
      cases hget : d.clusters[cluster]? with
      | some ms => rfl
      | none =>
          rw [hget] at h
          exact absurd h List.not_mem_nil
  · rfl

/-- What is there already is not added again, and nothing else is. -/
theorem perform_of_has {op : Operation} (h : d.Has op) : (d.perform op).1 = d := by
  rw [perform_fst]
  cases op with
  | node n =>
      dsimp only
      rw [keepFirst_of_mem h]
  | edge source target =>
      dsimp only
      rw [adjoin_of_mem h]
  | member cluster node =>
      dsimp only
      rw [adjoin_of_mem h, insert_members h]
  | caption c =>
      dsimp only
      rw [keepFirst_of_mem h]
  | nodeStyle s =>
      dsimp only
      rw [keepFirst_of_mem h]
  | edgeStyle s =>
      dsimp only
      rw [keepFirst_of_mem h]
  | edgeKind edge kind =>
      have hsame : d.edgeKinds.insertIfNew edge kind = d.edgeKinds := by
        refine Std.ExtTreeMap.ext_getElem? fun e => ?_
        obtain ⟨k, hk⟩ := mem_table_iff.mp h
        rw [getElem?_insertIfNew]
        split
        · next he => rw [← he, hk, Option.some_or]
        · rw [Option.or_none]
      dsimp only
      rw [hsame]

/-! ## Runs -/

/-- A part of the document that some operations feed, one step each, and that
    the others leave alone is made of what these operations give. -/
theorem field_after {β γ : Type} (field : Document → β) (given? : Operation → Option γ)
    (step : β → γ → β)
    (h : ∀ d op, field (d.perform op).1 = (given? op).elim (field d) (step (field d)))
    (ops : List Operation) : field (after ops) = (ops.filterMap given?).foldl step (field {}) := by
  have hrun : ∀ d : Document, field (ops.foldl (fun d op => (d.perform op).1) d) =
      (ops.filterMap given?).foldl step (field d) := by
    -- from any document, since the rest of a run starts where the first step ends
    induction ops with
    | nil => exact fun d => rfl
    | cons op ops ih =>
        intro d
        rw [List.foldl_cons, ih, h, List.filterMap_cons]
        cases given? op with
        | none => rfl
        | some x => rfl
  exact hrun {}

/-- The document holds what operations gave it: each thing once, in the order
    in which it first came, with what was first said about it. -/
structure Records (d : Document) (ops : List Operation) : Prop where
  nodes : FirstComers Descriptor.id (ops.filterMap (·.node?)) d.nodes
  edges : d.edges = (ops.filterMap (·.edge?)).eraseDups
  members : ∀ c, d.members c = (ops.filterMap (·.member? c)).eraseDups
  /-- A cluster is there when it was given a member. -/
  clusters : ∀ c, c ∈ d.clusters ↔ ops.filterMap (·.member? c) ≠ []
  captions : FirstComers Caption.owner (ops.filterMap (·.caption?)) d.captions
  nodeStyles : FirstComers NodeStyle.owner (ops.filterMap (·.nodeStyle?)) d.nodeStyles
  edgeStyles : FirstComers EdgeStyle.owner (ops.filterMap (·.edgeStyle?)) d.edgeStyles
  edgeKinds : ∀ e, d.edgeKinds[e]? = ((ops.filterMap (·.edgeKind?)).find? (·.1 = e)).map (·.2)

theorem members_perform (c : ClusterId) (d : Document) (op : Operation) :
    (d.perform op).1.members c = (op.member? c).elim (d.members c) (adjoin (d.members c)) := by
  cases op with
  | member cluster node =>
      -- the only operation on members, and it may be about another cluster
      show (d.addToCluster cluster node).members c = _
      rw [members_addToCluster, Operation.member?]
      split
      · next hc => rw [hc, Option.elim_some]
      · rfl
  | _ =>
      rw [perform_fst]
      rfl

theorem hasCluster_perform (c : ClusterId) (d : Document) (op : Operation) :
    (d.perform op).1.clusters.contains c =
      (op.member? c).elim (d.clusters.contains c) fun _ => true := by
  cases op with
  | member cluster node =>
      show (d.clusters.insert cluster _).contains c = _
      rw [Std.ExtTreeMap.contains_insert, Operation.member?]
      by_cases hc : cluster = c
      · simp [hc]
      · simp [hc]
  | _ =>
      rw [perform_fst]
      rfl

/-- A list that keeps first comers keeps those among what it was given. -/
theorem firstComers_after {α : Type} {key : α → String} (field : Document → List α)
    (given? : Operation → Option α) (hempty : field {} = [])
    (h : ∀ d op, field (d.perform op).1 = (given? op).elim (field d) (keepFirst key (field d)))
    (ops : List Operation) : FirstComers key (ops.filterMap given?) (field (after ops)) := by
  rw [field_after field given? (keepFirst key) h ops, hempty]
  exact firstComers_foldl _

/-- Whether anything was given at all. -/
theorem foldl_true_iff {α : Type} (xs : List α) :
    xs.foldl (fun _ _ => true) false = true ↔ xs ≠ [] := by
  have hstays : ∀ ys : List α, ys.foldl (fun _ _ => true) true = true := by
    intro ys
    induction ys with
    | nil => rfl
    | cons y ys ih => exact ih
  cases xs with
  | nil => simp
  | cons x xs => simp [hstays xs]

/-- Whatever the operations were, the document is their record. -/
theorem records_after (ops : List Operation) : (after ops).Records ops where
  nodes := by
    refine firstComers_after (·.nodes) (·.node?) rfl (fun d op => ?_) ops
    rw [perform_fst]
    cases op <;> rfl
  edges := by
    rw [eraseDups_eq_adjoinAll]
    refine field_after (·.edges) (·.edge?) adjoin (fun d op => ?_) ops
    rw [perform_fst]
    cases op <;> rfl
  members := by
    intro c
    have hnone : members {} c = [] := Std.ExtTreeMap.getD_empty
    have hrun := field_after (·.members c) (·.member? c) adjoin (members_perform c) ops
    rw [hnone] at hrun
    rw [eraseDups_eq_adjoinAll]
    exact hrun
  clusters := by
    intro c
    have hrun := field_after (·.clusters.contains c) (·.member? c) (fun _ _ => true)
      (hasCluster_perform c) ops
    rw [← foldl_true_iff, ← Std.ExtTreeMap.contains_iff_mem]
    exact iff_of_eq (congrArg (· = true) hrun)
  captions := by
    refine firstComers_after (·.captions) (·.caption?) rfl (fun d op => ?_) ops
    rw [perform_fst]
    cases op <;> rfl
  nodeStyles := by
    refine firstComers_after (·.nodeStyles) (·.nodeStyle?) rfl (fun d op => ?_) ops
    rw [perform_fst]
    cases op <;> rfl
  edgeStyles := by
    refine firstComers_after (·.edgeStyles) (·.edgeStyle?) rfl (fun d op => ?_) ops
    rw [perform_fst]
    cases op <;> rfl
  edgeKinds := by
    intro e
    have hrun := field_after (·.edgeKinds) (·.edgeKind?) (fun t k => t.insertIfNew k.1 k.2)
      (fun d op => by rw [perform_fst]; cases op <;> rfl) ops
    have hlook := getElem?_foldl_insertIfNew ∅ (ops.filterMap (·.edgeKind?)) (·.1) (·.2) e
    rw [Std.ExtTreeMap.getElem?_empty, Option.none_or] at hlook
    exact (congrArg (·[e]?) hrun).trans hlook

/-- What is kept outside is the document, in the same order, with its types by
    id only. -/
structure Keeps (x : DocumentExport) (d : Document) : Prop where
  nodes : x.nodes = d.ids
  edges : x.edges = d.edges.map fun e => (e.source, e.target)
  clusters : x.clusters = d.clusters
  captions : x.captions = d.captions
  nodeStyles : x.nodeStyles = d.nodeStyles
  edgeStyles : x.edgeStyles = d.edgeStyles
  edgeKinds : x.edgeKinds = d.edgeKinds
  /-- Nothing but the descriptors is lost. -/
  restored : d = { nodes := d.nodes, edges := x.edges.map fun e => ⟨e.1, e.2⟩, clusters := x.clusters,
                   captions := x.captions, nodeStyles := x.nodeStyles, edgeStyles := x.edgeStyles,
                   edgeKinds := x.edgeKinds }

theorem keeps_exported (d : Document) : Keeps d.exported d where
  nodes := rfl
  edges := rfl
  clusters := rfl
  captions := rfl
  nodeStyles := rfl
  edgeStyles := rfl
  edgeKinds := rfl
  restored := by
    have hedges : (d.edges.map fun e => (e.source, e.target)).map (fun e => (⟨e.1, e.2⟩ : Edge)) =
        d.edges := by
      rw [List.map_map]
      exact List.map_id d.edges
    rw [exported, hedges]

end Document

end Lineage
