import Lineage.Proofs.Documents

/-! # What decorating comes to

    Decorating goes over the edges and then over the types, and adds one hint
    after the other.  Seen field by field, it is one pass each over a list that
    can be written down beforehand: `keepFirst` adds what has a new owner, and a
    type is adjoined to the cluster of its namespace.

    For a document as it is collected, which has no hints yet, that gives what
    each owner gets in closed form: a type its name (`caption?_decorate`), an
    interface its mark (`nodeStyle?_decorate`), an edge the color of its kind
    (`edgeStyle?_decorate`), and a namespace its types (`clusters_decorate`). -/

namespace Lineage

/-! ## First comers of a key -/

section KeepFirst

variable {α : Type} (key : α → String)

/-- The list with `x` at its end, unless its key is taken. -/
def keepFirst (xs : List α) (x : α) : List α :=
  if xs.any (key · = key x) then xs else xs ++ [x]

/-- A key is taken when it is among the keys. -/
theorem any_key_iff {key : α → String} {xs : List α} {k : String} :
    xs.any (key · = k) = true ↔ k ∈ xs.map key := by
  simp

/-- Keys are kept like the elements themselves. -/
theorem map_keepFirst (xs : List α) (x : α) :
    (keepFirst key xs x).map key = adjoin (xs.map key) (key x) := by
  rw [keepFirst]
  by_cases htaken : key x ∈ xs.map key
  · rw [if_pos (any_key_iff.mpr htaken), adjoin_of_mem htaken]
  · rw [if_neg fun h => htaken (any_key_iff.mp h), adjoin_of_not_mem htaken, List.map_append]
    rfl

theorem nodup_map_keepFirst {xs : List α} (h : (xs.map key).Nodup) (x : α) :
    ((keepFirst key xs x).map key).Nodup := by
  rw [map_keepFirst]
  exact nodup_adjoin h

theorem find?_keepFirst (xs : List α) (x : α) (k : String) :
    (keepFirst key xs x).find? (key · = k) =
      (xs.find? (key · = k)).or ([x].find? (key · = k)) := by
  rw [keepFirst]
  by_cases htaken : xs.any (key · = key x) = true
  · rw [if_pos htaken]
    cases hfind : xs.find? (key · = k) with
    | some y => rfl
    | none =>
        -- the key of `x` is taken and `k` is not, so they differ
        obtain ⟨y, hy, hkey⟩ := List.any_eq_true.mp htaken
        have hx : ¬ key x = k := by
          intro hx
          refine List.find?_eq_none.mp hfind y hy ?_
          rw [← hx]
          exact hkey
        simp [hx]
  · rw [if_neg htaken, List.find?_append]

/-- Under a free key stands the first of the added ones that has it. -/
theorem find?_foldl_keepFirst (ys xs : List α) (k : String) :
    (ys.foldl (keepFirst key) xs).find? (key · = k) =
      (xs.find? (key · = k)).or (ys.find? (key · = k)) := by
  induction ys generalizing xs with
  | nil => rw [List.foldl_nil, List.find?_nil, Option.or_none]
  | cons y ys ih =>
      rw [List.foldl_cons, ih, find?_keepFirst, Option.or_assoc, ← List.find?_append]
      rfl

end KeepFirst

namespace Document

variable {d : Document}

/-! ## Looking up hints -/

/-- The caption of an owner. -/
def caption? (d : Document) (owner : String) : Option Caption :=
  d.captions.find? (·.owner = owner)

/-- The fill color that an owner was given. -/
def nodeStyle? (d : Document) (owner : String) : Option NodeStyle :=
  d.nodeStyles.find? (·.owner = owner)

/-- The line color that an owner was given. -/
def edgeStyle? (d : Document) (owner : String) : Option EdgeStyle :=
  d.edgeStyles.find? (·.owner = owner)

/-! ## One step -/

theorem addCaption_eq (d : Document) (c : Caption) :
    (d.addCaption c).1 = { d with captions := keepFirst Caption.owner d.captions c } := by
  rw [addCaption, keepFirst]
  split <;> rfl

theorem addNodeStyle_eq (d : Document) (s : NodeStyle) :
    (d.addNodeStyle s).1 = { d with nodeStyles := keepFirst NodeStyle.owner d.nodeStyles s } := by
  rw [addNodeStyle, keepFirst]
  split <;> rfl

theorem addEdgeStyle_eq (d : Document) (s : EdgeStyle) :
    (d.addEdgeStyle s).1 = { d with edgeStyles := keepFirst EdgeStyle.owner d.edgeStyles s } := by
  rw [addEdgeStyle, keepFirst]
  split <;> rfl

/-- The caption of a type. -/
def nameOf (n : Descriptor) : Caption := ⟨n.id, n.name⟩

/-- The style that marks an interface. -/
def markOf (n : Descriptor) : NodeStyle := ⟨n.id, interfaceColor⟩

/-- The style of an edge in a document. -/
def strokeOf (d : Document) (e : Edge) : EdgeStyle := ⟨e.id, (d.drawnKind e).color⟩

/-- Clusters with a type in that of its namespace, if it has one. -/
def gather (clusters : Table (List NodeId)) (n : Descriptor) : Table (List NodeId) :=
  if n.space = "" then clusters
  else clusters.insert n.space (adjoin (clusters.getD n.space []) n.id)

theorem mark_eq (is : List NodeId) (d : Document) (n : Descriptor) :
    (if n.id ∈ is then (d.addNodeStyle (markOf n)).1 else d) =
      { d with
        nodeStyles := if n.id ∈ is then keepFirst NodeStyle.owner d.nodeStyles (markOf n)
          else d.nodeStyles } := by
  split
  · rw [addNodeStyle_eq]
  · rfl

theorem gather_eq (b : Bool) (d : Document) (n : Descriptor) :
    (if (b && n.space != "") = true then d.addToCluster n.space n.id else d) =
      { d with clusters := if b then gather d.clusters n else d.clusters } := by
  cases b with
  | false => rfl
  | true =>
      by_cases hspace : n.space = ""
      · rw [if_neg (by simp [hspace]), if_pos rfl, gather, if_pos hspace]
      · rw [if_pos (by simp [hspace]), if_pos rfl, gather, if_neg hspace]
        rfl

theorem decorateNode_eq (is : List NodeId) (b : Bool) (d : Document) (n : Descriptor) :
    decorateNode is b d n =
      { d with
        captions := keepFirst Caption.owner d.captions (nameOf n)
        nodeStyles := if n.id ∈ is then keepFirst NodeStyle.owner d.nodeStyles (markOf n)
          else d.nodeStyles
        clusters := if b then gather d.clusters n else d.clusters } := by
  show (if (b && n.space != "") = true then
      (if n.id ∈ is then ((d.addCaption (nameOf n)).1.addNodeStyle (markOf n)).1
        else (d.addCaption (nameOf n)).1).addToCluster n.space n.id
    else if n.id ∈ is then ((d.addCaption (nameOf n)).1.addNodeStyle (markOf n)).1
      else (d.addCaption (nameOf n)).1) = _
  rw [mark_eq, gather_eq, addCaption_eq]

/-! ## The whole run -/

theorem foldl_decorateNode (is : List NodeId) (b : Bool) (ns : List Descriptor) (d : Document) :
    ns.foldl (decorateNode is b) d =
      { d with
        captions := (ns.map nameOf).foldl (keepFirst Caption.owner) d.captions
        nodeStyles := ((ns.filter (·.id ∈ is)).map markOf).foldl (keepFirst NodeStyle.owner)
          d.nodeStyles
        clusters := if b then ns.foldl gather d.clusters else d.clusters } := by
  induction ns generalizing d with
  | nil => cases b <;> rfl
  | cons n ns ih =>
      rw [List.foldl_cons, ih, decorateNode_eq, List.filter_cons]
      by_cases hmark : n.id ∈ is
      · cases b <;> simp [hmark]
      · cases b <;> simp [hmark]

theorem colorEdges_eq (d : Document) : d.colorEdges =
    { d with
      edgeStyles := (d.edges.map d.strokeOf).foldl (keepFirst EdgeStyle.owner) d.edgeStyles } := by
  have hrun : ∀ (es : List Edge) (d' : Document),
      es.foldl (fun d' e => (d'.addEdgeStyle (d.strokeOf e)).1) d' =
        { d' with
          edgeStyles := (es.map d.strokeOf).foldl (keepFirst EdgeStyle.owner) d'.edgeStyles } := by
    intro es
    induction es with
    | nil => intro d'; rfl
    | cons e es ih =>
        intro d'
        rw [List.foldl_cons, ih, addEdgeStyle_eq, List.map_cons, List.foldl_cons]
  exact hrun d.edges d

/-- Decorating, field by field. -/
theorem decorate_eq (d : Document) (b : Bool) : d.decorate b =
    { d with
      captions := (d.nodes.map nameOf).foldl (keepFirst Caption.owner) d.captions
      nodeStyles := ((d.nodes.filter (·.id ∈ d.interfaces)).map markOf).foldl
        (keepFirst NodeStyle.owner) d.nodeStyles
      edgeStyles := (d.edges.map d.strokeOf).foldl (keepFirst EdgeStyle.owner) d.edgeStyles
      clusters := if b then d.nodes.foldl gather d.clusters else d.clusters } := by
  rw [decorate, foldl_decorateNode, colorEdges_eq]

/-! ## Clusters by namespace -/

theorem getElem?_gather (t : Table (List NodeId)) (n : Descriptor) (c : ClusterId) :
    (gather t n)[c]? =
      if n.space = c ∧ c ≠ "" then some (adjoin (t.getD c []) n.id) else t[c]? := by
  rw [gather]
  by_cases hspace : n.space = ""
  · rw [if_pos hspace, if_neg]
    rintro ⟨rfl, hne⟩
    exact hne hspace
  · rw [if_neg hspace, getElem?_insert]
    by_cases hc : n.space = c
    · subst hc
      rw [if_pos rfl, if_pos ⟨rfl, hspace⟩]
    · rw [if_neg hc, if_neg fun h => hc h.1]

/-- The types of a namespace, in order. -/
def idsIn (ns : List Descriptor) (c : ClusterId) : List NodeId :=
  (ns.filter (·.space = c)).map (·.id)

theorem mem_idsIn {ns : List Descriptor} {c : ClusterId} {id : NodeId} :
    id ∈ idsIn ns c ↔ ∃ n ∈ ns, n.space = c ∧ n.id = id := by
  simp [idsIn, and_assoc]

theorem idsIn_ne_nil {ns : List Descriptor} {c : ClusterId} : idsIn ns c ≠ [] ↔ ∃ n ∈ ns, n.space = c := by
  simp [idsIn]

/-- Where ids are listed once, a type is of one namespace. -/
theorem mem_idsIn_iff {ns : List Descriptor} (hids : (ns.map (·.id)).Nodup) {n : Descriptor}
    (hn : n ∈ ns) {c : ClusterId} : n.id ∈ idsIn ns c ↔ n.space = c := by
  rw [mem_idsIn]
  constructor
  · rintro ⟨n', hn', hspace, hid⟩
    rw [← List.inj_on_of_nodup_map hids hn' hn hid]
    exact hspace
  · intro hspace
    exact ⟨n, hn, hspace, rfl⟩

/-- The cluster of a namespace has its types; without any there is none. -/
theorem getElem?_foldl_gather (ns : List Descriptor) (t : Table (List NodeId)) {c : ClusterId}
    (hc : c ≠ "") :
    (ns.foldl gather t)[c]? =
      if idsIn ns c = [] then t[c]? else some (adjoinAll (t.getD c []) (idsIn ns c)) := by
  induction ns generalizing t with
  | nil => rfl
  | cons n ns ih =>
      rw [List.foldl_cons, ih, Std.ExtTreeMap.getD_eq_getD_getElem?, getElem?_gather]
      -- a type of the namespace makes the cluster, another one leaves it alone
      by_cases hspace : n.space = c
      · have hids : idsIn (n :: ns) c = n.id :: idsIn ns c := by simp [idsIn, hspace]
        rw [if_pos (show n.space = c ∧ c ≠ "" from ⟨hspace, hc⟩), hids,
          if_neg (List.cons_ne_nil _ _), adjoinAll_cons, Option.getD_some]
        by_cases hnil : idsIn ns c = []
        · rw [if_pos hnil, hnil, adjoinAll_nil]
        · rw [if_neg hnil]
      · have hids : idsIn (n :: ns) c = idsIn ns c := by simp [idsIn, hspace]
        rw [if_neg (show ¬ (n.space = c ∧ c ≠ "") from fun h => hspace h.1), hids,
          Std.ExtTreeMap.getD_eq_getD_getElem?]

/-- No type goes into a cluster without a name. -/
theorem getElem?_foldl_gather_empty (ns : List Descriptor) (t : Table (List NodeId)) :
    (ns.foldl gather t)[""]? = t[""]? := by
  induction ns generalizing t with
  | nil => rfl
  | cons n ns ih => rw [List.foldl_cons, ih, getElem?_gather, if_neg fun h => h.2 rfl]

namespace Collected

/-! ## Decorating what was collected -/

/-- The caption of a type is its name, and nothing else has one. -/
theorem caption?_decorate (h : d.Collected) (b : Bool) (owner : String) :
    (d.decorate b).caption? owner = (d.nodes.find? (·.id = owner)).map nameOf := by
  have hnone : d.captions = [] := by rw [h.bare]
  rw [caption?, decorate_eq]
  show ((d.nodes.map nameOf).foldl (keepFirst Caption.owner) d.captions).find? _ = _
  rw [find?_foldl_keepFirst, hnone, List.find?_nil, Option.none_or, List.find?_map]
  rfl

/-- An interface is marked, and nothing else is. -/
theorem nodeStyle?_decorate (h : d.Collected) (b : Bool) (owner : String) :
    (d.decorate b).nodeStyle? owner =
      if owner ∈ d.ids ∧ owner ∈ d.interfaces then some ⟨owner, interfaceColor⟩ else none := by
  rw [nodeStyle?, decorate_eq]
  show (((d.nodes.filter (·.id ∈ d.interfaces)).map markOf).foldl (keepFirst NodeStyle.owner)
    d.nodeStyles).find? _ = _
  rw [find?_foldl_keepFirst, h.nodeStyles, List.find?_nil, Option.none_or]
  by_cases hmark : owner ∈ d.ids ∧ owner ∈ d.interfaces
  · rw [if_pos hmark]
    obtain ⟨n, hn, rfl⟩ := List.mem_map.mp hmark.1
    -- ids are listed once, so the marks are too
    have hids : (((d.nodes.filter (·.id ∈ d.interfaces)).map markOf).map NodeStyle.owner).Nodup := by
      rw [List.map_map]
      exact h.ids_nodup.sublist (List.filter_sublist.map _)
    exact find?_of_nodup_map hids
      (List.mem_map_of_mem (List.mem_filter.mpr ⟨hn, decide_eq_true hmark.2⟩))
  · rw [if_neg hmark, List.find?_eq_none]
    intro s hs howner
    obtain ⟨n, hn, rfl⟩ := List.mem_map.mp hs
    obtain ⟨hn, hinterface⟩ := List.mem_filter.mp hn
    obtain rfl : n.id = owner := of_decide_eq_true howner
    exact hmark ⟨List.mem_map_of_mem hn, of_decide_eq_true hinterface⟩

/-- An edge has the color of its kind.  Another edge of the same id may have
    been colored first, but it was drawn as the same kind. -/
theorem edgeStyle?_decorate (h : d.Collected) (b : Bool) {e : Edge} (he : e ∈ d.edges) :
    (d.decorate b).edgeStyle? e.id = some (d.strokeOf e) := by
  rw [edgeStyle?, decorate_eq]
  show ((d.edges.map d.strokeOf).foldl (keepFirst EdgeStyle.owner) d.edgeStyles).find? _ = _
  rw [find?_foldl_keepFirst, h.edgeStyles, List.find?_nil, Option.none_or]
  cases hfind : (d.edges.map d.strokeOf).find? (·.owner = e.id) with
  | none =>
      exact absurd (decide_eq_true rfl)
        (List.find?_eq_none.mp hfind _ (List.mem_map_of_mem he))
  | some s =>
      obtain ⟨e', -, rfl⟩ := List.mem_map.mp (List.mem_of_find?_eq_some hfind)
      have howner := List.find?_some hfind
      have hid : e'.id = e.id := of_decide_eq_true howner
      rw [strokeOf, strokeOf, drawnKind, drawnKind, hid]

/-- The types of a named namespace make its cluster, if clusters are asked for
    and it has any. -/
theorem clusters_decorate (h : d.Collected) (b : Bool) (c : ClusterId) :
    (d.decorate b).clusters[c]? =
      if b = true ∧ c ≠ "" ∧ idsIn d.nodes c ≠ [] then some (idsIn d.nodes c) else none := by
  have hnone : d.clusters = ∅ := by rw [h.bare]
  have hempty : (∅ : Table (List NodeId))[c]? = none := Std.ExtTreeMap.getElem?_empty
  rw [decorate_eq]
  show (if b = true then d.nodes.foldl gather d.clusters else d.clusters)[c]? = _
  rw [hnone]
  cases b with
  | false => exact hempty
  | true =>
      rw [if_pos rfl]
      by_cases hc : c = ""
      · subst hc
        rw [getElem?_foldl_gather_empty, hempty, if_neg fun h => h.2.1 rfl]
      · rw [getElem?_foldl_gather _ _ hc, hempty, Std.ExtTreeMap.getD_empty]
        by_cases hnil : idsIn d.nodes c = []
        · rw [if_pos hnil, if_neg fun h => h.2.2 hnil]
        · have hids : (idsIn d.nodes c).Nodup := h.ids_nodup.sublist (List.filter_sublist.map _)
          rw [if_neg hnil, if_pos ⟨rfl, hc, hnil⟩,
            adjoinAll_eq_append hids fun _ _ => List.not_mem_nil, List.nil_append]

theorem mem_clusters_decorate (h : d.Collected) (b : Bool) (c : ClusterId) :
    c ∈ (d.decorate b).clusters ↔ b = true ∧ c ≠ "" ∧ ∃ n ∈ d.nodes, n.space = c := by
  rw [mem_table_iff, h.clusters_decorate, ← idsIn_ne_nil]
  split
  · next hc => exact ⟨fun _ => hc, fun _ => ⟨_, rfl⟩⟩
  · next hc => exact ⟨fun ⟨_, hv⟩ => (nomatch hv), fun hc' => absurd hc' hc⟩

theorem clusters_decorate_false (h : d.Collected) : (d.decorate false).clusters = ∅ := by
  refine Std.ExtTreeMap.ext_getElem? fun c => ?_
  rw [h.clusters_decorate, if_neg fun hc => nomatch hc.1]
  exact Std.ExtTreeMap.getElem?_empty.symm

theorem mem_members_decorate (h : d.Collected) (b : Bool) (c : ClusterId) (id : NodeId) :
    id ∈ (d.decorate b).members c ↔ b = true ∧ c ≠ "" ∧ id ∈ idsIn d.nodes c := by
  rw [Document.members, Std.ExtTreeMap.getD_eq_getD_getElem?, h.clusters_decorate]
  by_cases hnil : idsIn d.nodes c = []
  · simp [hnil]
  · by_cases hshown : b = true ∧ c ≠ ""
    · rw [if_pos ⟨hshown.1, hshown.2, hnil⟩, Option.getD_some]
      exact ⟨fun hid => ⟨hshown.1, hshown.2, hid⟩, fun hid => hid.2.2⟩
    · rw [if_neg fun h => hshown ⟨h.1, h.2.1⟩, Option.getD_none]
      exact ⟨fun hid => absurd hid List.not_mem_nil, fun hid => absurd ⟨hid.1, hid.2.1⟩ hshown⟩

end Collected

end Document

end Lineage
