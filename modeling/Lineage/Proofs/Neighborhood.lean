import Lineage.View.Neighborhood
import Lineage.Proofs.Documents
import Lineage.Proofs.Growth
import Mathlib.Data.List.Perm.Subperm

/-! # Neighborhoods are what reaches the root

    Toward: `neighborhood_is_backward_reachability`, which says of every built
    graph what the walk collects and when it succeeds.  The route:

    * `takeUp_eq_ok` and `visit_eq_ok` say what one edge and one member do to a
      walk; `Ready` is what a visit needs in order to succeed;
    * `Walk.Inv` relates a walk in the middle of a level to the root, and a
      visit keeps it (`Walk.Inv.visit`), hence a level does (`Walk.Inv.level`);
    * every level visits a node that was not visited before, so `nodeCount`
      levels leave no frontier (`levels_inv`);
    * with no frontier left the collected ids are closed under edges into them,
      which gives completeness (`Walk.Inv.mem_ids_iff`). -/

namespace Lineage

namespace Surroundings

variable {s : Surroundings} {root : NodeId} {w w' : Walk}

theorem descriptor_eq_ok {id : NodeId} {d : Descriptor} :
    s.descriptor id = .ok d ↔ s.descriptors[id]? = some d := by
  rw [descriptor]
  cases s.descriptors[id]? with
  | none => exact ⟨fun h => (nomatch h), fun h => (nomatch h)⟩
  | some d' => exact ⟨fun h => congrArg some (Except.ok.inj h), fun h => Option.some.inj h ▸ rfl⟩

/-! ## One edge, and the edges of one member -/

/-- Taking up an edge needs the descriptor of its source and then grows the
    document and the queue. -/
theorem takeUp_eq_ok (hs : SelfKeyed s.descriptors) {member : NodeId} {e : Edge} :
    s.takeUp member w e = .ok w' ↔ ∃ d, s.descriptors[e.source]? = some d ∧
      w' = { w with
        document := ((w.document.addNode d).1.addEdge e.source member).1
        queued := adjoin w.queued e.source } := by
  rw [takeUp, bind_eq_ok]
  constructor
  · rintro ⟨d, hd, h⟩
    rw [descriptor_eq_ok] at hd
    rw [hs _ _ hd] at h
    exact ⟨d, hd, (Except.ok.inj h).symm⟩
  · rintro ⟨d, hd, rfl⟩
    refine ⟨d, descriptor_eq_ok.mpr hd, ?_⟩
    rw [hs _ _ hd]
    rfl

/-- What taking up some edges into `member` does to a walk. -/
structure TookUp (s : Surroundings) (member : NodeId) (es : List Edge) (w w' : Walk) : Prop where
  known : ∀ e ∈ es, e.source ∈ s.descriptors
  visited : w'.visited = w.visited
  queued : w'.queued = adjoinAll w.queued (es.map (·.source))
  ids : w'.document.ids = adjoinAll w.document.ids (es.map (·.source))
  edges : w'.document.edges = adjoinAll w.document.edges (es.map (⟨·.source, member⟩))
  nodes : ∀ n ∈ w'.document.nodes, n ∈ w.document.nodes ∨ s.descriptors[n.id]? = some n
  rest : w'.document = { w.document with nodes := w'.document.nodes, edges := w'.document.edges }

theorem tookUp_of_foldlM (hs : SelfKeyed s.descriptors) {member : NodeId} {es : List Edge}
    (h : es.foldlM (s.takeUp member) w = .ok w') : s.TookUp member es w w' := by
  induction es generalizing w with
  | nil =>
      obtain rfl := Except.ok.inj h
      exact ⟨fun e he => (nomatch he), rfl, rfl, rfl, rfl, fun n hn => Or.inl hn, rfl⟩
  | cons e es ih =>
      obtain ⟨w₁, hstep, hrun⟩ := foldlM_cons_eq_ok.mp h
      obtain ⟨d, hd, rfl⟩ := (takeUp_eq_ok hs).mp hstep
      have t := ih hrun
      refine ⟨?_, t.visited, t.queued, ?_, ?_, ?_, ?_⟩
      · intro e' he'
        rcases List.mem_cons.mp he' with rfl | he'
        · exact mem_table_iff.mpr ⟨d, hd⟩
        · exact t.known e' he'
      · rw [t.ids, List.map_cons, adjoinAll_cons, Document.addEdge_fst, ← hs _ _ hd,
          ← Document.ids_addNode]
        rfl
      · rw [t.edges, List.map_cons, adjoinAll_cons, Document.addEdge_fst, Document.addNode_fst]
      · intro n hn
        rcases t.nodes n hn with hn | hn
        · rw [Document.addEdge_fst] at hn
          rcases Document.mem_nodes_addNode hn with hn | rfl
          · exact Or.inl hn
          · rw [hs _ _ hd]
            exact Or.inr hd
        · exact Or.inr hn
      · rw [t.rest, Document.addEdge_fst, Document.addNode_fst]

theorem foldlM_takeUp_succeeds (hs : SelfKeyed s.descriptors) (member : NodeId) {es : List Edge}
    (w : Walk) (h : ∀ e ∈ es, e.source ∈ s.descriptors) : ∃ w', es.foldlM (s.takeUp member) w = .ok w' := by
  have step : ∀ e rest (w : Walk), (∀ x ∈ e :: rest, x.source ∈ s.descriptors) →
      ∃ w', s.takeUp member w e = .ok w' ∧ ∀ x ∈ rest, x.source ∈ s.descriptors := by
    intro e rest w hknown
    obtain ⟨d, hd⟩ := mem_table_iff.mp (hknown e List.mem_cons_self)
    exact ⟨_, (takeUp_eq_ok hs).mpr ⟨d, hd, rfl⟩, fun x hx => hknown x (List.mem_cons_of_mem e hx)⟩
  obtain ⟨w', hw', -⟩ :=
    foldlM_succeeds (fun (rest : List Edge) _ => ∀ x ∈ rest, x.source ∈ s.descriptors) step h
  exact ⟨w', hw'⟩

/-! ## One member -/

/-- What visiting a member for the first time needs. -/
structure Ready (s : Surroundings) (member : NodeId) : Prop where
  described : member ∈ s.descriptors
  isNode : member ∈ s.graph.nodes
  sources : ∀ e ∈ s.graph.into member, e.source ∈ s.descriptors

/-- What visiting a member for the first time does to a walk. -/
structure Visited (s : Surroundings) (member : NodeId) (w w' : Walk) : Prop where
  visited : w'.visited = member :: w.visited
  queued : w'.queued = adjoinAll w.queued ((s.graph.into member).map (·.source))
  ids : w'.document.ids = adjoinAll w.document.ids (member :: (s.graph.into member).map (·.source))
  edges : w'.document.edges = adjoinAll w.document.edges (s.graph.into member)
  nodes : ∀ n ∈ w'.document.nodes, n ∈ w.document.nodes ∨ s.descriptors[n.id]? = some n
  rest : w'.document = { w.document with nodes := w'.document.nodes, edges := w'.document.edges }

/-- The edges into a member, written with the member as their target. -/
theorem map_into (member : NodeId) :
    (s.graph.into member).map (⟨·.source, member⟩) = s.graph.into member := by
  conv => rhs; rw [← List.map_id (s.graph.into member)]
  refine List.map_congr_left ?_
  intro e he
  rw [← (Graph.mem_into.mp he).2]
  rfl

theorem visit_of_mem {member : NodeId} (h : member ∈ w.visited) : s.visit w member = .ok w := by
  rw [visit, if_pos h]
  rfl

/-- The walk just before the edges of a new member are taken up. -/
theorem visit_eq_ok {member : NodeId} (h : member ∉ w.visited) :
    s.visit w member = .ok w' ↔ ∃ d, s.descriptors[member]? = some d ∧ member ∈ s.graph.nodes ∧
      (s.graph.into member).foldlM (s.takeUp member)
        { w with visited := member :: w.visited, document := (w.document.addNode d).1 } =
          .ok w' := by
  rw [visit, if_neg h, bind_eq_ok]
  constructor
  · rintro ⟨d, hd, h⟩
    obtain ⟨es, hes, h⟩ := bind_eq_ok.mp h
    obtain ⟨hmem, rfl⟩ := Graph.incoming_eq_ok.mp hes
    exact ⟨d, descriptor_eq_ok.mp hd, hmem, h⟩
  · rintro ⟨d, hd, hmem, h⟩
    exact ⟨d, descriptor_eq_ok.mpr hd,
      bind_eq_ok.mpr ⟨_, Graph.incoming_eq_ok.mpr ⟨hmem, rfl⟩, h⟩⟩

theorem visit_spec (hs : SelfKeyed s.descriptors) {member : NodeId} (hnew : member ∉ w.visited)
    (h : s.visit w member = .ok w') : s.Ready member ∧ s.Visited member w w' := by
  obtain ⟨d, hd, hmem, hrun⟩ := (visit_eq_ok hnew).mp h
  have t := tookUp_of_foldlM hs hrun
  have hid := hs _ _ hd
  refine ⟨⟨mem_table_iff.mpr ⟨d, hd⟩, hmem, t.known⟩, t.visited, t.queued, ?_, ?_, ?_, ?_⟩
  · rw [t.ids, adjoinAll_cons, ← hid, ← Document.ids_addNode]
  · rw [t.edges, map_into, Document.addNode_fst]
  · intro n hn
    rcases t.nodes n hn with hn | hn
    · rcases Document.mem_nodes_addNode hn with hn | rfl
      · exact Or.inl hn
      · rw [hid]
        exact Or.inr hd
    · exact Or.inr hn
  · rw [t.rest, Document.addNode_fst]

theorem visit_succeeds (hs : SelfKeyed s.descriptors) {member : NodeId} (w : Walk)
    (h : s.Ready member) : ∃ w', s.visit w member = .ok w' := by
  by_cases hmem : member ∈ w.visited
  · exact ⟨w, visit_of_mem hmem⟩
  · obtain ⟨d, hd⟩ := mem_table_iff.mp h.described
    obtain ⟨w', hw'⟩ := foldlM_takeUp_succeeds hs member
      { w with visited := member :: w.visited, document := (w.document.addNode d).1 } h.sources
    exact ⟨w', (visit_eq_ok hmem).mpr ⟨d, hd, h.isNode, hw'⟩⟩

/-! ## A walk inside a level -/

end Surroundings

/-- How a walk stands to the root while `rest` is what its level still has to
    visit.  Whatever was seen reaches the root, whatever was visited has all
    its edges in the document, and nothing that was seen gets lost. -/
structure Walk.Inv (s : Surroundings) (root : NodeId) (rest : List NodeId) (w : Walk) : Prop where
  visited_nodup : w.visited.Nodup
  ids_nodup : w.document.ids.Nodup
  stored : ∀ n ∈ w.document.nodes, s.descriptors[n.id]? = some n
  reaches : ∀ id, id ∈ w.document.ids ∨ id ∈ rest ∨ id ∈ w.queued → s.graph.Reaches id root
  pending : ∀ id, id = root ∨ id ∈ w.document.ids → id ∈ w.visited ∨ id ∈ rest ∨ id ∈ w.queued
  expanded : ∀ v ∈ w.visited, v ∈ w.document.ids ∧ ∀ e ∈ s.graph.into v, e.source ∈ w.document.ids
  visited_known : ∀ v ∈ w.visited, v ∈ s.graph.nodes
  edges_eq : w.document.edges = w.visited.reverse.flatMap s.graph.into
  bare : w.document = { nodes := w.document.nodes, edges := w.document.edges }

namespace Walk.Inv

variable {s : Surroundings} {root : NodeId} {w w' : Walk} {rest : List NodeId}

/-- The start: nothing visited, the root to be visited. -/
theorem start : Inv s root [root] {} where
  visited_nodup := List.nodup_nil
  ids_nodup := List.nodup_nil
  stored := fun n hn => nomatch hn
  reaches := by
    rintro id (h | h | h)
    · exact nomatch h
    · rw [List.mem_singleton.mp h]
      exact Graph.Reaches.refl root
    · exact nomatch h
  pending := by
    rintro id (rfl | h)
    · exact Or.inr (Or.inl List.mem_cons_self)
    · exact nomatch h
  expanded := fun v hv => nomatch hv
  visited_known := fun v hv => nomatch hv
  edges_eq := rfl
  bare := rfl

/-- No edge into a node that is yet to be visited is in the document. -/
theorem into_fresh (inv : Inv s root rest w) {member : NodeId} (hnew : member ∉ w.visited) :
    ∀ e ∈ s.graph.into member, e ∉ w.document.edges := by
  intro e he hmem
  rw [inv.edges_eq] at hmem
  obtain ⟨v, hv, hev⟩ := List.mem_flatMap.mp hmem
  have htarget : v = member := (Graph.mem_into.mp hev).2.symm.trans (Graph.mem_into.mp he).2
  exact hnew (htarget ▸ List.mem_reverse.mp hv)

/-- Visiting the next member keeps the invariant. -/
theorem visit (hs : SelfKeyed s.descriptors) (hg : s.graph.WellFormed) {member : NodeId}
    (inv : Inv s root (member :: rest) w) (h : s.visit w member = .ok w') :
    Inv s root rest w' := by
  by_cases hmem : member ∈ w.visited
  · -- an old member: the walk stays, and the member is not lost, being visited
    obtain rfl := Except.ok.inj ((Surroundings.visit_of_mem hmem).symm.trans h)
    refine { inv with reaches := ?_, pending := ?_ }
    · rintro id (hid | hid | hid)
      · exact inv.reaches id (Or.inl hid)
      · exact inv.reaches id (Or.inr (Or.inl (List.mem_cons_of_mem member hid)))
      · exact inv.reaches id (Or.inr (Or.inr hid))
    · intro id hid
      rcases inv.pending id hid with hv | hr | hq
      · exact Or.inl hv
      · rcases List.mem_cons.mp hr with rfl | hr
        · exact Or.inl hmem
        · exact Or.inr (Or.inl hr)
      · exact Or.inr (Or.inr hq)
  · obtain ⟨ready, v⟩ := Surroundings.visit_spec hs hmem h
    have hroot : s.graph.Reaches member root :=
      inv.reaches member (Or.inr (Or.inl List.mem_cons_self))
    have hsource : ∀ e ∈ s.graph.into member, s.graph.Reaches e.source root := by
      intro e he
      obtain ⟨hedge, htarget⟩ := Graph.mem_into.mp he
      rw [← htarget] at hroot
      exact hroot.cons hedge
    have hids : ∀ {id}, id ∈ w'.document.ids ↔
        id ∈ w.document.ids ∨ id = member ∨ ∃ e ∈ s.graph.into member, e.source = id := by
      intro id
      rw [v.ids, mem_adjoinAll, List.mem_cons, List.mem_map]
    have hqueued : ∀ {id}, id ∈ w'.queued ↔
        id ∈ w.queued ∨ ∃ e ∈ s.graph.into member, e.source = id := by
      intro id
      rw [v.queued, mem_adjoinAll, List.mem_map]
    refine ⟨?_, ?_, ?_, ?_, ?_, ?_, ?_, ?_, ?_⟩
    · rw [v.visited]
      exact List.nodup_cons.mpr ⟨hmem, inv.visited_nodup⟩
    · rw [v.ids]
      exact nodup_adjoinAll inv.ids_nodup
    · intro n hn
      exact (v.nodes n hn).elim (inv.stored n) id
    · rintro id (hid | hid | hid)
      · rcases hids.mp hid with hid | rfl | ⟨e, he, rfl⟩
        · exact inv.reaches id (Or.inl hid)
        · exact hroot
        · exact hsource e he
      · exact inv.reaches id (Or.inr (Or.inl (List.mem_cons_of_mem member hid)))
      · rcases hqueued.mp hid with hid | ⟨e, he, rfl⟩
        · exact inv.reaches id (Or.inr (Or.inr hid))
        · exact hsource e he
    · -- sources of the edges into the member wait in the queue
      have hold : ∀ id, id = root ∨ id ∈ w.document.ids →
          id ∈ w'.visited ∨ id ∈ rest ∨ id ∈ w'.queued := by
        intro id hid
        rw [v.visited, List.mem_cons, hqueued]
        rcases inv.pending id hid with hv | hr | hq
        · exact Or.inl (Or.inr hv)
        · rcases List.mem_cons.mp hr with rfl | hr
          · exact Or.inl (Or.inl rfl)
          · exact Or.inr (Or.inl hr)
        · exact Or.inr (Or.inr (Or.inl hq))
      rintro id (hid | hid)
      · exact hold id (Or.inl hid)
      · rcases hids.mp hid with hid | rfl | hid
        · exact hold id (Or.inr hid)
        · rw [v.visited]
          exact Or.inl List.mem_cons_self
        · exact Or.inr (Or.inr (hqueued.mpr (Or.inr hid)))
    · -- the member has its sources now, and older ones keep theirs
      intro x hx
      rw [v.visited] at hx
      rcases List.mem_cons.mp hx with rfl | hx
      · exact ⟨hids.mpr (Or.inr (Or.inl rfl)),
          fun e he => hids.mpr (Or.inr (Or.inr ⟨e, he, rfl⟩))⟩
      · obtain ⟨hxi, hxe⟩ := inv.expanded x hx
        exact ⟨hids.mpr (Or.inl hxi), fun e he => hids.mpr (Or.inl (hxe e he))⟩
    · intro x hx
      rw [v.visited] at hx
      rcases List.mem_cons.mp hx with rfl | hx
      · exact ready.isNode
      · exact inv.visited_known x hx
    · -- edges into different nodes differ, so none of the new ones was there
      have hnodup : (s.graph.into member).Nodup := hg.edges_nodup.filter _
      rw [v.edges, adjoinAll_eq_append hnodup (inv.into_fresh hmem), inv.edges_eq, v.visited,
        List.reverse_cons, List.flatMap_append, List.flatMap_singleton]
    · rw [v.rest, inv.bare]

/-! ## From level to level -/

/-- A level takes the invariant from its frontier to the next one, which holds
    unvisited nodes only. -/
theorem level (hs : SelfKeyed s.descriptors) (hg : s.graph.WellFormed) {frontier next : List NodeId}
    (inv : Inv s root frontier { w with queued := [] })
    (h : s.level w frontier = .ok (w', next)) :
    Inv s root next { w' with queued := [] } ∧ ∀ id ∈ next, id ∉ w'.visited := by
  obtain ⟨w₁, hrun, h⟩ := bind_eq_ok.mp h
  obtain ⟨rfl, rfl⟩ := Prod.mk.inj (Except.ok.inj h)
  have hend : Inv s root [] w₁ := foldlM_invariant (Inv s root)
    (fun member rest w w' inv hstep => inv.visit hs hg hstep) inv hrun
  have hnext : ∀ {id}, id ∈ w₁.queued.filter (· ∉ w₁.visited) ↔
      id ∈ w₁.queued ∧ id ∉ w₁.visited := by simp
  refine ⟨{ hend with reaches := ?_, pending := ?_ }, fun id hid => (hnext.mp hid).2⟩
  · rintro id (hid | hid | hid)
    · exact hend.reaches id (Or.inl hid)
    · exact hend.reaches id (Or.inr (Or.inr (hnext.mp hid).1))
    · exact nomatch hid
  · intro id hid
    by_cases hv : id ∈ w₁.visited
    · exact Or.inl hv
    · rcases hend.pending id hid with hv' | hr | hq
      · exact absurd hv' hv
      · exact nomatch hr
      · exact Or.inr (Or.inl (hnext.mpr ⟨hq, hv⟩))

end Walk.Inv

namespace Surroundings

variable {s : Surroundings} {root : NodeId} {w w' : Walk}

/-- A run of visits never forgets a visited node. -/
theorem length_visited_le (hs : SelfKeyed s.descriptors) {members : List NodeId}
    (h : members.foldlM s.visit w = .ok w') : w.visited.length ≤ w'.visited.length := by
  refine foldlM_invariant (fun _ x => w.visited.length ≤ x.visited.length) ?_ (Nat.le_refl _) h
  intro member rest x y hx hstep
  by_cases hmem : member ∈ x.visited
  · obtain rfl := Except.ok.inj ((visit_of_mem hmem).symm.trans hstep)
    exact hx
  · rw [(visit_spec hs hmem hstep).2.visited, List.length_cons]
    exact Nat.le_succ_of_le hx

/-- A level whose frontier starts with an unvisited node visits something. -/
theorem length_visited_lt (hs : SelfKeyed s.descriptors) {member : NodeId} {rest next : List NodeId}
    (hnew : member ∉ w.visited) (h : s.level w (member :: rest) = .ok (w', next)) :
    w.visited.length < w'.visited.length := by
  obtain ⟨w₂, hrun, h⟩ := bind_eq_ok.mp h
  obtain ⟨rfl, -⟩ := Prod.mk.inj (Except.ok.inj h)
  obtain ⟨w₁, hstep, hrest⟩ := foldlM_cons_eq_ok.mp hrun
  have hfirst : w₁.visited = member :: w.visited :=
    (visit_spec (w := { w with queued := [] }) hs hnew hstep).2.visited
  have hle := length_visited_le hs hrest
  rw [hfirst, List.length_cons] at hle
  exact hle

theorem levels_nil (s : Surroundings) (rounds : Nat) (w : Walk) :
    s.levels rounds w [] = .ok (w, []) := by
  cases rounds <;> rfl

theorem levels_cons (s : Surroundings) (rounds : Nat) (w : Walk) (member : NodeId)
    (rest : List NodeId) :
    s.levels (rounds + 1) w (member :: rest) =
      s.level w (member :: rest) >>= fun r => s.levels rounds r.1 r.2 := rfl

/-- There are not more visited nodes than nodes, and fewer while an unvisited
    one is left. -/
theorem length_visited_lt_nodeCount {member : NodeId} (hnodup : w.visited.Nodup)
    (hknown : ∀ v ∈ w.visited, v ∈ s.graph.nodes) (hmem : member ∈ s.graph.nodes)
    (hnew : member ∉ w.visited) : w.visited.length < s.graph.nodeCount := by
  have hsub : member :: w.visited ⊆ s.graph.nodes := by
    intro v hv
    rcases List.mem_cons.mp hv with rfl | hv
    · exact hmem
    · exact hknown v hv
  exact (List.subperm_of_subset (List.nodup_cons.mpr ⟨hnew, hnodup⟩) hsub).length_le

/-- With as many rounds as there are unvisited nodes, no frontier is left. -/
theorem levels_inv (hs : SelfKeyed s.descriptors) (hg : s.graph.WellFormed)
    (hroot : root ∈ s.graph.nodes) {rounds : Nat} {frontier rest : List NodeId}
    (inv : Walk.Inv s root frontier { w with queued := [] })
    (hnew : ∀ id ∈ frontier, id ∉ w.visited)
    (hrounds : s.graph.nodeCount ≤ w.visited.length + rounds)
    (h : s.levels rounds w frontier = .ok (w', rest)) :
    rest = [] ∧ Walk.Inv s root [] { w' with queued := [] } := by
  induction rounds generalizing w frontier with
  | zero =>
      cases frontier with
      | nil =>
          rw [levels_nil] at h
          obtain ⟨rfl, rfl⟩ := Prod.mk.inj (Except.ok.inj h)
          exact ⟨rfl, inv⟩
      | cons member frontier =>
          -- no rounds left means that all nodes are visited, but this one is not
          have hmem : member ∈ s.graph.nodes :=
            (inv.reaches member (Or.inr (Or.inl List.mem_cons_self))).mem_nodes hg hroot
          have := length_visited_lt_nodeCount inv.visited_nodup inv.visited_known hmem
            (hnew member List.mem_cons_self)
          simp only at this
          omega
  | succ rounds ih =>
      cases frontier with
      | nil =>
          rw [levels_nil] at h
          obtain ⟨rfl, rfl⟩ := Prod.mk.inj (Except.ok.inj h)
          exact ⟨rfl, inv⟩
      | cons member frontier =>
          -- the level uses up one round and visits at least one node
          rw [levels_cons] at h
          obtain ⟨⟨w₁, next⟩, hlevel, h⟩ := bind_eq_ok.mp h
          obtain ⟨inv₁, hnew₁⟩ := inv.level hs hg hlevel
          have hgrow := length_visited_lt hs (hnew member List.mem_cons_self) hlevel
          exact ih inv₁ hnew₁ (by omega) h

/-! ## When the walk succeeds -/

/-- The tables say all that the neighborhood of `root` is made of. -/
structure Covers (s : Surroundings) (root : NodeId) : Prop where
  root_described : root ∈ s.descriptors
  root_known : root ∈ s.graph.nodes
  described : ∀ id ∈ s.graph.nodes, s.graph.Reaches id root → id ∈ s.descriptors
  kinds : ∀ e ∈ s.graph.edges, s.graph.Reaches e.target root → e.id ∈ s.edgeKinds

theorem Covers.ready (c : s.Covers root) (hg : s.graph.WellFormed) {id : NodeId}
    (h : s.graph.Reaches id root) : s.Ready id where
  described := c.described id (h.mem_nodes hg c.root_known) h
  isNode := h.mem_nodes hg c.root_known
  sources := by
    intro e he
    obtain ⟨hedge, htarget⟩ := Graph.mem_into.mp he
    rw [← htarget] at h
    exact c.described e.source (hg.ends e hedge).1 (h.cons hedge)

theorem levels_succeeds (hs : SelfKeyed s.descriptors) (hg : s.graph.WellFormed) (c : s.Covers root)
    {rounds : Nat} {frontier : List NodeId}
    (inv : Walk.Inv s root frontier { w with queued := [] }) :
    ∃ r, s.levels rounds w frontier = .ok r := by
  induction rounds generalizing w frontier with
  | zero =>
      cases frontier with
      | nil => exact ⟨_, levels_nil s 0 w⟩
      | cons member frontier => exact ⟨_, rfl⟩
  | succ rounds ih =>
      cases frontier with
      | nil => exact ⟨_, levels_nil s (rounds + 1) w⟩
      | cons member frontier =>
          have step : ∀ member rest w, Walk.Inv s root (member :: rest) w →
              ∃ w', s.visit w member = .ok w' ∧ Walk.Inv s root rest w' := by
            intro member rest w inv
            have hreach := inv.reaches member (Or.inr (Or.inl List.mem_cons_self))
            obtain ⟨w', hw'⟩ := visit_succeeds hs w (c.ready hg hreach)
            exact ⟨w', hw', inv.visit hs hg hw'⟩
          obtain ⟨w₁, hrun, -⟩ := foldlM_succeeds (Walk.Inv s root) step inv
          have hlevel : s.level w (member :: frontier) =
              .ok (w₁, w₁.queued.filter (· ∉ w₁.visited)) :=
            bind_eq_ok.mpr ⟨w₁, hrun, rfl⟩
          obtain ⟨r, hr⟩ := ih (inv.level hs hg hlevel).1
          exact ⟨r, bind_eq_ok.mpr ⟨_, hlevel, hr⟩⟩

/-! ## Kinds -/

/-- Copying the kind of one edge. -/
def copyKind (s : Surroundings) (d : Document) (e : Edge) : Except Failure Document :=
  match s.edgeKinds[e.id]? with
  | some kind => .ok (d.setEdgeKind e.id kind).1
  | none => .error (.missingEdgeKind e.id)

theorem withKinds_eq (s : Surroundings) (d : Document) :
    s.withKinds d = d.edges.foldlM s.copyKind d := rfl

theorem copyKind_eq_ok {d d' : Document} {e : Edge} :
    s.copyKind d e = .ok d' ↔ ∃ kind, s.edgeKinds[e.id]? = some kind ∧
      d' = { d with edgeKinds := d.edgeKinds.insertIfNew e.id kind } := by
  rw [copyKind]
  cases s.edgeKinds[e.id]? with
  | none => exact ⟨fun h => (nomatch h), fun ⟨_, h, _⟩ => (nomatch h)⟩
  | some kind =>
      constructor
      · intro h
        exact ⟨kind, rfl, (Except.ok.inj h).symm⟩
      · rintro ⟨kind', hkind, rfl⟩
        obtain rfl := Option.some.inj hkind
        rfl

/-- The kinds of some edges, once they were copied. -/
theorem foldlM_copyKind {es : List Edge} {d d' : Document}
    (h : es.foldlM s.copyKind d = .ok d') :
    (∀ e ∈ es, e.id ∈ s.edgeKinds) ∧ d' = { d with edgeKinds := d'.edgeKinds } ∧
      ∀ id : EdgeId, d'.edgeKinds[id]? =
        d.edgeKinds[id]?.or (if ∃ e ∈ es, e.id = id then s.edgeKinds[id]? else none) := by
  induction es generalizing d with
  | nil =>
      obtain rfl := Except.ok.inj h
      exact ⟨fun e he => (nomatch he), rfl, fun id => by simp⟩
  | cons e es ih =>
      obtain ⟨d₁, hstep, hrun⟩ := foldlM_cons_eq_ok.mp h
      obtain ⟨kind, hkind, rfl⟩ := copyKind_eq_ok.mp hstep
      obtain ⟨hknown, hrest, hlook⟩ := ih hrun
      refine ⟨?_, by rw [hrest], ?_⟩
      · intro e' he'
        rcases List.mem_cons.mp he' with rfl | he'
        · exact mem_table_iff.mpr ⟨kind, hkind⟩
        · exact hknown e' he'
      · intro id
        rw [hlook id, getElem?_insertIfNew, Option.or_assoc]
        congr 1
        by_cases hid : e.id = id
        · subst hid
          rw [if_pos rfl, Option.some_or, if_pos ⟨e, List.mem_cons_self, rfl⟩, hkind]
        · rw [if_neg hid, Option.none_or]
          have hiff : (∃ e' ∈ e :: es, e'.id = id) ↔ ∃ e' ∈ es, e'.id = id := by
            simp [hid]
          simp only [hiff]

theorem withKinds_succeeds {d : Document} (h : ∀ e ∈ d.edges, e.id ∈ s.edgeKinds) :
    ∃ d', s.withKinds d = .ok d' := by
  have step : ∀ e rest (d : Document), (∀ x ∈ e :: rest, x.id ∈ s.edgeKinds) →
      ∃ d', s.copyKind d e = .ok d' ∧ ∀ x ∈ rest, x.id ∈ s.edgeKinds := by
    intro e rest d hknown
    obtain ⟨kind, hkind⟩ := mem_table_iff.mp (hknown e List.mem_cons_self)
    exact ⟨_, copyKind_eq_ok.mpr ⟨kind, hkind, rfl⟩,
      fun x hx => hknown x (List.mem_cons_of_mem e hx)⟩
  rw [withKinds_eq]
  obtain ⟨d', hd', -⟩ :=
    foldlM_succeeds (fun (rest : List Edge) _ => ∀ x ∈ rest, x.id ∈ s.edgeKinds) step h
  exact ⟨d', hd'⟩

end Surroundings

/-! ## The finished walk -/

namespace Walk.Inv

variable {s : Surroundings} {root : NodeId} {w : Walk}

/-- With nothing left to visit, whatever was seen was visited. -/
theorem mem_visited (inv : Inv s root [] { w with queued := [] }) {id : NodeId}
    (h : id = root ∨ id ∈ w.document.ids) : id ∈ w.visited := by
  rcases inv.pending id h with h | h | h
  · exact h
  · exact nomatch h
  · exact nomatch h

/-- Soundness and completeness: what was seen is what reaches the root. -/
theorem mem_ids_iff (inv : Inv s root [] { w with queued := [] }) {id : NodeId} :
    id ∈ w.document.ids ↔ s.graph.Reaches id root := by
  constructor
  · intro h
    exact inv.reaches id (Or.inl h)
  · intro h
    refine h.mem_of_closed (P := (· ∈ w.document.ids)) ?_ ?_
    · exact (inv.expanded root (inv.mem_visited (Or.inl rfl))).1
    · intro e he htarget
      have hv := inv.mem_visited (Or.inr htarget)
      exact (inv.expanded e.target hv).2 e (Graph.mem_into.mpr ⟨he, rfl⟩)

theorem mem_edges_iff (inv : Inv s root [] { w with queued := [] }) {e : Edge} :
    e ∈ w.document.edges ↔ e ∈ s.graph.edges ∧ s.graph.Reaches e.target root := by
  rw [inv.edges_eq, List.mem_flatMap, ← inv.mem_ids_iff]
  constructor
  · rintro ⟨v, hv, he⟩
    obtain ⟨hedge, rfl⟩ := Graph.mem_into.mp he
    exact ⟨hedge, (inv.expanded _ (List.mem_reverse.mp hv)).1⟩
  · rintro ⟨hedge, hid⟩
    exact ⟨e.target, List.mem_reverse.mpr (inv.mem_visited (Or.inr hid)),
      Graph.mem_into.mpr ⟨hedge, rfl⟩⟩

theorem edges_nodup (inv : Inv s root [] { w with queued := [] }) (hg : s.graph.WellFormed) :
    w.document.edges.Nodup := by
  rw [inv.edges_eq, List.nodup_flatMap]
  refine ⟨fun v _ => hg.edges_nodup.filter _, ?_⟩
  refine (List.nodup_reverse.mpr inv.visited_nodup).imp ?_
  intro v v' hne e hv hv'
  exact hne ((Graph.mem_into.mp hv).2.symm.trans (Graph.mem_into.mp hv').2)

end Walk.Inv

namespace Surroundings

variable {s : Surroundings} {root : NodeId}

theorem neighborhood_eq_ok (hs : SelfKeyed s.descriptors) {doc : Document} :
    s.neighborhood root = .ok doc ↔ root ∈ s.descriptors ∧ root ∈ s.graph.nodes ∧
      ∃ w rest, s.levels s.graph.nodeCount {} [root] = .ok (w, rest) ∧
        s.withKinds w.document = .ok doc := by
  rw [neighborhood, bind_eq_ok]
  constructor
  · rintro ⟨d, hd, h⟩
    rw [descriptor_eq_ok] at hd
    by_cases hroot : root ∈ s.graph.nodes
    · rw [if_pos hroot, hs _ _ hd] at h
      obtain ⟨⟨w, rest⟩, hw, h⟩ := bind_eq_ok.mp h
      exact ⟨mem_table_iff.mpr ⟨d, hd⟩, hroot, w, rest, hw, h⟩
    · rw [if_neg hroot] at h
      exact nomatch h
  · rintro ⟨hdesc, hroot, w, rest, hw, h⟩
    obtain ⟨d, hd⟩ := mem_table_iff.mp hdesc
    refine ⟨d, descriptor_eq_ok.mpr hd, ?_⟩
    rw [if_pos hroot, hs _ _ hd]
    exact bind_eq_ok.mpr ⟨_, hw, h⟩

/-- The walk of a neighborhood ends with nothing left to visit. -/
theorem finished (hs : SelfKeyed s.descriptors) (hg : s.graph.WellFormed)
    (hroot : root ∈ s.graph.nodes) {w : Walk} {rest : List NodeId} (h : s.levels s.graph.nodeCount {} [root] = .ok (w, rest)) :
    Walk.Inv s root [] { w with queued := [] } := by
  refine (levels_inv hs hg hroot Walk.Inv.start ?_ (Nat.le_add_left _ _) h).2
  intro id _ hid
  exact nomatch hid

/-- `doc` is what the neighborhood of `root` should be: the types that reach
    the root, the edges into them, and their descriptors and kinds. -/
structure IsNeighborhood (s : Surroundings) (root : NodeId) (doc : Document) : Prop where
  ids_nodup : doc.ids.Nodup
  mem_ids : ∀ id, id ∈ doc.ids ↔ id ∈ s.graph.nodes ∧ s.graph.Reaches id root
  edges_nodup : doc.edges.Nodup
  mem_edges : ∀ e, e ∈ doc.edges ↔ e ∈ s.graph.edges ∧ s.graph.Reaches e.target root
  induced : ∀ e, e ∈ doc.edges ↔ e ∈ s.graph.edges ∧ e.source ∈ doc.ids ∧ e.target ∈ doc.ids
  described : ∀ id ∈ doc.ids, ∃ d, doc.node? id = some d ∧ s.descriptors[id]? = some d
  kind_known : ∀ e ∈ doc.edges, e.id ∈ doc.edgeKinds
  kinds : ∀ (id : EdgeId) (kind : EdgeKind), doc.edgeKinds[id]? = some kind ↔
    (∃ e ∈ doc.edges, e.id = id) ∧ s.edgeKinds[id]? = some kind

/-- A successful walk gives the neighborhood, and saw the kind of every edge. -/
theorem isNeighborhood_of_ok (hs : SelfKeyed s.descriptors) (hg : s.graph.WellFormed)
    {doc : Document} (h : s.neighborhood root = .ok doc) :
    s.IsNeighborhood root doc ∧ ∀ e ∈ doc.edges, e.id ∈ s.edgeKinds := by
  obtain ⟨-, hroot, w, rest, hw, hkinds⟩ := (neighborhood_eq_ok hs).mp h
  have inv := finished hs hg hroot hw
  obtain ⟨hknown, hrest, hlook⟩ := foldlM_copyKind ((withKinds_eq s w.document).symm.trans hkinds)
  have hids : doc.ids = w.document.ids := by rw [hrest]; rfl
  have hedges : doc.edges = w.document.edges := by rw [hrest]
  have hnodes : doc.nodes = w.document.nodes := by rw [hrest]
  have hno : ∀ id : EdgeId, w.document.edgeKinds[id]? = none := by
    intro id
    rw [inv.bare]
    exact Std.ExtTreeMap.getElem?_empty
  have hkind : ∀ (id : EdgeId) (kind : EdgeKind), doc.edgeKinds[id]? = some kind ↔
      (∃ e ∈ doc.edges, e.id = id) ∧ s.edgeKinds[id]? = some kind := by
    intro id kind
    rw [hlook id, hno id, Option.none_or, hedges]
    split
    · next hex => exact ⟨fun h => ⟨hex, h⟩, fun h => h.2⟩
    · next hex => exact ⟨fun h => (nomatch h), fun h => absurd h.1 hex⟩
  have hmem : ∀ id, id ∈ doc.ids ↔ id ∈ s.graph.nodes ∧ s.graph.Reaches id root := by
    intro id
    rw [hids, inv.mem_ids_iff]
    exact ⟨fun h => ⟨h.mem_nodes hg hroot, h⟩, fun h => h.2⟩
  have hmemE : ∀ e, e ∈ doc.edges ↔ e ∈ s.graph.edges ∧ s.graph.Reaches e.target root := by
    intro e
    rw [hedges, inv.mem_edges_iff]
  refine ⟨⟨hids ▸ inv.ids_nodup, hmem, hedges ▸ inv.edges_nodup hg, hmemE, ?_, ?_, ?_, hkind⟩,
    hedges ▸ hknown⟩
  · intro e
    rw [hmemE, hmem, hmem]
    constructor
    · rintro ⟨he, hreach⟩
      obtain ⟨hsource, htarget⟩ := hg.ends e he
      exact ⟨he, ⟨hsource, hreach.cons he⟩, htarget, hreach⟩
    · rintro ⟨he, -, -, hreach⟩
      exact ⟨he, hreach⟩
  · intro id hid
    obtain ⟨n, hn, rfl⟩ := List.mem_map.mp hid
    exact ⟨n, Document.node?_eq_some (hids ▸ inv.ids_nodup) hn, inv.stored n (hnodes ▸ hn)⟩
  · intro e he
    obtain ⟨kind, hk⟩ := mem_table_iff.mp (hknown e (hedges ▸ he))
    exact mem_table_iff.mpr ⟨kind, (hkind e.id kind).mpr ⟨⟨e, he, rfl⟩, hk⟩⟩

/-- Tables that say all that a neighborhood is made of make the walk succeed. -/
theorem neighborhood_succeeds (hs : SelfKeyed s.descriptors) (hg : s.graph.WellFormed)
    (c : s.Covers root) : ∃ doc, s.neighborhood root = .ok doc := by
  obtain ⟨⟨w, rest⟩, hw⟩ := levels_succeeds (w := {}) hs hg c Walk.Inv.start
  have inv := finished hs hg c.root_known hw
  have hkinds : ∀ e ∈ w.document.edges, e.id ∈ s.edgeKinds := by
    intro e he
    obtain ⟨hedge, hreach⟩ := inv.mem_edges_iff.mp he
    exact c.kinds e hedge hreach
  obtain ⟨doc, hdoc⟩ := withKinds_succeeds hkinds
  exact ⟨doc, (neighborhood_eq_ok hs).mpr ⟨c.root_described, c.root_known, w, rest, hw, hdoc⟩⟩

/-- **A neighborhood is everything that reaches its root.**  On a built graph,
    whatever its shape, the collected document is the subgraph of the nodes
    from which the root can be reached, with their descriptors and the kinds of
    their edges; and it is collected exactly when the tables cover it. -/
theorem neighborhood_is_backward_reachability (s : Surroundings) (root : NodeId)
    (hg : s.graph.Built) (hs : SelfKeyed s.descriptors) :
    (∀ doc, s.neighborhood root = .ok doc → s.IsNeighborhood root doc) ∧
      ((∃ doc, s.neighborhood root = .ok doc) ↔ s.Covers root) := by
  have hwf := hg.wellFormed
  refine ⟨fun doc h => (isNeighborhood_of_ok hs hwf h).1, ?_, neighborhood_succeeds hs hwf⟩
  rintro ⟨doc, h⟩
  obtain ⟨hdesc, hroot, -⟩ := (neighborhood_eq_ok hs).mp h
  obtain ⟨n, hkinds⟩ := isNeighborhood_of_ok hs hwf h
  refine ⟨hdesc, hroot, ?_, ?_⟩
  · intro id hid hreach
    obtain ⟨d, -, hd⟩ := n.described id ((n.mem_ids id).mpr ⟨hid, hreach⟩)
    exact mem_table_iff.mpr ⟨d, hd⟩
  · intro e he hreach
    exact hkinds e ((n.mem_edges e).mpr ⟨he, hreach⟩)

/-- Two types that derive from each other, one of them also from itself, and a
    third type beside the cycle. -/
def ring : Surroundings where
  graph := ((((Graph.addEdge {} "A" "B").1.addEdge "B" "A").1.addEdge "B" "B").1.addEdge "A" "C").1
  descriptors := (((∅ : Table Descriptor).insert "A" ⟨"A", "A", ""⟩).insert "B"
    ⟨"B", "B", ""⟩).insert "C" ⟨"C", "C", ""⟩
  edgeKinds := ((((∅ : EdgeKinds).insert "A->B" .derivesFrom).insert "B->A" .derivesFrom).insert
    "B->B" .implements).insert "A->C" .implements

/-- The neighborhood of a node on a cycle: the walk ends, with the whole cycle. -/
theorem ring_neighborhood : ∃ doc, ring.neighborhood "A" = .ok doc ∧
    ring.IsNeighborhood "A" doc := by
  have hg : ring.graph.Built :=
    .edge "A" "C" (.edge "B" "B" (.edge "B" "A" (.edge "A" "B" .empty)))
  have hs : SelfKeyed ring.descriptors :=
    ((selfKeyed_empty.insert ⟨"A", "A", ""⟩).insert ⟨"B", "B", ""⟩).insert ⟨"C", "C", ""⟩
  have hd : ∀ id ∈ ring.graph.nodes, id ∈ ring.descriptors := by decide
  have hk : ∀ e ∈ ring.graph.edges, e.id ∈ ring.edgeKinds := by decide
  obtain ⟨hpart, htotal⟩ := neighborhood_is_backward_reachability ring "A" hg hs
  obtain ⟨doc, hdoc⟩ :=
    htotal.mpr ⟨by decide, by decide, fun id h _ => hd id h, fun e h _ => hk e h⟩
  exact ⟨doc, hdoc, hpart doc hdoc⟩

end Surroundings

end Lineage
