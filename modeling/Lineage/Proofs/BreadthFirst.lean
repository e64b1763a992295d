import Lineage.Proofs.Neighborhood

/-! # Levels are breadth-first search

    Toward: `neighborhood_is_breadth_first`, which says that a neighborhood is
    collected in the order of the textbook search with a single queue.  The
    route:

    * `Search` is that search, told turn by turn;
    * its queue always holds the end of one layer and the start of the next
      (`Layered`), so it discovers the nodes by their distance to the root
      (`search_layered`);
    * what a walk has yet to visit, each node once, is the queue of the search
      that had a turn for every visited node (`Walk.Follows`).  A visit is a
      turn, a member passed over is none, and it makes no difference that
      visited nodes are dropped as late as at the end of a level;
    * `Rounds` is the loop over the levels without a bound, and the levels are
      that loop (`rounds_of_levels`). -/

namespace Lineage

/-! ## The search -/

namespace Graph

/-- The sources of the edges into a node, oldest edge first. -/
def sources (g : Graph) (id : NodeId) : List NodeId := (g.into id).map (·.source)

theorem mem_sources {g : Graph} {u v : NodeId} : u ∈ g.sources v ↔ (⟨u, v⟩ : Edge) ∈ g.edges := by
  rw [sources, List.mem_map]
  constructor
  · rintro ⟨e, he, rfl⟩
    obtain ⟨hedge, rfl⟩ := mem_into.mp he
    exact hedge
  · intro h
    exact ⟨⟨u, v⟩, mem_into.mpr ⟨h, rfl⟩, rfl⟩

end Graph

/-- A breadth-first search under way: the nodes in the order of their
    discovery, and those of them that wait in the queue. -/
structure Search where
  seen : List NodeId
  queue : List NodeId
  deriving DecidableEq, Repr

namespace Search

variable {g : Graph}

/-- Discovers a node, unless it was seen before. -/
def discover (x : Search) (id : NodeId) : Search :=
  if id ∈ x.seen then x else ⟨x.seen ++ [id], x.queue ++ [id]⟩

/-- A turn: the head of the queue leaves, and the sources of the edges into it
    are discovered, oldest edge first. -/
def turn (g : Graph) (x : Search) : Search :=
  match x.queue with
  | [] => x
  | v :: queue => (g.sources v).foldl discover { x with queue }

/-- Behind the nodes that had their turn stands the queue, and a run of
    discoveries keeps it so. -/
theorem foldl_discover {front queue queue' ids : List NodeId}
    (h : adjoinAll (front ++ queue) ids = front ++ queue') :
    ids.foldl discover ⟨front ++ queue, queue⟩ = ⟨front ++ queue', queue'⟩ := by
  induction ids generalizing queue with
  | nil =>
      obtain rfl := List.append_cancel_left h
      rfl
  | cons id ids ih =>
      rw [List.foldl_cons, discover]
      by_cases hid : id ∈ front ++ queue
      · rw [adjoinAll_cons, adjoin_of_mem hid] at h
        rw [if_pos hid]
        exact ih h
      · rw [adjoinAll_cons, adjoin_of_not_mem hid, List.append_assoc] at h
        rw [if_neg hid, List.append_assoc]
        exact ih h

theorem turn_nil (g : Graph) (seen : List NodeId) : turn g ⟨seen, []⟩ = ⟨seen, []⟩ := rfl

theorem turn_cons {v : NodeId} {front queue queue' : List NodeId}
    (h : adjoinAll (front ++ v :: queue) (g.sources v) = front ++ v :: queue') :
    turn g ⟨front ++ v :: queue, v :: queue⟩ = ⟨front ++ v :: queue', queue'⟩ := by
  have hfront : ∀ xs, front ++ v :: xs = (front ++ [v]) ++ xs := fun xs => by simp
  rw [hfront queue, hfront queue'] at h
  rw [hfront queue, hfront queue']
  exact foldl_discover h

end Search

namespace Graph

variable {g : Graph} {root : NodeId}

/-- The search from `root` against the direction of the edges, after some turns. -/
def search (g : Graph) (root : NodeId) : (turns : Nat) → Search
  | 0 => ⟨[root], [root]⟩
  | turns + 1 => (search g root turns).turn g

theorem search_succ (g : Graph) (root : NodeId) (turns : Nat) :
    g.search root (turns + 1) = (g.search root turns).turn g := rfl

/-- Once the queue is empty, further turns do nothing. -/
theorem search_of_finished {turns turns' : Nat} {seen : List NodeId}
    (h : g.search root turns = ⟨seen, []⟩) (hle : turns ≤ turns') :
    g.search root turns' = ⟨seen, []⟩ := by
  induction hle with
  | refl => exact h
  | step _ ih => rw [search_succ, ih, Search.turn_nil]

/-! ## Distances -/

/-- There is a directed path of `n` edges from `id` to the root. -/
inductive Path (g : Graph) (root : NodeId) : Nat → NodeId → Prop where
  | here : Path g root 0 root
  | step {n : Nat} {u v : NodeId} :
      (⟨u, v⟩ : Edge) ∈ g.edges → Path g root n v → Path g root (n + 1) u

/-- A shortest path from `id` to the root has `n` edges. -/
structure IsDistance (g : Graph) (root id : NodeId) (n : Nat) : Prop where
  path : g.Path root n id
  least : ∀ m, g.Path root m id → n ≤ m

theorem IsDistance.unique {id : NodeId} {m n : Nat} (h : g.IsDistance root id m)
    (h' : g.IsDistance root id n) : m = n :=
  Nat.le_antisymm (h.least n h'.path) (h'.least m h.path)

/-- The first node is no farther from the root than the second. -/
def NoFarther (g : Graph) (root : NodeId) (a b : NodeId) : Prop :=
  ∀ m n, g.IsDistance root a m → g.IsDistance root b n → m ≤ n

theorem NoFarther.of_isDistance {a b : NodeId} {m n : Nat} (ha : g.IsDistance root a m)
    (hb : g.IsDistance root b n) (h : m ≤ n) : g.NoFarther root a b := by
  intro m' n' ha' hb'
  rw [ha'.unique ha, hb'.unique hb]
  exact h

/-- A search inside the layer at distance `k`: the nodes that had their turn,
    then the rest of the layer, then what was discovered of the next one. -/
structure Layered (g : Graph) (root : NodeId) (k : Nat) (past near far : List NodeId) : Prop where
  first : (past ++ (near ++ far)).head? = some root
  past_at : ∀ id ∈ past, ∃ n ≤ k, g.IsDistance root id n
  near_at : ∀ id ∈ near, g.IsDistance root id k
  far_at : ∀ id ∈ far, g.IsDistance root id (k + 1)
  reached : ∀ n ≤ k, ∀ id, g.Path root n id → id ∈ past ++ (near ++ far)
  closed : ∀ v ∈ past, ∀ u ∈ g.sources v, u ∈ past ++ (near ++ far)
  sorted : past.Pairwise (g.NoFarther root)

namespace Layered

variable {k : Nat} {v : NodeId} {past near far : List NodeId}

theorem start (g : Graph) (root : NodeId) : g.Layered root 0 [] [root] [] where
  first := rfl
  past_at := fun id hid => nomatch hid
  near_at := by
    intro id hid
    rw [List.mem_singleton.mp hid]
    exact ⟨.here, fun m _ => Nat.zero_le m⟩
  far_at := fun id hid => nomatch hid
  reached := by
    intro n hn id hpath
    obtain rfl := Nat.le_zero.mp hn
    cases hpath
    exact List.mem_singleton_self root
  closed := fun v hv => nomatch hv
  sorted := List.Pairwise.nil

/-- The turn of a node brings the next layer what it discovers. -/
theorem turn (l : g.Layered root k past (v :: near) far) : ∃ far',
    Search.turn g ⟨past ++ (v :: near ++ far), v :: near ++ far⟩ =
        ⟨past ++ [v] ++ (near ++ far'), near ++ far'⟩ ∧
      g.Layered root k (past ++ [v]) near far' := by
  have hv : g.IsDistance root v k := l.near_at v List.mem_cons_self
  have hsources : ∀ id ∈ (g.sources v).eraseDups.filter (· ∉ past ++ (v :: near ++ far)),
      id ∈ g.sources v ∧ id ∉ past ++ (v :: near ++ far) := by simp
  have hseen := adjoinAll_eq_append_filter (past ++ (v :: near ++ far)) (g.sources v)
  generalize (g.sources v).eraseDups.filter (· ∉ past ++ (v :: near ++ far)) = fresh at *
  have hlist : past ++ [v] ++ (near ++ (far ++ fresh)) = past ++ (v :: near ++ far) ++ fresh := by
    simp
  refine ⟨far ++ fresh, ?_, ?_, ?_, ?_, ?_, ?_, ?_, ?_⟩
  · rw [← hlist, List.append_assoc past [v], List.singleton_append] at hseen
    rw [List.append_assoc past [v], List.singleton_append]
    exact Search.turn_cons hseen
  · rw [hlist, List.head?_append, l.first, Option.some_or]
  · intro id hid
    rcases List.mem_append.mp hid with hid | hid
    · exact l.past_at id hid
    · rw [List.mem_singleton.mp hid]
      exact ⟨k, Nat.le_refl k, hv⟩
  · exact fun id hid => l.near_at id (List.mem_cons_of_mem v hid)
  · intro id hid
    rcases List.mem_append.mp hid with hid | hid
    · exact l.far_at id hid
    · -- one edge away from `v`, and whatever is closer was seen before
      obtain ⟨hsource, hnew⟩ := hsources id hid
      refine ⟨.step (mem_sources.mp hsource) hv.path, fun m hpath => ?_⟩
      by_contra hlt
      exact hnew (l.reached m (by omega) id hpath)
  · intro n hn id hpath
    rw [hlist]
    exact List.mem_append_left fresh (l.reached n hn id hpath)
  · intro x hx u hu
    rw [hlist, ← hseen, mem_adjoinAll]
    rcases List.mem_append.mp hx with hx | hx
    · exact Or.inl (l.closed x hx u hu)
    · rw [List.mem_singleton.mp hx] at hu
      exact Or.inr hu
  · rw [List.pairwise_append]
    refine ⟨l.sorted, List.pairwise_singleton _ v, ?_⟩
    intro a ha b hb
    obtain ⟨n, hn, hdist⟩ := l.past_at a ha
    rw [List.mem_singleton.mp hb]
    exact .of_isDistance hdist hv hn

/-- With a layer served, the next one begins. -/
theorem next (l : g.Layered root k past [] far) : g.Layered root (k + 1) past far [] where
  first := by
    rw [List.append_nil]
    exact l.first
  past_at := by
    intro id hid
    obtain ⟨n, hn, hdist⟩ := l.past_at id hid
    exact ⟨n, Nat.le_succ_of_le hn, hdist⟩
  near_at := l.far_at
  far_at := fun id hid => nomatch hid
  reached := by
    intro n hn id hpath
    rw [List.append_nil]
    cases hpath with
    | here => exact l.reached 0 (Nat.zero_le k) root .here
    | step hedge htail =>
        -- the path goes on from a node that was seen, and is too short for one of the next layer
        rename_i m v
        rcases List.mem_append.mp (l.reached m (by omega) v htail) with hv | hv
        · exact l.closed v hv id (mem_sources.mpr hedge)
        · have := (l.far_at v hv).least m htail
          omega
  closed := by
    rw [List.append_nil]
    exact l.closed
  sorted := l.sorted

end Layered

/-- Any search stands inside some layer. -/
theorem search_layered (g : Graph) (root : NodeId) (turns : Nat) : ∃ k past near far,
    g.search root turns = ⟨past ++ (near ++ far), near ++ far⟩ ∧ g.Layered root k past near far := by
  induction turns with
  | zero => exact ⟨0, [], [root], [], rfl, .start g root⟩
  | succ turns ih =>
      obtain ⟨k, past, near, far, hsearch, l⟩ := ih
      cases near with
      | cons v near =>
          obtain ⟨far', hturn, l'⟩ := l.turn
          exact ⟨k, _, near, far', (congrArg (Search.turn g) hsearch).trans hturn, l'⟩
      | nil =>
          cases far with
          | cons v far =>
              -- the layer is served, so the turn belongs to the next one
              obtain ⟨far', hturn, l'⟩ := l.next.turn
              rw [List.append_nil] at hturn
              exact ⟨k + 1, _, far, far', (congrArg (Search.turn g) hsearch).trans hturn, l'⟩
          | nil => exact ⟨k, past, [], [], congrArg (Search.turn g) hsearch, l⟩

/-- A finished search has found the root first, and then the other nodes by
    their distance to it. -/
theorem sorted_of_finished {turns : Nat} {seen : List NodeId}
    (h : g.search root turns = ⟨seen, []⟩) : seen.head? = some root ∧
      ∃ dist : NodeId → Nat, (∀ id ∈ seen, g.IsDistance root id (dist id)) ∧
        (seen.map dist).Pairwise (· ≤ ·) := by
  obtain ⟨k, past, near, far, hsearch, l⟩ := search_layered g root turns
  obtain ⟨hseen, hqueue⟩ := Search.mk.inj (hsearch.symm.trans h)
  obtain ⟨rfl, rfl⟩ := List.append_eq_nil_iff.mp hqueue
  rw [List.append_nil, List.append_nil] at hseen
  subst hseen
  have hdist : ∀ id, ∃ n, id ∈ past → g.IsDistance root id n := by
    intro id
    by_cases hid : id ∈ past
    · obtain ⟨n, -, hn⟩ := l.past_at id hid
      exact ⟨n, fun _ => hn⟩
    · exact ⟨0, fun h => absurd h hid⟩
  choose dist hdist using hdist
  refine ⟨by simpa using l.first, dist, hdist, ?_⟩
  rw [List.pairwise_map]
  exact l.sorted.imp_of_mem fun ha hb h => h _ _ (hdist _ ha) (hdist _ hb)

end Graph

/-! ## A walk follows the search -/

/-- What a walk has yet to visit: the rest of its frontier and then what is
    queued for the next one, each node once and none that was visited. -/
def Walk.ahead (w : Walk) (rest : List NodeId) : List NodeId :=
  (rest ++ w.queued).eraseDups.filter (· ∉ w.visited)

theorem Walk.visited_ahead (w : Walk) (rest : List NodeId) :
    w.visited.reverse ++ w.ahead rest = adjoinAll w.visited.reverse (rest ++ w.queued) := by
  rw [adjoinAll_eq_append_filter, ahead]
  simp only [List.mem_reverse]

theorem Walk.ahead_eq_iff {w : Walk} {rest ids : List NodeId} : w.ahead rest = ids ↔
    adjoinAll w.visited.reverse (rest ++ w.queued) = w.visited.reverse ++ ids := by
  rw [← visited_ahead, List.append_right_inj]

/-- A new member comes next, before what is then ahead. -/
theorem Walk.ahead_cons {w : Walk} {member : NodeId} (h : member ∉ w.visited) (rest : List NodeId) :
    w.ahead (member :: rest) =
      member :: ({ w with visited := member :: w.visited } : Walk).ahead rest := by
  have hnew : member ∉ w.visited.reverse := fun hmem => h (List.mem_reverse.mp hmem)
  have hahead := ({ w with visited := member :: w.visited } : Walk).visited_ahead rest
  rw [List.reverse_cons, List.append_assoc, List.singleton_append] at hahead
  rw [ahead_eq_iff, List.cons_append, adjoinAll_cons, adjoin_of_not_mem hnew, hahead]

/-- A visited member stays ahead no longer. -/
theorem Walk.ahead_cons_of_mem {w : Walk} {member : NodeId} (h : member ∈ w.visited)
    (rest : List NodeId) : w.ahead (member :: rest) = w.ahead rest := by
  rw [ahead_eq_iff, List.cons_append, adjoinAll_cons, adjoin_of_mem (List.mem_reverse.mpr h),
    w.visited_ahead]

/-- Visiting a new member adjoins the sources of its edges to all that was
    visited or is ahead. -/
theorem Surroundings.Visited.ahead {s : Surroundings} {member : NodeId} {w w' : Walk}
    (v : s.Visited member w w') (h : member ∉ w.visited) (rest : List NodeId) :
    adjoinAll (w.visited.reverse ++ w.ahead (member :: rest)) (s.graph.sources member) =
      w.visited.reverse ++ member :: w'.ahead rest := by
  have hahead := w'.visited_ahead rest
  have hnew : member ∉ w.visited.reverse := fun hmem => h (List.mem_reverse.mp hmem)
  rw [v.visited, v.queued, List.reverse_cons, List.append_assoc, List.singleton_append,
    adjoinAll_append, adjoinAll_adjoinAll, ← adjoinAll_append _ rest] at hahead
  rw [hahead, w.visited_ahead, List.cons_append, adjoinAll_cons, adjoin_of_not_mem hnew]
  rfl

/-- A walk stands where the search does that had a turn for every visited node,
    while `rest` is what its level still has to visit.  Its document lists what
    the search has seen, but for the root before the first visit. -/
structure Walk.Follows (s : Surroundings) (root : NodeId) (rest : List NodeId) (w : Walk) : Prop where
  search : s.graph.search root w.visited.length =
    ⟨w.visited.reverse ++ w.ahead rest, w.ahead rest⟩
  ids : w.document.ids = w.visited.reverse ++ w.ahead rest ∨
    w.document.ids = [] ∧ w.visited.reverse ++ w.ahead rest = [root]

namespace Walk.Follows

variable {s : Surroundings} {root : NodeId} {w w' : Walk} {rest : List NodeId}

theorem start (s : Surroundings) (root : NodeId) : Follows s root [root] {} where
  search := rfl
  ids := Or.inr ⟨rfl, rfl⟩

/-- Nothing but the nodes ahead matters of a frontier and a queue. -/
theorem of_ahead_eq (f : Follows s root rest w) {w' : Walk} {rest' : List NodeId}
    (hvisited : w'.visited = w.visited) (hids : w'.document.ids = w.document.ids)
    (hahead : w'.ahead rest' = w.ahead rest) : Follows s root rest' w' where
  search := by
    rw [hvisited, hahead]
    exact f.search
  ids := by
    rw [hvisited, hids, hahead]
    exact f.ids

/-- To visit the next member is a turn, and to pass over it is none. -/
theorem visit (hs : SelfKeyed s.descriptors) {member : NodeId}
    (f : Follows s root (member :: rest) w) (h : s.visit w member = .ok w') :
    Follows s root rest w' := by
  by_cases hmem : member ∈ w.visited
  · obtain rfl := Except.ok.inj ((Surroundings.visit_of_mem hmem).symm.trans h)
    exact f.of_ahead_eq rfl rfl (Walk.ahead_cons_of_mem hmem rest).symm
  · have v := (Surroundings.visit_spec hs hmem h).2
    have hahead := v.ahead hmem rest
    have hvisited : w'.visited.reverse ++ w'.ahead rest =
        w.visited.reverse ++ member :: w'.ahead rest := by
      rw [v.visited, List.reverse_cons, List.append_assoc, List.singleton_append]
    have hseen : member ∈ w.visited.reverse ++ w.ahead (member :: rest) := by
      rw [Walk.ahead_cons hmem]
      exact List.mem_append_right _ List.mem_cons_self
    constructor
    · rw [Walk.ahead_cons hmem] at hahead
      rw [hvisited, v.visited, List.length_cons, Graph.search_succ, f.search,
        Walk.ahead_cons hmem, Search.turn_cons hahead]
    · refine Or.inl ?_
      rw [v.ids, hvisited, ← hahead]
      rcases f.ids with hids | ⟨hids, hroot⟩
      · rw [hids, adjoinAll_cons, adjoin_of_mem hseen]
        rfl
      · -- the first visit of all, which is the root's
        rw [hroot] at hseen ⊢
        rw [hids, List.mem_singleton.mp hseen]
        rfl

/-- To drop the visited nodes from the queue at the end of a level, and only
    there, takes nothing from what is ahead. -/
theorem level (hs : SelfKeyed s.descriptors) {frontier next : List NodeId}
    (f : Follows s root frontier { w with queued := [] })
    (h : s.level w frontier = .ok (w', next)) : Follows s root next { w' with queued := [] } := by
  obtain ⟨w₁, hrun, h⟩ := bind_eq_ok.mp h
  obtain ⟨rfl, rfl⟩ := Prod.mk.inj (Except.ok.inj h)
  have hend : Follows s root [] w₁ := foldlM_invariant (Follows s root)
    (fun member rest w w' f hstep => f.visit hs hstep) f hrun
  refine hend.of_ahead_eq rfl rfl (Walk.ahead_eq_iff.mpr ?_)
  rw [w₁.visited_ahead, List.append_nil, List.nil_append]
  exact adjoinAll_filter (by simp)

end Walk.Follows

/-! ## The loop over the levels -/

namespace Surroundings

variable {s : Surroundings} {root : NodeId} {w w' : Walk}

/-- The loop over the levels takes `n` rounds from a walk and its frontier to a
    walk with no frontier left. -/
inductive Rounds (s : Surroundings) : (n : Nat) → Walk → List NodeId → Walk → Prop where
  | finished (w : Walk) : Rounds s 0 w [] w
  | round {n : Nat} {w w₁ w' : Walk} {member : NodeId} {rest next : List NodeId} :
      s.level w (member :: rest) = .ok (w₁, next) → Rounds s n w₁ next w' →
      Rounds s (n + 1) w (member :: rest) w'

/-- Levels that leave no frontier are the whole loop. -/
theorem rounds_of_levels {rounds : Nat} {frontier : List NodeId}
    (h : s.levels rounds w frontier = .ok (w', [])) : ∃ n ≤ rounds, s.Rounds n w frontier w' := by
  induction rounds generalizing w frontier with
  | zero =>
      cases frontier with
      | nil =>
          obtain ⟨rfl, -⟩ := Prod.mk.inj (Except.ok.inj h)
          exact ⟨0, Nat.le_refl 0, .finished w⟩
      | cons member rest => exact nomatch (Prod.mk.inj (Except.ok.inj h)).2
  | succ rounds ih =>
      cases frontier with
      | nil =>
          obtain ⟨rfl, -⟩ := Prod.mk.inj (Except.ok.inj h)
          exact ⟨0, Nat.zero_le _, .finished w⟩
      | cons member rest =>
          rw [levels_cons] at h
          obtain ⟨⟨w₁, next⟩, hlevel, h⟩ := bind_eq_ok.mp h
          obtain ⟨n, hn, hrounds⟩ := ih h
          exact ⟨n + 1, Nat.succ_le_succ hn, .round hlevel hrounds⟩

theorem Rounds.follows (hs : SelfKeyed s.descriptors) {n : Nat} {frontier : List NodeId}
    (h : s.Rounds n w frontier w') (f : Walk.Follows s root frontier { w with queued := [] }) :
    Walk.Follows s root [] { w' with queued := [] } := by
  induction h with
  | finished w => exact f
  | round hlevel _ ih => exact ih (f.level hs hlevel)

/-! ## The order of a neighborhood -/

/-- How the document of a neighborhood is laid out and how it is come by: its
    nodes stand in the order in which the search with a queue discovers them,
    its edges follow the nodes they point at, and its loop over levels ends
    within as many rounds as there are nodes. -/
structure BreadthFirst (s : Surroundings) (root : NodeId) (doc : Document) : Prop where
  discovery : ∀ turns, s.graph.nodeCount ≤ turns → s.graph.search root turns = ⟨doc.ids, []⟩
  first : doc.ids.head? = some root
  by_distance : ∃ dist : NodeId → Nat, (∀ id ∈ doc.ids, s.graph.IsDistance root id (dist id)) ∧
    (doc.ids.map dist).Pairwise (· ≤ ·)
  edges : ∃ lists, doc.ids.mapM s.graph.incoming = .ok lists ∧ doc.edges = lists.flatten
  rounds : ∃ n ≤ s.graph.nodeCount, ∃ w, s.Rounds n {} [root] w ∧ s.withKinds w.document = .ok doc

/-- **Collecting level by level is breadth-first search.**  Whatever the shape
    of a built graph, the nodes of a neighborhood stand in the order of their
    discovery by a queue, which is that of their distance to the root, and its
    edges in the order of the nodes they point at; and no neighborhood takes
    more levels than there are nodes. -/
theorem neighborhood_is_breadth_first (s : Surroundings) (root : NodeId) (doc : Document)
    (hg : s.graph.Built) (hs : SelfKeyed s.descriptors) (h : s.neighborhood root = .ok doc) :
    s.BreadthFirst root doc := by
  have hwf := hg.wellFormed
  obtain ⟨-, hroot, w, rest, hlevels, hkinds⟩ := (neighborhood_eq_ok hs).mp h
  have hfresh : ∀ id ∈ [root], id ∉ ({} : Walk).visited := fun id _ hid => nomatch hid
  obtain ⟨rfl, inv⟩ := levels_inv hs hwf hroot Walk.Inv.start hfresh (Nat.le_add_left _ _) hlevels
  obtain ⟨n, hn, hrounds⟩ := rounds_of_levels hlevels
  have f := hrounds.follows hs (Walk.Follows.start s root)
  -- with nothing ahead, the document lists the visited nodes
  have hahead : ({ w with queued := [] } : Walk).ahead [] = [] := rfl
  have hids : w.document.ids = w.visited.reverse := by
    have hmem := (inv.expanded root (inv.mem_visited (Or.inl rfl))).1
    rcases f.ids with hids | ⟨hids, -⟩
    · rw [hahead, List.append_nil] at hids
      exact hids
    · rw [hids] at hmem
      exact nomatch hmem
  have hlength : w.visited.length ≤ s.graph.nodeCount :=
    (List.subperm_of_subset inv.visited_nodup inv.visited_known).length_le
  have hsearch := f.search
  rw [hahead, List.append_nil, ← hids] at hsearch
  obtain ⟨-, hrest, -⟩ := foldlM_copyKind ((withKinds_eq s w.document).symm.trans hkinds)
  have hdoc : doc.ids = w.document.ids := by rw [hrest]; rfl
  have hedges : doc.edges = w.document.edges := by rw [hrest]
  have hknown : ∀ id ∈ doc.ids, s.graph.incoming id = .ok (s.graph.into id) := by
    intro id hid
    rw [hdoc, hids] at hid
    exact Graph.incoming_of_mem (inv.visited_known id (List.mem_reverse.mp hid))
  obtain ⟨hfirst, hdistance⟩ := Graph.sorted_of_finished hsearch
  refine ⟨?_, hdoc ▸ hfirst, hdoc ▸ hdistance, ?_, n, hn, w, hrounds, hkinds⟩
  · intro turns hturns
    rw [hdoc]
    exact Graph.search_of_finished hsearch (Nat.le_trans hlength hturns)
  · refine ⟨_, mapM_eq_map hknown, ?_⟩
    rw [hedges, inv.edges_eq, hdoc, hids]
    rfl

/-- Two types derive from the root and one of them from the other, a fourth from
    both, and the root from that one again. -/
def knot : Surroundings where
  graph := ((((((Graph.addEdge {} "B" "R").1.addEdge "A" "R").1.addEdge "A" "B").1.addEdge
    "C" "A").1.addEdge "C" "B").1.addEdge "R" "C").1
  descriptors := ((((∅ : Table Descriptor).insert "R" ⟨"R", "R", ""⟩).insert "A"
    ⟨"A", "A", ""⟩).insert "B" ⟨"B", "B", ""⟩).insert "C" ⟨"C", "C", ""⟩
  edgeKinds := ((((((∅ : EdgeKinds).insert "B->R" .derivesFrom).insert "A->R" .derivesFrom).insert
    "A->B" .implements).insert "C->A" .derivesFrom).insert "C->B" .implements).insert
    "R->C" .implements

/-- On a knot: an edge within a layer, a node found from two sides and an edge
    back to the root change nothing. -/
theorem knot_breadth_first : ∃ doc, knot.neighborhood "R" = .ok doc ∧
    doc.ids = ["R", "B", "A", "C"] ∧ knot.BreadthFirst "R" doc := by
  have hg : knot.graph.Built := .edge "R" "C" (.edge "C" "B" (.edge "C" "A"
    (.edge "A" "B" (.edge "A" "R" (.edge "B" "R" .empty)))))
  have hs : SelfKeyed knot.descriptors := (((selfKeyed_empty.insert ⟨"R", "R", ""⟩).insert
    ⟨"A", "A", ""⟩).insert ⟨"B", "B", ""⟩).insert ⟨"C", "C", ""⟩
  have hd : ∀ id ∈ knot.graph.nodes, id ∈ knot.descriptors := by decide
  have hk : ∀ e ∈ knot.graph.edges, e.id ∈ knot.edgeKinds := by decide
  have covers : knot.Covers "R" :=
    ⟨by decide, by decide, fun id h _ => hd id h, fun e h _ => hk e h⟩
  obtain ⟨doc, hdoc⟩ := neighborhood_succeeds hs hg.wellFormed covers
  have b := neighborhood_is_breadth_first knot "R" doc hg hs hdoc
  have hsearch : knot.graph.search "R" 4 = ⟨["R", "B", "A", "C"], []⟩ := by decide
  have hids := (b.discovery 4 (by decide)).symm.trans hsearch
  exact ⟨doc, hdoc, congrArg Search.seen hids, b⟩

end Surroundings

end Lineage
