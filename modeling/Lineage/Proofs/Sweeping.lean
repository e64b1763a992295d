import Lineage.Proofs.Dangling
import Lineage.Proofs.Presented

/-! # Hiding dangling nodes, of the graph or of a cluster

    A request is about all nodes or about the members of a cluster
    (`Graph.Concerns`).  What it hides are those of them that lack the visible
    edges the mode asks for (`Lacks`), and it hides them with one mask
    (`Hides`).

    Which edges are visible is up to the edge masks alone, so hiding nodes
    never makes another node dangle (`lacks_congr`).  Everything else comes
    from that: asking again changes nothing (`Hides.again`), and what several
    requests hide is what each of them would have hidden on its own
    (`hideDangling_clusters`). -/

namespace Lineage

/-- What a request is about: all nodes, or the members of a cluster that is
    there. -/
inductive Graph.Concerns (g : Graph) : Option ClusterId → List NodeId → Prop where
  | whole : Concerns g none g.nodes
  | cluster {c : Cluster} : c ∈ g.clusters → Concerns g (some c.id) c.members

namespace Graph

variable {g : Graph}

theorem WellFormed.findCluster?_of_mem (hg : g.WellFormed) {c : Cluster} (hc : c ∈ g.clusters) :
    g.findCluster? c.id = some c :=
  find?_of_nodup_map hg.cluster_ids_nodup hc

theorem findCluster?_eq_none {cluster : ClusterId} :
    g.findCluster? cluster = none ↔ ∀ c ∈ g.clusters, c.id ≠ cluster := by
  simp [findCluster?]

/-- The node is a member of one of the named clusters. -/
def InSome (g : Graph) (clusters : List ClusterId) (id : NodeId) : Prop :=
  ∃ c ∈ g.clusters, c.id ∈ clusters ∧ id ∈ c.members

theorem inSome_nil {id : NodeId} : ¬ g.InSome [] id := fun ⟨_, _, hc, _⟩ => List.not_mem_nil hc

theorem WellFormed.inSome_cons (hg : g.WellFormed) {c : Cluster} (hc : c ∈ g.clusters)
    {clusters : List ClusterId} {id : NodeId} :
    g.InSome (c.id :: clusters) id ↔ id ∈ c.members ∨ g.InSome clusters id := by
  constructor
  · rintro ⟨b, hb, hnamed, hid⟩
    rcases List.mem_cons.mp hnamed with hname | hnamed
    · -- no other cluster has the name
      rw [List.inj_on_of_nodup_map hg.cluster_ids_nodup hb hc hname] at hid
      exact Or.inl hid
    · exact Or.inr ⟨b, hb, hnamed, hid⟩
  · rintro (hid | ⟨b, hb, hnamed, hid⟩)
    · exact ⟨c, hc, List.mem_cons_self, hid⟩
    · exact ⟨b, hb, List.mem_cons_of_mem _ hnamed, hid⟩

variable {within : Option ClusterId} {ids : List NodeId}

/-- A request is about nodes of the graph, about each of them once. -/
theorem Concerns.known (h : g.Concerns within ids) (hg : g.WellFormed) :
    ids.Nodup ∧ ∀ id ∈ ids, id ∈ g.nodes := by
  cases h with
  | whole => exact ⟨hg.nodes_nodup, fun _ hid => hid⟩
  | cluster hc => exact ⟨hg.members_nodup _ hc, hg.members_known _ hc⟩

end Graph

namespace Presentation

variable {p q : Presentation} {mode : DanglingMode} {within : Option ClusterId}
  {ids : List NodeId} {k : Nat}

theorem candidates_of_concerns (hg : p.graph.WellFormed) (h : p.graph.Concerns within ids) :
    p.candidates within = .ok ids := by
  cases h with
  | whole => rfl
  | cluster hc => rw [candidates, hg.findCluster?_of_mem hc]

/-! ## One request -/

/-- No edge that the edge masks show keeps the node, in the sense of the mode. -/
def Lacks (p : Presentation) (mode : DanglingMode) (id : NodeId) : Prop :=
  ∀ e ∈ p.visibleEdges, ¬ mode.Keeps e id

instance (p : Presentation) (mode : DanglingMode) (id : NodeId) : Decidable (p.Lacks mode id) :=
  inferInstanceAs (Decidable (∀ e ∈ p.visibleEdges, ¬ mode.Keeps e id))

/-- Nodes are judged by the graph and the edge masks alone. -/
theorem lacks_congr (hgraph : q.graph = p.graph) (hmasks : q.edgeMasks = p.edgeMasks)
    (mode : DanglingMode) (id : NodeId) : q.Lacks mode id ↔ p.Lacks mode id := by
  have hedges : q.visibleEdges = p.visibleEdges := by
    rw [visibleEdges, visibleEdges, hgraph]
    refine List.filter_congr fun e _ => ?_
    rw [picksEdge, picksEdge, hmasks]
  rw [Lacks, Lacks, hedges]

/-- An edge from a node to itself keeps it whatever the mode is. -/
theorem not_lacks_of_loop {id : NodeId} (h : (⟨id, id⟩ : Edge) ∈ p.visibleEdges) :
    ¬ p.Lacks mode id := by
  intro hlacks
  refine hlacks _ h ?_
  cases mode with
  | all => exact Or.inl rfl
  | incomings => exact rfl
  | outgoings => exact rfl

/-- The members of a list that lack visible edges. -/
def lacking (p : Presentation) (mode : DanglingMode) (ids : List NodeId) : List NodeId :=
  ids.filter fun id => p.Lacks mode id

theorem mem_lacking {id : NodeId} : id ∈ p.lacking mode ids ↔ id ∈ ids ∧ p.Lacks mode id := by
  rw [lacking, List.mem_filter, decide_eq_true_iff]

/-- What a request comes to: the nodes that lack visible edges, among those it
    is about, are counted and hidden with one mask, and nothing else changes. -/
structure Hides (p : Presentation) (mode : DanglingMode) (ids : List NodeId) (q : Presentation)
    (k : Nat) : Prop where
  nodup : ids.Nodup
  count : k = (p.lacking mode ids).length
  nodes : ∀ id, q.picksNode id = true ↔ p.picksNode id = true ∧ ¬ (id ∈ ids ∧ p.Lacks mode id)
  edges : ∀ e, q.picksEdge e = p.picksEdge e
  graph : q.graph = p.graph
  captions : q.captions = p.captions
  nodeColors : q.nodeColors = p.nodeColors
  edgeColors : q.edgeColors = p.edgeColors
  edgeMasks : q.edgeMasks = p.edgeMasks
  pushed : ∃ m : Mask, q.nodeMasks = p.nodeMasks ++ [m] ∧ m.applied = true ∧ m.shows = false ∧
    m.label = mode.label ∧ ∀ id, m.covers id = true ↔ id ∈ ids ∧ p.Lacks mode id

theorem picksNode_hide {id : NodeId} :
    (p.hide mode ids).picksNode id = (p.picksNode id && id ∉ ids) :=
  MaskStack.isVisible_push_hidden p.nodeMasks mode.label ids id

/-- A request succeeds. -/
theorem hideDangling_of_concerns (hg : p.graph.WellFormed) (h : p.graph.Concerns within ids) :
    p.hideDangling mode within =
      .ok (p.hide mode (p.lacking mode ids), (p.lacking mode ids).length) := by
  have hfilter : ids.filter (p.dangles mode) = p.lacking mode ids := by
    refine List.filter_congr fun id _ => ?_
    rw [Bool.eq_iff_iff, decide_eq_true_iff]
    exact dangles_iff
  rw [← hfilter]
  exact bind_eq_ok.mpr ⟨_, candidates_of_concerns hg h,
    bind_eq_ok.mpr ⟨_, danglingAmong_eq (h.known hg).2, rfl⟩⟩

theorem hides_hide (hnodup : ids.Nodup) :
    p.Hides mode ids (p.hide mode (p.lacking mode ids)) (p.lacking mode ids).length where
  nodup := hnodup
  count := rfl
  nodes := by
    intro id
    rw [picksNode_hide, Bool.and_eq_true, decide_eq_true_iff, mem_lacking]
  edges := fun _ => rfl
  graph := rfl
  captions := rfl
  nodeColors := rfl
  edgeColors := rfl
  edgeMasks := rfl
  pushed := by
    refine ⟨.hidden mode.label (p.lacking mode ids), rfl, rfl, rfl, rfl, fun id => ?_⟩
    rw [Mask.covers_hidden, List.contains_iff_mem, mem_lacking]

theorem hideDangling_hides (mode : DanglingMode) (hg : p.graph.WellFormed)
    (h : p.graph.Concerns within ids) :
    ∃ q k, p.hideDangling mode within = .ok (q, k) ∧ p.Hides mode ids q k :=
  ⟨_, _, hideDangling_of_concerns hg h, hides_hide (h.known hg).1⟩

/-- Asking again finds the same nodes, and they are hidden already. -/
theorem Hides.again {q' : Presentation} {k' : Nat} (h : p.Hides mode ids q k)
    (h' : q.Hides mode ids q' k') :
    k' = k ∧ (∀ id, q'.picksNode id = q.picksNode id) ∧
      ∀ e, q'.picksEdge e = q.picksEdge e := by
  have hlacks := lacks_congr h.graph h.edgeMasks mode
  refine ⟨?_, fun id => ?_, h'.edges⟩
  · rw [h'.count, h.count, lacking, lacking]
    simp only [hlacks]
  · rw [Bool.eq_iff_iff, h'.nodes, h.nodes, hlacks]
    exact ⟨fun hid => hid.1, fun hid => ⟨hid, hid.2⟩⟩

/-! ## One cluster after the other -/

/-- Hides the dangling nodes of several clusters in turn. -/
def hideDanglingIn (p : Presentation) (mode : DanglingMode) (clusters : List ClusterId) :
    Except Failure Presentation :=
  clusters.foldlM (fun p c => Prod.fst <$> p.hideDangling mode (some c)) p

/-- After some clusters those of their members are hidden that lacked visible
    edges at the start, and edges are as they were. -/
theorem hideDangling_clusters {clusters : List ClusterId} (hg : p.graph.WellFormed)
    (h : ∀ c ∈ clusters, ∃ b ∈ p.graph.clusters, b.id = c) :
    ∃ q, p.hideDanglingIn mode clusters = .ok q ∧ (∀ e, q.picksEdge e = p.picksEdge e) ∧
      ∀ id, q.picksNode id = true ↔
        p.picksNode id = true ∧ ¬ (p.graph.InSome clusters id ∧ p.Lacks mode id) := by
  induction clusters generalizing p with
  | nil =>
      refine ⟨p, rfl, fun _ => rfl, fun id => ?_⟩
      exact ⟨fun hid => ⟨hid, fun hin => Graph.inSome_nil hin.1⟩, fun hid => hid.1⟩
  | cons c clusters ih =>
      obtain ⟨b, hb, rfl⟩ := h c List.mem_cons_self
      obtain ⟨p', k, hstep, hhides⟩ := hideDangling_hides mode hg (.cluster hb)
      have hg' : p'.graph.WellFormed := hhides.graph ▸ hg
      obtain ⟨q, hrest, hedges, hnodes⟩ := ih hg' (by
        rw [hhides.graph]
        exact fun c hc => h c (List.mem_cons_of_mem _ hc))
      have hstep' : Prod.fst <$> p.hideDangling mode (some b.id) = .ok p' := by
        rw [hstep]
        rfl
      refine ⟨q, foldlM_cons_eq_ok.mpr ⟨p', hstep', hrest⟩, ?_, fun id => ?_⟩
      · intro e
        rw [hedges, hhides.edges]
      · -- the members of the first cluster are gone, and the others are judged as before
        rw [hnodes, hhides.nodes, hhides.graph, lacks_congr hhides.graph hhides.edgeMasks,
          hg.inSome_cons hb]
        tauto

/-- When every node is a member of some cluster, going through all clusters in
    any order, some of them repeatedly, hides what hiding the dangling nodes of
    the whole graph hides. -/
theorem picksNode_clusters {clusters : List ClusterId} (hg : p.graph.WellFormed)
    (hcover : ∀ id ∈ p.graph.nodes, ∃ c ∈ p.graph.clusters, id ∈ c.members)
    (h : ∀ c, c ∈ clusters ↔ ∃ b ∈ p.graph.clusters, b.id = c)
    (hall : p.Hides mode p.graph.nodes q k) :
    ∃ q', p.hideDanglingIn mode clusters = .ok q' ∧
      (∀ id, q'.picksNode id = q.picksNode id) ∧ ∀ e, q'.picksEdge e = q.picksEdge e := by
  obtain ⟨q', hrun, hedges, hnodes⟩ := hideDangling_clusters hg fun c hc => (h c).mp hc
  have hin : ∀ id, p.graph.InSome clusters id ↔ id ∈ p.graph.nodes := by
    intro id
    constructor
    · rintro ⟨c, hc, -, hid⟩
      exact hg.members_known c hc id hid
    · intro hid
      obtain ⟨c, hc, hmem⟩ := hcover id hid
      exact ⟨c, hc, (h c.id).mpr ⟨c, hc, rfl⟩, hmem⟩
  refine ⟨q', hrun, fun id => ?_, fun e => ?_⟩
  · rw [Bool.eq_iff_iff, hnodes, hall.nodes, hin]
  · rw [hedges, hall.edges]

/-! ## A presentation that is changed in place -/

/-- Performs a request on a presentation that is changed in place: after a
    failure it is as it was. -/
def hideDanglingNow (p : Presentation) (mode : DanglingMode) (within : Option ClusterId) :
    Presentation × Except Failure Nat :=
  match p.hideDangling mode within with
  | .ok (q, k) => (q, .ok k)
  | .error failure => (p, .error failure)

theorem hideDanglingNow_of_ok (h : p.hideDangling mode within = .ok (q, k)) :
    p.hideDanglingNow mode within = (q, .ok k) := by
  rw [hideDanglingNow, h]

theorem hideDanglingNow_of_unknown {cluster : ClusterId}
    (h : ∀ c ∈ p.graph.clusters, c.id ≠ cluster) :
    p.hideDanglingNow mode (some cluster) = (p, .error (.unknownCluster cluster)) := by
  have hcandidates : p.candidates (some cluster) = .error (.unknownCluster cluster) := by
    rw [candidates, Graph.findCluster?_eq_none.mpr h]
  rw [hideDanglingNow, hideDangling, hcandidates]
  rfl

/-- **Dangling nodes are hidden and nothing else is.**  On every presentation
    that can be made, a request for all nodes or for the members of a cluster
    that is there succeeds; it counts those of them that lack visible edges in
    the sense of the mode, hides exactly these with one mask, and leaves
    everything else alone.  Asking again gives the same number and changes no
    visibility.  Where clusters cover the graph, going through all of them in
    any order shows what one request for all nodes shows.  A cluster that is not
    there is reported, and the presentation stays as it was. -/
theorem dangling_are_hidden (h : p.Reachable) (mode : DanglingMode) :
    (∀ within ids, p.graph.Concerns within ids → ∃ q k,
      p.hideDanglingNow mode within = (q, .ok k) ∧ p.Hides mode ids q k ∧
        ∃ q', q.hideDanglingNow mode within = (q', .ok k) ∧
          (∀ id, q'.picksNode id = q.picksNode id) ∧ ∀ e, q'.picksEdge e = q.picksEdge e) ∧
      (∀ id, (⟨id, id⟩ : Edge) ∈ p.visibleEdges → ¬ p.Lacks mode id) ∧
      ((∀ id ∈ p.graph.nodes, ∃ c ∈ p.graph.clusters, id ∈ c.members) →
        ∀ clusters : List ClusterId, (∀ c, c ∈ clusters ↔ ∃ b ∈ p.graph.clusters, b.id = c) →
          ∃ q', p.hideDanglingIn mode clusters = .ok q' ∧
            (∀ id, q'.picksNode id = (p.hideDanglingNow mode none).1.picksNode id) ∧
            ∀ e, q'.picksEdge e = (p.hideDanglingNow mode none).1.picksEdge e) ∧
      ∀ cluster, (∀ c ∈ p.graph.clusters, c.id ≠ cluster) →
        p.hideDanglingNow mode (some cluster) = (p, .error (.unknownCluster cluster)) := by
  have hg := h.built.wellFormed
  refine ⟨?_, fun _ => not_lacks_of_loop, ?_, fun _ => hideDanglingNow_of_unknown⟩
  · intro within ids hconcerns
    obtain ⟨q, k, hok, hhides⟩ := hideDangling_hides mode hg hconcerns
    -- the graph is the same, so the second request is about the same nodes
    have hg' : q.graph.WellFormed := hhides.graph ▸ hg
    have hconcerns' : q.graph.Concerns within ids := hhides.graph ▸ hconcerns
    obtain ⟨q', k', hok', hhides'⟩ := hideDangling_hides mode hg' hconcerns'
    obtain ⟨rfl, hnodes, hedges⟩ := hhides.again hhides'
    exact ⟨q, k', hideDanglingNow_of_ok hok, hhides, q', hideDanglingNow_of_ok hok', hnodes, hedges⟩
  · intro hcover clusters hclusters
    obtain ⟨q, k, hok, hhides⟩ := hideDangling_hides mode hg .whole
    rw [hideDanglingNow_of_ok hok]
    exact picksNode_clusters hg hcover hclusters hhides

/-- Two clusters of four nodes: an edge between clusters, a node that points at
    itself, and one without edges. -/
def tangleGraph : Graph where
  nodes := ["a", "b", "k", "l"]
  edges := [⟨"a", "b"⟩, ⟨"k", "k"⟩]
  clusters := [⟨"x", ["a", "k"]⟩, ⟨"y", ["b", "l"]⟩]

/-- The edge between the clusters is hidden, and a mask shows the node without
    edges. -/
def tangle : Presentation where
  graph := tangleGraph
  nodeMasks := [.shown "keep" ["l"]]
  edgeMasks := [.hidden "cut" ["a->b"]]

theorem reachable_tangle : tangle.Reachable := by
  have hbuilt : tangleGraph.Built := by
    have hnodes := ((Graph.Built.empty.edge "a" "b").edge "k" "k").node "l"
    have hx : Graph.Built { tangleGraph with clusters := [⟨"x", ["a", "k"]⟩] } :=
      hnodes.cluster "x" ["a", "k"] rfl
    exact hx.cluster "y" ["b", "l"] rfl
  exact .edgeMasks _ (.nodeMasks _ (.ofGraph hbuilt))

/-- Only the node that points at itself is left, the mask that showed another
    one notwithstanding, also when the clusters are gone through one by one. -/
theorem tangle_keeps_loop :
    tangle.Reachable ∧ (∃ q, tangle.hideDanglingNow .all none = (q, .ok 3) ∧
      (∀ id ∈ tangle.graph.nodes, q.picksNode id = true ↔ id = "k") ∧
        ∃ q', tangle.hideDanglingIn .all ["y", "x"] = .ok q' ∧
          ∀ id, q'.picksNode id = q.picksNode id) ∧
      tangle.hideDanglingNow .all (some "z") = (tangle, .error (.unknownCluster "z")) := by
  obtain ⟨hone, -, hclusters, hunknown⟩ := dangling_are_hidden reachable_tangle .all
  obtain ⟨q, k, hnow, hhides, -⟩ := hone none _ .whole
  have hk : k = 3 := hhides.count.trans (by decide +kernel)
  have hboth : ∀ c, c ∈ ["y", "x"] ↔ ∃ b ∈ tangle.graph.clusters, b.id = c := by
    simp [tangle, tangleGraph, eq_comm, or_comm]
  obtain ⟨q', hrun, hnodes, -⟩ := hclusters (by decide) ["y", "x"] hboth
  rw [hnow] at hnodes
  refine ⟨reachable_tangle, ⟨q, hk ▸ hnow, fun id hid => ?_, q', hrun, hnodes⟩,
    hunknown "z" (by decide)⟩
  rw [hhides.nodes]
  revert id
  decide +kernel

end Presentation

end Lineage
