import Lineage.Dot.Printer
import Lineage.Proofs.Presented

/-! # Where nodes are drawn

    Drawing goes over the clusters in order and keeps what it has drawn, so
    that clusters may overlap.  Said without that state, a node belongs to the
    first cluster that has it (`Presentation.home?`), and a cluster is drawn
    around its visible nodes that belong to it (`Presentation.residents`).
    `blocks_eq` is the induction over the clusters: what was drawn is what is
    visible in an earlier cluster.

    The headline is `render_structure`: the text of a presentation, line by
    line, with every visible node in it once. -/

namespace Lineage

namespace Presentation

/-! ## Homes -/

/-- The first cluster that has the node. -/
def home? (p : Presentation) (id : NodeId) : Option Cluster :=
  p.graph.clusters.find? (id ∈ ·.members)

/-- Whether some of the members are visible. -/
def showsCluster (p : Presentation) (c : Cluster) : Bool := c.members.any (· ∈ p.visibleNodes)

/-- The clusters with visible members, in the order of the graph. -/
def shownClusters (p : Presentation) : List Cluster := p.graph.clusters.filter p.showsCluster

/-- The visible nodes of which a cluster is the home, in the order of its
    members. -/
def residents (p : Presentation) (c : Cluster) : List NodeId :=
  c.members.filter fun id => id ∈ p.visibleNodes ∧ p.home? id = some c

/-- The visible nodes that are in no cluster, in the order of the graph. -/
def homeless (p : Presentation) : List NodeId := p.visibleNodes.filter (p.home? · = none)

/-- All nodes that are drawn, block by block. -/
def drawnNodes (p : Presentation) : List NodeId :=
  p.shownClusters.flatMap p.residents ++ p.homeless

variable {p : Presentation}

theorem mem_visibleNodes {id : NodeId} :
    id ∈ p.visibleNodes ↔ id ∈ p.graph.nodes ∧ p.picksNode id = true := List.mem_filter

theorem nodup_visibleNodes (hg : p.graph.WellFormed) : p.visibleNodes.Nodup :=
  hg.nodes_nodup.filter _

theorem mem_residents {c : Cluster} {id : NodeId} :
    id ∈ p.residents c ↔ id ∈ c.members ∧ id ∈ p.visibleNodes ∧ p.home? id = some c := by
  rw [residents, List.mem_filter, decide_eq_true_iff]

theorem mem_homeless {id : NodeId} :
    id ∈ p.homeless ↔ id ∈ p.visibleNodes ∧ p.home? id = none := by
  rw [homeless, List.mem_filter, decide_eq_true_iff]

theorem showsCluster_iff {c : Cluster} :
    p.showsCluster c = true ↔ ∃ id ∈ c.members, id ∈ p.visibleNodes := by
  simp [showsCluster]

/-- The home of a node has it. -/
theorem mem_of_home? {id : NodeId} {c : Cluster} (h : p.home? id = some c) :
    c ∈ p.graph.clusters ∧ id ∈ c.members :=
  ⟨List.mem_of_find?_eq_some h, by simpa using List.find?_some h⟩

theorem home?_eq_none_iff {id : NodeId} :
    p.home? id = none ↔ ∀ c ∈ p.graph.clusters, id ∉ c.members := by
  rw [home?, List.find?_eq_none]
  simp

/-- A node of a cluster has its home there, if no earlier cluster has it. -/
theorem home?_eq_some_iff {before after : List Cluster} {c : Cluster}
    (hclusters : p.graph.clusters = before ++ c :: after) (hnew : c ∉ before) {id : NodeId}
    (hid : id ∈ c.members) : p.home? id = some c ↔ ∀ b ∈ before, id ∉ b.members := by
  have hcons : (c :: after).find? (id ∈ ·.members) = some c :=
    List.find?_cons_of_pos (decide_eq_true hid)
  rw [home?, hclusters, List.find?_append, hcons]
  cases hfind : before.find? (id ∈ ·.members) with
  | some b =>
      have hb := List.mem_of_find?_eq_some hfind
      have hmem : id ∈ b.members := by simpa using List.find?_some hfind
      rw [Option.some_or]
      constructor
      · intro h
        exact absurd (Option.some.inj h ▸ hb) hnew
      · intro h
        exact absurd hmem (h b hb)
  | none =>
      rw [Option.none_or]
      refine ⟨fun _ b hb => ?_, fun _ => rfl⟩
      simpa using List.find?_eq_none.mp hfind b hb

/-! ## Blocks -/

/-- The block of a cluster. -/
def block (p : Presentation) (o : DrawOptions) (c : Cluster) : Block :=
  ⟨blockName c.id, (p.caption c.id).text, (p.residents c).map (p.nodeEntry o)⟩

/-- Visible members are nodes of the graph, so looking them up succeeds. -/
theorem visibleMembers_eq (p : Presentation) (c : Cluster) :
    p.visibleMembers c = .ok (c.members.filter (· ∈ p.visibleNodes)) := by
  refine mapM_eq_ok.mpr (List.forall₂_same.mpr fun id hid => ?_)
  have hvisible := of_decide_eq_true (List.mem_filter.mp hid).2
  rw [Graph.findNode?_of_mem (mem_visibleNodes.mp hvisible).1]

/-- What is drawn in the block of a cluster are its residents. -/
theorem fresh_eq_residents (hg : p.graph.WellFormed) {before after : List Cluster} {c : Cluster}
    (hclusters : p.graph.clusters = before ++ c :: after) {drawn : List NodeId}
    (hdrawn : ∀ id, id ∈ drawn ↔ id ∈ p.visibleNodes ∧ ∃ b ∈ before, id ∈ b.members) :
    ((c.members.filter (· ∈ p.visibleNodes)).filter (· ∉ drawn)).eraseDups = p.residents c := by
  have hc : c ∈ p.graph.clusters := by
    rw [hclusters]
    exact List.mem_append_right _ List.mem_cons_self
  have hnew : c ∉ before := by
    have hnodup := hg.cluster_ids_nodup.of_map
    rw [hclusters] at hnodup
    exact fun hmem => (List.nodup_append.mp hnodup).2.2 c hmem c List.mem_cons_self rfl
  rw [eraseDups_of_nodup (((hg.members_nodup c hc).filter _).filter _), List.filter_filter,
    residents]
  refine List.filter_congr fun id hid => ?_
  rw [← Bool.decide_and, decide_eq_decide, home?_eq_some_iff hclusters hnew hid, hdrawn]
  constructor
  · rintro ⟨hno, hvisible⟩
    exact ⟨hvisible, fun b hb hmem => hno ⟨hvisible, b, hb, hmem⟩⟩
  · rintro ⟨hvisible, hno⟩
    exact ⟨fun ⟨_, b, hb, hmem⟩ => hno b hb hmem, hvisible⟩

/-- With the residents of a cluster drawn, what is visible in it is drawn. -/
theorem mem_drawn_append (hg : p.graph.WellFormed) {before after : List Cluster} {c : Cluster}
    (hclusters : p.graph.clusters = before ++ c :: after) {drawn : List NodeId}
    (hdrawn : ∀ id, id ∈ drawn ↔ id ∈ p.visibleNodes ∧ ∃ b ∈ before, id ∈ b.members) (id : NodeId) :
    id ∈ drawn ++ p.residents c ↔
      id ∈ p.visibleNodes ∧ ∃ b ∈ before ++ [c], id ∈ b.members := by
  have hresident : id ∈ p.residents c ↔ (id ∈ c.members ∧ id ∈ p.visibleNodes) ∧ id ∉ drawn := by
    rw [← fresh_eq_residents hg hclusters hdrawn, List.mem_eraseDups, List.mem_filter,
      List.mem_filter, decide_eq_true_iff, decide_eq_true_iff]
  rw [List.mem_append, hresident]
  constructor
  · rintro (h | ⟨⟨hid, hvisible⟩, -⟩)
    · obtain ⟨hvisible, b, hb, hid⟩ := (hdrawn id).mp h
      exact ⟨hvisible, b, List.mem_append_left _ hb, hid⟩
    · exact ⟨hvisible, c, List.mem_append_right _ List.mem_cons_self, hid⟩
  · rintro ⟨hvisible, b, hb, hid⟩
    by_cases hin : id ∈ drawn
    · exact Or.inl hin
    · rcases List.mem_append.mp hb with hb | hb
      · exact absurd ((hdrawn id).mpr ⟨hvisible, b, hb, hid⟩) hin
      · rw [List.mem_singleton.mp hb] at hid
        exact Or.inr ⟨⟨hid, hvisible⟩, hin⟩

/-- The clusters that are left, each with a visible member, get a block with
    their residents, when `drawn` holds what is visible in the clusters before
    them. -/
theorem blocks_eq (hg : p.graph.WellFormed) (o : DrawOptions) {before after : List Cluster}
    (hclusters : p.graph.clusters = before ++ after) {drawn : List NodeId}
    (hdrawn : ∀ id, id ∈ drawn ↔ id ∈ p.visibleNodes ∧ ∃ b ∈ before, id ∈ b.members) :
    ∃ drawn', p.blocks o after drawn = .ok ((after.filter p.showsCluster).map (p.block o), drawn') ∧
      ∀ id, id ∈ drawn' ↔ id ∈ p.visibleNodes ∧ ∃ c ∈ p.graph.clusters, id ∈ c.members := by
  induction after generalizing before drawn with
  | nil =>
      rw [List.append_nil] at hclusters
      exact ⟨drawn, rfl, hclusters ▸ hdrawn⟩
  | cons c after ih =>
      have hsplit : p.graph.clusters = (before ++ [c]) ++ after := by
        rw [hclusters, List.append_assoc, List.singleton_append]
      rw [blocks, visibleMembers_eq]
      by_cases hshown : p.showsCluster c = true
      · obtain ⟨id, hid, hvisible⟩ := showsCluster_iff.mp hshown
        have hsome : (c.members.filter (· ∈ p.visibleNodes)).isEmpty = false := by
          rw [List.isEmpty_eq_false_iff_exists_mem]
          exact ⟨id, List.mem_filter.mpr ⟨hid, decide_eq_true hvisible⟩⟩
        have hfresh := fresh_eq_residents hg hclusters hdrawn
        obtain ⟨drawn', hrest, hmem⟩ := ih hsplit (mem_drawn_append hg hclusters hdrawn)
        refine ⟨drawn', ?_, hmem⟩
        rw [List.filter_cons_of_pos hshown]
        refine bind_eq_ok.mpr ⟨_, rfl, ?_⟩
        rw [hsome, hfresh]
        exact bind_eq_ok.mpr ⟨_, hrest, rfl⟩
      · -- no block, and nothing new that is drawn
        have hnone : c.members.filter (· ∈ p.visibleNodes) = [] := by
          rw [List.filter_eq_nil_iff]
          intro id hid hvisible
          exact hshown (showsCluster_iff.mpr ⟨id, hid, of_decide_eq_true hvisible⟩)
        have hdrawn' : ∀ id, id ∈ drawn ↔
            id ∈ p.visibleNodes ∧ ∃ b ∈ before ++ [c], id ∈ b.members := by
          intro id
          rw [hdrawn]
          refine and_congr_right fun hvisible => ?_
          constructor
          · rintro ⟨b, hb, hid⟩
            exact ⟨b, List.mem_append_left _ hb, hid⟩
          · rintro ⟨b, hb, hid⟩
            rcases List.mem_append.mp hb with hb | hb
            · exact ⟨b, hb, hid⟩
            · rw [List.mem_singleton.mp hb] at hid
              exact absurd (showsCluster_iff.mpr ⟨id, hid, hvisible⟩) hshown
        obtain ⟨drawn', hrest, hmem⟩ := ih hsplit hdrawn'
        refine ⟨drawn', ?_, hmem⟩
        rw [hnone, List.filter_cons_of_neg hshown]
        exact hrest

/-! ## The drawing -/

/-- A drawing in terms of homes. -/
theorem draw_eq (hg : p.graph.WellFormed) (o : DrawOptions) :
    p.draw o = .ok {
      hints := o.fastLimit.any (· < p.visibleNodes.length)
      blocks := p.shownClusters.map (p.block o)
      nodes := p.homeless.map (p.nodeEntry o)
      edges := p.visibleEdges.map (p.edgeEntry o) } := by
  have hstart : ∀ id, id ∈ ([] : List NodeId) ↔
      id ∈ p.visibleNodes ∧ ∃ b ∈ ([] : List Cluster), id ∈ b.members := by
    simp
  obtain ⟨drawn, hblocks, hdrawn⟩ := blocks_eq hg o (List.nil_append _).symm hstart
  have hrest : (p.visibleNodes.filter (· ∉ drawn)).eraseDups = p.homeless := by
    rw [eraseDups_of_nodup ((nodup_visibleNodes hg).filter _), homeless]
    refine List.filter_congr fun id hvisible => ?_
    rw [decide_eq_decide, home?_eq_none_iff, hdrawn]
    constructor
    · intro hno c hc hid
      exact hno ⟨hvisible, c, hc, hid⟩
    · rintro hno ⟨-, c, hc, hid⟩
      exact hno c hc hid
  refine bind_eq_ok.mpr ⟨_, hblocks, ?_⟩
  dsimp only
  rw [hrest]
  rfl

theorem map_id_nodeEntry (o : DrawOptions) (ids : List NodeId) :
    (ids.map (p.nodeEntry o)).map (·.id) = ids := by
  rw [List.map_map]
  exact List.map_id ids

/-- The entries of a drawing are those of the drawn nodes. -/
theorem draw_entries (hg : p.graph.WellFormed) (o : DrawOptions) :
    ∃ d, p.draw o = .ok d ∧
      (d.blocks.flatMap (·.nodes) ++ d.nodes).map (·.id) = p.drawnNodes := by
  refine ⟨_, draw_eq hg o, ?_⟩
  have hblock : ∀ c, (p.block o c).nodes.map (·.id) = p.residents c :=
    fun c => map_id_nodeEntry o (p.residents c)
  rw [List.map_append, map_id_nodeEntry, List.map_flatMap, List.flatMap_map]
  simp only [hblock]
  rfl

/-! ## Every visible node once -/

/-- What is drawn is what is visible. -/
theorem mem_drawnNodes (id : NodeId) : id ∈ p.drawnNodes ↔ id ∈ p.visibleNodes := by
  rw [drawnNodes, List.mem_append, List.mem_flatMap, mem_homeless]
  constructor
  · rintro (⟨c, -, hid⟩ | ⟨hvisible, -⟩)
    · exact (mem_residents.mp hid).2.1
    · exact hvisible
  · intro hvisible
    cases hhome : p.home? id with
    | none => exact Or.inr ⟨hvisible, rfl⟩
    | some c =>
        obtain ⟨hc, hid⟩ := mem_of_home? hhome
        have hshown := showsCluster_iff.mpr ⟨id, hid, hvisible⟩
        exact Or.inl ⟨c, List.mem_filter.mpr ⟨hc, hshown⟩, mem_residents.mpr ⟨hid, hvisible, hhome⟩⟩

/-- No node is drawn twice: it has one home, or none. -/
theorem nodup_drawnNodes (hg : p.graph.WellFormed) : p.drawnNodes.Nodup := by
  rw [drawnNodes, List.nodup_append, List.nodup_flatMap]
  refine ⟨⟨?_, ?_⟩, (nodup_visibleNodes hg).filter _, ?_⟩
  · intro c hc
    exact (hg.members_nodup c (List.mem_of_mem_filter hc)).filter _
  · refine (hg.cluster_ids_nodup.of_map.filter _).imp ?_
    intro c c' hne id hid hid'
    have hhome := (mem_residents.mp hid).2.2
    exact hne (Option.some.inj (hhome.symm.trans (mem_residents.mp hid').2.2))
  · rintro id hid x hx rfl
    obtain ⟨c, -, hid⟩ := List.mem_flatMap.mp hid
    have hhome := (mem_residents.mp hid).2.2
    exact nomatch hhome.symm.trans (mem_homeless.mp hx).2

theorem drawnNodes_perm (hg : p.graph.WellFormed) : p.drawnNodes.Perm p.visibleNodes :=
  (List.perm_ext_iff_of_nodup (nodup_drawnNodes hg) (nodup_visibleNodes hg)).mpr mem_drawnNodes

theorem length_drawnNodes (hg : p.graph.WellFormed) :
    p.drawnNodes.length = p.visibleNodes.length :=
  (drawnNodes_perm hg).length_eq

theorem count_drawnNodes (hg : p.graph.WellFormed) (id : NodeId) :
    p.drawnNodes.count id = if id ∈ p.graph.nodes ∧ p.picksNode id = true then 1 else 0 := by
  rw [(nodup_drawnNodes hg).count]
  simp only [mem_drawnNodes, mem_visibleNodes]

/-- The entries of a drawing are those of the visible nodes, in some order. -/
theorem draw_entries_perm (hg : p.graph.WellFormed) {o : DrawOptions} {drawing : Drawing}
    (h : p.draw o = .ok drawing) :
    (drawing.blocks.flatMap (·.nodes) ++ drawing.nodes).Perm
      (p.visibleNodes.map (p.nodeEntry o)) := by
  obtain rfl := Except.ok.inj (h.symm.trans (draw_eq hg o))
  have hentries : (p.shownClusters.map (p.block o)).flatMap (·.nodes) ++
      p.homeless.map (p.nodeEntry o) = p.drawnNodes.map (p.nodeEntry o) := by
    rw [drawnNodes, List.map_append, List.flatMap_map, List.map_flatMap]
    rfl
  rw [hentries]
  exact (drawnNodes_perm hg).map _

/-! ## The text -/

/-- The lines of the block of a cluster. -/
def blockLines (p : Presentation) (o : DrawOptions) (c : Cluster) : List String :=
  ["subgraph " ++ Dot.quoted (blockName c.id) ++ " \x7b",
    indent ("label = " ++ Dot.quoted (p.caption c.id).text)] ++
    (p.residents c).map (fun id => indent (p.nodeEntry o id).line) ++ ["\x7d"]

/-- The lines of the text of a presentation. -/
def outline (p : Presentation) (o : DrawOptions) : List String :=
  ["digraph \x7b"] ++
    (["ratio=\"compress\"", "rankdir=BT", "ranksep=\"2.0 equally\""] ++
      (if o.fastLimit.any (· < p.visibleNodes.length) then
        ["nslimit=0.2", "nslimit1=0.2", "splines=line", "mclimit=0.5"] else []) ++
      p.shownClusters.flatMap (p.blockLines o) ++
      p.homeless.map (fun id => (p.nodeEntry o id).line) ++
      p.visibleEdges.map (fun e => (p.edgeEntry o e).line)).map indent ++
    ["\x7d"]

theorem lines_block (o : DrawOptions) (c : Cluster) : (p.block o c).lines = p.blockLines o c := by
  rw [Block.lines, block, blockLines, List.map_map]
  rfl

/-- The text is made of the lines of the outline. -/
theorem render_eq (hg : p.graph.WellFormed) (o : DrawOptions) :
    p.render o = .ok (String.join ((p.outline o).map (· ++ "\n")), p.visibleNodes.length) := by
  refine bind_eq_ok.mpr ⟨_, draw_eq hg o, ?_⟩
  have hblocks : (p.shownClusters.map (p.block o)).flatMap Block.lines =
      p.shownClusters.flatMap (p.blockLines o) := by
    rw [List.flatMap_map]
    exact congrArg (p.shownClusters.flatMap ·) (funext (lines_block o))
  show Except.ok (Drawing.text _, _) = _
  rw [Drawing.text, Drawing.lines, Drawing.body, hblocks, List.map_map, List.map_map]
  rfl

/-- **What the text of a presentation is.**  Rendering succeeds for whatever
    can be made, and gives the lines of the outline and the number of visible
    nodes.  The drawing has an entry for every visible node, once, and for no
    hidden one; it stands in the block of the first cluster that has the node,
    or outside of all blocks if none does. -/
theorem render_structure (h : p.Reachable) (o : DrawOptions) :
    p.render o = .ok (String.join ((p.outline o).map (· ++ "\n")), p.visibleNodes.length) ∧
      (∃ d, p.draw o = .ok d ∧
        (d.blocks.flatMap (·.nodes) ++ d.nodes).map (·.id) = p.drawnNodes) ∧
      (∀ id, p.drawnNodes.count id =
        if id ∈ p.graph.nodes ∧ p.picksNode id = true then 1 else 0) ∧
      p.drawnNodes.length = p.visibleNodes.length ∧
      (∀ id c, c ∈ p.shownClusters ∧ id ∈ p.residents c ↔
        id ∈ p.visibleNodes ∧ p.home? id = some c) ∧
      (∀ id, id ∈ p.homeless ↔ id ∈ p.visibleNodes ∧ p.home? id = none) := by
  have hg := h.built.wellFormed
  refine ⟨render_eq hg o, draw_entries hg o, count_drawnNodes hg, length_drawnNodes hg, ?_,
    fun id => mem_homeless⟩
  intro id c
  constructor
  · rintro ⟨-, hid⟩
    exact (mem_residents.mp hid).2
  · rintro ⟨hvisible, hhome⟩
    obtain ⟨hc, hid⟩ := mem_of_home? hhome
    have hshown := showsCluster_iff.mpr ⟨id, hid, hvisible⟩
    exact ⟨List.mem_filter.mpr ⟨hc, hshown⟩, mem_residents.mpr ⟨hid, hvisible, hhome⟩⟩

/-- Clusters that overlap, one of them without nodes left for it and one with
    hidden members only. -/
def overlapping : Presentation where
  graph := {
    nodes := ["a", "b", "c", "d", "e"]
    edges := [⟨"a", "e"⟩]
    clusters := [⟨"K", ["b", "a"]⟩, ⟨"L", ["c", "d", "b"]⟩, ⟨"M", ["a"]⟩, ⟨"N", ["d"]⟩] }
  nodeMasks := [.hidden "gone" ["d"]]

theorem reachable_overlapping : overlapping.Reachable := by
  have hnodes := ((((Graph.Built.empty.node "a").node "b").node "c").node "d").node "e"
  have hclusters := (((((hnodes.edge "a" "e").cluster "K" ["b", "a", "b"] rfl).cluster
    "L" ["c", "d", "b"] rfl).cluster "M" ["a"] rfl).cluster "N" ["d"] rfl)
  exact (Reachable.ofGraph hclusters).nodeMasks _

theorem render_overlapping :
    overlapping.Reachable ∧
      overlapping.shownClusters.map (fun c => (c.id, overlapping.residents c)) =
        [("K", ["b", "a"]), ("L", ["c"]), ("M", [])] ∧
      overlapping.homeless = ["e"] ∧
      overlapping.render {} =
        .ok (String.join ((overlapping.outline {}).map (· ++ "\n")), 4) := by
  refine ⟨reachable_overlapping, by decide +kernel, by decide +kernel, ?_⟩
  have hcount : overlapping.visibleNodes.length = 4 := by decide +kernel
  rw [← hcount]
  exact (render_structure reachable_overlapping {}).1

end Presentation

end Lineage
