import Lineage.Proofs.Endpoints
import Lineage.Proofs.Showing

/-! # Clusters are namespaces

    A request may ask for clusters, and what it gets is a partition: decorating
    puts every type with a namespace into the cluster of that name, and nothing
    anywhere else (`Collected.clusteredBySpace`).  So a type has one home at
    most, and which one can be read off its namespace, whatever the order of the
    clusters is (`home?_eq`).

    Masks take types out of a drawing and move none.  Under any masks the blocks
    of a drawing are the namespaces of which some type is left, and what has no
    namespace stands outside (`arrangedBySpace_of_draw`).

    A block is labelled with the caption of its cluster, and captions are kept
    by owner for types and clusters alike: where a namespace is the id of a
    type, its label is the name of that type.

    The headline is `clusters_are_namespaces`. -/

namespace Lineage

/-! ## Documents -/

namespace Document

/-- The clusters of a document are the namespaces of its types, and each holds
    the types of its namespace in their order: so a type with a namespace is in
    one cluster, and one without is in none. -/
structure ClusteredBySpace (d : Document) : Prop where
  clusters : ∀ c, c ∈ d.clusters ↔ c ≠ "" ∧ ∃ n ∈ d.nodes, n.space = c
  members : ∀ c ∈ d.clusters, d.members c = idsIn d.nodes c
  one : ∀ n ∈ d.nodes, n.space ≠ "" → ∀ c, n.id ∈ d.members c ↔ c = n.space
  none : ∀ n ∈ d.nodes, n.space = "" → ∀ c, n.id ∉ d.members c
  types : ∀ c, ∀ id ∈ d.members c, id ∈ d.ids

namespace Collected

variable {d : Document}

theorem clusteredBySpace (h : d.Collected) : (d.decorate true).ClusteredBySpace where
  clusters := by
    intro c
    rw [h.mem_clusters_decorate, nodes_decorate, eq_self, true_and]
  members := by
    intro c hc
    rw [h.mem_clusters_decorate, ← idsIn_ne_nil] at hc
    rw [Document.members, Std.ExtTreeMap.getD_eq_getD_getElem?, h.clusters_decorate, if_pos hc,
      nodes_decorate, Option.getD_some]
  one := by
    intro n hn hspace c
    rw [nodes_decorate] at hn
    rw [h.mem_members_decorate, mem_idsIn_iff h.ids_nodup hn]
    constructor
    · rintro ⟨-, -, hc⟩
      exact hc.symm
    · rintro rfl
      exact ⟨rfl, hspace, rfl⟩
  none := by
    intro n hn hspace c hc
    rw [nodes_decorate] at hn
    rw [h.mem_members_decorate, mem_idsIn_iff h.ids_nodup hn] at hc
    exact hc.2.1 (hc.2.2.symm.trans hspace)
  types := (h.closed true).members

end Collected

end Document

/-! ## Drawings -/

/-- The block of a namespace: it is named for it, holds the types of the
    namespace that the masks show, in order, and is labelled with the namespace
    unless that is the id of a type.  The name alone does not tell the namespace,
    since `X` and `cluster_X` have blocks of one name. -/
structure Block.OfSpace (b : Block) (ns : List Descriptor) (s : MaskStack) (space : String) :
    Prop where
  name : b.id = blockName space
  nodes : b.nodes.map (·.id) = (Document.idsIn ns space).filter s.isVisible
  label : (∀ n ∈ ns, n.id ≠ space) → b.label = space
  label_of_type : ∀ n ∈ ns, n.id = space → b.label = n.name

/-- A drawing of types under masks, arranged by namespace: a block for each of
    which some type is visible, and the visible types without one outside. -/
structure Drawing.ArrangedBySpace (g : Drawing) (ns : List Descriptor) (s : MaskStack) : Prop where
  blocks : ∃ spaces : List String, spaces.Nodup ∧
    (∀ c, c ∈ spaces ↔ c ≠ "" ∧ ∃ n ∈ ns, n.space = c ∧ s.isVisible n.id = true) ∧
    List.Forall₂ (fun c b => b.OfSpace ns s c) spaces g.blocks
  nonempty : ∀ b ∈ g.blocks, b.nodes ≠ []
  nodes : g.nodes.map (·.id) = (Document.idsIn ns "").filter s.isVisible
  inside : ∀ n ∈ ns, s.isVisible n.id = true → n.space ≠ "" →
    (∃ b ∈ g.blocks, n.id ∈ b.nodes.map (·.id)) ∧
      (∀ b ∈ g.blocks, n.id ∈ b.nodes.map (·.id) → b.OfSpace ns s n.space) ∧
      n.id ∉ g.nodes.map (·.id)
  outside : ∀ n ∈ ns, s.isVisible n.id = true → n.space = "" →
    n.id ∈ g.nodes.map (·.id) ∧ ∀ b ∈ g.blocks, n.id ∉ b.nodes.map (·.id)
  /-- Every visible type has one line, and nothing else has any. -/
  once : g.ids.Perm ((ns.map (·.id)).filter s.isVisible)

theorem Block.OfSpace.mem_iff {b : Block} {ns : List Descriptor} {s : MaskStack} {space : String}
    (h : b.OfSpace ns s space) (hids : (ns.map (·.id)).Nodup) {n : Descriptor} (hn : n ∈ ns) :
    n.id ∈ b.nodes.map (·.id) ↔ n.space = space ∧ s.isVisible n.id = true := by
  rw [h.nodes, List.mem_filter, Document.mem_idsIn_iff hids hn]

/-- With a block for each namespace that is left, every type has one place. -/
theorem Drawing.ArrangedBySpace.of_blocks {g : Drawing} {ns : List Descriptor} {s : MaskStack}
    (hids : (ns.map (·.id)).Nodup) {spaces : List String} (hnodup : spaces.Nodup)
    (hspaces : ∀ c, c ∈ spaces ↔ c ≠ "" ∧ ∃ n ∈ ns, n.space = c ∧ s.isVisible n.id = true)
    (hblocks : List.Forall₂ (fun c b => b.OfSpace ns s c) spaces g.blocks)
    (hnodes : g.nodes.map (·.id) = (Document.idsIn ns "").filter s.isVisible)
    (honce : g.ids.Perm ((ns.map (·.id)).filter s.isVisible)) : g.ArrangedBySpace ns s := by
  have hspace : ∀ b ∈ g.blocks, ∃ c ∈ spaces, b.OfSpace ns s c :=
    fun b hb => exists_of_forall₂ (List.Forall₂.flip hblocks) hb
  have hloose : ∀ n ∈ ns, n.id ∈ g.nodes.map (·.id) ↔ n.space = "" ∧ s.isVisible n.id = true := by
    intro n hn
    rw [hnodes, List.mem_filter, Document.mem_idsIn_iff hids hn]
  refine ⟨⟨spaces, hnodup, hspaces, hblocks⟩, ?_, hnodes, ?_, ?_, honce⟩
  · intro b hb hnil
    obtain ⟨c, hc, hb⟩ := hspace b hb
    obtain ⟨-, n, hn, hnc, hvisible⟩ := (hspaces c).mp hc
    have hmem := (hb.mem_iff hids hn).mpr ⟨hnc, hvisible⟩
    rw [hnil] at hmem
    exact nomatch hmem
  · intro n hn hvisible hne
    refine ⟨?_, ?_, fun hid => hne ((hloose n hn).mp hid).1⟩
    · have hc := (hspaces n.space).mpr ⟨hne, n, hn, rfl, hvisible⟩
      obtain ⟨b, hmem, hb⟩ := exists_of_forall₂ hblocks hc
      exact ⟨b, hmem, (hb.mem_iff hids hn).mpr ⟨rfl, hvisible⟩⟩
    · intro b hmem hid
      obtain ⟨c, -, hb⟩ := hspace b hmem
      rw [((hb.mem_iff hids hn).mp hid).1]
      exact hb
  · intro n hn hvisible hempty
    refine ⟨(hloose n hn).mpr ⟨hempty, hvisible⟩, fun b hmem hid => ?_⟩
    obtain ⟨c, hc, hb⟩ := hspace b hmem
    exact ((hspaces c).mp hc).1 (((hb.mem_iff hids hn).mp hid).1.symm.trans hempty)

namespace Presentation

variable {d : Document} {p : Presentation} {s t : MaskStack} {o : DrawOptions}

theorem Mirrors.visibleNodes_masked (h : p.Mirrors d) (s t : MaskStack) :
    (p.masked s t).visibleNodes = d.ids.filter s.isVisible := by
  show p.graph.nodes.filter s.isVisible = _
  rw [h.nodes]
  rfl

/-- A cluster is captioned like a type of that id, if there is one. -/
theorem Mirrors.caption_cluster (h : p.Mirrors d)
    (hcaptions : ∀ owner, d.caption? owner = (d.node? owner).map Document.nameOf)
    (c : ClusterId) : (p.caption c).text = ((d.node? c).map (·.name)).getD c := by
  rw [h.caption, hcaptions]
  cases d.node? c with
  | none => rfl
  | some n => rfl

section Arranged

variable (h : p.Mirrors d) (hd : d.ClusteredBySpace) (hids : d.ids.Nodup)
include h hd

theorem mem_graph_clusters {c : Cluster} : c ∈ p.graph.clusters ↔
    (c.id ≠ "" ∧ ∃ n ∈ d.nodes, n.space = c.id) ∧ c.members = Document.idsIn d.nodes c.id := by
  rw [h.clusters, List.mem_map, ← hd.clusters]
  constructor
  · rintro ⟨x, hx, rfl⟩
    have hc : x.1 ∈ d.clusters :=
      mem_table_iff.mpr ⟨_, Std.ExtTreeMap.mem_toList_iff_getElem?_eq_some.mp hx⟩
    exact ⟨hc, (Document.members_of_mem hx).symm.trans (hd.members x.1 hc)⟩
  · rintro ⟨hc, hmembers⟩
    obtain ⟨ms, hms⟩ := mem_table_iff.mp hc
    have hx := Std.ExtTreeMap.mem_toList_iff_getElem?_eq_some.mpr hms
    have hsame : ms = c.members :=
      ((Document.members_of_mem hx).symm.trans (hd.members c.id hc)).trans hmembers.symm
    exact ⟨_, hx, by rw [hsame]⟩

/-- A cluster gets a block when some type of its namespace is visible. -/
theorem mem_shownClusters_masked {c : Cluster} : c ∈ (p.masked s t).shownClusters ↔
    c ∈ p.graph.clusters ∧ ∃ n ∈ d.nodes, n.space = c.id ∧ s.isVisible n.id = true := by
  rw [shownClusters, List.mem_filter, showsCluster_iff]
  refine and_congr_right fun hc => ?_
  have hvisible : ∀ n ∈ d.nodes, n.id ∈ (p.masked s t).visibleNodes ↔ s.isVisible n.id = true := by
    intro n hn
    rw [h.visibleNodes_masked, List.mem_filter]
    exact and_iff_right (List.mem_map_of_mem hn)
  rw [((mem_graph_clusters h hd).mp hc).2]
  constructor
  · rintro ⟨id, hid, hshown⟩
    obtain ⟨n, hn, hspace, rfl⟩ := Document.mem_idsIn.mp hid
    exact ⟨n, hn, hspace, (hvisible n hn).mp hshown⟩
  · rintro ⟨n, hn, hspace, hshown⟩
    exact ⟨n.id, Document.mem_idsIn.mpr ⟨n, hn, hspace, rfl⟩, (hvisible n hn).mpr hshown⟩

theorem mem_shownSpaces (c : ClusterId) :
    c ∈ (p.masked s t).shownClusters.map (·.id) ↔
      c ≠ "" ∧ ∃ n ∈ d.nodes, n.space = c ∧ s.isVisible n.id = true := by
  rw [List.mem_map]
  constructor
  · rintro ⟨c, hc, rfl⟩
    obtain ⟨hc, hsome⟩ := (mem_shownClusters_masked h hd).mp hc
    exact ⟨((mem_graph_clusters h hd).mp hc).1.1, hsome⟩
  · rintro ⟨hspace, n, hn, rfl, hvisible⟩
    have hc : (⟨n.space, Document.idsIn d.nodes n.space⟩ : Cluster) ∈ p.graph.clusters :=
      (mem_graph_clusters h hd).mpr ⟨⟨hspace, n, hn, rfl⟩, rfl⟩
    exact ⟨_, (mem_shownClusters_masked h hd).mpr ⟨hc, n, hn, rfl, hvisible⟩, rfl⟩

include hids

/-- The home of a type is the cluster of its namespace. -/
theorem home?_eq {n : Descriptor} (hn : n ∈ d.nodes) : p.home? n.id =
    if n.space = "" then none else some ⟨n.space, Document.idsIn d.nodes n.space⟩ := by
  have hhome : ∀ c ∈ p.graph.clusters, n.id ∈ c.members → n.space = c.id := by
    intro c hc hid
    rw [((mem_graph_clusters h hd).mp hc).2] at hid
    exact (Document.mem_idsIn_iff hids hn).mp hid
  split
  · next hspace =>
      refine home?_eq_none_iff.mpr fun c hc hid => ?_
      exact ((mem_graph_clusters h hd).mp hc).1.1 ((hhome c hc hid).symm.trans hspace)
  · next hspace =>
      cases hfind : p.home? n.id with
      | none =>
          have hc : (⟨n.space, Document.idsIn d.nodes n.space⟩ : Cluster) ∈ p.graph.clusters :=
            (mem_graph_clusters h hd).mpr ⟨⟨hspace, n, hn, rfl⟩, rfl⟩
          exact absurd ((Document.mem_idsIn_iff hids hn).mpr rfl) (home?_eq_none_iff.mp hfind _ hc)
      | some c =>
          obtain ⟨hc, hid⟩ := mem_of_home? hfind
          have hmembers := ((mem_graph_clusters h hd).mp hc).2
          rw [hhome c hc hid, ← hmembers]

/-- Under masks, a cluster is drawn around its visible members. -/
theorem residents_masked {c : Cluster} (hc : c ∈ p.graph.clusters) :
    (p.masked s t).residents c = (Document.idsIn d.nodes c.id).filter s.isVisible := by
  obtain ⟨⟨hspace, -⟩, hmembers⟩ := (mem_graph_clusters h hd).mp hc
  rw [residents, hmembers]
  refine List.filter_congr fun id hid => ?_
  obtain ⟨n, hn, hnc, rfl⟩ := Document.mem_idsIn.mp hid
  have hhome : (p.masked s t).home? n.id = some c := by
    show p.home? n.id = some c
    rw [home?_eq h hd hids hn, if_neg (hnc ▸ hspace), hnc, ← hmembers]
  rw [hhome, h.visibleNodes_masked]
  have hid : n.id ∈ d.ids := List.mem_map_of_mem hn
  simp [hid]

/-- What is drawn outside of all blocks has no namespace. -/
theorem homeless_masked :
    (p.masked s t).homeless = (Document.idsIn d.nodes "").filter s.isVisible := by
  have hhome : ∀ n ∈ d.nodes, decide ((p.masked s t).home? n.id = none) = decide (n.space = "") := by
    intro n hn
    show decide (p.home? n.id = none) = _
    rw [home?_eq h hd hids hn]
    split
    · next hspace => simp [hspace]
    · next hspace => simp [hspace]
  have hloose : d.ids.filter ((p.masked s t).home? · = none) = Document.idsIn d.nodes "" := by
    rw [Document.ids, List.filter_map, Document.idsIn]
    exact congrArg _ (List.filter_congr hhome)
  rw [homeless, h.visibleNodes_masked, List.filter_comm, hloose]

/-- The block of a cluster is that of its namespace. -/
theorem ofSpace_block
    (hcaptions : ∀ owner, d.caption? owner = (d.node? owner).map Document.nameOf)
    {c : Cluster} (hc : c ∈ p.graph.clusters) :
    ((p.masked s t).block o c).OfSpace d.nodes s c.id where
  name := rfl
  nodes := by
    rw [← residents_masked h hd hids hc]
    exact map_id_nodeEntry o _
  label := by
    intro hno
    have hnone : d.node? c.id = none := List.find?_eq_none.mpr fun n hn => by simpa using hno n hn
    refine (h.caption_cluster hcaptions c.id).trans ?_
    rw [hnone]
    rfl
  label_of_type := by
    intro n hn hid
    have hsome : d.node? c.id = some n := by
      rw [← hid]
      exact find?_of_nodup_map hids hn
    refine (h.caption_cluster hcaptions c.id).trans ?_
    rw [hsome]
    rfl

/-- Under any masks, what is drawn is arranged by namespace. -/
theorem arrangedBySpace_of_draw
    (hcaptions : ∀ owner, d.caption? owner = (d.node? owner).map Document.nameOf)
    (hg : p.graph.WellFormed) {g : Drawing} (hdraw : (p.masked s t).draw o = .ok g) :
    g.ArrangedBySpace d.nodes s := by
  have hg' : (p.masked s t).graph.WellFormed := hg
  have honce := (draw_entries_perm hg' hdraw).map (·.id)
  rw [map_id_nodeEntry, h.visibleNodes_masked] at honce
  obtain rfl := Except.ok.inj (hdraw.symm.trans (draw_eq hg' o))
  have hblocks : List.Forall₂ (fun c b => b.OfSpace d.nodes s c)
      ((p.masked s t).shownClusters.map (·.id))
      ((p.masked s t).shownClusters.map ((p.masked s t).block o)) := by
    rw [List.forall₂_map_left_iff, List.forall₂_map_right_iff, List.forall₂_same]
    intro c hc
    exact ofSpace_block h hd hids hcaptions (List.mem_of_mem_filter hc)
  refine .of_blocks hids ?_ (mem_shownSpaces h hd) hblocks ?_ honce
  · exact hg.cluster_ids_nodup.sublist (List.filter_sublist.map _)
  · rw [map_id_nodeEntry, homeless_masked h hd hids]

end Arranged

/-- Under any masks and however it is drawn, the text of the presentation is
    that of a drawing with some property, and can be read back as it. -/
def Draws (p : Presentation) (property : MaskStack → Drawing → Prop) : Prop :=
  ∀ (s t : MaskStack) (o : DrawOptions), ∃ g : Drawing,
    (p.masked s t).render o = .ok (g.text, (p.masked s t).visibleNodes.length) ∧
      Drawing.read g.text = some g ∧ property s g

theorem Shows.draws (hp : p.Shows d) {property : MaskStack → Drawing → Prop}
    (h : ∀ s t o g, (p.masked s t).draw o = .ok g → property s g) : p.Draws property := by
  intro s t o
  obtain ⟨g, hdraw, hrender, hread, -⟩ := read_render (o := o) (Or.inr (hp.colorsFit_masked s t))
  exact ⟨g, hrender, hread, h s t o g hdraw⟩

/-- Without clusters there are no blocks. -/
theorem blocks_of_draw (hg : p.graph.WellFormed) (hnone : p.graph.clusters = []) {g : Drawing}
    (hdraw : (p.masked s t).draw o = .ok g) : g.blocks = [] := by
  have hg' : (p.masked s t).graph.WellFormed := hg
  obtain rfl := Except.ok.inj (hdraw.symm.trans (draw_eq hg' o))
  show (p.graph.clusters.filter _).map _ = []
  rw [hnone]
  rfl

end Presentation

/-! ## Requests -/

namespace Inspection

/-- How a request is answered: with the document and the presentation that it
    is about, under some masks.  If it asks for clusters, these are namespaces,
    in the document and in whatever is drawn of it, and if not, there are
    none. -/
structure Groups (i : Inspection) (r : RenderRequest) (d : Document) (p : Presentation) :
    Prop where
  requested : (i.requested r).verdict = .ok d
  presented : Presentation.ofDocument d = .ok p
  answered : ∃ s t resp, (i.presentation r).verdict = .ok (p.masked s t) ∧
    (i.render r).verdict = .ok resp ∧
    (p.masked s t).render r.drawOptions = .ok (resp.dot, resp.visibleNodes)
  clustered : r.clusterByNamespace = true →
    d.ClusteredBySpace ∧ p.Draws fun s g => g.ArrangedBySpace d.nodes s
  unclustered : r.clusterByNamespace = false →
    d.clusters = ∅ ∧ p.Draws fun _ g => g.blocks = []

/-- **Clusters are namespaces.**  With clusters asked for, the clusters of a
    requested document are the namespaces of its types, each with the types of
    that namespace in the order of the document.  Whatever is masked of it,
    each visible type has its line in the block of its namespace, or outside of
    all blocks if it has none; no block is empty, and a block is labelled with
    its namespace unless that is the id of a type of the document.  With
    clusters not asked for there are none. -/
theorem clusters_are_namespaces (o : Options) (ms : List ModuleFacts) (r : RenderRequest)
    (hr : ∀ id, r.root? = some id → id ∈ (ofCatalog o (.ofModules ms)).value.graph.nodes) :
    ∃ d p, (ofCatalog o (.ofModules ms)).value.Groups r d p := by
  have hagrees := agrees_ofCatalog o (.ofModules ms)
  generalize (ofCatalog o (.ofModules ms)).value = i at hr hagrees ⊢
  obtain ⟨d, hd, hrequested⟩ := requested_of_known hagrees hr
  obtain ⟨p, hp, hshows⟩ := Presentation.exists_shows hd r.clusterByNamespace
  refine ⟨_, p, hrequested, hp, ?_, ?_, ?_⟩
  · have hpresented := verdict_presentation hrequested hp
    rw [Presentation.sweep_eq_masked] at hpresented
    obtain ⟨g, hdraw, -⟩ := Presentation.read_render (o := r.drawOptions)
      (Or.inr (hshows.colorsFit_masked (r.sweep p).nodeMasks p.edgeMasks))
    exact ⟨_, _, _, hpresented, verdict_render hpresented hdraw, Presentation.render_of_draw hdraw⟩
  · intro hflag
    rw [hflag] at hp ⊢
    have hmirrors := Presentation.mirrors_ofDocument (hd.tidy.decorate true) (hd.closed true) hp
    have hids : (d.decorate true).ids.Nodup := (hd.tidy.decorate true).ids
    have hcaptions : ∀ owner, (d.decorate true).caption? owner =
        ((d.decorate true).node? owner).map Document.nameOf := by
      intro owner
      rw [hd.caption?_decorate, Document.node?, Document.nodes_decorate]
    refine ⟨hd.clusteredBySpace, hshows.draws fun s t o g hdraw => ?_⟩
    exact Presentation.arrangedBySpace_of_draw hmirrors hd.clusteredBySpace hids hcaptions
      hshows.built.wellFormed hdraw
  · intro hflag
    rw [hflag] at hp ⊢
    have hmirrors := Presentation.mirrors_ofDocument (hd.tidy.decorate false) (hd.closed false) hp
    have hnone : p.graph.clusters = [] := by
      rw [hmirrors.clusters, hd.clusters_decorate_false]
      rfl
    refine ⟨hd.clusters_decorate_false, hshows.draws fun s t o g hdraw => ?_⟩
    exact Presentation.blocks_of_draw hshows.built.wellFormed hnone hdraw

/-- A type whose base has no namespace, and one that has the namespace of the
    first one for its id. -/
def crossNamed : List ModuleFacts :=
  [{ name := "m", types := [
    { id := "N.A", name := "A", space? := some "N", base? := some "Top" },
    { id := "Top", name := "Top" },
    { id := "N", name := "Root", space? := some "M" }] }]

/-- How they are drawn in clusters. -/
def crossNamedText : String :=
  "digraph \x7b\n  ratio=\"compress\"\n  rankdir=BT\n  ranksep=\"2.0 equally\"\n" ++
    "  subgraph \"cluster_M\" \x7b\n    label = \"M\"\n" ++
    "    \"N\" [label=\"Root\", color=LightGray]\n  \x7d\n" ++
    "  subgraph \"cluster_N\" \x7b\n    label = \"Root\"\n" ++
    "    \"N.A\" [label=\"A\", color=LightGray]\n  \x7d\n" ++
    "  \"Top\" [label=\"Top\", color=LightGray]\n" ++
    "  \"N.A\" -> \"Top\" [label=\".\", color=Black]\n\x7d\n"

/-- The namespaces make two clusters, of which one is labelled like a type.
    With that type hidden its own block is gone, and the other types stay where
    they are. -/
theorem cluster_labelled_like_type :
    ((ofCatalog {} (.ofModules crossNamed)).value.render { clusterByNamespace := true }).verdict =
        .ok ⟨crossNamedText, 3, 3, 1⟩ ∧
      ∃ d p, (ofCatalog {} (.ofModules crossNamed)).value.Groups { clusterByNamespace := true } d p ∧
        d.members "N" = ["N.A"] ∧ d.members "M" = ["N"] ∧ (∀ c, "Top" ∉ d.members c) ∧
        ∃ g, Drawing.read g.text = some g ∧ g.ids.Perm ["N.A", "Top"] ∧
          g.nodes.map (·.id) = ["Top"] ∧
          ∃ b ∈ g.blocks, b.id = "cluster_N" ∧ b.label = "Root" ∧ b.nodes.map (·.id) = ["N.A"] := by
  have hrender : ((ofCatalog {} (.ofModules crossNamed)).value.render
      { clusterByNamespace := true }).verdict = .ok ⟨crossNamedText, 3, 3, 1⟩ := by
    decide +kernel
  obtain ⟨d, p, hgroups⟩ := clusters_are_namespaces {} crossNamed { clusterByNamespace := true }
    fun id hid => nomatch hid
  let a : Descriptor := ⟨"N.A", "A", "N"⟩
  let top : Descriptor := ⟨"Top", "Top", ""⟩
  let root : Descriptor := ⟨"N", "Root", "M"⟩
  have hnodes : d.nodes = [a, top, root] := by
    have hdocument : ((ofCatalog {} (.ofModules crossNamed)).value.requested
        { clusterByNamespace := true }).verdict.toOption.map (·.nodes) = some [a, top, root] := by
      decide +kernel
    rw [hgroups.requested] at hdocument
    exact Option.some.inj hdocument
  obtain ⟨hclustered, hdraws⟩ := hgroups.clustered rfl
  -- the type that is called like the namespace of the first one is hidden
  obtain ⟨g, -, hread, hg⟩ := hdraws [.hidden "root" ["N"]] [] {}
  rw [hnodes] at hg
  have hclusters : ∀ c ∈ ["N", "M"], c ∈ d.clusters := by
    intro c hc
    rw [hclustered.clusters, hnodes]
    revert c
    decide
  obtain ⟨⟨b, hb, hid⟩, hspace, -⟩ :=
    hg.inside a List.mem_cons_self (by decide +kernel) (by decide)
  have hblock := hspace b hb hid
  have hN := hclustered.members "N" (hclusters "N" (by decide))
  have hM := hclustered.members "M" (hclusters "M" (by decide))
  have htop := hclustered.none top (by rw [hnodes]; decide) rfl
  rw [hnodes] at hN hM
  refine ⟨hrender, d, p, hgroups, hN, hM, htop, g, hread, hg.once.trans (.of_eq ?_),
    hg.nodes.trans ?_, b, hb, hblock.name.trans ?_, hblock.label_of_type root (by decide) rfl,
    hblock.nodes.trans ?_⟩ <;> decide +kernel

end Inspection

end Lineage
