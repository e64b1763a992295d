import Lineage.View.Presentation
import Lineage.Proofs.Documents
import Lineage.Proofs.Growth

/-! # Presentations that can be made

    A presentation starts from a graph or a document; after that its captions,
    colors and masks change, its graph does not (`Presentation.Reachable`).
    Either way the graph is one that the graph operations build, so it is well
    formed (`Reachable.built`).

    A closed document can be presented, and its graph is the document without
    repetitions (`Document.graph_eq`).  The presentation hides nothing
    (`masks_ofDocument`) and has the colors of the document
    (`fillColor_ofDocument`, `color_ofDocument`). -/

namespace Lineage

/-! ## The graph of a document -/

namespace Graph

variable {g : Graph}

/-- Connecting adds an edge between nodes that are there. -/
theorem connect_eq_ok {g g' : Graph} {e : Edge} :
    g.connect e = .ok g' ↔
      e.source ∈ g.nodes ∧ e.target ∈ g.nodes ∧ g' = (g.addEdge e.source e.target).1 := by
  rw [connect]
  by_cases hs : e.source ∈ g.nodes
  · by_cases ht : e.target ∈ g.nodes
    · have hfind : [e.source, e.target].find? (· ∉ g.nodes) = none := by
        simp [hs, ht]
      rw [hfind]
      exact ⟨fun h => ⟨hs, ht, (Except.ok.inj h).symm⟩, fun ⟨_, _, h⟩ => h ▸ rfl⟩
    · have hfind : [e.source, e.target].find? (· ∉ g.nodes) = some e.target := by
        simp [hs, ht]
      rw [hfind]
      exact ⟨fun h => (nomatch h), fun ⟨_, h, _⟩ => absurd h ht⟩
  · have hfind : [e.source, e.target].find? (· ∉ g.nodes) = some e.source := by
      simp [hs]
    rw [hfind]
    exact ⟨fun h => (nomatch h), fun ⟨h, _⟩ => absurd h hs⟩

theorem foldl_withNode (g : Graph) (ns : List Descriptor) :
    ns.foldl (fun g n => g.withNode n.id) g =
      { g with nodes := adjoinAll g.nodes (ns.map (·.id)) } := by
  induction ns generalizing g with
  | nil => rfl
  | cons n ns ih =>
      have hstep : g.withNode n.id = { g with nodes := adjoin g.nodes n.id } := by
        rw [withNode, adjoin]
        split <;> rfl
      rw [List.foldl_cons, ih, hstep]
      rfl

theorem foldlM_connect {es : List Edge} (h : ∀ e ∈ es, e.source ∈ g.nodes ∧ e.target ∈ g.nodes) :
    es.foldlM connect g = .ok { g with edges := adjoinAll g.edges es } := by
  induction es generalizing g with
  | nil => rfl
  | cons e es ih =>
      obtain ⟨hs, ht⟩ := h e List.mem_cons_self
      refine foldlM_cons_eq_ok.mpr ⟨_, connect_eq_ok.mpr ⟨hs, ht, (addEdge_of_mem hs ht).symm⟩, ?_⟩
      exact ih fun e' he' => h e' (List.mem_cons_of_mem e he')

theorem foldlM_addCluster {cs : List (ClusterId × List NodeId)}
    (hids : (g.clusters.map (·.id) ++ cs.map (·.1)).Nodup)
    (hmembers : ∀ c ∈ cs, ∀ m ∈ c.2, m ∈ g.nodes) :
    cs.foldlM (fun g c => return (← g.addCluster c.1 c.2).1) g =
      .ok { g with clusters := g.clusters ++ cs.map fun c => ⟨c.1, c.2.eraseDups⟩ } := by
  induction cs generalizing g with
  | nil =>
      rw [List.map_nil, List.append_nil]
      rfl
  | cons c cs ih =>
      -- no cluster that is there has the id, so this one comes to the end
      have hnew : ∀ b ∈ g.clusters, b.id ≠ c.1 := by
        intro b hb
        exact (List.nodup_append.mp hids).2.2 b.id (List.mem_map_of_mem hb) c.1 List.mem_cons_self
      have hadd := addCluster_eq_ok.mpr
        (Or.inr ⟨hnew, hmembers c List.mem_cons_self, rfl, rfl⟩)
      refine foldlM_cons_eq_ok.mpr ⟨_, bind_eq_ok.mpr ⟨_, hadd, rfl⟩, ?_⟩
      rw [ih, List.map_cons, List.append_assoc, List.singleton_append]
      · simpa using hids
      · exact fun b hb => hmembers b (List.mem_cons_of_mem c hb)

end Graph

namespace Document

variable {d : Document}

/-- A closed document has a graph: its types, its edges and its clusters. -/
theorem graph_eq (h : d.Closed) : d.graph = .ok {
    nodes := d.ids.eraseDups
    edges := d.edges.eraseDups
    clusters := d.clusters.toList.map fun c => ⟨c.1, c.2.eraseDups⟩ } := by
  have hids : (d.clusters.toList.map (·.1)).Nodup := by
    rw [Std.ExtTreeMap.map_fst_toList_eq_keys]
    exact Std.ExtTreeMap.nodup_keys
  have hmembers : ∀ c ∈ d.clusters.toList, ∀ m ∈ c.2, m ∈ d.ids := by
    intro c hc m hm
    refine h.members c.1 m ?_
    rw [members, Std.ExtTreeMap.getD_eq_getD_getElem?,
      Std.ExtTreeMap.mem_toList_iff_getElem?_eq_some.mp hc]
    exact hm
  rw [graph, Graph.foldl_withNode, eraseDups_eq_adjoinAll, eraseDups_eq_adjoinAll]
  refine bind_eq_ok.mpr ⟨_, Graph.foldlM_connect fun e he => ?_, Graph.foldlM_addCluster hids ?_⟩
  · simpa [ids] using h.ends e he
  · intro c hc m hm
    exact mem_adjoinAll.mpr (Or.inr (hmembers c hc m hm))

/-- A graph from a document is one that the graph operations build. -/
theorem built_graph {g : Graph} (h : d.graph = .ok g) : g.Built := by
  obtain ⟨gEdges, hedges, hclusters⟩ := bind_eq_ok.mp h
  have hnodes : (d.nodes.foldl (fun g n => g.withNode n.id) ({} : Graph)).Built :=
    List.foldlRecOn d.nodes _ (motive := Graph.Built) .empty fun _ hg n _ => hg.withNode n.id
  have hbuilt : gEdges.Built := by
    refine foldlM_invariant (fun _ g => g.Built) ?_ hnodes hedges
    intro e _ g g' hg hstep
    obtain ⟨-, -, rfl⟩ := Graph.connect_eq_ok.mp hstep
    exact hg.edge e.source e.target
  refine foldlM_invariant (fun _ g => g.Built) ?_ hbuilt hclusters
  intro c _ g g' hg hstep
  obtain ⟨⟨g₁, c?⟩, hadd, hret⟩ := bind_eq_ok.mp hstep
  obtain rfl := Except.ok.inj hret
  exact hg.cluster c.1 c.2 hadd

end Document

namespace Presentation

variable {d : Document}

/-! ## The presentation of a document -/

/-- A presentation with the captions of a document, and the names of its types
    for those without one. -/
def captioned (p : Presentation) (d : Document) : Presentation :=
  d.nodes.foldl (fun p n => if p.captions.contains n.id then p else p.setCaption ⟨n.id, n.name⟩)
    (d.captions.foldl setCaption p)

/-- A presentation with the captions and colors of a document. -/
def dress (p : Presentation) (d : Document) : Presentation :=
  d.edgeStyles.foldl setEdgeStyle (d.nodeStyles.foldl setNodeStyle (p.captioned d))

theorem ofDocument_eq_ok {p : Presentation} :
    ofDocument d = .ok p ↔ ∃ g, d.graph = .ok g ∧ p = dress { graph := g } d := by
  rw [ofDocument, bind_eq_ok]
  refine exists_congr fun g => and_congr_right fun _ => ?_
  exact ⟨fun h => (Except.ok.inj h).symm, fun h => h ▸ rfl⟩

section Kept

variable {β : Type} (field : Presentation → β)

theorem captioned_kept (hcaption : ∀ p c, field (setCaption p c) = field p) (p : Presentation)
    (d : Document) : field (p.captioned d) = field p := by
  have hname : ∀ (p : Presentation) (n : Descriptor),
      field (if p.captions.contains n.id then p else p.setCaption ⟨n.id, n.name⟩) = field p := by
    intro p n
    split
    · rfl
    · exact hcaption p _
  rw [captioned, foldl_kept field hname, foldl_kept field hcaption]

/-- Whatever captions and colors leave alone is not changed by dressing. -/
theorem dress_kept (hcaption : ∀ p c, field (setCaption p c) = field p)
    (hnode : ∀ p s, field (setNodeStyle p s) = field p)
    (hedge : ∀ p s, field (setEdgeStyle p s) = field p) (p : Presentation) (d : Document) :
    field (p.dress d) = field p := by
  rw [dress, foldl_kept field hedge, foldl_kept field hnode, captioned_kept field hcaption]

end Kept

/-- A presentation of a document shows the graph of the document. -/
theorem graph_ofDocument {p : Presentation} (h : ofDocument d = .ok p) : d.graph = .ok p.graph := by
  obtain ⟨g, hg, rfl⟩ := ofDocument_eq_ok.mp h
  rw [hg, dress_kept (·.graph) (fun _ _ => rfl) (fun _ _ => rfl) (fun _ _ => rfl)]

/-- A presentation of a document hides nothing. -/
theorem masks_ofDocument {p : Presentation} (h : ofDocument d = .ok p) :
    p.nodeMasks = [] ∧ p.edgeMasks = [] := by
  obtain ⟨g, -, rfl⟩ := ofDocument_eq_ok.mp h
  constructor
  · rw [dress_kept (·.nodeMasks) (fun _ _ => rfl) (fun _ _ => rfl) (fun _ _ => rfl)]
  · rw [dress_kept (·.edgeMasks) (fun _ _ => rfl) (fun _ _ => rfl) (fun _ _ => rfl)]

theorem nodeColors_foldl (ss : List NodeStyle) (p : Presentation) :
    (ss.foldl setNodeStyle p).nodeColors =
      ss.foldl (fun t s => t.insert s.owner s.fillColor) p.nodeColors := by
  induction ss generalizing p with
  | nil => rfl
  | cons s ss ih => exact ih (p.setNodeStyle s)

theorem edgeColors_foldl (ss : List EdgeStyle) (p : Presentation) :
    (ss.foldl setEdgeStyle p).edgeColors =
      ss.foldl (fun t s => t.insert s.owner s.color) p.edgeColors := by
  induction ss generalizing p with
  | nil => rfl
  | cons s ss ih => exact ih (p.setEdgeStyle s)

/-- A node has the color that the document gave it last, or the default. -/
theorem fillColor_ofDocument {p : Presentation} (h : ofDocument d = .ok p) (owner : String) :
    (p.nodeStyle owner).fillColor =
      ((d.nodeStyles.reverse.find? (·.owner = owner)).map (·.fillColor)).getD
        NodeStyle.defaultColor := by
  obtain ⟨g, -, rfl⟩ := ofDocument_eq_ok.mp h
  have hcolors : (dress { graph := g } d).nodeColors =
      d.nodeStyles.foldl (fun t s => t.insert s.owner s.fillColor) ∅ := by
    rw [dress, foldl_kept (f := setEdgeStyle) (·.nodeColors) fun _ _ => rfl]
    rw [nodeColors_foldl, captioned_kept (·.nodeColors) fun _ _ => rfl]
  show (dress { graph := g } d).nodeColors.getD owner NodeStyle.defaultColor = _
  rw [hcolors, Std.ExtTreeMap.getD_eq_getD_getElem?,
    getElem?_foldl_insert ∅ d.nodeStyles (·.owner) (·.fillColor), Std.ExtTreeMap.getElem?_empty,
    Option.or_none]

theorem color_ofDocument {p : Presentation} (h : ofDocument d = .ok p) (owner : String) :
    (p.edgeStyle owner).color =
      ((d.edgeStyles.reverse.find? (·.owner = owner)).map (·.color)).getD
        EdgeStyle.defaultColor := by
  obtain ⟨g, -, rfl⟩ := ofDocument_eq_ok.mp h
  have hcolors : (dress { graph := g } d).edgeColors =
      d.edgeStyles.foldl (fun t s => t.insert s.owner s.color) ∅ := by
    rw [dress, edgeColors_foldl, foldl_kept (f := setNodeStyle) (·.edgeColors) fun _ _ => rfl,
      captioned_kept (·.edgeColors) fun _ _ => rfl]
  show (dress { graph := g } d).edgeColors.getD owner EdgeStyle.defaultColor = _
  rw [hcolors, Std.ExtTreeMap.getD_eq_getD_getElem?,
    getElem?_foldl_insert ∅ d.edgeStyles (·.owner) (·.color), Std.ExtTreeMap.getElem?_empty,
    Option.or_none]

/-! ## What is shown of a collected document -/

/-- The presentation has the types and the edges of a document and shows them
    all, in the colors that are ever used. -/
structure Shows (p : Presentation) (d : Document) : Prop where
  built : p.graph.Built
  nodes : p.graph.nodes = d.ids
  edges : p.graph.edges = d.edges
  nodeMasks : p.nodeMasks = []
  edgeMasks : p.edgeMasks = []
  fillColor : ∀ id, (p.nodeStyle id).fillColor ∈ [NodeStyle.defaultColor, interfaceColor]
  color : ∀ id, (p.edgeStyle id).color = EdgeStyle.defaultColor ∨
    ∃ kind, (p.edgeStyle id).color = EdgeKind.color kind

/-- A collected document can be presented, however it was decorated. -/
theorem exists_shows (hd : d.Collected) (clusterByNamespace : Bool) :
    ∃ p, ofDocument (d.decorate clusterByNamespace) = .ok p ∧ p.Shows d := by
  have hgraph := Document.graph_eq (hd.closed clusterByNamespace)
  have hhints := Document.Hints.decorate d clusterByNamespace
  have hp := ofDocument_eq_ok.mpr ⟨_, hgraph, rfl⟩
  obtain ⟨hnodeMasks, hedgeMasks⟩ := masks_ofDocument hp
  have hshown := graph_ofDocument hp
  have hsame := Except.ok.inj (hgraph.symm.trans hshown)
  refine ⟨_, hp, Document.built_graph hshown, ?_, ?_, hnodeMasks, hedgeMasks, ?_, ?_⟩
  · rw [← hsame, Document.ids_decorate]
    exact eraseDups_of_nodup hd.ids_nodup
  · rw [← hsame, Document.edges_decorate]
    exact eraseDups_of_nodup hd.edges_nodup
  · intro id
    rw [fillColor_ofDocument hp]
    cases hfind : (d.decorate clusterByNamespace).nodeStyles.reverse.find? (·.owner = id) with
    | none => exact List.mem_cons_self
    | some s =>
        -- what was collected has no colors, so this one came with decorating
        have hs := List.mem_reverse.mp (List.mem_of_find?_eq_some hfind)
        rcases hhints.nodeStyles s hs with hs | hcolor
        · rw [hd.nodeStyles] at hs
          exact nomatch hs
        · simp [hcolor]
  · intro id
    rw [color_ofDocument hp]
    cases hfind : (d.decorate clusterByNamespace).edgeStyles.reverse.find? (·.owner = id) with
    | none => exact Or.inl rfl
    | some s =>
        have hs := List.mem_reverse.mp (List.mem_of_find?_eq_some hfind)
        rcases hhints.edgeStyles s hs with hs | hcolor
        · rw [hd.edgeStyles] at hs
          exact nomatch hs
        · exact Or.inr hcolor

/-! ## Reachable presentations -/

/-- The presentations that can be made of graphs and documents, by setting
    captions and colors and by changing the masks in any way. -/
inductive Reachable : Presentation → Prop where
  | ofGraph {g : Graph} : g.Built → Reachable { graph := g }
  | ofDocument {d : Document} {p : Presentation} : ofDocument d = .ok p → Reachable p
  | caption {p : Presentation} (c : Caption) : Reachable p → Reachable (p.setCaption c)
  | nodeStyle {p : Presentation} (s : NodeStyle) : Reachable p → Reachable (p.setNodeStyle s)
  | edgeStyle {p : Presentation} (s : EdgeStyle) : Reachable p → Reachable (p.setEdgeStyle s)
  | nodeMasks {p : Presentation} (s : MaskStack) : Reachable p → Reachable { p with nodeMasks := s }
  | edgeMasks {p : Presentation} (s : MaskStack) : Reachable p → Reachable { p with edgeMasks := s }

/-- Whatever was done to a presentation, its graph is a built one. -/
theorem Reachable.built {p : Presentation} (h : p.Reachable) : p.graph.Built := by
  induction h with
  | ofGraph hg => exact hg
  | ofDocument hd => exact Document.built_graph (graph_ofDocument hd)
  | caption c _ ih => exact ih
  | nodeStyle s _ ih => exact ih
  | edgeStyle s _ ih => exact ih
  | nodeMasks s _ ih => exact ih
  | edgeMasks s _ ih => exact ih

end Presentation

end Lineage
