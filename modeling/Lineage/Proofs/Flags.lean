import Lineage.Proofs.Decorating
import Lineage.Proofs.Endpoints
import Lineage.Proofs.Lines

/-! # What the flags of a request leave alone

    A request can ask for clusters and for no colors.  Both are about looks.

    Clusters come from decorating, and there is nothing else in which two
    documents that were decorated with and without them differ
    (`ofDocument_decorate`).  So the presentations differ in the clusters of
    their graphs and in nothing else, and the same nodes are drawn, in another
    order and in other places, before the same edges (`draw_regrouped`).

    Colors are left out by the drawing itself, so without them it is the same
    drawing, faded (`draw_plain`).

    The headline, `flags_keep_content`, says both of the texts that answer two
    requests. -/

namespace Lineage

namespace Dot

/-- Two texts ask for the same layout, have the same lines of edges in the same
    order, and the same lines of nodes up to order and indentation. -/
structure SameContent (text text' : String) : Prop where
  preamble : preamble text = preamble text'
  edgeLines : edgeLines text = edgeLines text'
  nodeLines : (nodeLines text).Perm (nodeLines text')

end Dot

/-- Drawings with the same hints, the same edges and the same nodes make texts
    of the same content. -/
theorem Drawing.sameContent {d d' : Drawing} (h : d.Fits) (h' : d'.Fits)
    (hhints : d.hints = d'.hints) (hedges : d.edges = d'.edges)
    (hnodes : (d.blocks.flatMap (·.nodes) ++ d.nodes).Perm
      (d'.blocks.flatMap (·.nodes) ++ d'.nodes)) : Dot.SameContent d.text d'.text where
  preamble := by rw [preamble_text h, preamble_text h', settings, settings, hhints]
  edgeLines := by rw [edgeLines_text h, edgeLines_text h', hedges]
  nodeLines := by
    rw [nodeLines_text h, nodeLines_text h']
    exact hnodes.map _

namespace Presentation

variable {p : Presentation} {o : DrawOptions} {d : Document}

/-! ## Clusters -/

/-- The presentation around another graph. -/
def withGraph (p : Presentation) (g : Graph) : Presentation := { p with graph := g }

/-- The presentation with other clusters. -/
def regrouped (p : Presentation) (cs : List Cluster) : Presentation :=
  p.withGraph { p.graph with clusters := cs }

/-- Steps that do not look at the graph do the same around another graph. -/
theorem foldl_withGraph {α : Type} {f : Presentation → α → Presentation} {g : Graph}
    (hf : ∀ p x, f (p.withGraph g) x = (f p x).withGraph g) (xs : List α) (p : Presentation) :
    xs.foldl f (p.withGraph g) = (xs.foldl f p).withGraph g :=
  List.foldl_hom (·.withGraph g) fun p x => hf p x

/-- Captions and colors are given without a look at the graph. -/
theorem dress_withGraph (p : Presentation) (g : Graph) (d : Document) :
    (p.withGraph g).dress d = (p.dress d).withGraph g := by
  have hname : ∀ (p : Presentation) (n : Descriptor),
      (if (p.withGraph g).captions.contains n.id then p.withGraph g
        else (p.withGraph g).setCaption ⟨n.id, n.name⟩) =
      (if p.captions.contains n.id then p else p.setCaption ⟨n.id, n.name⟩).withGraph g := by
    intro p n
    show (if p.captions.contains n.id then p.withGraph g else _) = _
    split
    · rfl
    · rfl
  -- only the names of types ask for what is there, and they ask for captions
  rw [dress, captioned, foldl_withGraph fun _ _ => rfl, foldl_withGraph hname,
    foldl_withGraph fun _ _ => rfl, foldl_withGraph fun _ _ => rfl]
  rfl

/-- Decorating with clusters adds the captions and colors that decorating
    without them adds. -/
theorem dress_decorate (p : Presentation) (d : Document) (b b' : Bool) :
    p.dress (d.decorate b) = p.dress (d.decorate b') := by
  rw [d.decorate_eq b, d.decorate_eq b']
  rfl

/-- Whether clusters were asked for shows in the clusters only. -/
theorem ofDocument_decorate (hd : d.Collected) {b : Bool} (b' : Bool)
    (hp : ofDocument (d.decorate b) = .ok p) :
    ∃ cs, ofDocument (d.decorate b') = .ok (p.regrouped cs) := by
  -- graph and hints of both documents, with nothing left open but the clusters
  have hmade : ∀ b, ∃ cs, ofDocument (d.decorate b) =
      .ok ((({} : Presentation).dress (d.decorate b')).withGraph
        { nodes := d.ids.eraseDups, edges := d.edges.eraseDups, clusters := cs }) := by
    intro b
    obtain ⟨cs, hgraph⟩ : ∃ cs, (d.decorate b).graph =
        .ok { nodes := d.ids.eraseDups, edges := d.edges.eraseDups, clusters := cs } := by
      rw [Document.graph_eq (hd.closed b), Document.ids_decorate, Document.edges_decorate]
      exact ⟨_, rfl⟩
    refine ⟨cs, ofDocument_eq_ok.mpr ⟨_, hgraph, ?_⟩⟩
    rw [dress_decorate {} d b' b, ← dress_withGraph]
    rfl
  obtain ⟨cs, hcs⟩ := hmade b
  obtain ⟨cs', hcs'⟩ := hmade b'
  obtain rfl := Except.ok.inj (hp.symm.trans hcs)
  exact ⟨cs', hcs'⟩

/-- Other clusters make no other node dangle. -/
theorem sweep_regrouped (r : RenderRequest) (p : Presentation) (cs : List Cluster) :
    r.sweep (p.regrouped cs) = (r.sweep p).regrouped cs := by
  rw [RenderRequest.sweep, RenderRequest.sweep]
  cases r.dropDangling with
  | none => rfl
  | some mode => rfl

/-- With other clusters the same is drawn, with the nodes in other places. -/
theorem draw_regrouped {cs : List Cluster} (hg : p.graph.WellFormed)
    (hg' : (p.regrouped cs).graph.WellFormed) {drawing drawing' : Drawing}
    (h : p.draw o = .ok drawing) (h' : (p.regrouped cs).draw o = .ok drawing') :
    drawing.hints = drawing'.hints ∧ drawing.edges = drawing'.edges ∧
      (drawing.blocks.flatMap (·.nodes) ++ drawing.nodes).Perm
        (drawing'.blocks.flatMap (·.nodes) ++ drawing'.nodes) := by
  have hnodes := draw_entries_perm hg h
  have hnodes' := draw_entries_perm hg' h'
  obtain rfl := Except.ok.inj (h.symm.trans (draw_eq hg o))
  obtain rfl := Except.ok.inj (h'.symm.trans (draw_eq hg' o))
  exact ⟨rfl, rfl, hnodes.trans hnodes'.symm⟩

/-! ## Colors -/

/-- Drawn without colors, a presentation has the faded drawing. -/
theorem draw_plain (hg : p.graph.WellFormed) {drawing : Drawing} (h : p.draw o = .ok drawing) :
    p.draw { o with plain := true } = .ok drawing.faded := by
  obtain rfl := Except.ok.inj (h.symm.trans (draw_eq hg o))
  have hblock : (fun b : Block => { b with nodes := b.nodes.map (·.faded) }) ∘ p.block o =
      p.block { o with plain := true } := by
    funext c
    simp only [Function.comp_apply, block, List.map_map]
    rfl
  rw [draw_eq hg, Drawing.faded, List.map_map, hblock, List.map_map, List.map_map]
  rfl

/-- Drawn with colors, every entry has one. -/
theorem exists_color (ho : o.plain = false) {drawing : Drawing} (h : p.draw o = .ok drawing) :
    ∀ i ∈ drawing.items, i.isEntry = true → ∃ color, i.color? = some color := by
  obtain ⟨drawing', h', hnodes, hedges⟩ := draw_entries_shown p o
  obtain rfl := Except.ok.inj (h.symm.trans h')
  have hnode : ∀ n ∈ drawing.blocks.flatMap (·.nodes) ++ drawing.nodes,
      ∃ color, n.color = some color := by
    intro n hn
    obtain ⟨id, -, rfl⟩ := hnodes n hn
    exact ⟨_, if_neg (by simp [ho])⟩
  have hedge : ∀ e ∈ drawing.edges, ∃ color, e.color = some color := by
    intro e he
    rw [hedges] at he
    obtain ⟨e, -, rfl⟩ := List.mem_map.mp he
    exact ⟨_, if_neg (by simp [ho])⟩
  rw [← Drawing.filterMap_node?_items] at hnode
  rw [← Drawing.filterMap_edge?_items] at hedge
  intro i hi hentry
  cases i with
  | member n => exact hnode n (List.mem_filterMap.mpr ⟨_, hi, rfl⟩)
  | node n => exact hnode n (List.mem_filterMap.mpr ⟨_, hi, rfl⟩)
  | edge e => exact hedge e (List.mem_filterMap.mpr ⟨_, hi, rfl⟩)
  | _ => cases hentry

end Presentation

namespace Inspection

variable {i : Inspection} {r : RenderRequest} {d : Document} {p : Presentation}
  {resp : RenderResponse}

/-! ## Answers -/

/-- The answer to a request is the text of a drawing, with the sizes of what was
    presented. -/
structure Answers (p : Presentation) (o : DrawOptions) (drawing : Drawing)
    (resp : RenderResponse) : Prop where
  draw : p.draw o = .ok drawing
  fits : drawing.Fits
  resp : resp = ⟨drawing.text, p.visibleNodes.length, p.graph.nodeCount, p.graph.edgeCount⟩

theorem shows_of_ofDocument (hd : d.Collected) {b : Bool}
    (hp : Presentation.ofDocument (d.decorate b) = .ok p) : p.Shows d := by
  obtain ⟨p', hp', hshows⟩ := Presentation.exists_shows hd b
  obtain rfl := Except.ok.inj (hp.symm.trans hp')
  exact hshows

/-- What answers a request is drawn from the presentation of its document. -/
theorem exists_answers (hd : d.Collected) {b : Bool}
    (hrequested : (i.requested { r with clusterByNamespace := b }).verdict = .ok (d.decorate b))
    (hp : Presentation.ofDocument (d.decorate b) = .ok p)
    (hresp : (i.render { r with clusterByNamespace := b }).verdict = .ok resp) :
    ∃ drawing, Answers (r.sweep p) r.drawOptions drawing resp := by
  obtain ⟨drawing, hdrawing, -⟩ := Presentation.draw_entries_shown (r.sweep p) r.drawOptions
  have hrender := verdict_render (verdict_presentation hrequested hp) hdrawing
  have hfits := Presentation.fits_of_draw
    (Or.inr (shows_of_ofDocument hd hp).colorsFit_sweep) hdrawing
  exact ⟨drawing, hdrawing, hfits, Except.ok.inj (hresp.symm.trans hrender)⟩

/-- A text has a line for every node that it is said to show, and one for every
    edge of the graph. -/
theorem Answers.length_lines (hshows : p.Shows d) {o : DrawOptions} {drawing : Drawing}
    (h : Answers (r.sweep p) o drawing resp) :
    (Dot.nodeLines resp.dot).length = resp.visibleNodes ∧
      (Dot.edgeLines resp.dot).length = resp.edges := by
  obtain ⟨hgraph, hvisible⟩ := Presentation.Shows.sweep_kept r p
  have hg : (r.sweep p).graph.WellFormed := hgraph ▸ hshows.built.wellFormed
  have hnodes := (Presentation.draw_entries_perm hg h.draw).length_eq
  have hedges := congrArg List.length (Presentation.ids_of_draw hg h.draw).2
  rw [List.length_map] at hnodes hedges
  rw [h.resp]
  dsimp only
  rw [Drawing.nodeLines_text h.fits, Drawing.edgeLines_text h.fits, List.length_map,
    List.length_map, hnodes, hedges, hvisible, hshows.visibleEdges, Graph.edgeCount, hgraph,
    hshows.edges]
  exact ⟨rfl, rfl⟩

/-- **Flags of a request are about looks.**  Two answers of a catalog that
    differ in whether clusters were asked for show as many nodes of as many and
    as many edges; their texts ask for the same layout, have the same lines of
    edges in the same order, and the same lines of nodes up to order and
    indentation, one for each visible node.  Two answers that differ in whether
    colors are left out have texts that differ line by line in just the colors
    before the closing brackets. -/
theorem flags_keep_content (o : Options) (ms : List ModuleFacts) (r : RenderRequest) :
    (∀ b b' resp resp',
      ((ofCatalog o (.ofModules ms)).value.render { r with clusterByNamespace := b }).verdict =
        .ok resp →
      ((ofCatalog o (.ofModules ms)).value.render { r with clusterByNamespace := b' }).verdict =
        .ok resp' →
      resp.visibleNodes = resp'.visibleNodes ∧ resp.nodes = resp'.nodes ∧
        resp.edges = resp'.edges ∧ Dot.SameContent resp.dot resp'.dot ∧
        (Dot.nodeLines resp.dot).length = resp.visibleNodes ∧
        (Dot.edgeLines resp.dot).length = resp.edges) ∧
    ∀ resp resp',
      ((ofCatalog o (.ofModules ms)).value.render { r with plain := false }).verdict = .ok resp →
      ((ofCatalog o (.ofModules ms)).value.render { r with plain := true }).verdict = .ok resp' →
      Dot.FadesTo resp.dot resp'.dot ∧ resp' = { resp with dot := resp'.dot } := by
  have hagrees := agrees_ofCatalog o (.ofModules ms)
  generalize (ofCatalog o (.ofModules ms)).value = i at hagrees ⊢
  constructor
  · intro b b' resp resp' hresp hresp'
    have hknown := (render_iff hagrees).mp ⟨resp, hresp⟩
    obtain ⟨d, hd, hrequested⟩ := requested_decorated hagrees hknown
    obtain ⟨p, hp, hshows⟩ := Presentation.exists_shows hd b
    obtain ⟨cs, hp'⟩ := Presentation.ofDocument_decorate hd b' hp
    obtain ⟨drawing, h⟩ := exists_answers hd (hrequested b) hp hresp
    obtain ⟨drawing', h'⟩ := exists_answers hd (hrequested b') hp' hresp'
    have hlines := h.length_lines hshows
    have hshows' := shows_of_ofDocument hd hp'
    -- after sweeping, the presentations still differ in the clusters only
    rw [Presentation.sweep_regrouped] at h'
    have hgraph := (Presentation.Shows.sweep_kept r p).1
    have hgraph' := (Presentation.Shows.sweep_kept r (p.regrouped cs)).1
    rw [Presentation.sweep_regrouped] at hgraph'
    obtain ⟨hhints, hedges, hnodes⟩ := Presentation.draw_regrouped
      (hgraph ▸ hshows.built.wellFormed) (hgraph' ▸ hshows'.built.wellFormed) h.draw h'.draw
    have hsame := Drawing.sameContent h.fits h'.fits hhints hedges hnodes
    obtain rfl := h.resp
    obtain rfl := h'.resp
    exact ⟨rfl, rfl, rfl, hsame, hlines⟩
  · intro resp resp' hresp hresp'
    have hknown := (render_iff hagrees).mp ⟨resp, hresp⟩
    obtain ⟨d, hd, hrequested⟩ := requested_decorated hagrees hknown
    obtain ⟨p, hp, hshows⟩ := Presentation.exists_shows hd r.clusterByNamespace
    have hdocument := hrequested r.clusterByNamespace
    obtain ⟨drawing, h⟩ := exists_answers (r := { r with plain := false }) hd hdocument hp hresp
    obtain ⟨drawing', h'⟩ := exists_answers (r := { r with plain := true }) hd hdocument hp hresp'
    have hgraph := (Presentation.Shows.sweep_kept r p).1
    have hplain := Presentation.draw_plain (hgraph ▸ hshows.built.wellFormed) h.draw
    obtain rfl := Except.ok.inj (h'.draw.symm.trans hplain)
    have hfades := Drawing.fadesTo_faded h.fits (Presentation.exists_color rfl h.draw)
    rw [h.resp, h'.resp]
    exact ⟨hfades, rfl⟩

/-- A type and its interface, from different namespaces. -/
def implementation : List ModuleFacts :=
  [{ name := "m", types := [
    { id := "N.A", name := "A", space? := some "N", interfaces := ["M.I"] },
    { id := "M.I", name := "I", space? := some "M" }] }]

/-- How they are drawn. -/
def implementationText : String :=
  "digraph \x7b\n  ratio=\"compress\"\n  rankdir=BT\n  ranksep=\"2.0 equally\"\n" ++
    "  \"N.A\" [label=\"A\", color=LightGray]\n  \"M.I\" [label=\"I\", color=LightBlue]\n" ++
    "  \"N.A\" -> \"M.I\" [label=\".\", color=Blue]\n\x7d\n"

/-- How they are drawn in clusters, the interface before the type. -/
def clusteredText : String :=
  "digraph \x7b\n  ratio=\"compress\"\n  rankdir=BT\n  ranksep=\"2.0 equally\"\n" ++
    "  subgraph \"cluster_M\" \x7b\n    label = \"M\"\n" ++
    "    \"M.I\" [label=\"I\", color=LightBlue]\n  \x7d\n" ++
    "  subgraph \"cluster_N\" \x7b\n    label = \"N\"\n" ++
    "    \"N.A\" [label=\"A\", color=LightGray]\n  \x7d\n" ++
    "  \"N.A\" -> \"M.I\" [label=\".\", color=Blue]\n\x7d\n"

/-- How they are drawn without colors. -/
def plainText : String :=
  "digraph \x7b\n  ratio=\"compress\"\n  rankdir=BT\n  ranksep=\"2.0 equally\"\n" ++
    "  \"N.A\" [label=\"A\"]\n  \"M.I\" [label=\"I\"]\n" ++
    "  \"N.A\" -> \"M.I\" [label=\".\"]\n\x7d\n"

/-- The three texts are of one content. -/
theorem looks_of_implementation :
    ((ofCatalog {} (.ofModules implementation)).value.render {}).verdict =
        .ok ⟨implementationText, 2, 2, 1⟩ ∧
      ((ofCatalog {} (.ofModules implementation)).value.render
        { clusterByNamespace := true }).verdict = .ok ⟨clusteredText, 2, 2, 1⟩ ∧
      ((ofCatalog {} (.ofModules implementation)).value.render { plain := true }).verdict =
        .ok ⟨plainText, 2, 2, 1⟩ ∧
      Dot.SameContent implementationText clusteredText ∧
      Dot.FadesTo implementationText plainText := by
  have hflat : ((ofCatalog {} (.ofModules implementation)).value.render {}).verdict =
      .ok ⟨implementationText, 2, 2, 1⟩ := by decide +kernel
  have hclustered : ((ofCatalog {} (.ofModules implementation)).value.render
      { clusterByNamespace := true }).verdict = .ok ⟨clusteredText, 2, 2, 1⟩ := by
    decide +kernel
  have hplain : ((ofCatalog {} (.ofModules implementation)).value.render
      { plain := true }).verdict = .ok ⟨plainText, 2, 2, 1⟩ := by decide +kernel
  obtain ⟨hclusters, hcolors⟩ := flags_keep_content {} implementation {}
  obtain ⟨-, -, -, hsame, -⟩ := hclusters false true _ _ hflat hclustered
  exact ⟨hflat, hclustered, hplain, hsame, (hcolors _ _ hflat hplain).1⟩

end Inspection

end Lineage
