import Lineage.Proofs.Answers

/-! # Drawn edges and drawn nodes

    A drawing shows all edges of its document.  Its nodes are those that
    survive the hiding of dangling nodes, and an edge asks for its own ends
    only as far as the mode does: to hide the nodes without incoming edges is to
    hide the sources that nothing points at, whose edges stay.  The headline,
    `ends_of_drawn_edges`, reads a drawing back from its text and says when both
    ends of all its edges are among its nodes. -/

namespace Lineage

/-! ## What a drawing is of -/

/-- The ends of an edge as it is drawn. -/
def EdgeEntry.edge (e : EdgeEntry) : Edge := ⟨e.source, e.target⟩

namespace Drawing

/-- The nodes that a drawing shows, block by block. -/
def ids (d : Drawing) : List NodeId := (d.blocks.flatMap (·.nodes) ++ d.nodes).map (·.id)

/-- Both ends of every edge that is drawn are drawn as nodes. -/
def Closed (d : Drawing) : Prop := ∀ e ∈ d.edges, e.source ∈ d.ids ∧ e.target ∈ d.ids

instance (d : Drawing) : Decidable d.Closed :=
  inferInstanceAs (Decidable (∀ e ∈ d.edges, e.source ∈ d.ids ∧ e.target ∈ d.ids))

end Drawing

/-- Some edge of the document keeps the node from dangling, in the mode of the
    filter if there is one. -/
def Document.Survives (d : Document) (f : DanglingFilter) (id : NodeId) : Prop :=
  ∀ mode ∈ f, ∃ e ∈ d.edges, mode.Keeps e id

/-- What is drawn of a document of which a filter hides nodes. -/
structure Drawing.Depicts (d : Drawing) (f : DanglingFilter) (doc : Document) : Prop where
  mem_ids : ∀ id, id ∈ d.ids ↔ id ∈ doc.ids ∧ doc.Survives f id
  edges : d.edges.map EdgeEntry.edge = doc.edges
  closed_iff : d.Closed ↔ ∀ e ∈ doc.edges, doc.Survives f e.source ∧ doc.Survives f e.target

/-- Decorating does not change what is drawn of a document. -/
theorem Drawing.Depicts.decorate {d : Drawing} {f : DanglingFilter} {doc : Document}
    (h : d.Depicts f doc) (clusterByNamespace : Bool) :
    d.Depicts f (doc.decorate clusterByNamespace) where
  mem_ids := by simpa [Document.Survives] using h.mem_ids
  edges := by simpa using h.edges
  closed_iff := by simpa [Document.Survives] using h.closed_iff

namespace Presentation

/-- The presentation under other masks. -/
def masked (p : Presentation) (s t : MaskStack) : Presentation :=
  { p with nodeMasks := s, edgeMasks := t }

/-- Hiding dangling nodes is putting masks on nodes. -/
theorem sweep_eq_masked (r : RenderRequest) (p : Presentation) :
    r.sweep p = p.masked (r.sweep p).nodeMasks p.edgeMasks := by
  rw [RenderRequest.sweep]
  cases r.dropDangling with
  | none => rfl
  | some mode => rfl

end Presentation

namespace Presentation.Shows

variable {p : Presentation} {d : Document} {r : RenderRequest}

theorem visibleNodes (h : p.Shows d) : p.visibleNodes = d.ids := by
  rw [Presentation.visibleNodes, h.nodes]
  refine List.filter_eq_self.mpr fun id _ => ?_
  rw [picksNode, h.nodeMasks]
  rfl

theorem visibleEdges (h : p.Shows d) : p.visibleEdges = d.edges := by
  rw [Presentation.visibleEdges, h.edges]
  refine List.filter_eq_self.mpr fun e _ => ?_
  rw [picksEdge, h.edgeMasks]
  rfl

/-- Hiding touches neither the graph nor the edges that are shown. -/
theorem sweep_kept (r : RenderRequest) (p : Presentation) :
    (r.sweep p).graph = p.graph ∧ (r.sweep p).visibleEdges = p.visibleEdges := by
  rw [sweep_eq_masked]
  exact ⟨rfl, rfl⟩

theorem mem_visibleNodes_sweep (h : p.Shows d) {id : NodeId} :
    id ∈ (r.sweep p).visibleNodes ↔ id ∈ d.ids ∧ d.Survives r.dropDangling id := by
  rw [RenderRequest.sweep, Document.Survives]
  cases r.dropDangling with
  | none =>
      rw [Option.elim_none, h.visibleNodes]
      exact ⟨fun hid => ⟨hid, fun mode hmode => absurd hmode (Option.not_mem_none mode)⟩,
        fun hid => hid.1⟩
  | some mode =>
      rw [Option.elim_some, mem_visibleNodes_swept, h.visibleNodes, h.visibleEdges]
      simp

/-- Whatever masks are put on, no color breaks its line. -/
theorem colorsFit_masked (h : p.Shows d) (s t : MaskStack) : (p.masked s t).ColorsFit := by
  have hfill : ∀ color ∈ [NodeStyle.defaultColor, interfaceColor], '\n' ∉ color.toList := by decide
  constructor
  · intro id _
    exact hfill _ (h.fillColor id)
  · intro e _
    show '\n' ∉ (p.edgeStyle e.id).color.toList
    rcases h.color e.id with hcolor | ⟨kind, hcolor⟩
    · rw [hcolor]
      decide
    · rw [hcolor]
      cases kind with
      | derivesFrom => decide
      | implements => decide

theorem colorsFit_sweep (h : p.Shows d) : (r.sweep p).ColorsFit := by
  rw [sweep_eq_masked]
  exact h.colorsFit_masked _ _

end Presentation.Shows

namespace Presentation

variable {p : Presentation}

/-- A drawing has the visible nodes and the visible edges. -/
theorem ids_of_draw (hg : p.graph.WellFormed) {o : DrawOptions} {d : Drawing}
    (h : p.draw o = .ok d) :
    (∀ id, id ∈ d.ids ↔ id ∈ p.visibleNodes) ∧ d.edges.map EdgeEntry.edge = p.visibleEdges := by
  obtain ⟨d', hd', hids⟩ := draw_entries hg o
  obtain ⟨d'', hd'', -, hedges⟩ := draw_entries_shown p o
  obtain rfl := Except.ok.inj (h.symm.trans hd')
  obtain rfl := Except.ok.inj (h.symm.trans hd'')
  constructor
  · intro id
    rw [Drawing.ids, hids, mem_drawnNodes]
  · rw [hedges, List.map_map]
    exact List.map_id p.visibleEdges

end Presentation

namespace Inspection

variable {i : Inspection} {r : RenderRequest}

/-- The drawing of what was collected, read back from the answer. -/
theorem depicts_of_requested {d : Document} (hd : d.Collected)
    (h : (i.requested r).verdict = .ok (d.decorate r.clusterByNamespace)) :
    ∃ (resp : RenderResponse) (drawing : Drawing), (i.render r).verdict = .ok resp ∧
      Drawing.read resp.dot = some drawing ∧ drawing.Depicts r.dropDangling d := by
  obtain ⟨p, drawing, hshows, hdrawing, hrender⟩ := render_of_requested hd h
  have hfits := Presentation.fits_of_draw (Or.inr hshows.colorsFit_sweep) hdrawing
  refine ⟨_, drawing, hrender, Drawing.read_text hfits, ?_⟩
  obtain ⟨hgraph, hvisible⟩ := Presentation.Shows.sweep_kept r p
  have hg : (r.sweep p).graph.WellFormed := hgraph ▸ hshows.built.wellFormed
  obtain ⟨hids, hedges⟩ := Presentation.ids_of_draw hg hdrawing
  have hids' : ∀ id, id ∈ drawing.ids ↔ id ∈ d.ids ∧ d.Survives r.dropDangling id :=
    fun id => (hids id).trans hshows.mem_visibleNodes_sweep
  rw [hvisible, hshows.visibleEdges] at hedges
  refine ⟨hids', hedges, ?_⟩
  have hclosed : drawing.Closed ↔
      ∀ e ∈ d.edges, e.source ∈ drawing.ids ∧ e.target ∈ drawing.ids := by
    rw [← hedges, List.forall_mem_map]
    rfl
  rw [hclosed]
  refine forall₂_congr fun e he => ?_
  obtain ⟨hsource, htarget⟩ := hd.ends e he
  rw [hids', hids', and_iff_right hsource, and_iff_right htarget]

/-- **When the ends of drawn edges are drawn.**  The text that answers a
    request is that of a drawing of all edges of the requested document and of
    the nodes that survive the hiding.  Both ends of all these edges are among
    these nodes exactly if each of them survives, as it does when nothing is
    hidden or only what has no edge at all. -/
theorem ends_of_drawn_edges (o : Options) (ms : List ModuleFacts) (r : RenderRequest)
    {resp : RenderResponse}
    (h : ((Inspection.ofCatalog o (.ofModules ms)).value.render r).verdict = .ok resp) :
    ∃ (doc : Document) (d : Drawing),
      ((Inspection.ofCatalog o (.ofModules ms)).value.requested r).verdict = .ok doc ∧
        Drawing.read resp.dot = some d ∧ d.Depicts r.dropDangling doc ∧
        (r.dropDangling = none ∨ r.dropDangling = some .all → d.Closed) := by
  have hagrees := agrees_ofCatalog o (.ofModules ms)
  obtain ⟨doc, hdoc, hrequested⟩ := requested_of_known hagrees ((render_iff hagrees).mp ⟨resp, h⟩)
  obtain ⟨resp', d, hrender, hread, hdepicts⟩ := depicts_of_requested hdoc hrequested
  obtain rfl := Except.ok.inj (h.symm.trans hrender)
  refine ⟨_, d, hrequested, hread, hdepicts.decorate r.clusterByNamespace, ?_⟩
  intro hmode
  have hall : ∀ mode ∈ r.dropDangling, mode = .all := by
    intro mode hm
    rcases hmode with hmode | hmode
    · rw [hmode] at hm
      exact nomatch hm
    · rw [hmode] at hm
      exact (Option.some.inj hm).symm
  -- in that mode an edge keeps both its ends
  refine hdepicts.closed_iff.mpr fun e he => ⟨?_, ?_⟩
  · intro mode hm
    rw [hall mode hm]
    exact ⟨e, he, Or.inr rfl⟩
  · intro mode hm
    rw [hall mode hm]
    exact ⟨e, he, Or.inl rfl⟩

/-- A type and its base. -/
def oneDerivation : List ModuleFacts :=
  [{ name := "m", types := [
    { id := "N.A", name := "A", space? := some "N", base? := some "N.B" },
    { id := "N.B", name := "B", space? := some "N" }] }]

/-- What is drawn of them without the types that have no incoming edge. -/
def oneDerivationText : String :=
  "digraph \x7b\n  ratio=\"compress\"\n  rankdir=BT\n  ranksep=\"2.0 equally\"\n" ++
    "  \"N.B\" [label=\"B\", color=LightGray]\n" ++
    "  \"N.A\" -> \"N.B\" [label=\".\", color=Black]\n\x7d\n"

/-- Nothing derives from the type, so it is hidden, but the edge to its base is
    drawn all the same. -/
theorem hidden_source_keeps_its_edge :
    ((Inspection.ofCatalog {} (.ofModules oneDerivation)).value.render
        { dropDangling := some .incomings }).verdict = .ok ⟨oneDerivationText, 1, 2, 1⟩ ∧
      ∃ d, Drawing.read oneDerivationText = some d ∧
        d.edges.map EdgeEntry.edge = [⟨"N.A", "N.B"⟩] ∧ "N.A" ∉ d.ids ∧ ¬ d.Closed := by
  have hrender : ((Inspection.ofCatalog {} (.ofModules oneDerivation)).value.render
      { dropDangling := some .incomings }).verdict = .ok ⟨oneDerivationText, 1, 2, 1⟩ := by
    decide +kernel
  obtain ⟨doc, d, hdoc, hread, hdepicts, -⟩ := ends_of_drawn_edges {} oneDerivation _ hrender
  have hedges : doc.edges = [⟨"N.A", "N.B"⟩] := by
    have hfull := fullDocument_eq (agrees_ofCatalog {} (.ofModules oneDerivation)) false
    rw [requested, Inquiry.verdict_ofFailure, hfull] at hdoc
    rw [← Except.ok.inj hdoc, Document.edges_decorate]
    decide +kernel
  have hdangles : ¬ doc.Survives (some .incomings) "N.A" := by
    intro h
    obtain ⟨e, he, htarget⟩ := h .incomings rfl
    rw [hedges, List.mem_singleton] at he
    subst he
    exact absurd htarget (by decide)
  refine ⟨hrender, d, hread, hdepicts.edges.trans hedges, ?_, ?_⟩
  · exact fun hid => hdangles ((hdepicts.mem_ids "N.A").mp hid).2
  · exact fun hclosed =>
      hdangles (hdepicts.closed_iff.mp hclosed ⟨"N.A", "N.B"⟩ (hedges ▸ List.mem_cons_self)).1

end Inspection

end Lineage
