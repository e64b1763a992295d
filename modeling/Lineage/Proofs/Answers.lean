import Lineage.Proofs.Dangling
import Lineage.Proofs.Placement
import Lineage.Proofs.Searching
import Lineage.Proofs.Telling
import Lineage.Proofs.Outcome

/-! # Questions are always answered

    Every question to an inspection looks things up that another part has put
    there: descriptors, edges, kinds, clusters, members.  Each look-up could
    fail on its own.  On the analysis of a catalog none does, except that there
    is no neighborhood of what is no node.  The route:

    * the stores agree, so the whole graph is collected (`fullDocument_eq`),
      and so is the neighborhood of each node (`document_of_mem`);
    * what is collected has its edges between its types, so it can be presented
      after decorating (`Presentation.exists_shows`), swept, and drawn
      (`render_of_requested`).

    The headline is `answers_everything`. -/

namespace Lineage

/-! ## Neighborhoods -/

namespace Surroundings

variable {s : Surroundings} {root : NodeId}

/-- A neighborhood is nothing but types, edges between them, and kinds. -/
theorem collected_neighborhood (hs : SelfKeyed s.descriptors) (hg : s.graph.WellFormed)
    {doc : Document} (h : s.neighborhood root = .ok doc) : doc.Collected := by
  obtain ⟨hpart, -⟩ := isNeighborhood_of_ok hs hg h
  obtain ⟨-, hroot, w, rest, hw, hkinds⟩ := (neighborhood_eq_ok hs).mp h
  have inv := finished hs hg hroot hw
  obtain ⟨-, hrest, -⟩ := foldlM_copyKind ((withKinds_eq s w.document).symm.trans hkinds)
  refine ⟨hpart.ids_nodup, hpart.edges_nodup, fun e he => ((hpart.induced e).mp he).2, ?_⟩
  rw [hrest, inv.bare]

end Surroundings

namespace Analysis.Agrees

variable {a : Analysis}

/-- While the stores agree, there is all that a neighborhood is made of. -/
theorem covers (h : Agrees [] a) {id : NodeId} (hid : id ∈ a.graph.nodes) :
    a.surroundings.Covers id where
  root_described := (h.mem_descriptors id).mpr hid
  root_known := hid
  described := fun x hx _ => (h.mem_descriptors x).mpr hx
  kinds := fun e he _ => h.kind_known e he

end Analysis.Agrees

/-- A presentation after the hiding that a request asks for. -/
def RenderRequest.sweep (r : RenderRequest) (p : Presentation) : Presentation :=
  r.dropDangling.elim p p.swept

namespace Inspection

variable {i : Inspection} {r : RenderRequest}

/-- What is said of a type that is no node of the graph. -/
def noNeighborhood (id : NodeId) : Trouble :=
  .during s!"Failed to collect neighborhood of '{id}'" (.failed (.unknownType id))

theorem verdict_document (i : Inspection) (id : NodeId) (clusterByNamespace : Bool) :
    (i.document id clusterByNamespace).verdict =
      (((i.analysis.surroundings.neighborhood id).mapError .failed).mapError
        (.during s!"Failed to collect neighborhood of '{id}'")).map
          (·.decorate clusterByNamespace) := by
  rw [document, Inquiry.verdict_bind, Inquiry.verdict_attempting, Surroundings.neighborhoodReported,
    Inquiry.verdict_bind, Inquiry.verdict_ofFailure]
  cases i.analysis.surroundings.neighborhood id with
  | error f => rfl
  | ok d => rfl

theorem document_of_neighborhood {id : NodeId} {d : Document}
    (hd : i.analysis.surroundings.neighborhood id = .ok d) (clusterByNamespace : Bool) :
    (i.document id clusterByNamespace).verdict = .ok (d.decorate clusterByNamespace) := by
  rw [verdict_document, hd]
  rfl

/-- The document of a node is its neighborhood, decorated. -/
theorem exists_neighborhood (h : Analysis.Agrees [] i.analysis) {id : NodeId}
    (hid : id ∈ i.graph.nodes) (clusterByNamespace : Bool) :
    ∃ d : Document, i.analysis.surroundings.IsNeighborhood id d ∧ d.Collected ∧
      (i.document id clusterByNamespace).verdict = .ok (d.decorate clusterByNamespace) := by
  have hg := h.built.wellFormed
  obtain ⟨d, hd⟩ := Surroundings.neighborhood_succeeds h.selfKeyed hg (h.covers hid)
  obtain ⟨hpart, -⟩ := Surroundings.isNeighborhood_of_ok h.selfKeyed hg hd
  exact ⟨d, hpart, Surroundings.collected_neighborhood h.selfKeyed hg hd,
    document_of_neighborhood hd clusterByNamespace⟩

theorem document_of_mem (h : Analysis.Agrees [] i.analysis) {id : NodeId} (hid : id ∈ i.graph.nodes)
    (clusterByNamespace : Bool) :
    ∃ d : Document, d.Collected ∧
      (i.document id clusterByNamespace).verdict = .ok (d.decorate clusterByNamespace) := by
  obtain ⟨d, -, hd⟩ := exists_neighborhood h hid clusterByNamespace
  exact ⟨d, hd⟩

theorem document_of_not_mem (h : Analysis.Agrees [] i.analysis) {id : NodeId}
    (hid : id ∉ i.graph.nodes) (clusterByNamespace : Bool) :
    (i.document id clusterByNamespace).verdict = .error (noNeighborhood id) := by
  -- the descriptor is asked for before the node is
  have hnone : i.analysis.descriptors[id]? = none :=
    Std.ExtTreeMap.getElem?_eq_none fun hmem => hid ((h.mem_descriptors id).mp hmem)
  have hunknown : i.analysis.surroundings.descriptor id = .error (.unknownType id) := by
    have hlook : i.analysis.surroundings.descriptors[id]? = none := hnone
    rw [Surroundings.descriptor, hlook]
  have hfails : i.analysis.surroundings.neighborhood id = .error (.unknownType id) := by
    rw [Surroundings.neighborhood, hunknown]
    rfl
  rw [verdict_document, hfails]
  rfl

/-! ## The whole graph -/

/-- The kind of an edge. -/
def kindOf (i : Inspection) (e : Edge) : EdgeKind :=
  i.analysis.edgeKinds.getD e.id .derivesFrom

/-- The whole graph as it is collected. -/
def whole (i : Inspection) : Document where
  nodes := i.graph.nodes.map i.descriptorOf
  edges := i.graph.edges
  edgeKinds := i.graph.edges.foldl (fun kinds e => kinds.insertIfNew e.id (i.kindOf e)) ∅

theorem foldlM_addNode (h : Analysis.Agrees [] i.analysis) {ids : List NodeId} {d : Document}
    (hnodup : (d.ids ++ ids).Nodup) (hids : ∀ id ∈ ids, id ∈ i.graph.nodes) :
    ids.foldlM (fun d id => return (d.addNode (← i.analysis.surroundings.descriptor id)).1) d =
      .ok { d with nodes := d.nodes ++ ids.map i.descriptorOf } := by
  induction ids generalizing d with
  | nil =>
      rw [List.map_nil, List.append_nil]
      rfl
  | cons id ids ih =>
      obtain ⟨hdescriptor, hid⟩ := descriptor_eq h (hids id List.mem_cons_self)
      -- the nodes are listed once, so this one was not added before
      have hnew : (i.descriptorOf id).id ∉ d.ids := by
        rw [hid]
        exact fun hmem => (List.nodup_append.mp hnodup).2.2 id hmem id List.mem_cons_self rfl
      refine foldlM_cons_eq_ok.mpr ⟨_, bind_eq_ok.mpr ⟨_, hdescriptor, rfl⟩, ?_⟩
      rw [Document.addNode_of_not_mem hnew, ih, List.map_cons, List.append_assoc,
        List.singleton_append]
      · simpa [Document.ids, hid] using hnodup
      · exact fun x hx => hids x (List.mem_cons_of_mem id hx)

theorem foldlM_withEdge (h : Analysis.Agrees [] i.analysis) {es : List Edge} {d : Document}
    (hnodup : (d.edges ++ es).Nodup) (hes : ∀ e ∈ es, e ∈ i.graph.edges) :
    es.foldlM i.withEdge d = .ok { d with
      edges := d.edges ++ es
      edgeKinds := es.foldl (fun kinds e => kinds.insertIfNew e.id (i.kindOf e)) d.edgeKinds } := by
  induction es generalizing d with
  | nil =>
      rw [List.append_nil]
      rfl
  | cons e es ih =>
      -- every edge has a kind under its id, if perhaps that of another edge
      obtain ⟨kind, hkind⟩ := mem_table_iff.mp (h.kind_known e (hes e List.mem_cons_self))
      have hkindOf : i.kindOf e = kind := by
        rw [kindOf, Std.ExtTreeMap.getD_eq_getD_getElem?, hkind, Option.getD_some]
      have hnew : e ∉ d.edges :=
        fun hmem => (List.nodup_append.mp hnodup).2.2 e hmem e List.mem_cons_self rfl
      have hstep : i.withEdge d e = .ok { d with
          edges := d.edges ++ [e]
          edgeKinds := d.edgeKinds.insertIfNew e.id (i.kindOf e) } := by
        rw [withEdge, hkind, hkindOf, Document.addEdge_fst, adjoin_of_not_mem hnew]
        rfl
      refine foldlM_cons_eq_ok.mpr ⟨_, hstep, ?_⟩
      rw [ih, List.append_assoc, List.singleton_append, List.foldl_cons]
      · simpa using hnodup
      · exact fun x hx => hes x (List.mem_cons_of_mem e hx)

theorem fullDocument_eq (h : Analysis.Agrees [] i.analysis) (clusterByNamespace : Bool) :
    i.fullDocument clusterByNamespace = .ok (i.whole.decorate clusterByNamespace) := by
  have hg := h.built.wellFormed
  refine bind_eq_ok.mpr ⟨_, foldlM_addNode h ?_ fun _ hid => hid, ?_⟩
  · exact hg.nodes_nodup
  · exact bind_eq_ok.mpr ⟨_, foldlM_withEdge h hg.edges_nodup fun _ he => he, rfl⟩

theorem ids_whole (h : Analysis.Agrees [] i.analysis) : i.whole.ids = i.graph.nodes := by
  rw [Document.ids, whole, List.map_map]
  refine (List.map_congr_left fun id hid => ?_).trans (List.map_id i.graph.nodes)
  exact (descriptor_eq h hid).2

theorem collected_whole (h : Analysis.Agrees [] i.analysis) : i.whole.Collected := by
  have hg := h.built.wellFormed
  refine ⟨?_, hg.edges_nodup, ?_, rfl⟩
  · rw [ids_whole h]
    exact hg.nodes_nodup
  · rw [ids_whole h]
    exact hg.ends

/-! ## Requests -/

/-- What a request is about is collected, unless it is no node, and decorated
    in the way that is asked for. -/
theorem requested_decorated (h : Analysis.Agrees [] i.analysis)
    (hr : ∀ id, r.root? = some id → id ∈ i.graph.nodes) :
    ∃ d : Document, d.Collected ∧ ∀ clusterByNamespace,
      (i.requested { r with clusterByNamespace }).verdict = .ok (d.decorate clusterByNamespace) := by
  have hg := h.built.wellFormed
  cases hroot : r.root? with
  | none =>
      refine ⟨i.whole, collected_whole h, fun b => ?_⟩
      show (i.fullDocument b).mapError Trouble.failed = _
      rw [fullDocument_eq h]
      rfl
  | some id =>
      obtain ⟨d, hd⟩ := Surroundings.neighborhood_succeeds h.selfKeyed hg (h.covers (hr id hroot))
      exact ⟨d, Surroundings.collected_neighborhood h.selfKeyed hg hd,
        fun b => document_of_neighborhood hd b⟩

theorem requested_of_known (h : Analysis.Agrees [] i.analysis)
    (hr : ∀ id, r.root? = some id → id ∈ i.graph.nodes) :
    ∃ d : Document, d.Collected ∧
      (i.requested r).verdict = .ok (d.decorate r.clusterByNamespace) := by
  obtain ⟨d, hd, hrequested⟩ := requested_decorated h hr
  exact ⟨d, hd, hrequested r.clusterByNamespace⟩

theorem requested_of_unknown (h : Analysis.Agrees [] i.analysis) {id : NodeId}
    (hroot : r.root? = some id) (hid : id ∉ i.graph.nodes) :
    (i.requested r).verdict = .error (noNeighborhood id) := by
  rw [requested, hroot]
  exact document_of_not_mem h hid r.clusterByNamespace

/-- A request asks for the presentation of its document, swept if it says so. -/
theorem verdict_presentation {doc : Document} {p : Presentation}
    (h : (i.requested r).verdict = .ok doc) (hp : Presentation.ofDocument doc = .ok p) :
    (i.presentation r).verdict = .ok (r.sweep p) := by
  rw [presentation, Inquiry.verdict_bind, h]
  show Inquiry.verdict (_ >>= _) = _
  rw [Inquiry.verdict_bind, Inquiry.verdict_attempting, Inquiry.verdict_ofFailure, hp,
    RenderRequest.sweep]
  cases r.dropDangling with
  | none => rfl
  | some mode =>
      show Inquiry.verdict (p.hideDanglingReported mode none >>= _) = _
      rw [Inquiry.verdict_bind, Presentation.hideDanglingReported, Inquiry.verdict_bind,
        Inquiry.verdict_ofFailure, Presentation.hideDangling_none]
      rfl

/-- The presentation of what was collected, swept if that is asked for. -/
theorem presentation_of_requested {d : Document} (hd : d.Collected)
    (h : (i.requested r).verdict = .ok (d.decorate r.clusterByNamespace)) :
    ∃ p : Presentation, p.Shows d ∧
      (i.presentation r).verdict = .ok (r.sweep p) := by
  obtain ⟨p, hp, hshows⟩ := Presentation.exists_shows hd r.clusterByNamespace
  exact ⟨p, hshows, verdict_presentation h hp⟩

theorem verdict_render_of_error {t : Trouble} (h : (i.requested r).verdict = .error t) :
    (i.render r).verdict = .error t := by
  have hp : (i.presentation r).verdict = .error t := by
    rw [presentation, Inquiry.verdict_bind, h]
    rfl
  rw [render, Inquiry.verdict_bind, hp]
  rfl

/-- A request is answered with the text of the drawing that it asks for. -/
theorem verdict_render {p : Presentation} {drawing : Drawing}
    (hp : (i.presentation r).verdict = .ok p) (hdrawing : p.draw r.drawOptions = .ok drawing) :
    (i.render r).verdict = .ok {
      dot := drawing.text
      visibleNodes := p.visibleNodes.length
      nodes := p.graph.nodeCount
      edges := p.graph.edgeCount } := by
  have hrender := Presentation.render_of_draw hdrawing
  rw [render, Inquiry.verdict_bind, hp]
  show Inquiry.verdict (_ >>= _) = _
  rw [Inquiry.verdict_bind, Inquiry.verdict_attempting, Inquiry.verdict_ofFailure, hrender]
  rfl

/-- What was collected is drawn, whatever is hidden of it. -/
theorem render_of_requested {d : Document} (hd : d.Collected)
    (h : (i.requested r).verdict = .ok (d.decorate r.clusterByNamespace)) :
    ∃ (p : Presentation) (drawing : Drawing), p.Shows d ∧
      (r.sweep p).draw r.drawOptions = .ok drawing ∧
      (i.render r).verdict = .ok {
        dot := drawing.text
        visibleNodes := (r.sweep p).visibleNodes.length
        nodes := (r.sweep p).graph.nodeCount
        edges := (r.sweep p).graph.edgeCount } := by
  obtain ⟨p, hshows, hp⟩ := presentation_of_requested hd h
  obtain ⟨drawing, hdrawing, -⟩ :=
    Presentation.draw_entries_shown (r.sweep p) r.drawOptions
  exact ⟨p, drawing, hshows, hdrawing, verdict_render hp hdrawing⟩

theorem render_iff (h : Analysis.Agrees [] i.analysis) :
    (∃ resp, (i.render r).verdict = .ok resp) ↔ ∀ id, r.root? = some id → id ∈ i.graph.nodes := by
  constructor
  · rintro ⟨resp, hresp⟩ id hroot
    by_contra hid
    rw [verdict_render_of_error (requested_of_unknown h hroot hid)] at hresp
    exact nomatch hresp
  · intro hr
    obtain ⟨d, hd, hrequested⟩ := requested_of_known h hr
    obtain ⟨p, drawing, -, -, hrender⟩ := render_of_requested hd hrequested
    exact ⟨_, hrender⟩

/-- Every question has an answer, but for the neighborhood of a type that is no
    node of the graph. -/
structure AnswersEverything (i : Inspection) : Prop where
  search_ok : ∀ pattern limit?, ∃ result, i.search pattern limit? = .ok result
  full_ok : ∀ clusterByNamespace, ∃ d, i.fullDocument clusterByNamespace = .ok d
  drawn_whole : ∀ r : RenderRequest, r.root? = none → ∃ resp, (i.render r).verdict = .ok resp
  document_iff : ∀ id clusterByNamespace,
    (∃ d, (i.document id clusterByNamespace).verdict = .ok d) ↔ id ∈ i.graph.nodes
  render_iff : ∀ (r : RenderRequest) (id : NodeId), r.root? = some id →
    ((∃ resp, (i.render r).verdict = .ok resp) ↔ id ∈ i.graph.nodes)
  document_refused : ∀ id ∉ i.graph.nodes, ∀ clusterByNamespace,
    (i.document id clusterByNamespace).verdict = .error (noNeighborhood id)
  render_refused : ∀ (r : RenderRequest) (id : NodeId), r.root? = some id → id ∉ i.graph.nodes →
    (i.render r).verdict = .error (noNeighborhood id)

/-- **An inspection of a catalog answers every question.**  Searches, the
    document of the whole graph and its drawing always succeed; so do the
    document and the drawing of the neighborhood of each node; and of a type
    that is no node it is said just that, and nothing else goes wrong. -/
theorem answers_everything (o : Options) (ms : List ModuleFacts) :
    (Inspection.ofCatalog o (.ofModules ms)).value.AnswersEverything := by
  have h := agrees_ofCatalog o (.ofModules ms)
  refine ⟨fun pattern limit? => ⟨_, search_eq h pattern limit?⟩,
    fun b => ⟨_, fullDocument_eq h b⟩, ?_, ?_, ?_, fun id hid => document_of_not_mem h hid,
    fun r id hroot hid => verdict_render_of_error (requested_of_unknown h hroot hid)⟩
  · intro r hroot
    refine (render_iff h).mpr fun id hid => ?_
    exact nomatch hroot.symm.trans hid
  · intro id b
    constructor
    · rintro ⟨d, hd⟩
      by_contra hid
      rw [document_of_not_mem h hid] at hd
      exact nomatch hd
    · intro hid
      obtain ⟨d, -, hd⟩ := document_of_mem h hid b
      exact ⟨_, hd⟩
  · intro r id hroot
    rw [render_iff h, hroot]
    constructor
    · exact fun hr => hr id rfl
    · exact fun hid x hx => Option.some.inj hx ▸ hid

end Inspection

end Lineage
