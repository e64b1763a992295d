import Lineage.Proofs.Answers
import Lineage.Proofs.Decorating

/-! # A neighborhood looks as it does in the whole graph

    The neighborhood of a type and the whole graph are collected in different
    ways, and each is decorated by what it holds itself: an interface is marked
    when the document at hand has an `implements` edge into it.  Still no
    type and no edge looks different in one of them.

    The reason is that a neighborhood is a part that is full on one side: it
    has some of the types, but every edge into these (`PartOf`).  So a type has
    the same incoming edges in both, and being an interface depends on these
    alone (`PartOf.mem_interfaces`).  Decorating hence keeps a part in
    agreement (`PartOf.agrees_decorate`), and that is the headline,
    `neighborhood_agrees_with_whole`. -/

namespace Lineage

namespace Document

variable {d f : Document}

/-- Some of the types of a document, with all its edges into these. -/
structure PartOf (d f : Document) : Prop where
  nodes : ∀ n ∈ d.nodes, n ∈ f.nodes
  edges : ∀ e, e ∈ d.edges ↔ e ∈ f.edges ∧ e.target ∈ d.ids
  kinds : ∀ e ∈ d.edges, ∃ kind, d.edgeKinds[e.id]? = some kind ∧ f.edgeKinds[e.id]? = some kind

/-- What is shown in `d` is shown in `f` too, and looks the same there. -/
structure Agrees (d f : Document) : Prop where
  nodes : ∀ n ∈ d.nodes, n ∈ f.nodes
  edges : ∀ e ∈ d.edges, e ∈ f.edges
  captions : ∀ n ∈ d.nodes, ∃ c, d.caption? n.id = some c ∧ f.caption? n.id = some c
  nodeStyles : ∀ n ∈ d.nodes, d.nodeStyle? n.id = f.nodeStyle? n.id
  kinds : ∀ e ∈ d.edges, ∃ kind, d.edgeKinds[e.id]? = some kind ∧ f.edgeKinds[e.id]? = some kind
  edgeStyles : ∀ e ∈ d.edges, ∃ s, d.edgeStyle? e.id = some s ∧ f.edgeStyle? e.id = some s
  clusters : ∀ c ∈ d.clusters, c ∈ f.clusters
  members : ∀ c id, id ∈ d.members c ↔ id ∈ f.members c ∧ id ∈ d.ids

theorem mem_interfaces {id : NodeId} :
    id ∈ d.interfaces ↔ ∃ e ∈ d.edges, d.drawnKind e = .implements ∧ e.target = id := by
  simp [interfaces, and_assoc]

namespace PartOf

theorem drawnKind_eq (h : d.PartOf f) {e : Edge} (he : e ∈ d.edges) :
    d.drawnKind e = f.drawnKind e := by
  obtain ⟨kind, hd, hf⟩ := h.kinds e he
  rw [drawnKind, drawnKind, hd, hf]

/-- A type is an interface in a part if it is one in the whole: the edges into
    it are the same. -/
theorem mem_interfaces (h : d.PartOf f) {id : NodeId} (hid : id ∈ d.ids) :
    id ∈ d.interfaces ↔ id ∈ f.interfaces := by
  rw [Document.mem_interfaces, Document.mem_interfaces]
  constructor
  · rintro ⟨e, he, hkind, htarget⟩
    exact ⟨e, ((h.edges e).mp he).1, h.drawnKind_eq he ▸ hkind, htarget⟩
  · rintro ⟨e, he, hkind, rfl⟩
    have hmem : e ∈ d.edges := (h.edges e).mpr ⟨he, hid⟩
    exact ⟨e, hmem, (h.drawnKind_eq hmem).trans hkind, rfl⟩

/-- The types of a namespace in a part are those in the whole that the part has. -/
theorem mem_idsIn (h : d.PartOf f) (hf : f.Collected) {c : ClusterId} {id : NodeId} :
    id ∈ idsIn d.nodes c ↔ id ∈ idsIn f.nodes c ∧ id ∈ d.ids := by
  rw [Document.mem_idsIn, Document.mem_idsIn]
  constructor
  · rintro ⟨n, hn, hspace, rfl⟩
    exact ⟨⟨n, h.nodes n hn, hspace, rfl⟩, List.mem_map_of_mem hn⟩
  · rintro ⟨⟨n, hn, hspace, rfl⟩, hid⟩
    -- the part has the type of that id as it is in the whole
    obtain ⟨n', hn', hsame⟩ := List.mem_map.mp hid
    obtain rfl : n' = n := List.inj_on_of_nodup_map hf.ids_nodup (h.nodes n' hn') hn hsame
    exact ⟨n', hn', hspace, rfl⟩

/-- Decorating a part and the whole makes them look alike. -/
theorem agrees_decorate (h : d.PartOf f) (hd : d.Collected) (hf : f.Collected) (b : Bool) :
    (d.decorate b).Agrees (f.decorate b) where
  nodes := by
    rw [nodes_decorate, nodes_decorate]
    exact h.nodes
  edges := by
    rw [edges_decorate, edges_decorate]
    exact fun e he => ((h.edges e).mp he).1
  captions := by
    intro n hn
    rw [nodes_decorate] at hn
    refine ⟨nameOf n, ?_, ?_⟩
    · rw [hd.caption?_decorate, find?_of_nodup_map hd.ids_nodup hn, Option.map_some]
    · rw [hf.caption?_decorate, find?_of_nodup_map hf.ids_nodup (h.nodes n hn), Option.map_some]
  nodeStyles := by
    intro n hn
    rw [nodes_decorate] at hn
    have hid : n.id ∈ d.ids := List.mem_map_of_mem hn
    have hid' : n.id ∈ f.ids := List.mem_map_of_mem (h.nodes n hn)
    rw [hd.nodeStyle?_decorate, hf.nodeStyle?_decorate]
    simp only [hid, hid', h.mem_interfaces hid]
  kinds := by
    rw [edges_decorate, edgeKinds_decorate, edgeKinds_decorate]
    exact h.kinds
  edgeStyles := by
    intro e he
    rw [edges_decorate] at he
    refine ⟨d.strokeOf e, hd.edgeStyle?_decorate b he, ?_⟩
    rw [hf.edgeStyle?_decorate b ((h.edges e).mp he).1, strokeOf, strokeOf, h.drawnKind_eq he]
  clusters := by
    intro c hc
    obtain ⟨ids, hids⟩ := mem_table_iff.mp hc
    rw [hd.clusters_decorate] at hids
    split at hids
    · next hshown =>
        obtain ⟨id, hid⟩ := List.exists_mem_of_ne_nil _ hshown.2.2
        refine mem_table_iff.mpr ⟨idsIn f.nodes c, ?_⟩
        rw [hf.clusters_decorate, if_pos]
        exact ⟨hshown.1, hshown.2.1, List.ne_nil_of_mem ((h.mem_idsIn hf).mp hid).1⟩
    · exact absurd hids.symm (Option.some_ne_none ids)
  members := by
    intro c id
    rw [hd.mem_members_decorate, hf.mem_members_decorate, ids_decorate, h.mem_idsIn hf]
    simp only [and_assoc]

end PartOf

end Document

namespace Inspection

variable {i : Inspection}

/-- What the whole graph holds as the kind under the id of an edge is the kind
    that was recorded under it. -/
theorem edgeKinds_whole (h : Analysis.Agrees [] i.analysis) {e : Edge} (he : e ∈ i.graph.edges) :
    i.whole.edgeKinds[e.id]? = i.analysis.edgeKinds[e.id]? := by
  obtain ⟨kind, hkind⟩ := mem_table_iff.mp (h.kind_known e he)
  have hof : ∀ e' : Edge, e'.id = e.id → i.kindOf e' = kind := by
    intro e' hid
    rw [kindOf, hid, Std.ExtTreeMap.getD_eq_getD_getElem?, hkind, Option.getD_some]
  have hlook : i.whole.edgeKinds[e.id]? =
      (∅ : EdgeKinds)[e.id]?.or ((i.graph.edges.find? (·.id = e.id)).map i.kindOf) :=
    getElem?_foldl_insertIfNew ∅ i.graph.edges Edge.id i.kindOf e.id
  rw [hlook, Std.ExtTreeMap.getElem?_empty, Option.none_or, hkind]
  cases hfind : i.graph.edges.find? (·.id = e.id) with
  | none => exact absurd (decide_eq_true rfl) (List.find?_eq_none.mp hfind e he)
  | some e' =>
      have hid := List.find?_some hfind
      rw [Option.map_some, hof e' (of_decide_eq_true hid)]

/-- A neighborhood is a part of the whole graph as it is collected. -/
theorem partOf_whole (h : Analysis.Agrees [] i.analysis) {x : NodeId} {d : Document}
    (hd : i.analysis.surroundings.IsNeighborhood x d) : d.PartOf i.whole where
  nodes := by
    intro n hn
    have hid : n.id ∈ d.ids := List.mem_map_of_mem hn
    have hnode : n.id ∈ i.graph.nodes := ((hd.mem_ids n.id).mp hid).1
    -- both have the descriptor that is kept of the type
    obtain ⟨n', hn', hkept⟩ := hd.described n.id hid
    obtain rfl : n = n' := Option.some.inj ((Document.node?_eq_some hd.ids_nodup hn).symm.trans hn')
    refine List.mem_map.mpr ⟨n.id, hnode, ?_⟩
    show i.analysis.descriptors.getD n.id _ = n
    rw [Std.ExtTreeMap.getD_eq_getD_getElem?, show i.analysis.descriptors[n.id]? = some n from hkept,
      Option.getD_some]
  edges := by
    intro e
    rw [hd.mem_edges, hd.mem_ids]
    constructor
    · rintro ⟨he, hreach⟩
      exact ⟨he, (h.built.wellFormed.ends e he).2, hreach⟩
    · rintro ⟨he, -, hreach⟩
      exact ⟨he, hreach⟩
  kinds := by
    intro e he
    obtain ⟨kind, hkind⟩ := mem_table_iff.mp (hd.kind_known e he)
    refine ⟨kind, hkind, ?_⟩
    rw [edgeKinds_whole h ((hd.mem_edges e).mp he).1]
    exact ((hd.kinds e.id kind).mp hkind).2

/-- **What a neighborhood shows, the whole graph shows alike.**  Of each node
    of the analysis of a catalog there is a neighborhood; its types and edges
    are those of the document of the whole graph, with the same captions,
    marks, kinds and colors, and its clusters are the clusters there, less the
    types outside of the neighborhood. -/
theorem neighborhood_agrees_with_whole (o : Options) (ms : List ModuleFacts) {x : NodeId}
    (hx : x ∈ (ofCatalog o (.ofModules ms)).value.graph.nodes) (clusterByNamespace : Bool) :
    ∃ d f : Document,
      ((ofCatalog o (.ofModules ms)).value.document x clusterByNamespace).verdict = .ok d ∧
        (ofCatalog o (.ofModules ms)).value.fullDocument clusterByNamespace = .ok f ∧
          d.Agrees f := by
  have h := agrees_ofCatalog o (.ofModules ms)
  obtain ⟨d, hpart, hcollected, hd⟩ := exists_neighborhood h hx clusterByNamespace
  refine ⟨d.decorate clusterByNamespace, _, hd, fullDocument_eq h clusterByNamespace, ?_⟩
  exact (partOf_whole h hpart).agrees_decorate hcollected (collected_whole h) clusterByNamespace

/-- An interface, a type that implements it, and two types of another
    namespace, of which one derives from that. -/
def halfOfNamespace : List ModuleFacts :=
  [{ name := "m", types := [
    { id := "N.I", name := "I", space? := some "N" },
    { id := "N.A", name := "A", space? := some "N", interfaces := ["N.I"] },
    { id := "M.B", name := "B", space? := some "M", base? := some "N.A" },
    { id := "M.C", name := "C", space? := some "M" }] }]

/-- The interface is marked in both, and its neighborhood has only one of the
    two types of the other namespace. -/
theorem half_of_namespace_agrees :
    "N.I" ∈ (ofCatalog {} (.ofModules halfOfNamespace)).value.graph.nodes ∧
      ∃ d f : Document,
        ((ofCatalog {} (.ofModules halfOfNamespace)).value.document "N.I" true).verdict = .ok d ∧
          (ofCatalog {} (.ofModules halfOfNamespace)).value.fullDocument true = .ok f ∧
          d.Agrees f ∧
          f.nodeStyle? "N.I" = some ⟨"N.I", interfaceColor⟩ ∧
          d.members "M" = ["M.B"] ∧ f.members "M" = ["M.B", "M.C"] := by
  have hnode : "N.I" ∈ (ofCatalog {} (.ofModules halfOfNamespace)).value.graph.nodes := by
    decide +kernel
  obtain ⟨d, f, hd, hf, hagrees⟩ := neighborhood_agrees_with_whole {} halfOfNamespace hnode true
  have hpart : ((ofCatalog {} (.ofModules halfOfNamespace)).value.document "N.I" true).verdict.map
      (·.members "M") = .ok ["M.B"] := by decide +kernel
  have hwhole : ((ofCatalog {} (.ofModules halfOfNamespace)).value.fullDocument true).map
      (fun f => (f.nodeStyle? "N.I", f.members "M")) =
        .ok (some ⟨"N.I", interfaceColor⟩, ["M.B", "M.C"]) := by decide +kernel
  rw [hd] at hpart
  rw [hf] at hwhole
  obtain ⟨hmark, hmembers⟩ := Prod.mk.inj (Except.ok.inj hwhole)
  exact ⟨hnode, d, f, hd, hf, hagrees, hmark, Except.ok.inj hpart, hmembers⟩

end Inspection

end Lineage
