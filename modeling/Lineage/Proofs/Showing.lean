import Lineage.Proofs.Editing
import Lineage.Proofs.Presented

/-! # A presentation shows its document and nothing else

    A presentation goes over the edges of a document and then over its
    clusters, and fails at the first id that is no type of the document.
    `Document.named` lists the ids in that order, so the failure is a `find?`
    in one list (`ofDocument_of_stranger`).  Without such an id the document is
    closed, and the presentation mirrors it field by field
    (`Presentation.Mirrors`).

    A document keeps first comers and a presentation later ones.  That does not
    show: in a document that operations made, no owner comes twice. -/

namespace Lineage

/-! ## The first stranger -/

/-- Of the names that come with the members of a list, none is a stranger. -/
theorem find?_flatMap_eq_none {α : Type} {names : α → List NodeId} {as : List α}
    {ns : List NodeId} :
    (as.flatMap names).find? (· ∉ ns) = none ↔ ∀ a ∈ as, ∀ m ∈ names a, m ∈ ns := by
  rw [List.find?_eq_none]
  constructor
  · intro h a ha m hm
    simpa using h m (List.mem_flatMap.mpr ⟨a, ha, hm⟩)
  · intro h m hm
    obtain ⟨a, ha, hm⟩ := List.mem_flatMap.mp hm
    simpa using h a ha m hm

theorem find?_ends_eq_none {es : List Edge} {ns : List NodeId} :
    (es.flatMap fun e => [e.source, e.target]).find? (· ∉ ns) = none ↔
      ∀ e ∈ es, e.source ∈ ns ∧ e.target ∈ ns := by
  rw [find?_flatMap_eq_none]
  simp

namespace Graph

variable {g : Graph} {x : NodeId}

/-- Connecting fails at the first end that is no node. -/
theorem foldlM_connect_of_stranger {es : List Edge}
    (h : (es.flatMap fun e => [e.source, e.target]).find? (· ∉ g.nodes) = some x) :
    es.foldlM connect g = .error (.unknownNode x) := by
  induction es generalizing g with
  | nil => exact nomatch h
  | cons e es ih =>
      rw [List.flatMap_cons, List.find?_append] at h
      rw [List.foldlM_cons]
      cases hfind : [e.source, e.target].find? (· ∉ g.nodes) with
      | some y =>
          rw [hfind, Option.some_or] at h
          rw [connect, hfind, Option.some.inj h]
          rfl
      | none =>
          rw [hfind, Option.none_or] at h
          obtain ⟨hs, ht⟩ : e.source ∈ g.nodes ∧ e.target ∈ g.nodes := by
            simpa using List.find?_eq_none.mp hfind
          rw [connect_eq_ok.mpr ⟨hs, ht, rfl⟩, addEdge_of_mem hs ht]
          exact ih h

/-- Adding clusters fails at the first member that is no node. -/
theorem foldlM_addCluster_of_stranger {cs : List (ClusterId × List NodeId)}
    (hids : (g.clusters.map (·.id) ++ cs.map (·.1)).Nodup)
    (h : (cs.flatMap (·.2)).find? (· ∉ g.nodes) = some x) :
    cs.foldlM (fun g c => return (← g.addCluster c.1 c.2).1) g = .error (.unknownNode x) := by
  induction cs generalizing g with
  | nil => exact nomatch h
  | cons c cs ih =>
      have hnew : ∀ b ∈ g.clusters, b.id ≠ c.1 := by
        intro b hb
        exact (List.nodup_append.mp hids).2.2 b.id (List.mem_map_of_mem hb) c.1 List.mem_cons_self
      rw [List.flatMap_cons, List.find?_append] at h
      rw [List.foldlM_cons]
      cases hfind : c.2.find? (· ∉ g.nodes) with
      | some y =>
          rw [hfind, Option.some_or] at h
          have hfree : ¬ g.clusters.any (·.id = c.1) = true := by simpa using hnew
          rw [addCluster, if_neg hfree, hfind, Option.some.inj h]
          rfl
      | none =>
          rw [hfind, Option.none_or] at h
          have hknown : ∀ m ∈ c.2, m ∈ g.nodes := by simpa using List.find?_eq_none.mp hfind
          rw [addCluster_eq_ok.mpr (Or.inr ⟨hnew, hknown, rfl, rfl⟩)]
          refine ih ?_ h
          simpa using hids

end Graph

namespace Document

variable {d : Document} {x : NodeId}

/-- What the edges and the clusters name, in the order in which it is looked
    at: source and target of each edge, and the members of each cluster. -/
def named (d : Document) : List NodeId :=
  d.edges.flatMap (fun e => [e.source, e.target]) ++ d.clusters.toList.flatMap (·.2)

/-- The first of the named ids that is no type of the document. -/
def stranger? (d : Document) : Option NodeId := d.named.find? (· ∉ d.ids)

theorem members_of_mem {c : ClusterId × List NodeId} (hc : c ∈ d.clusters.toList) :
    d.members c.1 = c.2 := by
  rw [members, Std.ExtTreeMap.getD_eq_getD_getElem?,
    Std.ExtTreeMap.mem_toList_iff_getElem?_eq_some.mp hc, Option.getD_some]

/-- A document is closed when it names no stranger. -/
theorem closed_iff : d.Closed ↔ d.stranger? = none := by
  rw [stranger?, named, List.find?_append, Option.or_eq_none_iff, find?_ends_eq_none,
    find?_flatMap_eq_none]
  have hmembers : (∀ c ∈ d.clusters.toList, ∀ m ∈ c.2, m ∈ d.ids) ↔
      ∀ c, ∀ m ∈ d.members c, m ∈ d.ids := by
    constructor
    · intro h c m hm
      rw [members, Std.ExtTreeMap.getD_eq_getD_getElem?] at hm
      cases hc : d.clusters[c]? with
      | none =>
          rw [hc, Option.getD_none] at hm
          exact absurd hm List.not_mem_nil
      | some ms =>
          rw [hc, Option.getD_some] at hm
          exact h (c, ms) (Std.ExtTreeMap.mem_toList_iff_getElem?_eq_some.mpr hc) m hm
    · intro h c hc m hm
      exact h c.1 m (members_of_mem hc ▸ hm)
  rw [hmembers]
  exact ⟨fun h => ⟨h.ends, h.members⟩, fun h => ⟨h.1, h.2⟩⟩

/-- The graph of a document has its types before anything else is looked at. -/
theorem foldl_withNode_of_nodup (h : d.ids.Nodup) :
    d.nodes.foldl (fun g n => g.withNode n.id) {} = ({ nodes := d.ids } : Graph) := by
  rw [Graph.foldl_withNode]
  show ({ nodes := adjoinAll [] d.ids } : Graph) = _
  rw [← eraseDups_eq_adjoinAll, eraseDups_of_nodup h]

theorem graph_of_stranger (hd : d.Tidy) (h : d.stranger? = some x) :
    d.graph = .error (.unknownNode x) := by
  have hids : (d.clusters.toList.map (·.1)).Nodup := by
    rw [Std.ExtTreeMap.map_fst_toList_eq_keys]
    exact Std.ExtTreeMap.nodup_keys
  rw [stranger?, named, List.find?_append] at h
  rw [graph, foldl_withNode_of_nodup hd.ids]
  cases hfind : (d.edges.flatMap fun e => [e.source, e.target]).find? (· ∉ d.ids) with
  | some y =>
      rw [hfind, Option.some_or] at h
      rw [Graph.foldlM_connect_of_stranger hfind, Option.some.inj h]
      rfl
  | none =>
      -- the edges are fine, so it is the clusters
      rw [hfind, Option.none_or] at h
      rw [Graph.foldlM_connect (find?_ends_eq_none.mp hfind)]
      exact Graph.foldlM_addCluster_of_stranger hids h

/-- The graph of a closed document has nothing dropped and nothing added. -/
theorem graph_of_closed (hd : d.Tidy) (h : d.Closed) : d.graph = .ok {
    nodes := d.ids
    edges := d.edges
    clusters := d.clusters.toList.map fun c => ⟨c.1, c.2⟩ } := by
  have hclusters : (d.clusters.toList.map fun c => (⟨c.1, c.2.eraseDups⟩ : Cluster)) =
      d.clusters.toList.map fun c => ⟨c.1, c.2⟩ := by
    refine List.map_congr_left fun c hc => ?_
    rw [eraseDups_of_nodup (members_of_mem hc ▸ hd.members c.1)]
  rw [graph_eq h, eraseDups_of_nodup hd.ids, eraseDups_of_nodup hd.edges, hclusters]

end Document

/-! ## Captions and colors -/

namespace Presentation

variable {d : Document} {p : Presentation}

/-- A type is captioned with its name like an entry that must be new. -/
theorem captions_name (p : Presentation) (n : Descriptor) :
    (if p.captions.contains n.id then p else p.setCaption ⟨n.id, n.name⟩).captions =
      p.captions.insertIfNew n.id n.name := by
  refine Std.ExtTreeMap.ext_getElem? fun k => ?_
  rw [getElem?_insertIfNew]
  by_cases hn : n.id ∈ p.captions
  · rw [if_pos (Std.ExtTreeMap.contains_iff_mem.mpr hn)]
    obtain ⟨text, htext⟩ := mem_table_iff.mp hn
    by_cases hk : n.id = k
    · rw [← hk, htext, Option.some_or]
    · rw [if_neg hk, Option.or_none]
  · rw [if_neg fun h => hn (Std.ExtTreeMap.contains_iff_mem.mp h)]
    show (p.captions.insert n.id n.name)[k]? = _
    rw [getElem?_insert]
    by_cases hk : n.id = k
    · subst hk
      rw [if_pos rfl, if_pos rfl, Std.ExtTreeMap.getElem?_eq_none hn, Option.none_or]
    · rw [if_neg hk, if_neg hk, Option.or_none]

theorem captions_captioned (p : Presentation) (d : Document) :
    (p.captioned d).captions =
      d.nodes.foldl (fun t n => t.insertIfNew n.id n.name)
        (d.captions.foldl (fun t c => t.insert c.owner c.text) p.captions) := by
  have hnames : ∀ (ns : List Descriptor) (p : Presentation),
      (ns.foldl (fun p n =>
        if p.captions.contains n.id then p else p.setCaption ⟨n.id, n.name⟩) p).captions =
        ns.foldl (fun t n => t.insertIfNew n.id n.name) p.captions := by
    intro ns
    induction ns with
    | nil => intro p; rfl
    | cons n ns ih =>
        intro p
        rw [List.foldl_cons, ih, captions_name, List.foldl_cons]
  have hcaptions : ∀ (cs : List Caption) (p : Presentation),
      (cs.foldl setCaption p).captions =
        cs.foldl (fun t c => t.insert c.owner c.text) p.captions := by
    intro cs
    induction cs with
    | nil => intro p; rfl
    | cons c cs ih => exact fun p => ih (p.setCaption c)
  rw [captioned, hnames, hcaptions]

/-- What is found under an owner is a hint for that owner. -/
theorem make_getD_find? {α : Type} {owner val : α → String} {make : String → String → α}
    (hmake : ∀ x, make (owner x) (val x) = x) (xs : List α) (k default : String) :
    make k (((xs.find? (owner · = k)).map val).getD default) =
      (xs.find? (owner · = k)).getD (make k default) := by
  cases hfind : xs.find? (owner · = k) with
  | none => rfl
  | some x =>
      obtain rfl : owner x = k := by simpa using List.find?_some hfind
      exact hmake x

theorem caption_ofDocument (hd : d.Tidy) (h : ofDocument d = .ok p) (owner : String) :
    p.caption owner =
      (d.caption? owner).getD ⟨owner, ((d.node? owner).map (·.name)).getD owner⟩ := by
  obtain ⟨g, -, rfl⟩ := ofDocument_eq_ok.mp h
  have hcaptions : (dress { graph := g } d).captions = (captioned { graph := g } d).captions := by
    rw [dress, foldl_kept (f := setEdgeStyle) (·.captions) fun _ _ => rfl,
      foldl_kept (f := setNodeStyle) (·.captions) fun _ _ => rfl]
  have hlookup : (captioned { graph := g } d).captions[owner]? =
      ((d.caption? owner).map (·.text)).or ((d.node? owner).map (·.name)) := by
    rw [captions_captioned, getElem?_foldl_insertIfNew _ d.nodes (·.id) (·.name),
      getElem?_foldl_insert _ d.captions (·.owner) (·.text), Std.ExtTreeMap.getElem?_empty,
      Option.or_none, find?_reverse_of_nodup_map hd.captions]
    rfl
  show (⟨owner, (dress { graph := g } d).captions.getD owner owner⟩ : Caption) = _
  rw [hcaptions, Std.ExtTreeMap.getD_eq_getD_getElem?, hlookup, Option.getD_or]
  exact make_getD_find? (fun _ => rfl) d.captions owner _

theorem nodeStyle_ofDocument (hd : d.Tidy) (h : ofDocument d = .ok p) (owner : String) :
    p.nodeStyle owner = (d.nodeStyle? owner).getD ⟨owner, NodeStyle.defaultColor⟩ := by
  have hcolor := fillColor_ofDocument h owner
  rw [find?_reverse_of_nodup_map hd.nodeStyles] at hcolor
  show (⟨owner, (p.nodeStyle owner).fillColor⟩ : NodeStyle) = _
  rw [hcolor]
  exact make_getD_find? (fun _ => rfl) d.nodeStyles owner _

theorem edgeStyle_ofDocument (hd : d.Tidy) (h : ofDocument d = .ok p) (owner : String) :
    p.edgeStyle owner = (d.edgeStyle? owner).getD ⟨owner, EdgeStyle.defaultColor⟩ := by
  have hcolor := color_ofDocument h owner
  rw [find?_reverse_of_nodup_map hd.edgeStyles] at hcolor
  show (⟨owner, (p.edgeStyle owner).color⟩ : EdgeStyle) = _
  rw [hcolor]
  exact make_getD_find? (fun _ => rfl) d.edgeStyles owner _

/-! ## The whole document -/

/-- The presentation has the types, the edges and the clusters of the document
    in its order, gives each owner what the document gives it, and hides
    nothing. -/
structure Mirrors (p : Presentation) (d : Document) : Prop where
  nodes : p.graph.nodes = d.nodes.map (·.id)
  edges : p.graph.edges = d.edges
  clusters : p.graph.clusters = d.clusters.toList.map fun c => ⟨c.1, c.2⟩
  caption : ∀ owner, p.caption owner =
    (d.caption? owner).getD ⟨owner, ((d.node? owner).map (·.name)).getD owner⟩
  nodeStyle : ∀ owner, p.nodeStyle owner =
    (d.nodeStyle? owner).getD ⟨owner, NodeStyle.defaultColor⟩
  edgeStyle : ∀ owner, p.edgeStyle owner =
    (d.edgeStyle? owner).getD ⟨owner, EdgeStyle.defaultColor⟩
  visibleNodes : p.visibleNodes = p.graph.nodes
  visibleEdges : p.visibleEdges = p.graph.edges

theorem ofDocument_of_stranger (hd : d.Tidy) {x : NodeId} (h : d.stranger? = some x) :
    ofDocument d = .error (.unknownNode x) := by
  rw [ofDocument, Document.graph_of_stranger hd h]
  rfl

theorem exists_ofDocument (hd : d.Tidy) (h : d.Closed) : ∃ p, ofDocument d = .ok p :=
  ⟨_, ofDocument_eq_ok.mpr ⟨_, Document.graph_of_closed hd h, rfl⟩⟩

theorem mirrors_ofDocument (hd : d.Tidy) (hclosed : d.Closed) (h : ofDocument d = .ok p) :
    p.Mirrors d := by
  have hgraph := Except.ok.inj
    ((graph_ofDocument h).symm.trans (Document.graph_of_closed hd hclosed))
  obtain ⟨hnodeMasks, hedgeMasks⟩ := masks_ofDocument h
  refine ⟨?_, ?_, ?_, caption_ofDocument hd h, nodeStyle_ofDocument hd h,
    edgeStyle_ofDocument hd h, ?_, ?_⟩
  · rw [hgraph]
    rfl
  · rw [hgraph]
  · rw [hgraph]
  · refine List.filter_eq_self.mpr fun id _ => ?_
    rw [picksNode, hnodeMasks]
    rfl
  · refine List.filter_eq_self.mpr fun e _ => ?_
    rw [picksEdge, hedgeMasks]
    rfl

/-- **A presentation shows exactly its document.**  Whatever was done to a
    document, it can be presented if all that its edges and clusters name are
    types of it.  If not, the failure names the first stranger: in the edges in
    order, source before target, and then in the clusters by id with their
    members in order.  A presentation has nothing else than its document. -/
theorem shows_exactly (ops : List Document.Operation) :
    ((∃ p, ofDocument (.after ops) = .ok p) ↔ (Document.after ops).Closed) ∧
      (¬ (Document.after ops).Closed → ∃ x, (Document.after ops).stranger? = some x ∧
        ofDocument (.after ops) = .error (.unknownNode x)) ∧
      ∀ p, ofDocument (.after ops) = .ok p → p.Mirrors (.after ops) := by
  have hd := Document.tidy_after ops
  generalize Document.after ops = d at hd
  have hstranger : ¬ d.Closed →
      ∃ x, d.stranger? = some x ∧ ofDocument d = .error (.unknownNode x) := by
    intro hopen
    obtain ⟨x, hx⟩ := Option.ne_none_iff_exists'.mp fun h => hopen (Document.closed_iff.mpr h)
    exact ⟨x, hx, ofDocument_of_stranger hd hx⟩
  have hclosed : ∀ p, ofDocument d = .ok p → d.Closed := by
    intro p hp
    by_contra hopen
    obtain ⟨x, -, herror⟩ := hstranger hopen
    rw [herror] at hp
    exact nomatch hp
  refine ⟨⟨fun ⟨p, hp⟩ => hclosed p hp, exists_ofDocument hd⟩, hstranger, ?_⟩
  exact fun p hp => mirrors_ofDocument hd (hclosed p hp) hp

/-- A cluster and an edge that each name a stranger, the cluster first. -/
def haunted : List Document.Operation :=
  [.node ⟨"A", "A", "n"⟩, .member "n" "Phantom", .edge "A" "A", .edge "Ghost" "A"]

/-- Edges are looked at first. -/
theorem ghost_before_phantom :
    ¬ (Document.after haunted).Closed ∧
      ofDocument (.after haunted) = .error (.unknownNode "Ghost") := by
  have hghost : (Document.after haunted).stranger? = some "Ghost" := by decide +kernel
  have hopen : ¬ (Document.after haunted).Closed := by
    rw [Document.closed_iff, hghost]
    exact Option.some_ne_none "Ghost"
  obtain ⟨x, hx, herror⟩ := (shows_exactly haunted).2.1 hopen
  obtain rfl := Option.some.inj (hghost.symm.trans hx)
  exact ⟨hopen, herror⟩

end Presentation

end Lineage
