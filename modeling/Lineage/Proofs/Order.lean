import Lineage.Proofs.Fates
import Lineage.Proofs.Searching

/-! # The order of sources does not matter

    An analysis works through its sources one after the other, and its stores
    treat first and later comers differently: kinds go to who comes first,
    descriptors to who comes last, and an interface is described along with a
    new edge only.  For sources that do not contradict each other none of this
    shows.  Nodes, edges, kinds and descriptors were each described by what
    the sources say together (`mem_nodes_ofSources` and its companions), and
    that is a matter of which sources there are, not of their order.

    The headline is `order_is_irrelevant`; the tallies come along, source by
    source. -/

namespace Lineage

/-- Some of the sources fit together if all do. -/
theorem Coherent.mono {srcs srcs' : List FactSource} (h : Coherent srcs')
    (hsub : ∀ src ∈ srcs, src ∈ srcs') : Coherent srcs where
  sound := fun src hsrc => h.sound src (hsub src hsrc)
  agree := fun src hsrc src' hsrc' => h.agree src (hsub src hsrc) src' (hsub src' hsrc')

namespace Options

variable {o : Options} {srcs srcs' : List FactSource}

theorem AcceptedIn.mono (hsub : ∀ src ∈ srcs, src ∈ srcs') {id : NodeId}
    (h : o.AcceptedIn srcs id) : o.AcceptedIn srcs' id := by
  obtain ⟨src, hsrc, hid, hacc⟩ := h
  exact ⟨src, hsub src hsrc, hid, hacc⟩

theorem RelatesIn.mono (hsub : ∀ src ∈ srcs, src ∈ srcs') {kind : EdgeKind} {s t : NodeId}
    (h : o.RelatesIn srcs kind s t) : o.RelatesIn srcs' kind s t := by
  obtain ⟨src, hsrc, hs, hrel⟩ := h
  exact ⟨src, hsub src hsrc, hs, hrel⟩

end Options

namespace Analysis

/-! ## One run with its tallies -/

/-- Works through sources in order, and gives the tally of each. -/
def run (o : Options) (a : Analysis) : List FactSource → Analysis × List Tally
  | [] => (a, [])
  | src :: srcs =>
      let done := (a.process o src).value
      let rest := run o done.1 srcs
      (rest.1, done.2 :: rest.2)

theorem run_fst (o : Options) (a : Analysis) (srcs : List FactSource) :
    (run o a srcs).1 = srcs.foldl (fun a src => (a.process o src).value.1) a := by
  induction srcs generalizing a with
  | nil => rfl
  | cons src srcs ih => exact ih (a.process o src).value.1

/-- No tally shows what was analyzed before. -/
theorem run_snd (o : Options) (a : Analysis) (srcs : List FactSource) :
    (run o a srcs).2 = srcs.map o.tally := by
  induction srcs generalizing a with
  | nil => rfl
  | cons src srcs ih =>
      show (a.process o src).value.2 :: (run o (a.process o src).value.1 srcs).2 = _
      rw [ih, process_value_snd]
      rfl

/-! ## What more sources add -/

section Mono

variable {o : Options} {srcs srcs' : List FactSource}

/-- With more sources that fit together there is at least as much of everything. -/
structure Within (a b : Analysis) : Prop where
  nodes : ∀ n ∈ a.graph.nodes, n ∈ b.graph.nodes
  edges : ∀ e ∈ a.graph.edges, e ∈ b.graph.edges
  edgeKinds : ∀ (k : EdgeId) kind, a.edgeKinds[k]? = some kind → b.edgeKinds[k]? = some kind
  descriptors : ∀ (id : NodeId) d, a.descriptors[id]? = some d → b.descriptors[id]? = some d

theorem Within.ofSources (h : Coherent srcs') (hsub : ∀ src ∈ srcs, src ∈ srcs') :
    (ofSources o srcs).Within (ofSources o srcs') := by
  have h₀ : Coherent srcs := h.mono hsub
  have hnodes : ∀ n ∈ (Analysis.ofSources o srcs).graph.nodes,
      n ∈ (Analysis.ofSources o srcs').graph.nodes := by
    intro n hn
    rw [mem_nodes_ofSources h₀] at hn
    rw [mem_nodes_ofSources h]
    rcases hn with hacc | ⟨kind, s, hrel⟩
    · exact Or.inl (hacc.mono hsub)
    · exact Or.inr ⟨kind, s, hrel.mono hsub⟩
  refine ⟨hnodes, ?_, ?_, ?_⟩
  · intro e he
    rw [mem_edges_ofSources h₀] at he
    rw [mem_edges_ofSources h]
    obtain ⟨kind, hrel⟩ := he
    exact ⟨kind, hrel.mono hsub⟩
  · intro k kind hkind
    rw [edgeKinds_ofSources h₀] at hkind
    rw [edgeKinds_ofSources h]
    obtain ⟨s, t, hid, hrel⟩ := hkind
    exact ⟨s, t, hid, hrel.mono hsub⟩
  · intro id d hd
    -- the descriptor was told by one of the sources, and none tells otherwise
    obtain ⟨src, hsrc, f, hf, rfl⟩ := told_ofSources h₀ id d hd
    have hn : id ∈ (Analysis.ofSources o srcs).graph.nodes :=
      ((Agrees.ofSources o srcs).mem_descriptors id).mp (mem_table_iff.mpr ⟨_, hd⟩)
    exact descriptors_ofSources h (hnodes id hn) (hsub src hsrc) hf

end Mono

/-! ## The same stores -/

/-- The stores hold the same, the graph perhaps in another order. -/
structure SameStores (a b : Analysis) : Prop where
  nodes : a.graph.nodes.Perm b.graph.nodes
  edges : a.graph.edges.Perm b.graph.edges
  edgeKinds : a.edgeKinds = b.edgeKinds
  descriptors : a.descriptors = b.descriptors

theorem table_ext {β : Type} {t t' : Table β} (h : ∀ (k : String) v, t[k]? = some v → t'[k]? = some v)
    (h' : ∀ (k : String) v, t'[k]? = some v → t[k]? = some v) : t = t' := by
  refine Std.ExtTreeMap.ext_getElem? fun k => ?_
  exact Option.ext fun v => ⟨h k v, h' k v⟩

theorem SameStores.of_within {a b : Analysis} (ha : a.graph.WellFormed) (hb : b.graph.WellFormed)
    (h : a.Within b) (h' : b.Within a) : a.SameStores b where
  nodes := (List.perm_ext_iff_of_nodup ha.nodes_nodup hb.nodes_nodup).mpr
    fun n => ⟨h.nodes n, h'.nodes n⟩
  edges := (List.perm_ext_iff_of_nodup ha.edges_nodup hb.edges_nodup).mpr
    fun e => ⟨h.edges e, h'.edges e⟩
  edgeKinds := table_ext h.edgeKinds h'.edgeKinds
  descriptors := table_ext h.descriptors h'.descriptors

/-- **The order of sources is irrelevant.**  Sources that do not contradict
    each other, worked through in another order, give the same nodes, edges,
    kinds and descriptors, and each of them has the same tally. -/
theorem order_is_irrelevant (o : Options) {srcs srcs' : List FactSource} (h : Coherent srcs)
    (hperm : srcs.Perm srcs') :
    (run o {} srcs).1.SameStores (run o {} srcs').1 ∧
      (srcs.zip (run o {} srcs).2).Perm (srcs'.zip (run o {} srcs').2) := by
  constructor
  · rw [run_fst, run_fst]
    show (ofSources o srcs).SameStores (ofSources o srcs')
    have hto : ∀ src ∈ srcs, src ∈ srcs' := fun src hsrc => hperm.mem_iff.mp hsrc
    have hfrom : ∀ src ∈ srcs', src ∈ srcs := fun src hsrc => hperm.mem_iff.mpr hsrc
    exact .of_within (Agrees.ofSources o srcs).built.wellFormed
      (Agrees.ofSources o srcs').built.wellFormed (.ofSources (h.mono hfrom) hto)
      (.ofSources h hfrom)
  · rw [run_snd, run_snd, ← List.map_prod_left_eq_zip, ← List.map_prod_left_eq_zip]
    exact hperm.map _

/-- A source that knows some facts and no others. -/
def knowing (declared : List String) (facts : List TypeFact) : FactSource where
  declared := declared
  resolve id :=
    match facts.find? (·.id = id) with
    | some fact => .ok fact
    | none => .error (.unknownType id)

theorem mem_of_knowing {declared : List String} {facts : List TypeFact} {id : String}
    {fact : TypeFact} (h : (knowing declared facts).resolve id = .ok fact) :
    fact ∈ facts ∧ fact.id = id := by
  simp only [knowing] at h
  cases hfind : facts.find? (·.id = id) with
  | none =>
      rw [hfind] at h
      exact nomatch h
  | some f =>
      rw [hfind] at h
      obtain rfl := Except.ok.inj h
      exact ⟨List.mem_of_find?_eq_some hfind, by simpa using List.find?_some hfind⟩

/-- Sources that draw on one list of facts fit together, if that has no two
    facts of one id and no arrow in an id. -/
theorem coherent_of_knowing {facts : List TypeFact} (hnodup : (facts.map (·.id)).Nodup)
    (hfree : ∀ f ∈ facts, ArrowFree f.id) {known : List (List String × List TypeFact)}
    (hknown : ∀ k ∈ known, ∀ f ∈ k.2, f ∈ facts) :
    Coherent (known.map fun k => knowing k.1 k.2) where
  sound := by
    intro src hsrc
    obtain ⟨k, hk, rfl⟩ := List.mem_map.mp hsrc
    refine ⟨fun id f hf => (mem_of_knowing hf).2, fun id f hf => ?_⟩
    obtain ⟨hmem, rfl⟩ := mem_of_knowing hf
    exact hfree f (hknown k hk f hmem)
  agree := by
    intro src hsrc src' hsrc' id f f' hf hf'
    obtain ⟨k, hk, rfl⟩ := List.mem_map.mp hsrc
    obtain ⟨k', hk', rfl⟩ := List.mem_map.mp hsrc'
    obtain ⟨hmem, hid⟩ := mem_of_knowing hf
    obtain ⟨hmem', hid'⟩ := mem_of_knowing hf'
    exact List.inj_on_of_nodup_map hnodup (hknown k hk f hmem) (hknown k' hk' f' hmem')
      (hid.trans hid'.symm)

/-- A type with its base and its interface. -/
def threeFacts : List TypeFact :=
  [{ id := "A", name := "A", space? := some "n", base? := some "B", interfaces := ["I"] },
    { id := "B", name := "B", space? := some "n" },
    { id := "I", name := "I", space? := some "n" }]

/-- Two sources that overlap: the second one does not know the interface, so
    the first type is malformed there. -/
def overlapping : List FactSource :=
  [(["A", "C"], threeFacts), (["B", "A"], threeFacts.take 2)].map fun k => knowing k.1 k.2

/-- In either order there is one graph, with its nodes in another order, and
    each source has its own tally. -/
theorem overlapping_in_either_order :
    Coherent overlapping ∧ overlapping.Perm overlapping.reverse ∧
      (run {} {} overlapping).1.graph.nodes = ["A", "B", "I"] ∧
      (run {} {} overlapping.reverse).1.graph.nodes = ["B", "A", "I"] ∧
      (run {} {} overlapping).2 = [⟨1, 0, 1⟩, ⟨1, 0, 1⟩] ∧
      (run {} {} overlapping).1.SameStores (run {} {} overlapping.reverse).1 := by
  have hfree : ∀ f ∈ threeFacts, Text.occursIn arrow f.id = false := by decide +kernel
  have hcoherent : Coherent overlapping := by
    have hnodup : (threeFacts.map (·.id)).Nodup := by decide
    refine coherent_of_knowing hnodup ?_ ?_
    · exact fun f hf => arrowFree_iff.mpr (hfree f hf)
    · intro k hk f hf
      rcases List.mem_pair.mp hk with rfl | rfl
      · exact hf
      · exact List.mem_of_mem_take hf
  have hperm : overlapping.Perm overlapping.reverse := (List.reverse_perm overlapping).symm
  exact ⟨hcoherent, hperm, by decide +kernel, by decide +kernel, by decide +kernel,
    (order_is_irrelevant {} hcoherent hperm).1⟩

end Analysis

end Lineage
