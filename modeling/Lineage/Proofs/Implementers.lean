import Lineage.Proofs.Answers
import Lineage.Proofs.Fates
import Mathlib.Data.Set.Finite.Basic

/-! # Which implementers a neighborhood has

    A type gets no edge to an interface that its base lists as well: the base
    is to carry it.  So an interface that a type lists is handed from base to
    base (`LeavesTo`), and some base must be the one with the edge.

    That fails in two ways.  The base may take no part, as when its namespace
    is excluded or its own base is missing, and then it has no edges at all; or
    the bases may go round in a circle, and then each leaves the interface to
    the next.  In both the interface is lost on the way (`Loses`).  These are
    the only ways (`carries_iff_not_loses`): from a type that does not lose the
    interface, edges to bases lead to a type with an edge to it.  The headline,
    `implementers_unless_lost`, says what this means for the neighborhoods of
    interfaces. -/

namespace Lineage

/-- By a relation, the edges to bases lead from a type to an interface, or to a
    type with an edge to the interface. -/
def Carries (relates : EdgeKind → NodeId → NodeId → Prop) (t i : NodeId) : Prop :=
  ∃ u, Relation.ReflTransGen (relates .derivesFrom) t u ∧ (u = i ∨ relates .implements u i)

/-- The facts of a type list the interface. -/
def Resolver.Lists (r : Resolver) (t i : NodeId) : Prop :=
  ∃ fact, r t = .ok fact ∧ i ∈ fact.interfaces

namespace Options

section Losing

variable (o : Options) (r : Resolver) (i : NodeId)

/-- The type has a base other than a root that lists the interface, and is not
    the interface itself. -/
def LeavesTo (t b : NodeId) : Prop :=
  t ≠ i ∧ ∃ fact, r t = .ok fact ∧ fact.base? = some b ∧ o.isRoot b = false ∧ r.Lists b i

/-- The interface is left to a type that takes no part, or it goes round in a
    circle of bases. -/
def Loses (t : NodeId) : Prop :=
  ∃ u, Relation.ReflTransGen (o.LeavesTo r i) t u ∧ u ≠ i ∧
    (¬ o.Accepted r u ∨ Relation.TransGen (o.LeavesTo r i) u u)

end Losing

variable {o : Options} {r : Resolver} {i t b : NodeId}

theorem LeavesTo.eq_of_derives {b' : NodeId} (h : o.LeavesTo r i t b) (h' : o.Derives r t b') :
    b = b' := by
  obtain ⟨-, fact, hfact, hbase, -, -⟩ := h
  obtain ⟨fact', hfact', -, hbase', -, -⟩ := h'
  obtain rfl := Except.ok.inj (hfact.symm.trans hfact')
  exact Option.some.inj (hbase.symm.trans hbase')

theorem LeavesTo.inherits (h : o.LeavesTo r i t b) {fact : TypeFact} (hfact : r t = .ok fact) :
    o.Inherits r fact i := by
  obtain ⟨-, fact', hfact', hbase, hroot, f, hf, hi⟩ := h
  obtain rfl := Except.ok.inj (hfact.symm.trans hfact')
  exact ⟨b, f, hbase, hroot, hf, hi⟩

theorem LeavesTo.lists (h : o.LeavesTo r i t b) : r.Lists b i := by
  obtain ⟨-, -, -, -, -, hlists⟩ := h
  exact hlists

/-- What loses an interface takes no part, or leaves it to what loses it. -/
theorem Loses.unfold (h : o.Loses r i t) :
    t ≠ i ∧ (¬ o.Accepted r t ∨ ∃ b, o.LeavesTo r i t b ∧ o.Loses r i b) := by
  obtain ⟨u, hchain, hu, hend⟩ := h
  cases hchain using Relation.ReflTransGen.head_induction_on with
  | refl =>
      refine ⟨hu, hend.imp_right fun hcircle => ?_⟩
      -- once around the circle, the interface is lost at the same place
      obtain ⟨b, hleaves, hback⟩ := Relation.TransGen.head'_iff.mp hcircle
      exact ⟨b, hleaves, t, hback, hu, Or.inr hcircle⟩
  | head hleaves hrest => exact ⟨hleaves.1, Or.inr ⟨_, hleaves, u, hrest, hu, hend⟩⟩

/-- What edges carry is not lost on the way. -/
theorem not_loses_of_carries (h : Carries (o.Relates r) t i) : ¬ o.Loses r i t := by
  obtain ⟨u, hchain, hu⟩ := h
  -- the edges lead to where the interface is left to, so both go the same way up
  induction hchain using Relation.ReflTransGen.head_induction_on with
  | refl =>
      intro hloses
      obtain ⟨hne, hnext⟩ := hloses.unfold
      rcases hu with rfl | himplements
      · exact hne rfl
      · obtain ⟨fact, hfact, hacc, -, hown, -⟩ := himplements
        rcases hnext with hno | ⟨b, hleaves, -⟩
        · exact hno ⟨fact, hfact, hacc⟩
        · exact hown (hleaves.inherits hfact)
  | head hderives _ ih =>
      intro hloses
      obtain ⟨-, hno | ⟨b, hleaves, hb⟩⟩ := hloses.unfold
      · obtain ⟨fact, hfact, hacc, -⟩ := hderives
        exact hno ⟨fact, hfact, hacc⟩
      · exact ih (hleaves.eq_of_derives hderives ▸ hb)

theorem Accepted.shows (h : o.Accepted r t) : o.Shows r t := by
  obtain ⟨fact, hfact, hacc⟩ := h
  exact ⟨fact, hfact, hacc.shown⟩

/-- A type that takes part and lists the interface has it carried, if its base
    has whenever the interface is left to that. -/
theorem carries_step (hi : o.Shows r i) (hacc : o.Accepted r t) (hne : t ≠ i)
    (hlists : r.Lists t i)
    (hbase : ∀ b, o.LeavesTo r i t b → o.Shows r b ∧ Carries (o.Relates r) b i) :
    Carries (o.Relates r) t i := by
  obtain ⟨fact, hfact, hmem⟩ := hlists
  obtain ⟨fact', hfact', haccepts⟩ := hacc
  obtain rfl := Except.ok.inj (hfact.symm.trans hfact')
  by_cases hinherits : o.Inherits r fact i
  · obtain ⟨b, f, hb, hroot, hf, hlisted⟩ := hinherits
    obtain ⟨hshown, u, hchain, hu⟩ := hbase b ⟨hne, fact, hfact, hb, hroot, f, hf, hlisted⟩
    exact ⟨u, .head ⟨fact, hfact, haccepts, hb, hroot, hshown⟩ hchain, hu⟩
  · by_cases hderives : fact.base? = some i ∧ o.isRoot i = false
    · exact ⟨i, .single ⟨fact, hfact, haccepts, hderives.1, hderives.2, hi⟩, Or.inl rfl⟩
    · exact ⟨t, .refl, Or.inr ⟨fact, hfact, haccepts, hmem, hinherits, hi, hderives⟩⟩

/-- Handing an interface from base to base ends, unless it is lost: there are
    finitely many types, and no circle. -/
theorem wellFounded_leavesTo (hfinite : {u | ∃ fact, r u = .ok fact}.Finite)
    (hloses : ¬ o.Loses r i t) :
    WellFounded fun b u : {u // Relation.ReflTransGen (o.LeavesTo r i) t u} =>
      o.LeavesTo r i u b := by
  -- whatever the interface is left to resolves
  have hsome : {u | Relation.ReflTransGen (o.LeavesTo r i) t u}.Finite := by
    refine (hfinite.insert t).subset fun u hu => ?_
    rcases Relation.ReflTransGen.cases_tail hu with rfl | ⟨_, -, -, -, -, -, -, fact, hfact, -⟩
    · exact Or.inl rfl
    · exact Or.inr ⟨fact, hfact⟩
  have : Finite {u // Relation.ReflTransGen (o.LeavesTo r i) t u} := hsome
  let back := fun b u : {u // Relation.ReflTransGen (o.LeavesTo r i) t u} => o.LeavesTo r i u b
  have hirrefl : Std.Irrefl (Relation.TransGen back) := by
    refine ⟨fun u hcircle => ?_⟩
    have hcircle' : Relation.TransGen (o.LeavesTo r i) u u :=
      Relation.TransGen.lift Subtype.val (fun _ _ h => h) _ _ (Relation.transGen_swap.mp hcircle)
    obtain ⟨b, hleaves, -⟩ := Relation.TransGen.head'_iff.mp hcircle'
    exact hloses ⟨u, u.2, hleaves.1, Or.inr hcircle'⟩
  have hwf : WellFounded (Relation.TransGen back) := Finite.wellFounded_of_trans_of_irrefl _
  exact Subrelation.wf (r := Relation.TransGen back) (fun h => Relation.TransGen.single h) hwf

/-- **Carried or lost.**  Of an interface that a type lists, the edges to bases
    lead to it just when it is not lost on the way. -/
theorem carries_iff_not_loses (hfinite : {u | ∃ fact, r u = .ok fact}.Finite) (hi : o.Shows r i)
    (hlists : r.Lists t i) : Carries (o.Relates r) t i ↔ ¬ o.Loses r i t := by
  refine ⟨not_loses_of_carries, fun hloses => ?_⟩
  have htakes : ∀ u, Relation.ReflTransGen (o.LeavesTo r i) t u → u ≠ i → o.Accepted r u := by
    intro u hchain hu
    by_contra hno
    exact hloses ⟨u, hchain, hu, Or.inl hno⟩
  -- from the last base down, each type hands on what its base has
  have hall : ∀ u : {u // Relation.ReflTransGen (o.LeavesTo r i) t u},
      r.Lists u i → Carries (o.Relates r) u i := by
    intro u
    induction u using (wellFounded_leavesTo hfinite hloses).induction with
    | _ u ih =>
        intro hlisted
        by_cases hu : u.1 = i
        · exact ⟨u, .refl, Or.inl hu⟩
        · refine carries_step hi (htakes u u.2 hu) hu hlisted fun b hleaves => ?_
          have hchain := u.2.tail hleaves
          refine ⟨?_, ih ⟨b, hchain⟩ hleaves hleaves.lists⟩
          -- the base is the interface itself, or takes part
          by_cases hb : b = i
          · exact hb ▸ hi
          · exact (htakes b hchain hb).shows
  exact hall ⟨t, .refl⟩ hlists

end Options

namespace Catalog

theorem finite_resolved (ms : List ModuleFacts) :
    {u | ∃ fact, (ofModules ms).resolve u = .ok fact}.Finite := by
  refine ((facts ms).map (·.id)).finite_toSet.subset ?_
  rintro u ⟨fact, hfact⟩
  exact List.mem_map.mpr ⟨fact, mem_facts_of_resolve hfact, id_of_resolve hfact⟩

end Catalog

namespace Analysis

theorem hasEdge_eq (o : Options) (ms : List ModuleFacts) :
    (ofSources o (Catalog.ofModules ms).sources).HasEdge =
      o.Relates (Catalog.ofModules ms).resolve := by
  funext kind s t
  exact propext (hasEdge_ofModules o ms kind s t)

/-- Edges that carry an interface make a path to it. -/
theorem reaches_of_carries {a : Analysis} {t i : NodeId} (h : Carries a.HasEdge t i) :
    a.graph.Reaches t i := by
  obtain ⟨u, hchain, hu⟩ := h
  have hpath : a.graph.Reaches t u :=
    Relation.ReflTransGen.mono (fun _ _ hedge => hedge.1) _ _ hchain
  rcases hu with rfl | hedge
  · exact hpath
  · exact hpath.tail hedge.1

end Analysis

namespace Inspection

/-- **A neighborhood misses no implementer but for lost interfaces.**  Let a
    type that takes part list an interface that is a node.  The neighborhood of
    the interface can be collected, and has the type unless, from base to base,
    the interface is left to a type that takes no part or goes round in a
    circle.  Just then no edges to bases lead to the interface. -/
theorem implementers_unless_lost (o : Options) (ms : List ModuleFacts) {src : FactSource}
    (hsrc : src ∈ (Catalog.ofModules ms).sources) {t i : NodeId}
    (htaken : o.fate src t = .takenUp) (hlists : Resolver.Lists src.resolve t i)
    (hi : i ∈ (ofCatalog o (.ofModules ms)).value.graph.nodes) (clusterByNamespace : Bool) :
    ∃ d : Document,
      ((ofCatalog o (.ofModules ms)).value.document i clusterByNamespace).verdict = .ok d ∧
        (¬ o.Loses src.resolve i t → t ∈ d.ids) ∧
        (Carries (ofCatalog o (.ofModules ms)).value.analysis.HasEdge t i ↔
          ¬ o.Loses src.resolve i t) := by
  obtain ⟨d, hpart, -, hd⟩ :=
    exists_neighborhood (agrees_ofCatalog o (.ofModules ms)) hi clusterByNamespace
  rw [Options.fate_eq_takenUp] at htaken
  rw [Catalog.resolve_of_mem_sources hsrc] at htaken hlists ⊢
  have hshown : o.Shows (Catalog.ofModules ms).resolve i := by
    rcases (mem_nodes_ofCatalog o ms i).mp hi with hacc | ⟨kind, s, hrel⟩
    · exact hacc.shows
    · exact hrel.shown
  have hcarries : Carries (ofCatalog o (.ofModules ms)).value.analysis.HasEdge t i ↔
      ¬ o.Loses (Catalog.ofModules ms).resolve i t := by
    rw [ofCatalog_analysis, Analysis.hasEdge_eq]
    exact Options.carries_iff_not_loses (Catalog.finite_resolved ms) hshown hlists
  refine ⟨d.decorate clusterByNamespace, hd, fun hkept => ?_, hcarries⟩
  rw [Document.ids_decorate, hpart.mem_ids]
  exact ⟨(mem_nodes_ofCatalog o ms t).mpr (Or.inl htaken),
    Analysis.reaches_of_carries (hcarries.mpr hkept)⟩

/-- An interface, a type that lists it, and a base in between that lists it too
    and is of another namespace. -/
def foreignBase : List ModuleFacts :=
  [{ name := "m", types := [
    { id := "N.I", name := "I", space? := some "N" },
    { id := "H.B", name := "B", space? := some "H", interfaces := ["N.I"] },
    { id := "N.T", name := "T", space? := some "N", base? := some "H.B",
      interfaces := ["N.I"] }] }]

/-- The other namespace is excluded. -/
def withoutForeign : Options := { exclude? := some ⟨"^H$", (· == "H")⟩ }

/-- The interface is left to the excluded base, so the type that implements it
    is not in its neighborhood. -/
theorem excluded_base_loses_implementer :
    (∀ src ∈ (Catalog.ofModules foreignBase).sources,
        withoutForeign.fate src "N.T" = .takenUp ∧ Resolver.Lists src.resolve "N.T" "N.I") ∧
      "N.I" ∈ (ofCatalog withoutForeign (.ofModules foreignBase)).value.graph.nodes ∧
      ∃ d : Document,
        ((ofCatalog withoutForeign (.ofModules foreignBase)).value.document "N.I" false).verdict =
            .ok d ∧
          "N.T" ∉ d.ids ∧
          ¬ Carries (ofCatalog withoutForeign (.ofModules foreignBase)).value.analysis.HasEdge
            "N.T" "N.I" := by
  have hfates : ∀ src ∈ (Catalog.ofModules foreignBase).sources,
      withoutForeign.fate src "N.T" = .takenUp ∧ Resolver.Lists src.resolve "N.T" "N.I" ∧
        withoutForeign.Loses src.resolve "N.I" "N.T" := by
    intro src hsrc
    obtain ⟨m, hm, rfl⟩ := List.mem_map.mp hsrc
    obtain rfl := List.mem_singleton.mp hm
    have hresolve : ∀ f ∈ Catalog.facts foreignBase,
        (Catalog.ofModules foreignBase).resolve f.id = .ok f := by decide +kernel
    have hB := hresolve _ (List.mem_cons_of_mem _ List.mem_cons_self)
    have hT := hresolve _ (List.mem_cons_of_mem _ (List.mem_cons_of_mem _ List.mem_cons_self))
    refine ⟨by decide +kernel, ⟨_, hT, by decide⟩, "H.B", ?_, by decide, Or.inl ?_⟩
    · exact .single ⟨by decide, _, hT, rfl, by decide, _, hB, by decide⟩
    · -- the exclusion keeps the base out
      rintro ⟨fact, hfact, hacc⟩
      obtain rfl := Except.ok.inj (hB.symm.trans hfact)
      exact absurd hacc.shown (by decide)
  have hnode : "N.I" ∈ (ofCatalog withoutForeign (.ofModules foreignBase)).value.graph.nodes := by
    decide +kernel
  have hids : ((ofCatalog withoutForeign (.ofModules foreignBase)).value.document "N.I"
      false).verdict.map (·.ids) = .ok ["N.I"] := by decide +kernel
  have hsrc : (Catalog.ofModules foreignBase).sources ≠ [] := List.cons_ne_nil _ _
  obtain ⟨src, hsrc⟩ := List.exists_mem_of_ne_nil _ hsrc
  obtain ⟨htaken, hlists, hloses⟩ := hfates src hsrc
  obtain ⟨d, hd, -, hcarries⟩ :=
    implementers_unless_lost withoutForeign foreignBase hsrc htaken hlists hnode false
  rw [hd] at hids
  refine ⟨fun src hsrc => ⟨(hfates src hsrc).1, (hfates src hsrc).2.1⟩, hnode, d, hd, ?_, ?_⟩
  · rw [show d.ids = ["N.I"] from Except.ok.inj hids]
    decide
  · exact fun h => hcarries.mp h hloses

end Inspection

end Lineage
