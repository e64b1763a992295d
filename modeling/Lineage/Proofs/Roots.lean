import Lineage.Proofs.Outcome

/-! # Roots as targets of edges

    A root is told by its id, and it is looked for in one place: when the base
    of a type is resolved.  So no type derives from a root.  The interfaces of a
    type are not held against the list of roots, and a root that is listed there
    is treated like any other interface (`Options.implements_root_iff`).

    The headline, `roots_as_targets`, says of the graph of a catalog which edges
    point at roots, and what it takes that none does. -/

namespace Lineage

namespace Options

/-- A type that takes part lists the interface itself, its base does not list
    it, and the interface can be used and is not ignored. -/
def Lists (o : Options) (r : Resolver) (source target : NodeId) : Prop :=
  ∃ fact, r source = .ok fact ∧ o.Accepts r fact ∧ target ∈ fact.interfaces ∧
    ¬ o.Inherits r fact target ∧ o.Shows r target

variable {o : Options} {r : Resolver} {s t : NodeId}

/-- No type derives from a root. -/
theorem Derives.not_root (h : o.Derives r s t) : o.isRoot t = false := by
  obtain ⟨fact, -, -, -, hroot, -⟩ := h
  exact hroot

/-- A root that is listed as an interface is implemented, the base of the type
    or not: as a base it would have been passed over. -/
theorem implements_root_iff (hroot : o.isRoot t = true) : o.Implements r s t ↔ o.Lists r s t := by
  constructor
  · rintro ⟨fact, hfact, hacc, hlisted, hown, hshown, -⟩
    exact ⟨fact, hfact, hacc, hlisted, hown, hshown⟩
  · rintro ⟨fact, hfact, hacc, hlisted, hown, hshown⟩
    refine ⟨fact, hfact, hacc, hlisted, hown, hshown, ?_⟩
    rintro ⟨-, hno⟩
    exact nomatch hroot.symm.trans hno

/-- A type is related to a root in one way only. -/
theorem relates_root_iff (hroot : o.isRoot t = true) :
    (∃ kind, o.Relates r kind s t) ↔ o.Lists r s t := by
  rw [← implements_root_iff hroot]
  constructor
  · rintro ⟨kind, hrel⟩
    cases kind with
    | derivesFrom => exact nomatch hroot.symm.trans (Derives.not_root hrel)
    | implements => exact hrel
  · intro himplements
    exact ⟨.implements, himplements⟩

end Options

namespace Analysis

/-- What an analysis makes of roots: nothing derives from one, one is
    implemented by the types that list it as an interface of their own, and no
    edge points at any if no such type is there. -/
structure TargetsRoots (a : Analysis) (o : Options) (r : Resolver) : Prop where
  not_derived : ∀ s t, a.HasEdge .derivesFrom s t → o.isRoot t = false
  implemented_iff : ∀ s t, o.isRoot t = true → (a.HasEdge .implements s t ↔ o.Lists r s t)
  edge_iff : ∀ e, o.isRoot e.target = true → (e ∈ a.graph.edges ↔ o.Lists r e.source e.target)
  spared_iff : (∀ e ∈ a.graph.edges, o.isRoot e.target = false) ↔
    ∀ s t, o.Lists r s t → o.isRoot t = false

/-- **Roots are targets as interfaces only.**  In the graph of a catalog no edge
    of a derivation points at a root, whatever the facts say.  An edge to an
    interface points at a root just when its source takes part and lists the
    root, its base does not, and the root is not left out.  So no edge at all
    points at a root exactly if no type that takes part lists one like that. -/
theorem roots_as_targets (o : Options) (ms : List ModuleFacts) :
    (Inspection.ofCatalog o (.ofModules ms)).value.analysis.TargetsRoots o
      (Catalog.ofModules ms).resolve := by
  have hhas := hasEdge_ofModules o ms
  have hmem : ∀ e, o.isRoot e.target = true →
      (e ∈ (ofSources o (Catalog.ofModules ms).sources).graph.edges ↔
        o.Lists (Catalog.ofModules ms).resolve e.source e.target) := by
    intro e hroot
    rw [mem_edges_ofModules, Options.relates_root_iff hroot]
  rw [Inspection.ofCatalog_analysis]
  refine ⟨?_, ?_, hmem, ?_⟩
  · intro s t h
    exact Options.Derives.not_root ((hhas .derivesFrom s t).mp h)
  · intro s t hroot
    exact (hhas .implements s t).trans (Options.implements_root_iff hroot)
  · constructor
    · intro hspared s t hlists
      by_contra hroot
      rw [Bool.not_eq_false] at hroot
      exact nomatch hroot.symm.trans (hspared ⟨s, t⟩ ((hmem ⟨s, t⟩ hroot).mpr hlists))
    · intro hspared e he
      by_contra hroot
      rw [Bool.not_eq_false] at hroot
      exact nomatch hroot.symm.trans (hspared e.source e.target ((hmem e hroot).mp he))

/-- A type with a root for its base, and one that lists the root as well. -/
def rooted : List ModuleFacts :=
  [{ name := "m", types := [
    { id := "N.R", name := "R", space? := some "N" },
    { id := "N.A", name := "A", space? := some "N", base? := some "N.R" },
    { id := "N.B", name := "B", space? := some "N", base? := some "N.R",
      interfaces := ["N.R"] }] }]

/-- The type that lists the root gets the one edge there is, as the theorem
    says of it, and not every edge spares the root. -/
theorem listed_root_is_target :
    (Inspection.ofCatalog { roots := ["N.R"] } (.ofModules rooted)).value.graph.edges =
        [⟨"N.B", "N.R"⟩] ∧
      Options.Lists { roots := ["N.R"] } (Catalog.ofModules rooted).resolve "N.B" "N.R" ∧
      ¬ ∀ e ∈ (Inspection.ofCatalog { roots := ["N.R"] } (.ofModules rooted)).value.graph.edges,
        Options.isRoot { roots := ["N.R"] } e.target = false := by
  have hroot : Options.isRoot { roots := ["N.R"] } "N.R" = true := by decide
  have hedges : (Inspection.ofCatalog { roots := ["N.R"] } (.ofModules rooted)).value.graph.edges =
      [⟨"N.B", "N.R"⟩] := by decide +kernel
  have htargets := roots_as_targets { roots := ["N.R"] } rooted
  have hlists := (htargets.edge_iff ⟨"N.B", "N.R"⟩ hroot).mp (hedges ▸ List.mem_cons_self)
  refine ⟨hedges, hlists, fun hspared => ?_⟩
  exact nomatch hroot.symm.trans (htargets.spared_iff.mp hspared "N.B" "N.R" hlists)

end Analysis

end Lineage
