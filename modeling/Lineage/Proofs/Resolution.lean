import Lineage.Facts.Catalog
import Lineage.Proofs.Adjoin

/-! # What a catalog answers

    A catalog answers for an id with the first declaration of it, in the order
    of the modules and of their types (`resolve_eq`), and with usable facts
    only.  Two consequences are what the analysis of a catalog rests on: facts
    come under their own id (`id_of_resolve`), and that id holds no arrow
    (`arrowFree_of_resolve`), so the ids of edges can be read back
    (`edgeId_inj`). -/

namespace Lineage

/-! ## Arrows in ids -/

/-- The id does not hold the arrow that joins the ends of an edge. -/
def ArrowFree (id : String) : Prop := ¬ arrow.toList <:+: id.toList

theorem arrowFree_iff {id : String} : ArrowFree id ↔ Text.occursIn arrow id = false := by
  rw [ArrowFree, ← Text.occurs_iff, Bool.not_eq_true]
  rfl

/-- Of two ways to cut a text at an arrow, the later one has an arrow before
    the cut: one that starts right at the earlier cut, since an arrow cannot
    start inside an arrow. -/
theorem eq_of_append_arrow {s m t t' : List Char} (hfree : ¬ ['-', '>'] <:+: s ++ m)
    (h : '-' :: '>' :: t = m ++ '-' :: '>' :: t') : m = [] ∧ t = t' := by
  cases m with
  | nil =>
      rw [List.nil_append] at h
      exact ⟨rfl, (List.cons.inj (List.cons.inj h).2).2⟩
  | cons c m =>
      exfalso
      obtain ⟨rfl, hrest⟩ := List.cons.inj h
      cases m with
      | nil =>
          -- the later cut would fall between the two characters of the arrow
          exact absurd (List.cons.inj hrest).1 (by decide)
      | cons c m =>
          obtain ⟨rfl, -⟩ := List.cons.inj hrest
          exact hfree ⟨s, m, by rw [List.append_assoc]; rfl⟩

/-- The id of an edge tells its ends, when their ids hold no arrow. -/
theorem edgeId_inj {s t s' t' : NodeId} (hs : ArrowFree s) (hs' : ArrowFree s')
    (h : edgeId s t = edgeId s' t') : s = s' ∧ t = t' := by
  have hchars : s.toList ++ '-' :: '>' :: t.toList = s'.toList ++ '-' :: '>' :: t'.toList := by
    have := congrArg String.toList h
    simpa [edgeId, arrow] using this
  -- one of the two sources is a first part of the other one
  rcases List.append_eq_append_iff.mp hchars with ⟨m, hm, hrest⟩ | ⟨m, hm, hrest⟩
  · obtain ⟨rfl, ht⟩ := eq_of_append_arrow (s := s.toList) (hm ▸ hs') hrest
    rw [List.append_nil] at hm
    exact ⟨String.toList_inj.mp hm.symm, String.toList_inj.mp ht⟩
  · obtain ⟨rfl, ht⟩ := eq_of_append_arrow (s := s'.toList) (hm ▸ hs) hrest
    rw [List.append_nil] at hm
    exact ⟨String.toList_inj.mp hm, String.toList_inj.mp ht.symm⟩

namespace Catalog

variable {ms : List ModuleFacts}

/-! ## First declarations -/

/-- All declared facts, in order of declaration. -/
def facts (ms : List ModuleFacts) : List TypeFact := ms.flatMap (·.types)

theorem declarations_map_fact (ms : List ModuleFacts) :
    (declarations ms).map (·.2.1) = facts ms := by
  have hgo : ∀ (ms : List ModuleFacts) (i : Nat),
      ((ms.zipIdx i).flatMap fun d =>
        d.1.types.zipIdx.map fun f => (d.1.name, f.1, (d.2, f.2))).map (·.2.1) = facts ms := by
    intro ms
    induction ms with
    | nil => intro i; rfl
    | cons m ms ih =>
        intro i
        rw [List.zipIdx_cons, List.flatMap_cons, List.map_append, ih, List.map_map]
        rw [show ((fun d : String × TypeFact × Place => d.2.1) ∘
          fun x : TypeFact × Nat => (m.name, x.1, (i, x.2))) = Prod.fst from rfl,
          List.zipIdx_map_fst]
        rfl
  exact hgo ms 0

/-- Every declaration is found at its place. -/
theorem factAt?_of_mem {d : String × TypeFact × Place} (h : d ∈ declarations ms) :
    (ofModules ms).factAt? d.2.2 = some d.2.1 := by
  obtain ⟨⟨m, i⟩, hm, h⟩ := List.mem_flatMap.mp h
  obtain ⟨⟨fact, j⟩, hfact, rfl⟩ := List.mem_map.mp h
  rw [List.mk_mem_zipIdx_iff_getElem?] at hm hfact
  show ms[i]? >>= (·.types[j]?) = some fact
  rw [hm]
  exact hfact

/-- The facts under an id are those of its first declaration. -/
theorem lookup_eq (ms : List ModuleFacts) (id : String) :
    ((ofModules ms).index[id]? >>= (ofModules ms).factAt?) = (facts ms).find? (·.id = id) := by
  have hindex : (ofModules ms).index[id]? =
      ((declarations ms).find? (·.2.1.id = id)).map (·.2.2) := by
    show (indexOf ms)[id]? = _
    rw [indexOf, getElem?_foldl_insertIfNew ∅ (declarations ms) (·.2.1.id) (·.2.2),
      Std.ExtTreeMap.getElem?_empty, Option.none_or]
  rw [hindex, ← declarations_map_fact, List.find?_map]
  cases hfind : (declarations ms).find? (·.2.1.id = id) with
  | none =>
      rw [show (declarations ms).find? ((fun f : TypeFact => decide (f.id = id)) ∘ (·.2.1)) =
        none from hfind]
      rfl
  | some d =>
      rw [show (declarations ms).find? ((fun f : TypeFact => decide (f.id = id)) ∘ (·.2.1)) =
        some d from hfind]
      exact factAt?_of_mem (List.mem_of_find?_eq_some hfind)

/-- Resolving an id checks its first declaration. -/
theorem resolve_eq (ms : List ModuleFacts) (id : String) :
    (ofModules ms).resolve id =
      match (facts ms).find? (·.id = id) with
      | none => .error (.unknownType id)
      | some fact =>
          match defect? fact with
          | some reason => .error (.malformedFact id reason)
          | none => .ok fact := by
  rw [← lookup_eq]
  rfl

/-! ## Usable facts -/

theorem resolve_eq_ok {id : String} {fact : TypeFact} :
    (ofModules ms).resolve id = .ok fact ↔
      (facts ms).find? (·.id = id) = some fact ∧ defect? fact = none := by
  rw [resolve_eq]
  cases (facts ms).find? (·.id = id) with
  | none => exact ⟨fun h => (nomatch h), fun h => (nomatch h.1)⟩
  | some fact' =>
      show (match defect? fact' with
        | some reason => Except.error (Failure.malformedFact id reason)
        | none => Except.ok fact') = _ ↔ _
      cases hd : defect? fact' with
      | some reason =>
          constructor
          · intro h
            exact nomatch h
          · rintro ⟨h, hno⟩
            rw [← Option.some.inj h, hd] at hno
            exact nomatch hno
      | none =>
          constructor
          · intro h
            obtain rfl := Except.ok.inj h
            exact ⟨rfl, hd⟩
          · rintro ⟨h, -⟩
            rw [Option.some.inj h]

theorem id_of_resolve {id : String} {fact : TypeFact} (h : (ofModules ms).resolve id = .ok fact) :
    fact.id = id := by
  simpa using List.find?_some (resolve_eq_ok.mp h).1

theorem mem_facts_of_resolve {id : String} {fact : TypeFact}
    (h : (ofModules ms).resolve id = .ok fact) : fact ∈ facts ms :=
  List.mem_of_find?_eq_some (resolve_eq_ok.mp h).1

theorem arrowFree_of_defect? {fact : TypeFact} (h : defect? fact = none) : ArrowFree fact.id := by
  rw [arrowFree_iff, ← Bool.not_eq_true]
  intro harrow
  rw [defect?] at h
  cases hl : fact.loadError? with
  | some reason =>
      rw [hl] at h
      exact nomatch h
  | none =>
      rw [hl] at h
      simp only [harrow, if_true] at h
      split at h
      · exact nomatch h
      · exact nomatch h

/-- What a catalog answers for has no arrow in its id. -/
theorem arrowFree_of_resolve {id : String} {fact : TypeFact}
    (h : (ofModules ms).resolve id = .ok fact) : ArrowFree id :=
  id_of_resolve h ▸ arrowFree_of_defect? (resolve_eq_ok.mp h).2

end Catalog

end Lineage
