import Lineage.Proofs.Declaring
import Lineage.Proofs.Finding

/-! # Searching for a part of an id

    A search puts the pattern and the id into lower case by themselves.  A
    character of the pattern becomes the same in both, wherever the pattern
    stands, but for one: the capital sigma, which has a form of its own at the
    end of a word.  So an id can hold a pattern as it is written and still not
    be found.  This module says exactly when.

    * `lowerBy` is putting into lower case with the end of a word left open, and
      a text inside another one is put into lower case by it
      (`lowerChars_append`).
    * A sigma is `Settled` when the pattern alone tells whether it ends a word,
      and then it does so wherever the pattern stands (`finalWithin_eq`).
    * Otherwise one more letter before or after the pattern changes its form.
      That letter changes no other sigma the other way (`isFinal_of_after`,
      `finalWithin_of_before`), so a form gets rarer and the lower case of the
      pattern is not to be found anywhere (`not_infix_of_changed`).

    The headline is `literal_occurrences_found_iff`. -/

namespace Lineage

namespace Text

/-! ## The end of a word -/

/-- Whether a capital sigma between the given characters ends a word. -/
def isFinal (before after : List Char) : Bool := meetsCased before && !meetsCased after

/-- The lower case of a capital sigma. -/
def sigmaForm (final : Bool) : Char := if final then 'ς' else 'σ'

/-- Lower case, with the end of a word left to `final`. -/
def lowerBy (final : List Char → List Char → Bool) (before : List Char) : List Char → List Char
  | [] => []
  | c :: cs =>
      (if c = 'Σ' then [sigmaForm (final before cs)] else lowerBetween [] c []) ++
        lowerBy final (c :: before) cs

/-- Whether a capital sigma between the given characters ends a word, with more
    characters before and after these. -/
def finalWithin (front back before after : List Char) : Bool :=
  isFinal (before ++ front) (after ++ back)

theorem lowerBetween_eq (before : List Char) (c : Char) (after : List Char) :
    lowerBetween before c after =
      if c = 'Σ' then [sigmaForm (isFinal before after)] else lowerBetween [] c [] := by
  by_cases hc : c = 'Σ'
  · rw [if_pos hc, lowerBetween, if_pos hc, sigmaForm, isFinal]
    split <;> rfl
  · rw [if_neg hc, lowerBetween, lowerBetween, if_neg hc, if_neg hc]

/-- A text in the middle of another is put into lower case with an eye on what
    stands around it. -/
theorem lowerChars_append (front before cs back : List Char) :
    lowerChars (before ++ front) (cs ++ back) =
      lowerBy (finalWithin front back) before cs ++
        lowerChars (cs.reverse ++ (before ++ front)) back := by
  induction cs generalizing before with
  | nil => rfl
  | cons c cs ih =>
      rw [List.cons_append, lowerChars, lowerBy, lowerBetween_eq, ← List.cons_append, ih,
        ← List.append_assoc, List.reverse_cons, List.append_assoc cs.reverse]
      rfl

theorem lowerChars_eq_lowerBy (cs : List Char) : lowerChars [] cs = lowerBy isFinal [] cs := by
  have hall := lowerChars_append [] [] cs []
  have hfinal : finalWithin [] [] = isFinal := by
    funext before after
    rw [finalWithin, List.append_nil, List.append_nil]
  rw [hfinal, lowerChars, List.append_nil, List.append_nil, List.append_nil] at hall
  exact hall

/-! ## All sigmas of a text -/

/-- Something holds of every capital sigma of a text, given what stands before
    it, nearest first, and after it. -/
def EachSigma (holds : List Char → List Char → Prop) (before : List Char) : List Char → Prop
  | [] => True
  | c :: cs => (c = 'Σ' → holds before cs) ∧ EachSigma holds (c :: before) cs

instance EachSigma.decidable {holds : List Char → List Char → Prop}
    [∀ before after, Decidable (holds before after)] (before : List Char) :
    ∀ cs, Decidable (EachSigma holds before cs)
  | [] => inferInstanceAs (Decidable True)
  | c :: cs =>
      have : Decidable (EachSigma holds (c :: before) cs) := EachSigma.decidable (c :: before) cs
      inferInstanceAs (Decidable ((c = 'Σ' → holds before cs) ∧ _))

theorem EachSigma.imp {P Q : List Char → List Char → Prop} (h : ∀ before after, P before after →
    Q before after) {before cs : List Char} (hcs : EachSigma P before cs) :
    EachSigma Q before cs := by
  induction cs generalizing before with
  | nil => trivial
  | cons c cs ih => exact ⟨fun hc => h _ _ (hcs.1 hc), ih hcs.2⟩

theorem EachSigma.and {P Q : List Char → List Char → Prop} {before cs : List Char}
    (hP : EachSigma P before cs) (hQ : EachSigma Q before cs) :
    EachSigma (fun b a => P b a ∧ Q b a) before cs := by
  induction cs generalizing before with
  | nil => trivial
  | cons c cs ih => exact ⟨fun hc => ⟨hP.1 hc, hQ.1 hc⟩, ih hP.2 hQ.2⟩

section Comparing

variable {f g : List Char → List Char → Bool}

theorem lowerBy_congr {before cs : List Char}
    (h : EachSigma (fun b a => f b a = g b a) before cs) :
    lowerBy f before cs = lowerBy g before cs := by
  induction cs generalizing before with
  | nil => rfl
  | cons c cs ih =>
      rw [lowerBy, lowerBy, ih h.2]
      by_cases hc : c = 'Σ'
      · rw [if_pos hc, if_pos hc, h.1 hc]
      · rw [if_neg hc, if_neg hc]

theorem count_sigmaForm_le : ∀ {x y form : Bool}, (x = form → y = form) →
    [sigmaForm x].count (sigmaForm form) ≤ [sigmaForm y].count (sigmaForm form) := by
  decide

theorem count_sigmaForm_lt : ∀ {x y form : Bool}, (x = form → y = form) → x ≠ y →
    [sigmaForm x].count (sigmaForm form) < [sigmaForm y].count (sigmaForm form) := by
  decide

/-- If every sigma of one form has it in a second lower case too, then the form
    is no rarer there. -/
theorem count_lowerBy_le (form : Bool) (h : ∀ before after, f before after = form →
    g before after = form) (before cs : List Char) :
    (lowerBy f before cs).count (sigmaForm form) ≤ (lowerBy g before cs).count (sigmaForm form) := by
  induction cs generalizing before with
  | nil => exact Nat.le_refl _
  | cons c cs ih =>
      rw [lowerBy, lowerBy, List.count_append, List.count_append]
      refine Nat.add_le_add ?_ (ih (c :: before))
      by_cases hc : c = 'Σ'
      · rw [if_pos hc, if_pos hc]
        exact count_sigmaForm_le (h before cs)
      · rw [if_neg hc, if_neg hc]

/-- And if some sigma has it in the second one only, then it is rarer in the
    first. -/
theorem count_lowerBy_lt (form : Bool) (h : ∀ before after, f before after = form →
    g before after = form) {before cs : List Char}
    (hsome : ¬ EachSigma (fun b a => f b a = g b a) before cs) :
    (lowerBy f before cs).count (sigmaForm form) < (lowerBy g before cs).count (sigmaForm form) := by
  induction cs generalizing before with
  | nil => exact absurd trivial hsome
  | cons c cs ih =>
      rw [lowerBy, lowerBy, List.count_append, List.count_append]
      by_cases hrest : EachSigma (fun b a => f b a = g b a) (c :: before) cs
      · -- the rest is the same in both, so this character is the sigma in question
        have hhere : c = 'Σ' ∧ f before cs ≠ g before cs := by
          by_contra hno
          exact hsome ⟨fun hc => by_contra fun hne => hno ⟨hc, hne⟩, hrest⟩
        rw [if_pos hhere.1, if_pos hhere.1]
        exact Nat.add_lt_add_of_lt_of_le (count_sigmaForm_lt (h before cs) hhere.2)
          (count_lowerBy_le form h _ _)
      · refine Nat.add_lt_add_of_le_of_lt ?_ (ih hrest)
        by_cases hc : c = 'Σ'
        · rw [if_pos hc, if_pos hc]
          exact count_sigmaForm_le (h before cs)
        · rw [if_neg hc, if_neg hc]

end Comparing

/-! ## Settled sigmas -/

theorem meetsCased_append (cs ds : List Char) : meetsCased (cs ++ ds) =
    if cs.all Unicode.isCaseIgnorable then meetsCased ds else meetsCased cs := by
  by_cases hall : cs.all Unicode.isCaseIgnorable = true
  · rw [if_pos hall, meetsCased, List.dropWhile_append,
      List.dropWhile_eq_nil_iff.mpr (List.all_eq_true.mp hall)]
    rfl
  · rw [if_neg hall, meetsCased, meetsCased, List.dropWhile_append]
    cases hrest : cs.dropWhile Unicode.isCaseIgnorable with
    | nil => exact absurd (List.all_eq_true.mpr (List.dropWhile_eq_nil_iff.mp hrest)) hall
    | cons c rest => rfl

theorem meetsCased_of_ignorable {cs : List Char} (h : cs.all Unicode.isCaseIgnorable = true) :
    meetsCased cs = false := by
  rw [meetsCased, List.dropWhile_eq_nil_iff.mpr (List.all_eq_true.mp h)]

/-- What stands before and after a capital sigma settles its form: behind a cased
    character, not all that follows is ignorable; and where all that precedes is
    ignorable, a cased character follows. -/
structure Settled (before after : List Char) : Prop where
  ends : ¬ (meetsCased before = true ∧ after.all Unicode.isCaseIgnorable = true)
  goes_on : ¬ (before.all Unicode.isCaseIgnorable = true ∧ meetsCased after = false)

instance (before after : List Char) : Decidable (Settled before after) :=
  decidable_of_iff (¬ (meetsCased before = true ∧ after.all Unicode.isCaseIgnorable = true) ∧
      ¬ (before.all Unicode.isCaseIgnorable = true ∧ meetsCased after = false))
    ⟨fun h => ⟨h.1, h.2⟩, fun h => ⟨h.ends, h.goes_on⟩⟩

/-- The form of a settled sigma is the same wherever it stands. -/
theorem finalWithin_eq {before after : List Char} (h : Settled before after)
    (front back : List Char) : finalWithin front back before after = isFinal before after := by
  rw [finalWithin, isFinal, isFinal, meetsCased_append, meetsCased_append]
  obtain ⟨hends, hgoes⟩ := h
  by_cases hb : before.all Unicode.isCaseIgnorable = true
  · have hcased : meetsCased after = true := by simpa [hb] using hgoes
    have ha : ¬ after.all Unicode.isCaseIgnorable = true := fun ha =>
      nomatch hcased.symm.trans (meetsCased_of_ignorable ha)
    rw [if_neg ha, hcased]
    simp
  · rw [if_neg hb]
    by_cases ha : after.all Unicode.isCaseIgnorable = true
    · have hcased : meetsCased before = false := by simpa [ha] using hends
      rw [hcased, Bool.false_and, Bool.false_and]
    · rw [if_neg ha]

/-- A letter after a text can only keep a sigma from ending a word. -/
theorem isFinal_of_after {before after : List Char}
    (h : finalWithin [] ['a'] before after = true) : isFinal before after = true := by
  rw [finalWithin, isFinal, List.append_nil, meetsCased_append, Bool.and_eq_true,
    Bool.not_eq_true'] at h
  rw [isFinal, h.1]
  by_cases ha : after.all Unicode.isCaseIgnorable = true
  · rw [meetsCased_of_ignorable ha]
    rfl
  · rw [if_neg ha] at h
    rw [h.2]
    rfl

/-- A letter before a text can only make a sigma end a word. -/
theorem finalWithin_of_before {before after : List Char}
    (h : finalWithin ['a'] [] before after = false) : isFinal before after = false := by
  rw [finalWithin, isFinal, List.append_nil, meetsCased_append] at h
  rw [isFinal]
  by_cases hb : before.all Unicode.isCaseIgnorable = true
  · rw [meetsCased_of_ignorable hb, Bool.false_and]
  · rw [if_neg hb] at h
    exact h

/-- One letter changes the form of a sigma that is not settled. -/
theorem settled_of_kept {before after : List Char}
    (hafter : finalWithin [] ['a'] before after = isFinal before after)
    (hbefore : finalWithin ['a'] [] before after = isFinal before after) :
    Settled before after where
  ends := by
    rintro ⟨hcased, hall⟩
    rw [finalWithin, isFinal, isFinal, List.append_nil, meetsCased_append, if_pos hall, hcased,
      meetsCased_of_ignorable hall] at hafter
    exact absurd hafter (by decide)
  goes_on := by
    rintro ⟨hall, hcased⟩
    rw [finalWithin, isFinal, isFinal, List.append_nil, meetsCased_append, if_pos hall, hcased,
      meetsCased_of_ignorable hall] at hbefore
    exact absurd hbefore (by decide)

/-! ## Texts inside of texts -/

section Around

variable {front cs back : List Char}

theorem lowerChars_around (front cs back : List Char) :
    lowerChars [] (front ++ cs ++ back) =
      lowerBy (finalWithin [] (cs ++ back)) [] front ++
        lowerBy (finalWithin front.reverse back) [] cs ++
          lowerChars (cs.reverse ++ front.reverse) back := by
  have hfront := lowerChars_append [] [] front (cs ++ back)
  have hcs := lowerChars_append front.reverse [] cs back
  simp only [List.nil_append, List.append_nil] at hfront hcs
  rw [List.append_assoc, hfront, hcs, List.append_assoc]

/-- Every capital sigma of a text has the form, between characters before and
    after the text, that it has in the text alone. -/
def KeepsForms (front cs back : List Char) : Prop :=
  EachSigma (fun b a => finalWithin front.reverse back b a = isFinal b a) [] cs

/-- A text whose sigmas keep their forms is put into lower case as by itself. -/
theorem infix_of_kept (h : KeepsForms front cs back) :
    lowerChars [] cs <:+: lowerChars [] (front ++ cs ++ back) := by
  rw [lowerChars_around, lowerBy_congr h, ← lowerChars_eq_lowerBy]
  exact ⟨_, _, rfl⟩

/-- Where one form gets rarer, and does not come in from the sides either, the
    lower case of the text is gone. -/
theorem not_infix_of_changed (form : Bool)
    (h : ∀ before after, finalWithin front.reverse back before after = form →
      isFinal before after = form)
    (hsome : ¬ KeepsForms front cs back)
    (hfront : ∀ final, (lowerBy final [] front).count (sigmaForm form) = 0)
    (hback : ∀ before, (lowerChars before back).count (sigmaForm form) = 0) :
    ¬ lowerChars [] cs <:+: lowerChars [] (front ++ cs ++ back) := by
  intro hinfix
  have hle := hinfix.sublist.count_le (sigmaForm form)
  have hlt := count_lowerBy_lt form h hsome
  rw [lowerChars_around, List.count_append, List.count_append, hfront, hback, Nat.zero_add,
    Nat.add_zero, lowerChars_eq_lowerBy] at hle
  omega

/-- One letter stands before or after a text, and nothing else. -/
def OneLetter (front back : List Char) : Prop :=
  front = [] ∧ back = ['a'] ∨ front = ['a'] ∧ back = []

/-- A text with a sigma that is not settled can be lost by one letter. -/
theorem exists_lost (h : ¬ EachSigma Settled [] cs) :
    ∃ front back, OneLetter front back ∧
      ¬ lowerChars [] cs <:+: lowerChars [] (front ++ cs ++ back) := by
  by_cases hafter : KeepsForms [] cs ['a']
  · refine ⟨['a'], [], Or.inr ⟨rfl, rfl⟩, ?_⟩
    have hsome : ¬ KeepsForms ['a'] cs [] := by
      intro hbefore
      exact h ((hafter.and hbefore).imp fun _ _ hboth => settled_of_kept hboth.1 hboth.2)
    refine not_infix_of_changed false (fun _ _ => finalWithin_of_before) hsome ?_ fun _ => rfl
    intro final
    rfl
  · refine ⟨[], ['a'], Or.inl ⟨rfl, rfl⟩, ?_⟩
    refine not_infix_of_changed true (fun _ _ => isFinal_of_after) hafter (fun _ => rfl) ?_
    intro before
    rfl

/-- A letter beside a text makes no arrow. -/
theorem OneLetter.arrowFree (h : OneLetter front back) (hcs : ¬ arrow.toList <:+: cs) :
    ¬ arrow.toList <:+: front ++ cs ++ back := by
  rcases h with ⟨rfl, rfl⟩ | ⟨rfl, rfl⟩
  · rw [List.nil_append, List.infix_concat_iff, List.suffix_concat_iff]
    rintro ((harrow | ⟨ts, harrow, -⟩) | harrow)
    · exact nomatch harrow
    · exact absurd (congrArg List.getLast? harrow) (by simp [arrow])
    · exact hcs harrow
  · rw [List.append_nil, List.singleton_append, List.infix_cons_iff]
    rintro (harrow | harrow)
    · exact absurd (List.cons_prefix_cons.mp harrow).1 (by decide)
    · exact hcs harrow

/-- A text with a letter is not blank. -/
theorem OneLetter.not_blank (h : OneLetter front back) {text : String}
    (htext : text.toList = front ++ cs ++ back) : isBlank text = false := by
  rw [isBlank, htext, List.all_eq_false]
  refine ⟨'a', ?_, by decide⟩
  rcases h with ⟨rfl, rfl⟩ | ⟨rfl, rfl⟩
  · exact List.mem_append_right _ List.mem_cons_self
  · exact List.mem_append_left _ List.mem_cons_self

end Around

end Text

namespace Inspection

variable {i : Inspection} {pattern : String}

/-! ## Finding an id -/

/-- The search for the pattern gives the type of that id. -/
def Finds (i : Inspection) (pattern id : String) : Prop :=
  ∃ result, i.search pattern none = .ok result ∧ id ∈ result.items.map (·.id)

theorem finds_iff (h : Analysis.Agrees [] i.analysis) {id : NodeId} :
    i.Finds pattern id ↔ id ∈ i.graph.nodes ∧ Matches pattern id := by
  rw [Finds, search_eq h, ← (findsAll_found h pattern).ids]
  constructor
  · rintro ⟨result, hresult, hid⟩
    obtain rfl := Except.ok.inj hresult
    exact hid
  · intro hid
    exact ⟨_, rfl, hid⟩

theorem matches_iff {id : String} :
    Matches pattern id ↔ Text.lowerChars [] pattern.toList <:+: Text.lowerChars [] id.toList := by
  rw [Matches, Text.lowercase, Text.lowercase, String.toList_ofList, String.toList_ofList]

/-- One type of that id. -/
def lone (id : String) : List ModuleFacts :=
  [{ name := "m", types := [{ id, name := "T", space? := some "N" }] }]

/-- A type that is declared alone is a node, if its id is one that types may have. -/
theorem mem_nodes_lone {id : String} (hblank : Text.isBlank id = false) (hfree : ArrowFree id) :
    id ∈ (Inspection.ofCatalog {} (.ofModules (lone id))).value.graph.nodes := by
  have hresolve : (Catalog.ofModules (lone id)).resolve id =
      .ok { id, name := "T", space? := some "N" } := by
    refine Catalog.resolve_eq_ok.mpr ⟨?_, ?_⟩
    · simp [Catalog.facts, lone]
    · have hname : Text.isBlank "T" = false := by decide
      simp [Catalog.defect?, hblank, arrowFree_iff.mp hfree, hname]
  refine (mem_nodes_ofCatalog {} (lone id) id).mpr (Or.inl ⟨_, hresolve, ?_⟩)
  refine ⟨rfl, rfl, ?_, ?_⟩
  · rintro b ⟨⟩
  · intro i hi
    exact absurd hi List.not_mem_nil

theorem arrowFree_of_mem_nodes {o : Options} {ms : List ModuleFacts} {id : NodeId}
    (h : id ∈ (Inspection.ofCatalog o (.ofModules ms)).value.graph.nodes) : ArrowFree id := by
  rw [graph, ofCatalog_analysis] at h
  obtain ⟨fact, hfact⟩ := Analysis.resolves_of_mem_nodes h
  exact Catalog.arrowFree_of_resolve hfact

/-- **A search finds a literal occurrence when the capital sigmas keep their
    forms there.**  A pattern is found wherever it occurs in an id as written,
    if each of its capital sigmas is settled, as is always so when it has none;
    and of any other pattern that can occur at all, some type has it in its id
    and is not found by it. -/
theorem literal_occurrences_found_iff (pattern : String) :
    (∀ (o : Options) (ms : List ModuleFacts),
      ∀ id ∈ (Inspection.ofCatalog o (.ofModules ms)).value.graph.nodes, ∀ front back,
        id.toList = front ++ pattern.toList ++ back →
          Text.KeepsForms front pattern.toList back →
            (Inspection.ofCatalog o (.ofModules ms)).value.Finds pattern id) ∧
    ((∀ (o : Options) (ms : List ModuleFacts),
      ∀ id ∈ (Inspection.ofCatalog o (.ofModules ms)).value.graph.nodes,
        pattern.toList <:+: id.toList →
          (Inspection.ofCatalog o (.ofModules ms)).value.Finds pattern id) ↔
      (ArrowFree pattern → Text.EachSigma Text.Settled [] pattern.toList)) := by
  have hkept : ∀ (o : Options) (ms : List ModuleFacts),
      ∀ id ∈ (Inspection.ofCatalog o (.ofModules ms)).value.graph.nodes, ∀ front back,
        id.toList = front ++ pattern.toList ++ back →
          Text.KeepsForms front pattern.toList back →
            (Inspection.ofCatalog o (.ofModules ms)).value.Finds pattern id := by
    intro o ms id hid front back heq hforms
    refine (finds_iff (agrees_ofCatalog o (.ofModules ms))).mpr ⟨hid, matches_iff.mpr ?_⟩
    rw [heq]
    exact Text.infix_of_kept hforms
  refine ⟨hkept, ?_, ?_⟩
  · intro hall hfree
    by_contra hsettled
    obtain ⟨front, back, hletter, hlost⟩ := Text.exists_lost hsettled
    obtain ⟨id, hid⟩ : ∃ id : String, id.toList = front ++ pattern.toList ++ back :=
      ⟨_, String.toList_ofList⟩
    have hidFree : ArrowFree id := by
      rw [ArrowFree, hid]
      exact hletter.arrowFree hfree
    have hnode := mem_nodes_lone (hletter.not_blank hid) hidFree
    have hfinds := hall {} (lone id) id hnode ⟨front, back, hid.symm⟩
    have hmatches := matches_iff.mp ((finds_iff (agrees_ofCatalog {} _)).mp hfinds).2
    rw [hid] at hmatches
    exact hlost hmatches
  · intro hsettled o ms id hid hinfix
    obtain ⟨front, back, heq⟩ := hinfix
    -- a node holds no arrow, so what occurs in it holds none
    have hfree : ArrowFree pattern := fun harrow =>
      arrowFree_of_mem_nodes hid (harrow.trans ⟨front, back, heq⟩)
    refine hkept o ms id hid front back heq.symm ?_
    exact (hsettled hfree).imp fun _ _ h => Text.finalWithin_eq h _ _

/-- The lower case of the pattern ends in a final sigma, which the id has none
    of; where the sigma is not the last letter of the pattern, it is found. -/
theorem capital_sigma_not_found :
    (∃ id ∈ (Inspection.ofCatalog {} (.ofModules (lone "aΣb"))).value.graph.nodes,
      "aΣ".toList <:+: id.toList ∧
        ¬ (Inspection.ofCatalog {} (.ofModules (lone "aΣb"))).value.Finds "aΣ" id ∧
        (Inspection.ofCatalog {} (.ofModules (lone "aΣb"))).value.Finds "Σb" id) ∧
      ¬ Text.EachSigma Text.Settled [] "aΣ".toList := by
  have hid : "aΣb" ∈ (Inspection.ofCatalog {} (.ofModules (lone "aΣb"))).value.graph.nodes :=
    mem_nodes_lone (by decide) (by decide)
  have hlost : ¬ (Inspection.ofCatalog {} (.ofModules (lone "aΣb"))).value.Finds "aΣ" "aΣb" := by
    intro h
    have hmatches := matches_iff.mp ((finds_iff (agrees_ofCatalog {} _)).mp h).2
    exact absurd hmatches (by decide)
  refine ⟨⟨"aΣb", hid, by decide, hlost, ?_⟩, ?_⟩
  · exact (literal_occurrences_found_iff "Σb").2.mpr (fun _ => by decide) _ _ _ hid (by decide)
  · intro hsettled
    exact hlost ((literal_occurrences_found_iff "aΣ").2.mpr (fun _ => hsettled) _ _ _ hid (by decide))

end Inspection

end Lineage
