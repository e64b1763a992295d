import Lineage.Inspection.Load
import Lineage.Proofs.Adjoin
import Lineage.Proofs.Assembling

/-! # What is written as JSON is read back

    A form is faithful when its reader undoes its writer and what it writes
    can be said in JSON.  The latter needs sizes below 2^64, the only values
    that JSON text would not say in full, so a form is faithful for given
    `sizes` of what it writes.  Each way of putting forms together keeps them
    faithful, and `Faithful.roundTrips` takes a faithful form from values to
    texts, in both layouts.

    A record is written with its fields in order of declaration, and the names
    of the fields differ.  That is all its reader needs (`fields?_record`).
    Fields left out at the end, as a load error is, count as missing. -/

namespace Lineage

/-! ## The sizes in a value -/

/-- The values of a type that holds no sizes. -/
def unsized {α : Type} (_ : α) : List Nat := []

def RenderRequest.sizes (r : RenderRequest) : List Nat := r.fastLimit.toList

def RenderResponse.sizes (r : RenderResponse) : List Nat := [r.visibleNodes, r.nodes, r.edges]

def ModuleSummary.sizes (m : ModuleSummary) : List Nat :=
  [m.tally.processed, m.tally.skipped, m.tally.malformed]

def Summary.sizes (s : Summary) : List Nat :=
  s.modules.flatMap ModuleSummary.sizes ++ [s.nodes, s.edges, s.derivesFrom, s.implements]

def TypeItem.sizes (i : TypeItem) : List Nat := [i.incoming, i.outgoing]

def SearchResult.sizes (r : SearchResult) : List Nat :=
  r.items.flatMap TypeItem.sizes ++ [r.total]

namespace Json

/-! ## The fields of a record -/

namespace Field

variable {given : List (String × Value)} {f : Field}

theorem filter_of_not_mem {name : String} (h : name ∉ given.map (·.1)) :
    given.filter (·.1 == name) = [] := by
  refine List.filter_eq_nil_iff.mpr fun e he hname => h ?_
  exact List.mem_map.mpr ⟨e, he, eq_of_beq hname⟩

theorem filter_of_mem (hnodup : (given.map (·.1)).Nodup) {e : String × Value} (he : e ∈ given) :
    given.filter (·.1 == e.1) = [e] := by
  induction given with
  | nil => exact nomatch he
  | cons g given ih =>
      obtain ⟨hg, hrest⟩ := List.nodup_cons.mp hnodup
      rcases List.mem_cons.mp he with rfl | he
      · rw [List.filter_cons_of_pos]
        · rw [filter_of_not_mem hg]
        · exact beq_self_eq_true e.1
      · rw [List.filter_cons_of_neg]
        · exact ih hrest he
        · intro hname
          exact hg (List.mem_map.mpr ⟨e, he, (eq_of_beq hname).symm⟩)

/-- A field of a record without repetitions has the value that is given. -/
theorem inRecord_of_mem (hnodup : (given.map (·.1)).Nodup) {e : String × Value} (he : e ∈ given)
    (hf : f.name = e.1) : f.inRecord given = some (some e.2) := by
  rw [inRecord, hf, filter_of_mem hnodup he]

theorem inRecord_of_not_mem (hf : f.presence ≠ .required) (hname : f.name ∉ given.map (·.1)) :
    f.inRecord given = some none := by
  rw [inRecord, filter_of_not_mem hname]
  exact if_neg hf

theorem mapM_inRecord (hnodup : (given.map (·.1)).Nodup) {present : List Field}
    {part : List (String × Value)} (hpart : ∀ e ∈ part, e ∈ given)
    (hnames : part.map (·.1) = present.map (·.name)) :
    present.mapM (inRecord given) = some (part.map fun e => some e.2) := by
  induction part generalizing present with
  | nil =>
      obtain rfl := List.map_eq_nil_iff.mp hnames.symm
      rfl
  | cons e part ih =>
      obtain ⟨f, fs, rfl, hf, hfs⟩ := List.map_eq_cons_iff.mp hnames.symm
      have hrest := ih (fun e' he' => hpart e' (List.mem_cons_of_mem e he')) hfs.symm
      rw [List.mapM_cons, inRecord_of_mem hnodup (hpart e List.mem_cons_self) hf, hrest]
      rfl

theorem mapM_inRecord_of_absent {absent : List Field}
    (h : ∀ f ∈ absent, f.presence ≠ .required ∧ f.name ∉ given.map (·.1)) :
    absent.mapM (inRecord given) = some (absent.map fun _ => none) := by
  induction absent with
  | nil => rfl
  | cons f absent ih =>
      obtain ⟨hf, hname⟩ := h f List.mem_cons_self
      have hrest := ih fun f' hf' => h f' (List.mem_cons_of_mem f hf')
      rw [List.mapM_cons, inRecord_of_not_mem hf hname, hrest]
      rfl

end Field

/-- What a record says that was written in order, with `absent` left out at
    the end. -/
theorem Value.fields?_of_absent (given : List (String × Value)) (present absent : List Field)
    (hnames : given.map (·.1) = present.map (·.name))
    (hnodup : ((present ++ absent).map (·.name)).Nodup)
    (habsent : ∀ f ∈ absent, f.presence ≠ .required) :
    (Value.record given).fields? (present ++ absent) =
      some (given.map (fun e => some e.2) ++ absent.map fun _ => none) := by
  rw [List.map_append, ← hnames, List.nodup_append'] at hnodup
  obtain ⟨hgiven, -, hdisjoint⟩ := hnodup
  have hpresent := Field.mapM_inRecord hgiven (fun _ he => he) hnames
  have hrest : absent.mapM (Field.inRecord given) = some (absent.map fun _ => none) := by
    refine Field.mapM_inRecord_of_absent fun f hf => ⟨habsent f hf, fun hname => ?_⟩
    exact hdisjoint hname (List.mem_map.mpr ⟨f, hf, rfl⟩)
  rw [fields?, List.mapM_append, hpresent, hrest]
  rfl

/-- What a record says that was written in order. -/
theorem Value.fields?_record {given : List (String × Value)} {fs : List Field}
    (hnames : given.map (·.1) = fs.map (·.name)) (hnodup : (fs.map (·.name)).Nodup) :
    (Value.record given).fields? fs = some (given.map fun e => some e.2) :=
  Field.mapM_inRecord (hnames ▸ hnodup) (fun _ he => he) hnames

namespace Form

variable {α β : Type} {f : Form α} {g : Form β} {sizes : α → List Nat} {sizes' : β → List Nat}

@[simp] theorem readField_some (f : Form α) (v : Value) : f.readField (some v) = f.read v := rfl

@[simp] theorem readOr_some (f : Form α) (a : α) (v : Value) :
    f.readOr a (some v) = f.read v := rfl

@[simp] theorem readOr_none (f : Form α) (a : α) : f.readOr a none = some a := rfl

@[simp] theorem read_text (s : String) : text.read (.text s) = some s := rfl

@[simp] theorem read_size (n : Nat) : size.read (.size n) = some n := rfl

@[simp] theorem read_bool (b : Bool) : bool.read (.bool b) = some b := rfl

/-! ## Faithful forms -/

/-- What the form writes it reads again, and JSON can say it if it can say the
    sizes. -/
structure Faithful (f : Form α) (sizes : α → List Nat) : Prop where
  read_write : ∀ a, f.read (f.write a) = some a
  fits : ∀ a, (∀ n ∈ sizes a, n < Text.sizeLimit) → (f.write a).Fits

/-- What the form writes as text is read back, without white space and with
    everything on lines of its own, if the sizes fit. -/
def RoundTrips (f : Form α) (sizes : α → List Nat) : Prop :=
  ∀ a, (∀ n ∈ sizes a, n < Text.sizeLimit) →
    f.parse (f.compact a) = some a ∧ f.parse (f.pretty a) = some a

theorem Faithful.parse (h : f.Faithful sizes) {a : α} (ha : ∀ n ∈ sizes a, n < Text.sizeLimit)
    {text : String} (htext : LaysOut (f.write a).tokens text.toList) : f.parse text = some a := by
  rw [Form.parse, parse_of_laysOut (h.fits a ha) htext]
  exact h.read_write a

theorem Faithful.roundTrips (h : f.Faithful sizes) : f.RoundTrips sizes := by
  intro a ha
  exact ⟨h.parse ha (laysOut_compact _), h.parse ha (laysOut_pretty _)⟩

/-- Without sizes everything fits. -/
theorem Faithful.fits_unsized (h : f.Faithful unsized) (a : α) : (f.write a).Fits :=
  h.fits a nofun

theorem Faithful.to_unsized (h : f.Faithful sizes) (hnone : ∀ a, sizes a = []) :
    f.Faithful unsized where
  read_write := h.read_write
  fits a _ := by
    refine h.fits a ?_
    rw [hnone]
    exact nofun

/-! ## Parts -/

theorem faithful_text : text.Faithful unsized where
  read_write := read_text
  fits s _ := Value.fits_text s

theorem faithful_size : size.Faithful fun n => [n] where
  read_write := read_size
  fits n hn := (Value.fits_size n).mpr (hn n (List.mem_singleton_self n))

/-- Nothing that is there may be written as null. -/
theorem Faithful.option (h : f.Faithful sizes) (hnull : ∀ a, f.write a ≠ .null) :
    f.option.Faithful fun a => a.elim [] sizes where
  read_write a := by
    cases a with
    | none => rfl
    | some a =>
        have hread : f.option.read (f.write a) = (f.read (f.write a)).map some := by
          simp only [Form.option]
          split
          · next hwrite => exact absurd hwrite (hnull a)
          · rfl
        show f.option.read (f.write a) = some (some a)
        rw [hread, h.read_write]
        rfl
  fits a ha := by
    cases a with
    | none => exact Value.fits_null
    | some a => exact h.fits a ha

theorem faithful_optionText : text.option.Faithful unsized :=
  (faithful_text.option nofun).to_unsized fun a => by cases a <;> rfl

theorem Faithful.list (h : f.Faithful sizes) : f.list.Faithful (·.flatMap sizes) where
  read_write _ := mapM_map_eq_some fun a _ => h.read_write a
  fits as has := by
    refine Value.fits_list fun v hv => ?_
    obtain ⟨a, ha, rfl⟩ := List.mem_map.mp hv
    exact h.fits a fun n hn => has n (List.mem_flatMap.mpr ⟨a, ha, hn⟩)

theorem faithful_texts : text.list.Faithful unsized :=
  faithful_text.list.to_unsized (by simp [unsized])

theorem Faithful.pair (h : f.Faithful sizes) (h' : g.Faithful sizes') :
    (pair f g).Faithful fun p => sizes p.1 ++ sizes' p.2 where
  read_write p := by
    simp [Form.pair, h.read_write, h'.read_write]
  fits p hp := by
    refine Value.fits_list fun v hv => ?_
    rcases List.mem_pair.mp hv with rfl | rfl
    · exact h.fits p.1 fun n hn => hp n (List.mem_append_left _ hn)
    · exact h'.fits p.2 fun n hn => hp n (List.mem_append_right _ hn)

/-- A table is the one that its entries are put into. -/
theorem foldl_insert_toList (t : Table α) :
    t.toList.foldl (fun t e => t.insert e.1 e.2) ∅ = t := by
  have hnodup : (t.toList.map (·.1)).Nodup := by
    rw [Std.ExtTreeMap.map_fst_toList_eq_keys]
    exact Std.ExtTreeMap.nodup_keys
  refine Std.ExtTreeMap.ext_getElem? fun k => ?_
  rw [getElem?_foldl_insert, Std.ExtTreeMap.getElem?_empty, Option.or_none,
    find?_reverse_of_nodup_map hnodup]
  cases ht : t[k]? with
  | some a =>
      have hmem : (k, a) ∈ t.toList := Std.ExtTreeMap.mem_toList_iff_getElem?_eq_some.mpr ht
      rw [find?_of_nodup_map hnodup hmem]
      rfl
  | none =>
      rw [List.find?_eq_none.mpr, Option.map_none]
      intro e he hk
      obtain rfl := of_decide_eq_true hk
      have hsome := Std.ExtTreeMap.mem_toList_iff_getElem?_eq_some.mp he
      rw [ht] at hsome
      exact nomatch hsome

theorem Faithful.table (h : f.Faithful sizes) :
    f.table.Faithful fun t => t.toList.flatMap fun e => sizes e.2 where
  read_write t := by
    have hentries : (t.toList.map fun e => (e.1, f.write e.2)).mapM
        (fun e => do return (e.1, ← f.read e.2)) = some t.toList := by
      refine mapM_map_eq_some fun e _ => ?_
      simp [h.read_write]
    refine (congrArg (· >>= _) hentries).trans ?_
    exact congrArg some (foldl_insert_toList t)
  fits t ht := by
    refine Value.fits_record fun e he => ?_
    obtain ⟨⟨key, a⟩, ha, rfl⟩ := List.mem_map.mp he
    exact h.fits a fun n hn => ht n (List.mem_flatMap.mpr ⟨(key, a), ha, hn⟩)

theorem faithful_named {names : List (String × α)} {nameOf : α → String}
    (h : ∀ a, names.lookup (nameOf a) = some a) : (named names nameOf).Faithful unsized where
  read_write := h
  fits a _ := Value.fits_text (nameOf a)

/-- A record is read back if each of its fields is. -/
theorem faithful_record {fs : List Field} {k : List (Option Value) → Option α}
    {given : α → List (String × Value)} (hnames : ∀ a, (given a).map (·.1) = fs.map (·.name))
    (hnodup : (fs.map (·.name)).Nodup)
    (hread : ∀ a, k ((given a).map fun e => some e.2) = some a)
    (hfits : ∀ a, (∀ n ∈ sizes a, n < Text.sizeLimit) → ∀ e ∈ given a, e.2.Fits) :
    Faithful ⟨fun v => v.fields? fs >>= k, fun a => .record (given a)⟩ sizes where
  read_write a := by
    show (Value.record (given a)).fields? fs >>= k = some a
    rw [Value.fields?_record (hnames a) hnodup]
    exact hread a
  fits a ha := Value.fits_record (hfits a ha)

/-! ## The types of this library -/

theorem faithful_typeFact : typeFact.Faithful unsized where
  read_write a := by
    obtain ⟨id, name, space, base, interfaces, loadError⟩ := a
    cases loadError with
    | none =>
        have hfields := Value.fields?_of_absent
          [("id", .text id), ("name", .text name), ("namespace", text.option.write space),
            ("base_type", text.option.write base), ("interfaces", text.list.write interfaces)]
          [.must "id", .must "name", .orDefault "namespace", .orDefault "base_type",
            .orDefault "interfaces"] [.orDefault "load_error"] rfl (by decide) (by decide)
        refine (congrArg (· >>= _) hfields).trans ?_
        simp [faithful_optionText.read_write, faithful_texts.read_write]
    | some reason =>
        simp only [typeFact]
        rw [Value.fields?_record]
        · simp [faithful_optionText.read_write, faithful_texts.read_write]
          rfl
        · rfl
        · decide
  fits a _ := by
    refine Value.fits_record ?_
    have htexts : (text.list.write a.interfaces).Fits := faithful_texts.fits_unsized _
    cases a.loadError? <;> simp [faithful_optionText.fits_unsized, htexts]

/-- No load error, no field. -/
example : typeFact.compact { id := "n.A", name := "A" } =
    "\x7b\"id\":\"n.A\",\"name\":\"A\",\"namespace\":null,\"base_type\":null,\"interfaces\":[]\x7d" := by
  decide +kernel

theorem faithful_moduleFacts : moduleFacts.Faithful unsized := by
  refine faithful_record (fun _ => rfl) (by decide) ?_ ?_
  · intro a
    simp [faithful_typeFact.list.read_write]
  · intro a _
    simp [faithful_typeFact.list.fits, unsized]

theorem faithful_modules : modules.Faithful unsized := by
  refine faithful_record (fun _ => rfl) (by decide) ?_ ?_
  · intro a
    simp [faithful_moduleFacts.list.read_write]
  · intro a _
    simp [faithful_moduleFacts.list.fits, unsized]

theorem faithful_descriptor : descriptor.Faithful unsized :=
  faithful_record (fun _ => rfl) (by decide) (fun _ => rfl) (by simp)

theorem faithful_edgeKind : edgeKind.Faithful unsized :=
  faithful_named fun kind => by cases kind <;> rfl

theorem faithful_edgeKinds : edgeKinds.Faithful unsized :=
  faithful_edgeKind.table.to_unsized (by simp [unsized])

theorem faithful_caption : caption.Faithful unsized :=
  faithful_record (fun _ => rfl) (by decide) (fun _ => rfl) (by simp)

theorem faithful_nodeStyle : nodeStyle.Faithful unsized :=
  faithful_record (fun _ => rfl) (by decide) (fun _ => rfl) (by simp)

theorem faithful_edgeStyle : edgeStyle.Faithful unsized :=
  faithful_record (fun _ => rfl) (by decide) (fun _ => rfl) (by simp)

theorem faithful_documentExport : documentExport.Faithful unsized := by
  have hedges : (pair text text).list.Faithful unsized :=
    (faithful_text.pair faithful_text).list.to_unsized (by simp [unsized])
  have hclusters : text.list.table.Faithful unsized :=
    faithful_texts.table.to_unsized (by simp [unsized])
  refine faithful_record (fun _ => rfl) (by decide) ?_ ?_
  · intro a
    simp [faithful_texts.read_write, hedges.read_write, hclusters.read_write,
      faithful_caption.list.read_write, faithful_nodeStyle.list.read_write,
      faithful_edgeStyle.list.read_write, faithful_edgeKinds.read_write]
  · intro a _
    simp [faithful_texts.fits_unsized, hedges.fits_unsized, hclusters.fits_unsized,
      faithful_caption.list.fits, faithful_nodeStyle.list.fits, faithful_edgeStyle.list.fits,
      faithful_edgeKinds.fits_unsized, unsized]

theorem faithful_danglingMode : danglingMode.Faithful unsized :=
  faithful_named fun mode => by cases mode <;> rfl

theorem faithful_danglingFilter : danglingFilter.Faithful unsized :=
  faithful_named fun
    | none | some .all | some .incomings | some .outgoings => rfl

theorem faithful_renderRequest : renderRequest.Faithful RenderRequest.sizes := by
  have hlimit := faithful_size.option nofun
  refine faithful_record (fun _ => rfl) (by decide) ?_ ?_
  · intro a
    simp [faithful_optionText.read_write, faithful_danglingFilter.read_write, hlimit.read_write]
  · intro a ha
    have hfits : (size.option.write a.fastLimit).Fits := by
      refine hlimit.fits a.fastLimit ?_
      cases h : a.fastLimit with
      | none => exact nofun
      | some n => simpa [RenderRequest.sizes, h] using ha
    simp [faithful_optionText.fits_unsized, faithful_danglingFilter.fits_unsized, hfits]

theorem faithful_renderResponse : renderResponse.Faithful RenderResponse.sizes := by
  refine faithful_record (fun _ => rfl) (by decide) (fun _ => rfl) ?_
  intro a ha
  simpa [RenderResponse.sizes] using ha

theorem faithful_moduleSummary : moduleSummary.Faithful ModuleSummary.sizes := by
  refine faithful_record (fun _ => rfl) (by decide) (fun _ => rfl) ?_
  intro a ha
  simpa [ModuleSummary.sizes] using ha

theorem faithful_summary : summary.Faithful Summary.sizes := by
  refine faithful_record (fun _ => rfl) (by decide) ?_ ?_
  · intro a
    simp [faithful_moduleSummary.list.read_write]
  · intro a ha
    obtain ⟨hmodules, hcounts⟩ := List.forall_mem_append.mp ha
    simpa [faithful_moduleSummary.list.fits a.modules hmodules] using hcounts

theorem faithful_typeItem : typeItem.Faithful TypeItem.sizes := by
  refine faithful_record (fun _ => rfl) (by decide) (fun _ => rfl) ?_
  intro a ha
  simpa [TypeItem.sizes] using ha

theorem faithful_searchResult : searchResult.Faithful SearchResult.sizes := by
  refine faithful_record (fun _ => rfl) (by decide) ?_ ?_
  · intro a
    simp [faithful_typeItem.list.read_write]
  · intro a ha
    obtain ⟨hitems, htotal⟩ := List.forall_mem_append.mp ha
    simpa [faithful_typeItem.list.fits a.items hitems] using htotal

/-! ## Texts -/

/-- A catalog is read back from its text, with the same events as when it was
    made. -/
theorem ofJson_toJson (modules : List ModuleFacts) :
    Catalog.ofJson (Catalog.ofModules modules).toJson =
      .ofLogged (Catalog.ofModulesReported modules) := by
  have hparse := (faithful_modules.roundTrips modules nofun).2
  show Catalog.ofJson (Form.modules.pretty modules) = _
  rw [Catalog.ofJson, hparse]

/-- **What is written as JSON is read back.**  A catalog of any modules is read
    from its text with equal modules, so it resolves every id alike.  Every
    type that has a JSON form comes back from its text, in both layouts, if
    the sizes in it are below 2^64; ids are texts. -/
theorem json_round_trip :
    (∀ modules : List ModuleFacts, ∃ c : Catalog,
      (Catalog.ofJson (Catalog.ofModules modules).toJson).verdict = .ok c ∧
        c.modules = modules ∧ ∀ id, c.resolve id = (Catalog.ofModules modules).resolve id) ∧
    typeFact.RoundTrips unsized ∧ moduleFacts.RoundTrips unsized ∧
    descriptor.RoundTrips unsized ∧ text.RoundTrips unsized ∧
    edgeKind.RoundTrips unsized ∧ edgeKinds.RoundTrips unsized ∧ caption.RoundTrips unsized ∧
    nodeStyle.RoundTrips unsized ∧ edgeStyle.RoundTrips unsized ∧
    documentExport.RoundTrips unsized ∧ danglingMode.RoundTrips unsized ∧
    danglingFilter.RoundTrips unsized ∧ renderRequest.RoundTrips RenderRequest.sizes ∧
    renderResponse.RoundTrips RenderResponse.sizes ∧
    moduleSummary.RoundTrips ModuleSummary.sizes ∧ summary.RoundTrips Summary.sizes ∧
    typeItem.RoundTrips TypeItem.sizes ∧ searchResult.RoundTrips SearchResult.sizes := by
  refine ⟨fun modules => ⟨Catalog.ofModules modules, ?_, rfl, fun _ => rfl⟩, ?_⟩
  · rw [ofJson_toJson]
    rfl
  · exact ⟨faithful_typeFact.roundTrips, faithful_moduleFacts.roundTrips,
      faithful_descriptor.roundTrips, faithful_text.roundTrips, faithful_edgeKind.roundTrips,
      faithful_edgeKinds.roundTrips, faithful_caption.roundTrips, faithful_nodeStyle.roundTrips,
      faithful_edgeStyle.roundTrips, faithful_documentExport.roundTrips,
      faithful_danglingMode.roundTrips, faithful_danglingFilter.roundTrips,
      faithful_renderRequest.roundTrips, faithful_renderResponse.roundTrips,
      faithful_moduleSummary.roundTrips, faithful_summary.roundTrips,
      faithful_typeItem.roundTrips, faithful_searchResult.roundTrips⟩

/-- With the largest sizes, and with characters that need an escape, the null
    character among them. -/
theorem largest_response_round_trips :
    let r : RenderResponse := ⟨"\x00\x1f\"\\\n\t/é𝄞", Text.sizeLimit - 1, 10, 0⟩
    (∀ n ∈ r.sizes, n < Text.sizeLimit) ∧
      renderResponse.parse (renderResponse.compact r) = some r ∧
      renderResponse.parse (renderResponse.pretty r) = some r := by
  intro r
  obtain ⟨-, -, -, -, -, -, -, -, -, -, -, -, -, -, hresponse, -, -, -, -⟩ := json_round_trip
  have hsizes : ∀ n ∈ r.sizes, n < Text.sizeLimit := by decide
  exact ⟨hsizes, hresponse r hsizes⟩

end Form

end Json

end Lineage
