import Lineage.Proofs.Reading

/-! # The lines of a text, by what they are about

    A line of a text says what it is about, so the lines can be sorted by that
    without a look at the drawing: what comes first and asks for a layout
    (`preamble`), the lines of nodes, wherever they stand (`nodeLines`), and
    those of edges (`edgeLines`).  For the text of a drawing these are the lines
    that were written for its hints, its nodes and its edges.

    A text fades when its colors are left out (`FadesTo`): line by line, what
    stands between a label and the closing bracket is gone, and nothing else. -/

namespace Lineage

/-- What an option is found for is kept, and seen through the finding. -/
theorem map_filter_isSome {α β γ : Type} {f : α → Option β} {g : α → γ} {h : β → γ}
    (hsame : ∀ a b, f a = some b → g a = h b) (as : List α) :
    (as.filter fun a => (f a).isSome).map g = (as.filterMap f).map h := by
  induction as with
  | nil => rfl
  | cons a as ih =>
      cases hf : f a with
      | none =>
          rw [List.filter_cons_of_neg (by simp [hf]), List.filterMap_cons_none hf, ih]
      | some b =>
          rw [List.filter_cons_of_pos (by simp [hf]), List.filterMap_cons_some hf, List.map_cons,
            List.map_cons, ih, hsame a b hf]

namespace Dot

namespace Item

/-- The node that an item is about, in a block or outside of all. -/
def node? : Item → Option NodeEntry
  | member n => some n
  | node n => some n
  | _ => none

/-- The edge that an item is about. -/
def edge? : Item → Option EdgeEntry
  | edge e => some e
  | _ => none

/-- Whether an item asks for a layout. -/
def isSetting : Item → Bool
  | setting _ => true
  | _ => false

/-- Whether an item is about a node or an edge. -/
def isEntry (i : Item) : Bool := i.node?.isSome || i.edge?.isSome

/-- The item without its color. -/
def faded : Item → Item
  | member n => member { n with color := none }
  | node n => node { n with color := none }
  | edge e => edge { e with color := none }
  | i => i

end Item

/-! ## Sorting the lines of a text -/

/-- A line without its indentation. -/
def unindented (l : List Char) : List Char := l.dropWhile (· = ' ')

/-- The lines of a text that say something of the given sort. -/
def linesOf (sort : Item → Bool) (text : String) : List (List Char) :=
  (textLines text.toList).filter fun l => (readIndented l).any sort

/-- The lines of nodes, without their indentation. -/
def nodeLines (text : String) : List (List Char) :=
  (linesOf (·.node?.isSome) text).map unindented

/-- The lines of edges. -/
def edgeLines (text : String) : List (List Char) := linesOf (·.edge?.isSome) text

/-- Whether a line opens a drawing or asks for a layout. -/
def isPreamble (l : List Char) : Bool :=
  l = "digraph \x7b".toList || (readIndented l).any (·.isSetting)

/-- The first line, and the lines after it that ask for a layout. -/
def preamble (text : String) : List (List Char) := (textLines text.toList).takeWhile isPreamble

/-- The braces around everything are about nothing. -/
theorem readIndented_braces :
    readIndented "digraph \x7b".toList = none ∧ readIndented "\x7d".toList = none :=
  ⟨rfl, rfl⟩

end Dot

namespace Drawing

variable {d : Drawing}

/-- The lines of a text, item by item. -/
theorem textLines_items (h : d.Fits) :
    Dot.textLines d.text.toList =
      "digraph \x7b".toList :: (d.items.map (fun i => (indent i.line).toList) ++ ["\x7d".toList]) := by
  rw [textLines_text h, lines, body_eq]
  simp [Function.comp_def]

/-- The lines of one sort are those of the items of that sort. -/
theorem linesOf_text (h : d.Fits) (sort : Dot.Item → Bool) :
    Dot.linesOf sort d.text = (d.items.filter sort).map fun i => (indent i.line).toList := by
  obtain ⟨hfirst, hlast⟩ := Dot.readIndented_braces
  have hlines : ∀ i ∈ d.items,
      ((fun l => (Dot.readIndented l).any sort) ∘ fun i => (indent i.line).toList) i = sort i := by
    intro i hi
    rw [Function.comp_apply, Dot.readIndented_line (h.item hi), Option.any_some]
  rw [Dot.linesOf, textLines_items h, List.filter_cons_of_neg (by rw [hfirst]; simp),
    List.filter_append, List.filter_map, List.filter_congr hlines,
    List.filter_cons_of_neg (by rw [hlast]; simp), List.filter_nil, List.append_nil]

/-- What is found in the entries of a drawing, item by item. -/
theorem filterMap_items {β : Type} {f : Dot.Item → Option β}
    (hsetting : ∀ text, f (.setting text) = none)
    (hopening : ∀ name, f (.opening name) = none)
    (htitle : ∀ text, f (.title text) = none) (hclosing : f .closing = none) (d : Drawing) :
    d.items.filterMap f =
      (d.blocks.flatMap (·.nodes)).filterMap (f ∘ .member) ++ d.nodes.filterMap (f ∘ .node) ++
        d.edges.filterMap (f ∘ .edge) := by
  have hsettings : ∀ texts : List String, (texts.map Dot.Item.setting).filterMap f = [] := by
    intro texts
    rw [List.filterMap_map]
    exact List.filterMap_eq_nil_iff.mpr fun text _ => hsetting text
  have hblock : ∀ b : Block, b.items.filterMap f = b.nodes.filterMap (f ∘ .member) := by
    intro b
    simp [Block.items, hopening, htitle, hclosing]
  simp only [items, List.filterMap_append, List.filterMap_flatMap, hsettings, hblock,
    List.filterMap_map, List.nil_append]

theorem filterMap_node?_items (d : Drawing) :
    d.items.filterMap Dot.Item.node? = d.blocks.flatMap (·.nodes) ++ d.nodes := by
  rw [filterMap_items (fun _ => rfl) (fun _ => rfl) (fun _ => rfl) rfl]
  simp [Function.comp_def, Dot.Item.node?]

theorem filterMap_edge?_items (d : Drawing) : d.items.filterMap Dot.Item.edge? = d.edges := by
  rw [filterMap_items (fun _ => rfl) (fun _ => rfl) (fun _ => rfl) rfl]
  simp [Function.comp_def, Dot.Item.edge?]

/-- A node line is found behind its indentation, in a block or outside. -/
theorem unindented_node {i : Dot.Item} {n : NodeEntry} (h : i.node? = some n) :
    Dot.unindented (indent i.line).toList = n.line.toList := by
  obtain ⟨cs, hline⟩ : ∃ cs, n.line.toList = '"' :: cs := by
    rw [NodeEntry.line, String.toList_append, Dot.toList_quoted]
    exact ⟨_, rfl⟩
  cases i with
  | member m =>
      obtain rfl := Option.some.inj h
      simp [Dot.unindented, Dot.Item.line, indent, hline]
  | node m =>
      obtain rfl := Option.some.inj h
      simp [Dot.unindented, Dot.Item.line, indent, hline]
  | _ => cases h

/-- The node lines of a text are those of the nodes of the drawing. -/
theorem nodeLines_text (h : d.Fits) :
    Dot.nodeLines d.text =
      (d.blocks.flatMap (·.nodes) ++ d.nodes).map fun n => n.line.toList := by
  rw [Dot.nodeLines, linesOf_text h, List.map_map, ← filterMap_node?_items]
  exact map_filter_isSome (fun _ _ => unindented_node) d.items

theorem edgeLines_text (h : d.Fits) :
    Dot.edgeLines d.text = d.edges.map fun e => (indent e.line).toList := by
  have hline : ∀ (i : Dot.Item) (e : EdgeEntry), i.edge? = some e →
      (indent i.line).toList = (indent e.line).toList := by
    intro i e he
    cases i with
    | edge e' =>
        obtain rfl := Option.some.inj he
        rfl
    | _ => cases he
  rw [Dot.edgeLines, linesOf_text h]
  refine (map_filter_isSome hline d.items).trans ?_
  rw [filterMap_edge?_items]

/-- What a drawing asks of the layout. -/
def settings (d : Drawing) : List String := layoutLines ++ if d.hints then hintLines else []

/-- The items of a drawing that are no settings come after all settings. -/
theorem items_eq_append (d : Drawing) :
    ∃ rest, (∀ i ∈ rest, i.isSetting = false) ∧
      d.items = d.settings.map .setting ++ rest := by
  refine ⟨d.blocks.flatMap Block.items ++ d.nodes.map .node ++ d.edges.map .edge, ?_, ?_⟩
  · intro i hi
    simp only [List.mem_append, List.mem_flatMap, List.mem_map, Block.items, List.mem_cons] at hi
    rcases hi with ((⟨b, -, hi⟩ | ⟨n, -, rfl⟩) | ⟨e, -, rfl⟩)
    · rcases hi with ((rfl | rfl | hi) | ⟨n, -, rfl⟩) | rfl | hi
      · rfl
      · rfl
      · exact absurd hi List.not_mem_nil
      · rfl
      · rfl
      · exact absurd hi List.not_mem_nil
    · rfl
    · rfl
  · rw [items, settings, List.append_assoc, List.append_assoc, List.append_assoc]

theorem isPreamble_line (h : d.Fits) {i : Dot.Item} (hi : i ∈ d.items) :
    Dot.isPreamble (indent i.line).toList = i.isSetting := by
  have hindented : (indent i.line).toList ≠ "digraph \x7b".toList := by simp [indent]
  rw [Dot.isPreamble, decide_eq_false hindented, Dot.readIndented_line (h.item hi), Bool.false_or,
    Option.any_some]

/-- Before the first block, node or edge stands what the drawing asks of the
    layout. -/
theorem preamble_text (h : d.Fits) :
    Dot.preamble d.text = ("digraph \x7b" :: d.settings.map indent).map String.toList := by
  obtain ⟨rest, hrest, hitems⟩ := d.items_eq_append
  have hsettings : ∀ l ∈ (d.settings.map indent).map String.toList, Dot.isPreamble l = true := by
    intro l hl
    obtain ⟨line, hmem, rfl⟩ := List.mem_map.mp hl
    obtain ⟨text, htext, rfl⟩ := List.mem_map.mp hmem
    refine isPreamble_line h (i := .setting text) ?_
    rw [hitems]
    exact List.mem_append_left _ (List.mem_map_of_mem htext)
  -- the first item that is no setting ends it, and if there is none, the last brace does
  have hend : ((rest.map fun i => (indent i.line).toList) ++
      ["\x7d".toList]).takeWhile Dot.isPreamble = [] := by
    cases rest with
    | nil => rfl
    | cons i rest =>
        refine List.takeWhile_cons_of_neg ?_
        rw [isPreamble_line h (hitems ▸ List.mem_append_right _ List.mem_cons_self),
          hrest i List.mem_cons_self]
        exact Bool.false_ne_true
  have hwritten : (d.settings.map .setting).map (fun i : Dot.Item => (indent i.line).toList) =
      (d.settings.map indent).map String.toList := by
    rw [List.map_map, List.map_map]
    rfl
  rw [Dot.preamble, textLines_items h, hitems, List.map_append, hwritten, List.append_assoc,
    List.takeWhile_cons_of_pos (by decide), List.takeWhile_append_of_pos hsettings, hend,
    List.append_nil, List.map_cons]

end Drawing

/-! ## Leaving the colors out -/

namespace Dot

/-- One line with and without its color.  In the line of a node or an edge the
    part before the closing bracket is gone, and it says the same of the same
    node or edge, but for the color; any other line stays. -/
inductive Fades : List Char → List Char → Prop where
  | entry {front color : String} {i : Item} :
      readIndented (front ++ (", color=" ++ color ++ "]")).toList = some i →
      i.isEntry = true → i.color? = some color →
      readIndented (front ++ "]").toList = some i.faded →
      Fades (front ++ (", color=" ++ color ++ "]")).toList (front ++ "]").toList
  | other {l : List Char} : (∀ i, readIndented l = some i → i.isEntry = false) → Fades l l

/-- A text without the colors of another one: their lines, each ended by a line
    break, fade one by one. -/
structure FadesTo (text text' : String) : Prop where
  colored : text.toList = (textLines text.toList).flatMap (· ++ ['\n'])
  plain : text'.toList = (textLines text'.toList).flatMap (· ++ ['\n'])
  lines : List.Forall₂ Fades (textLines text.toList) (textLines text'.toList)

theorem indent_append (front back : String) : indent (front ++ back) = indent front ++ back :=
  (String.append_assoc ..).symm

/-- Whatever comes before, a color stands right before the closing bracket. -/
theorem exists_front_attributes (before label color : String) :
    ∃ front, before ++ attributes label (some color) = front ++ (", color=" ++ color ++ "]") ∧
      before ++ attributes label none = front ++ "]" := by
  refine ⟨before ++ (" [label=" ++ quoted label), ?_, ?_⟩
  · simp [attributes, String.append_assoc]
  · simp [attributes, String.append_assoc]

theorem Item.exists_front {i : Item} {color : String} (h : i.color? = some color) :
    ∃ front, i.line = front ++ (", color=" ++ color ++ "]") ∧ i.faded.line = front ++ "]" := by
  cases i with
  | member n =>
      obtain ⟨id, label, _⟩ := n
      obtain rfl := h
      obtain ⟨front, hcolored, hplain⟩ := exists_front_attributes (quoted id) label color
      refine ⟨indent front, ?_, ?_⟩
      · rw [← indent_append, ← hcolored]
        rfl
      · rw [← indent_append, ← hplain]
        rfl
  | node n =>
      obtain ⟨id, label, _⟩ := n
      obtain rfl := h
      exact exists_front_attributes (quoted id) label color
  | edge e =>
      obtain ⟨source, target, label, _⟩ := e
      obtain rfl := h
      exact exists_front_attributes (quoted source ++ " -> " ++ quoted target) label color
  | _ => cases h

/-- Without its color an item fits its line as well. -/
theorem Item.Fits.faded {i : Item} (h : i.Fits) : i.faded.Fits := by
  cases i with
  | member n => exact ⟨nofun, nofun⟩
  | node n => exact ⟨nofun, nofun⟩
  | edge e => exact ⟨nofun, nofun⟩
  | _ => exact h

/-- The line of an item fades, if entries have a color. -/
theorem fades_line {i : Item} (h : i.Fits)
    (hcolor : i.isEntry = true → ∃ color, i.color? = some color) :
    Fades (indent i.line).toList (indent i.faded.line).toList := by
  cases hentry : i.isEntry with
  | true =>
      obtain ⟨color, hcolor⟩ := hcolor hentry
      obtain ⟨front, hline, hfaded⟩ := Item.exists_front hcolor
      have hread := readIndented_line h
      have hread' := readIndented_line h.faded
      rw [hline, indent_append] at hread ⊢
      rw [hfaded, indent_append] at hread' ⊢
      exact .entry hread hentry hcolor hread'
  | false =>
      -- what is no entry has no color to lose
      have hsame : i.faded = i := by
        cases i with
        | member n => cases hentry
        | node n => cases hentry
        | edge e => cases hentry
        | _ => rfl
      rw [hsame]
      refine .other fun i' hi' => ?_
      obtain rfl := Option.some.inj ((readIndented_line h).symm.trans hi')
      exact hentry

end Dot

/-- A node as it is drawn without its color. -/
def NodeEntry.faded (n : NodeEntry) : NodeEntry := { n with color := none }

/-- An edge as it is drawn without its color. -/
def EdgeEntry.faded (e : EdgeEntry) : EdgeEntry := { e with color := none }

namespace Drawing

variable {d : Drawing}

/-- A drawing without its colors. -/
def faded (d : Drawing) : Drawing where
  hints := d.hints
  blocks := d.blocks.map fun b => { b with nodes := b.nodes.map (·.faded) }
  nodes := d.nodes.map (·.faded)
  edges := d.edges.map (·.faded)

theorem items_faded (d : Drawing) : d.faded.items = d.items.map Dot.Item.faded := by
  have hblock : ∀ b : Block, Block.items { b with nodes := b.nodes.map (·.faded) } =
      b.items.map Dot.Item.faded := by
    intro b
    simp only [Block.items, List.map_append, List.map_map]
    rfl
  simp only [items, faded, List.map_append, List.map_map, List.flatMap_map, List.map_flatMap, hblock]
  rfl

theorem fits_faded (d : Drawing) : d.faded.Fits := by
  intro color hc
  rw [← filterMap_color?_items, items_faded] at hc
  obtain ⟨i, hi, hcolor⟩ := List.mem_filterMap.mp hc
  obtain ⟨j, -, rfl⟩ := List.mem_map.mp hi
  cases j <;> cases hcolor

/-- The text of a drawing that is not faded fades to that of the faded one. -/
theorem fadesTo_faded (h : d.Fits)
    (hcolors : ∀ i ∈ d.items, i.isEntry = true → ∃ color, i.color? = some color) :
    Dot.FadesTo d.text d.faded.text where
  colored := by
    rw [textLines_text h]
    exact toList_text d
  plain := by
    rw [textLines_text d.fits_faded]
    exact toList_text d.faded
  lines := by
    have hitems : List.Forall₂ Dot.Fades (d.items.map fun i => (indent i.line).toList)
        (d.faded.items.map fun i => (indent i.line).toList) := by
      rw [items_faded, List.map_map, List.forall₂_map_left_iff, List.forall₂_map_right_iff]
      exact List.forall₂_same.mpr fun i hi => Dot.fades_line (h.item hi) (hcolors i hi)
    obtain ⟨hfirst, hlast⟩ := Dot.readIndented_braces
    rw [textLines_items h, textLines_items d.fits_faded]
    have hbrace : ∀ {l : List Char}, Dot.readIndented l = none → Dot.Fades l l := by
      intro l hnone
      refine .other fun i hi => ?_
      cases hnone.symm.trans hi
    exact .cons (hbrace hfirst) (List.rel_append hitems (.cons (hbrace hlast) .nil))

end Drawing

end Lineage
