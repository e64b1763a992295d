import Lineage.Dot.Printer
import Lineage.Proofs.Adjoin
import Lineage.Proofs.Quoting

/-! # The text of a drawing can be read back

    Toward: what a drawing holds can be told from its text, whatever stands in
    its ids and labels.  The route is a reader for the whole text:

    * the text is cut into lines (`textLines`); quoted text has no line break,
      so the lines are those that were written;
    * each line is read by itself (`readItem`).  Its first characters say what
      it is, and from there on every text is quoted, hence told from what
      follows it;
    * a `Sketch` puts the items together again, block by block.

    The headline is `Drawing.read_text`.  Colors are the one thing that is
    written as it is, so they must not break their line (`Drawing.Fits`). -/

namespace Lineage

namespace Dot

/-! ## Items -/

/-- What a line between the braces says. -/
inductive Item where
  /-- The layout is asked for something. -/
  | setting (text : String)
  /-- A block begins. -/
  | opening (name : String)
  /-- The block has a label. -/
  | title (text : String)
  /-- The block has a node. -/
  | member (n : NodeEntry)
  /-- The block ends. -/
  | closing
  | node (n : NodeEntry)
  | edge (e : EdgeEntry)
  deriving DecidableEq

namespace Item

/-- The line of an item, without the indentation that all lines have. -/
def line : Item → String
  | setting text => text
  | opening name => "subgraph " ++ quoted name ++ " \x7b"
  | title text => indent ("label = " ++ quoted text)
  | member n => indent n.line
  | closing => "\x7d"
  | node n => n.line
  | edge e => e.line

/-- The color that an item gives. -/
def color? : Item → Option String
  | member n => n.color
  | node n => n.color
  | edge e => e.color
  | _ => none

/-- An item that its line can hold: a known setting, or anything with a color
    that does not break the line. -/
structure Fits (i : Item) : Prop where
  known : ∀ text, i = setting text → text ∈ Drawing.layoutLines ++ Drawing.hintLines
  color : ∀ color, i.color? = some color → '\n' ∉ color.toList

end Item

end Dot

/-- The items of a block. -/
def Block.items (b : Block) : List Dot.Item :=
  [.opening b.id, .title b.label] ++ b.nodes.map .member ++ [.closing]

namespace Drawing

/-- The items of a drawing. -/
def items (d : Drawing) : List Dot.Item :=
  (layoutLines ++ (if d.hints then hintLines else [])).map .setting ++
    d.blocks.flatMap Block.items ++ d.nodes.map .node ++ d.edges.map .edge

/-- The colors of a drawing. -/
def colors (d : Drawing) : List String :=
  (d.blocks.flatMap (·.nodes) ++ d.nodes).filterMap (·.color) ++ d.edges.filterMap (·.color)

/-- No color breaks its line. -/
def Fits (d : Drawing) : Prop := ∀ color ∈ d.colors, '\n' ∉ color.toList

theorem body_eq (d : Drawing) : d.body = d.items.map Dot.Item.line := by
  have hblock : ∀ b : Block, b.lines = b.items.map Dot.Item.line := by
    intro b
    simp only [Block.lines, Block.items, List.map_append, List.map_map]
    rfl
  have hblocks : d.blocks.flatMap Block.lines =
      (d.blocks.flatMap Block.items).map Dot.Item.line := by
    rw [List.map_flatMap]
    exact congrArg (d.blocks.flatMap ·) (funext hblock)
  have hsettings : ∀ texts : List String,
      texts = (texts.map Dot.Item.setting).map Dot.Item.line := by
    intro texts
    rw [List.map_map]
    exact (List.map_id texts).symm
  simp only [body, items, List.map_append, ← hsettings, hblocks, List.map_map]
  rfl

theorem filterMap_color?_items (d : Drawing) : d.items.filterMap Dot.Item.color? = d.colors := by
  have hsettings : ∀ texts : List String,
      (texts.map Dot.Item.setting).filterMap Dot.Item.color? = [] := by
    intro texts
    rw [List.filterMap_map]
    exact List.filterMap_eq_nil_iff.mpr fun _ _ => rfl
  have hblock : ∀ b : Block, b.items.filterMap Dot.Item.color? = b.nodes.filterMap (·.color) := by
    intro b
    rw [Block.items, List.filterMap_append, List.filterMap_append, List.filterMap_map]
    exact List.append_nil _
  simp only [items, colors, List.filterMap_append, List.filterMap_flatMap, hsettings, hblock,
    List.filterMap_map, List.nil_append]
  rfl

/-- Every setting of a drawing is a known one. -/
theorem known_of_mem_items {d : Drawing} {text : String} (h : .setting text ∈ d.items) :
    text ∈ layoutLines ++ hintLines := by
  have hmem : text ∈ layoutLines ++ (if d.hints then hintLines else []) := by
    simpa [items, Block.items] using h
  cases hd : d.hints with
  | true => simpa [hd] using hmem
  | false =>
      rw [hd] at hmem
      exact List.mem_append_left _ (by simpa using hmem)

/-- Every item of a drawing that fits does so. -/
theorem Fits.item {d : Drawing} (h : d.Fits) {i : Dot.Item} (hi : i ∈ d.items) : i.Fits where
  known := by
    rintro text rfl
    exact known_of_mem_items hi
  color := by
    intro color hc
    refine h color ?_
    rw [← filterMap_color?_items]
    exact List.mem_filterMap.mpr ⟨i, hi, hc⟩

end Drawing

namespace Dot

/-! ## One line -/

/-- Reads the attributes that end the line of a node or an edge. -/
def readAttributes (cs : List Char) : Option (String × Option String) := do
  let (label, rest) ← readQuoted (← cs.dropPrefix? " [label=".toList)
  if rest = "]".toList then
    return (label, none)
  else
    let color ← rest.dropPrefix? ", color=".toList
    if color.getLast? = some ']' then return (label, some (String.ofList color.dropLast)) else none

/-- Reads the line of a node or an edge. -/
def readEntry (cs : List Char) : Option (NodeEntry ⊕ EdgeEntry) := do
  let (id, rest) ← readQuoted cs
  match rest.dropPrefix? " -> ".toList with
  | some rest => do
      let (target, rest) ← readQuoted rest
      let (label, color) ← readAttributes rest
      return .inr ⟨id, target, label, color⟩
  | none => do
      let (label, color) ← readAttributes rest
      return .inl ⟨id, label, color⟩

/-- Reads a quoted text that is followed by `suffix` and nothing else. -/
def readOnly (suffix : String) (cs : List Char) : Option String := do
  let (text, rest) ← readQuoted cs
  if rest = suffix.toList then return text else none

/-- Reads a line.  What begins with a quote is a node or an edge, and what
    begins like nothing else is a setting. -/
def readItem (cs : List Char) : Option Item :=
  if cs = "\x7d".toList then some .closing
  else if cs.head? = some '"' then (readEntry cs).map (Sum.elim .node .edge)
  else
    match cs.dropPrefix? "subgraph ".toList with
    | some rest => (readOnly " \x7b" rest).map .opening
    | none =>
        match cs.dropPrefix? "  label = ".toList with
        | some rest => (readOnly "" rest).map .title
        | none =>
            match cs.dropPrefix? "  ".toList with
            | some rest => (readEntry rest).bind (Sum.elim (some ∘ .member) fun _ => none)
            | none => some (.setting (String.ofList cs))

theorem dropPrefix?_append (front rest : List Char) :
    (front ++ rest).dropPrefix? front = some rest :=
  List.dropPrefix?_append_of_beq rest (beq_self_eq_true front)

theorem readAttributes_attributes (label : String) (color : Option String) :
    readAttributes (attributes label color).toList = some (label, color) := by
  cases color with
  | none =>
      have hline : (attributes label none).toList =
          " [label=".toList ++ ((quoted label).toList ++ "]".toList) := by
        simp [attributes]
      rw [hline, readAttributes, dropPrefix?_append]
      simp only [Option.bind_eq_bind, Option.bind_some, readQuoted_quoted, if_true]
      rfl
  | some color =>
      have hline : (attributes label (some color)).toList =
          " [label=".toList ++ ((quoted label).toList ++
            (", color=".toList ++ (color.toList ++ [']']))) := by
        simp [attributes]
      -- the bracket that would end the line does not follow the label
      have hmore : ", color=".toList ++ (color.toList ++ [']']) ≠ "]".toList := by
        simp
      rw [hline, readAttributes, dropPrefix?_append]
      simp only [Option.bind_eq_bind, Option.bind_some, readQuoted_quoted, if_neg hmore,
        dropPrefix?_append, List.getLast?_concat, if_true, List.dropLast_concat,
        String.ofList_toList]
      rfl

theorem readEntry_node (n : NodeEntry) : readEntry n.line.toList = some (.inl n) := by
  have hline : n.line.toList = (quoted n.id).toList ++ (attributes n.label n.color).toList := by
    rw [NodeEntry.line, String.toList_append]
  have hnode : (attributes n.label n.color).toList.dropPrefix? " -> ".toList = none := by
    rw [attributes, String.append_assoc, String.append_assoc, String.toList_append]
    rfl
  rw [hline, readEntry, readQuoted_quoted]
  simp only [Option.bind_eq_bind, Option.bind_some, hnode, readAttributes_attributes]
  rfl

theorem readEntry_edge (e : EdgeEntry) : readEntry e.line.toList = some (.inr e) := by
  have hline : e.line.toList = (quoted e.source).toList ++ (" -> ".toList ++
      ((quoted e.target).toList ++ (attributes e.label e.color).toList)) := by
    simp only [EdgeEntry.line, String.toList_append, List.append_assoc]
  rw [hline, readEntry, readQuoted_quoted]
  simp only [Option.bind_eq_bind, Option.bind_some, dropPrefix?_append, readQuoted_quoted,
    readAttributes_attributes]
  rfl

theorem readOnly_quoted (text suffix : String) :
    readOnly suffix ((quoted text).toList ++ suffix.toList) = some text := by
  rw [readOnly, readQuoted_quoted]
  simp only [Option.bind_eq_bind, Option.bind_some, if_true]
  rfl

theorem readItem_setting :
    ∀ text ∈ Drawing.layoutLines ++ Drawing.hintLines,
      readItem text.toList = some (.setting text) := by decide

/-- What begins with a quote is read as a node or an edge. -/
theorem readItem_quoted (text : String) (cs : List Char) :
    readItem ((quoted text).toList ++ cs) =
      (readEntry ((quoted text).toList ++ cs)).map (Sum.elim .node .edge) := by
  have hhead : ((quoted text).toList ++ cs).head? = some '"' := by
    rw [toList_quoted]
    rfl
  have hopen : (quoted text).toList ++ cs ≠ "\x7d".toList := by
    rw [toList_quoted]
    exact nofun
  rw [readItem, if_neg hopen, if_pos hhead]

theorem readItem_node (n : NodeEntry) : readItem n.line.toList = some (.node n) := by
  have hread := readEntry_node n
  rw [NodeEntry.line, String.toList_append] at hread ⊢
  rw [readItem_quoted, hread]
  rfl

theorem readItem_edge (e : EdgeEntry) : readItem e.line.toList = some (.edge e) := by
  have hread := readEntry_edge e
  simp only [EdgeEntry.line, String.toList_append, List.append_assoc] at hread ⊢
  rw [readItem_quoted, hread]
  rfl

/-- What begins with a quote behind some indentation is read as a member. -/
theorem readItem_member (n : NodeEntry) : readItem (indent n.line).toList = some (.member n) := by
  have hread := readEntry_node n
  obtain ⟨cs, hline⟩ : ∃ cs, n.line.toList = '"' :: cs := by
    rw [NodeEntry.line, String.toList_append, toList_quoted]
    exact ⟨_, rfl⟩
  -- a quote after the indentation is none of the words that a line can begin with
  have hsubgraph : ("  ".toList ++ '"' :: cs).dropPrefix? "subgraph ".toList = none := rfl
  have hlabel : ("  ".toList ++ '"' :: cs).dropPrefix? "  label = ".toList = none := rfl
  rw [hline] at hread
  rw [indent, String.toList_append, hline, readItem, if_neg nofun, if_neg nofun, hsubgraph]
  simp only [hlabel, dropPrefix?_append, hread]
  rfl

theorem readItem_opening (name : String) :
    readItem ("subgraph " ++ quoted name ++ " \x7b").toList = some (.opening name) := by
  have hline : ("subgraph " ++ quoted name ++ " \x7b").toList =
      "subgraph ".toList ++ ((quoted name).toList ++ " \x7b".toList) := by
    simp only [String.toList_append, List.append_assoc]
  rw [hline, readItem, if_neg nofun, if_neg nofun, dropPrefix?_append]
  simp only [readOnly_quoted, Option.map_some]

theorem readItem_title (text : String) :
    readItem (indent ("label = " ++ quoted text)).toList = some (.title text) := by
  have hline : (indent ("label = " ++ quoted text)).toList =
      "  label = ".toList ++ ((quoted text).toList ++ "".toList) := by
    simp [indent]
  have hsubgraph : ("  label = ".toList ++ ((quoted text).toList ++ "".toList)).dropPrefix?
      "subgraph ".toList = none := rfl
  rw [hline, readItem, if_neg nofun, if_neg nofun, hsubgraph, dropPrefix?_append]
  simp only [readOnly_quoted, Option.map_some]

/-- A line that fits is read as the item it was written for. -/
theorem readItem_line {i : Item} (h : i.Fits) : readItem i.line.toList = some i := by
  cases i with
  | setting text => exact readItem_setting text (h.known text rfl)
  | opening name => exact readItem_opening name
  | title text => exact readItem_title text
  | member n => exact readItem_member n
  | closing => rfl
  | node n => exact readItem_node n
  | edge e => exact readItem_edge e

/-! ## No line breaks -/

theorem lineBreak_not_mem_attributes {label : String} {color : Option String}
    (h : ∀ c, color = some c → '\n' ∉ c.toList) : '\n' ∉ (attributes label color).toList := by
  have hlabel := lineBreak_not_mem_quoted label
  cases color with
  | none => simp [attributes, hlabel]
  | some c =>
      have hc := h c rfl
      simp [attributes, hlabel, hc]

/-- A line that fits is one line. -/
theorem Item.Fits.lineBreak_not_mem {i : Item} (h : i.Fits) : '\n' ∉ i.line.toList := by
  cases i with
  | setting text =>
      have hall : ∀ text ∈ Drawing.layoutLines ++ Drawing.hintLines, '\n' ∉ text.toList := by
        decide
      exact hall text (h.known text rfl)
  | opening name => simp [line, lineBreak_not_mem_quoted]
  | title text => simp [line, indent, lineBreak_not_mem_quoted]
  | member n =>
      have hattributes : '\n' ∉ (attributes n.label n.color).toList :=
        lineBreak_not_mem_attributes h.color
      simp [line, indent, NodeEntry.line, lineBreak_not_mem_quoted, hattributes]
  | closing => decide
  | node n =>
      have hattributes : '\n' ∉ (attributes n.label n.color).toList :=
        lineBreak_not_mem_attributes h.color
      simp [line, NodeEntry.line, lineBreak_not_mem_quoted, hattributes]
  | edge e =>
      have hattributes : '\n' ∉ (attributes e.label e.color).toList :=
        lineBreak_not_mem_attributes h.color
      simp [line, EdgeEntry.line, lineBreak_not_mem_quoted, hattributes]

/-! ## All lines -/

/-- Cuts a text into its lines, each of which is ended by a line break. -/
def textLines (cs : List Char) : List (List Char) := (cs.splitOn '\n').dropLast

theorem flatMap_concat_eq_intercalate (ls : List (List Char)) :
    ls.flatMap (· ++ ['\n']) = ['\n'].intercalate (ls ++ [[]]) := by
  induction ls with
  | nil => rfl
  | cons l ls ih =>
      cases ls with
      | nil => rw [List.flatMap_singleton]; simp
      | cons l' ls =>
          rw [List.flatMap_cons, ih]
          simp only [List.cons_append, List.intercalate_cons_cons]

/-- Lines that have no line break in them are told apart. -/
theorem textLines_flatMap {ls : List (List Char)} (h : ∀ l ∈ ls, '\n' ∉ l) :
    textLines (ls.flatMap (· ++ ['\n'])) = ls := by
  have hlines : ∀ l ∈ ls ++ [[]], '\n' ∉ l := by
    intro l hl
    rcases List.mem_append.mp hl with hl | hl
    · exact h l hl
    · rw [List.mem_singleton.mp hl]
      exact List.not_mem_nil
  rw [textLines, flatMap_concat_eq_intercalate,
    List.splitOn_intercalate '\n' hlines
      (List.append_ne_nil_of_right_ne_nil _ (List.cons_ne_nil _ _)),
    List.dropLast_concat]

/-- Reads an indented line. -/
def readIndented (cs : List Char) : Option Item := (cs.dropPrefix? "  ".toList).bind readItem

theorem readIndented_line {i : Item} (h : i.Fits) :
    readIndented (indent i.line).toList = some i := by
  rw [readIndented, indent, String.toList_append, dropPrefix?_append, Option.bind_some,
    readItem_line h]

/-! ## Putting items together -/

/-- What was read of a drawing so far. -/
structure Sketch where
  settings : List String := []
  blocks : List Block := []
  /-- The block that is being read. -/
  current? : Option Block := none
  nodes : List NodeEntry := []
  edges : List EdgeEntry := []

namespace Sketch

/-- Takes the next item in, if it can stand where it does. -/
def step (s : Sketch) : Item → Option Sketch
  | .setting text => some { s with settings := s.settings ++ [text] }
  | .opening name => some { s with current? := some ⟨name, "", []⟩ }
  | .title text => s.current?.map fun b => { s with current? := some { b with label := text } }
  | .member n =>
      s.current?.map fun b => { s with current? := some { b with nodes := b.nodes ++ [n] } }
  | .closing => s.current?.map fun b => { s with blocks := s.blocks ++ [b], current? := none }
  | .node n => some { s with nodes := s.nodes ++ [n] }
  | .edge e => some { s with edges := s.edges ++ [e] }

/-- The drawing, if the settings are those of one. -/
def finish (s : Sketch) : Option Drawing :=
  if s.settings = Drawing.layoutLines then some ⟨false, s.blocks, s.nodes, s.edges⟩
  else if s.settings = Drawing.layoutLines ++ Drawing.hintLines then
    some ⟨true, s.blocks, s.nodes, s.edges⟩
  else none

variable (s : Sketch)

theorem foldlM_settings (texts : List String) :
    (texts.map Item.setting).foldlM step s = some { s with settings := s.settings ++ texts } := by
  induction texts generalizing s with
  | nil => simp
  | cons text texts ih => simp [step, ih]

theorem foldlM_nodes (ns : List NodeEntry) :
    (ns.map Item.node).foldlM step s = some { s with nodes := s.nodes ++ ns } := by
  induction ns generalizing s with
  | nil => simp
  | cons n ns ih => simp [step, ih]

theorem foldlM_edges (es : List EdgeEntry) :
    (es.map Item.edge).foldlM step s = some { s with edges := s.edges ++ es } := by
  induction es generalizing s with
  | nil => simp
  | cons e es ih => simp [step, ih]

theorem foldlM_members (ns : List NodeEntry) (b : Block) :
    (ns.map Item.member).foldlM step { s with current? := some b } =
      some { s with current? := some { b with nodes := b.nodes ++ ns } } := by
  induction ns generalizing b with
  | nil => simp
  | cons n ns ih => simp [step, ih]

/-- The items of a block add the block. -/
theorem foldlM_block (hs : s.current? = none) (b : Block) :
    b.items.foldlM step s = some { s with blocks := s.blocks ++ [b] } := by
  rw [Block.items, List.foldlM_append, List.foldlM_append]
  have hstart : [Item.opening b.id, Item.title b.label].foldlM step s =
      some { s with current? := some ⟨b.id, b.label, []⟩ } := rfl
  simp only [hstart, Option.bind_eq_bind, Option.bind_some, foldlM_members]
  simp [step, hs]

theorem foldlM_blocks (hs : s.current? = none) (bs : List Block) :
    (bs.flatMap Block.items).foldlM step s = some { s with blocks := s.blocks ++ bs } := by
  induction bs generalizing s with
  | nil => simp
  | cons b bs ih =>
      rw [List.flatMap_cons, List.foldlM_append, foldlM_block s hs, Option.bind_eq_bind,
        Option.bind_some, ih { s with blocks := s.blocks ++ [b] } hs]
      simp

end Sketch

end Dot

namespace Drawing

/-- The drawing that some items make. -/
def ofItems (items : List Dot.Item) : Option Drawing :=
  (items.foldlM Dot.Sketch.step {}).bind Dot.Sketch.finish

theorem ofItems_items (d : Drawing) : ofItems d.items = some d := by
  obtain ⟨hints, blocks, nodes, edges⟩ := d
  have hrun : (items ⟨hints, blocks, nodes, edges⟩).foldlM Dot.Sketch.step {} =
      some ⟨layoutLines ++ (if hints then hintLines else []), blocks, none, nodes, edges⟩ := by
    simp only [items, List.foldlM_append, Dot.Sketch.foldlM_settings, Option.bind_eq_bind,
      Option.bind_some, Dot.Sketch.foldlM_blocks, Dot.Sketch.foldlM_nodes,
      Dot.Sketch.foldlM_edges, List.nil_append]
  rw [ofItems, hrun]
  cases hints with
  | true => rfl
  | false => rfl

/-- Reads the text of a drawing. -/
def read (text : String) : Option Drawing :=
  match Dot.textLines text.toList with
  | [] => none
  | first :: rest =>
      if first = "digraph \x7b".toList ∧ rest.getLast? = some "\x7d".toList then
        (rest.dropLast.mapM Dot.readIndented).bind ofItems
      else none

theorem toList_text (d : Drawing) :
    d.text.toList = (d.lines.map String.toList).flatMap (· ++ ['\n']) := by
  rw [text, String.toList_join, List.flatMap_map, List.flatMap_map]
  simp

/-- The lines that a text is cut into are those that it was made of. -/
theorem textLines_text {d : Drawing} (h : d.Fits) :
    Dot.textLines d.text.toList = d.lines.map String.toList := by
  rw [toList_text]
  refine Dot.textLines_flatMap ?_
  intro l hl
  obtain ⟨line, hline, rfl⟩ := List.mem_map.mp hl
  rw [lines, List.mem_append, List.mem_append] at hline
  rcases hline with (hline | hline) | hline
  · rw [List.mem_singleton.mp hline]
    decide
  · rw [body_eq, List.map_map] at hline
    obtain ⟨i, hi, rfl⟩ := List.mem_map.mp hline
    have hbreak := (h.item hi).lineBreak_not_mem
    simp [indent, hbreak]
  · rw [List.mem_singleton.mp hline]
    decide

theorem mapM_readIndented {d : Drawing} (h : d.Fits) :
    (d.body.map (String.toList ∘ indent)).mapM Dot.readIndented = some d.items := by
  rw [body_eq, List.map_map]
  exact mapM_map_eq_some fun i hi => Dot.readIndented_line (h.item hi)

/-- **A drawing can be told from its text.** -/
theorem read_text {d : Drawing} (h : d.Fits) : read d.text = some d := by
  have hlines : Dot.textLines d.text.toList =
      "digraph \x7b".toList :: (d.body.map (String.toList ∘ indent) ++ ["\x7d".toList]) := by
    rw [textLines_text h, lines]
    simp
  rw [read, hlines]
  dsimp only
  rw [if_pos ⟨rfl, List.getLast?_concat⟩, List.dropLast_concat, mapM_readIndented h,
    Option.bind_some, ofItems_items]

end Drawing

end Lineage
