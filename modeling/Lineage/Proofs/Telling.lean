import Lineage.Proofs.Placement
import Lineage.Proofs.Reading

/-! # What a text tells of a presentation

    Whatever presentation is drawn, an entry of its drawing is that of a node
    or an edge that is shown (`draw_entries_shown`), so the colors that are
    written are the colors of these.  If they fit on their lines the text can
    be read back, and two presentations with one text have one drawing. -/

namespace Lineage

namespace Presentation

variable {p q : Presentation} {o : DrawOptions}

/-- The color of nothing that is shown breaks its line. -/
def ColorsFit (p : Presentation) : Prop :=
  (∀ id ∈ p.visibleNodes, '\n' ∉ (p.nodeStyle id).fillColor.toList) ∧
    ∀ e ∈ p.visibleEdges, '\n' ∉ (p.edgeStyle e.id).color.toList

/-- Blocks can always be made, and hold visible nodes only. -/
theorem blocks_shown (p : Presentation) (o : DrawOptions) (cs : List Cluster)
    (drawn : List NodeId) :
    ∃ bs drawn', p.blocks o cs drawn = .ok (bs, drawn') ∧
      ∀ n ∈ bs.flatMap (·.nodes), ∃ id ∈ p.visibleNodes, p.nodeEntry o id = n := by
  induction cs generalizing drawn with
  | nil => exact ⟨[], drawn, rfl, fun n hn => nomatch hn⟩
  | cons c cs ih =>
      rw [blocks, visibleMembers_eq]
      by_cases hempty : (c.members.filter (· ∈ p.visibleNodes)).isEmpty = true
      · obtain ⟨bs, drawn', hrest, hshown⟩ := ih drawn
        refine ⟨bs, drawn', bind_eq_ok.mpr ⟨_, rfl, ?_⟩, hshown⟩
        rw [if_pos hempty]
        exact hrest
      · let fresh := ((c.members.filter (· ∈ p.visibleNodes)).filter (· ∉ drawn)).eraseDups
        obtain ⟨bs, drawn', hrest, hshown⟩ := ih (drawn ++ fresh)
        refine ⟨⟨blockName c.id, (p.caption c.id).text, fresh.map (p.nodeEntry o)⟩ :: bs, drawn',
          bind_eq_ok.mpr ⟨_, rfl, ?_⟩, ?_⟩
        · rw [if_neg hempty]
          exact bind_eq_ok.mpr ⟨_, hrest, rfl⟩
        · intro n hn
          rcases List.mem_append.mp hn with hn | hn
          · obtain ⟨id, hid, rfl⟩ := List.mem_map.mp hn
            have hmember := List.mem_of_mem_filter (List.mem_eraseDups.mp hid)
            exact ⟨id, of_decide_eq_true (List.mem_filter.mp hmember).2, rfl⟩
          · exact hshown n hn

/-- A presentation can always be drawn, and what its drawing holds is shown. -/
theorem draw_entries_shown (p : Presentation) (o : DrawOptions) :
    ∃ d, p.draw o = .ok d ∧
      (∀ n ∈ d.blocks.flatMap (·.nodes) ++ d.nodes, ∃ id ∈ p.visibleNodes, p.nodeEntry o id = n) ∧
      d.edges = p.visibleEdges.map (p.edgeEntry o) := by
  obtain ⟨bs, drawn, hblocks, hshown⟩ := blocks_shown p o p.graph.clusters []
  refine ⟨_, bind_eq_ok.mpr ⟨_, hblocks, rfl⟩, ?_, rfl⟩
  intro n hn
  rcases List.mem_append.mp hn with hn | hn
  · exact hshown n hn
  · obtain ⟨id, hid, rfl⟩ := List.mem_map.mp hn
    exact ⟨id, List.mem_of_mem_filter (List.mem_eraseDups.mp hid), rfl⟩

theorem render_of_draw {d : Drawing} (h : p.draw o = .ok d) :
    p.render o = .ok (d.text, p.visibleNodes.length) := bind_eq_ok.mpr ⟨d, h, rfl⟩

/-- The colors of a drawing are those of what is shown, and there are none
    when they are left out. -/
theorem color_of_draw {d : Drawing} (h : p.draw o = .ok d) {color : String}
    (hc : color ∈ d.colors) :
    o.plain = false ∧ ((∃ id ∈ p.visibleNodes, color = (p.nodeStyle id).fillColor) ∨
      ∃ e ∈ p.visibleEdges, color = (p.edgeStyle e.id).color) := by
  obtain ⟨d', hd', hnodes, hedges⟩ := draw_entries_shown p o
  obtain rfl := Except.ok.inj (h.symm.trans hd')
  rcases List.mem_append.mp hc with hc | hc
  · obtain ⟨n, hn, hcolor⟩ := List.mem_filterMap.mp hc
    obtain ⟨id, hid, rfl⟩ := hnodes n hn
    cases hplain : o.plain with
    | true => simp [nodeEntry, hplain] at hcolor
    | false =>
        refine ⟨rfl, Or.inl ⟨id, hid, ?_⟩⟩
        simpa [nodeEntry, hplain] using hcolor.symm
  · obtain ⟨entry, hentry, hcolor⟩ := List.mem_filterMap.mp hc
    rw [hedges] at hentry
    obtain ⟨e, he, rfl⟩ := List.mem_map.mp hentry
    cases hplain : o.plain with
    | true => simp [edgeEntry, hplain] at hcolor
    | false =>
        refine ⟨rfl, Or.inr ⟨e, he, ?_⟩⟩
        simpa [edgeEntry, hplain] using hcolor.symm

theorem fits_of_draw (hp : o.plain = true ∨ p.ColorsFit) {d : Drawing} (h : p.draw o = .ok d) :
    d.Fits := by
  intro color hc
  obtain ⟨hplain, hshown⟩ := color_of_draw h hc
  rcases hp with hp | ⟨hnodes, hedges⟩
  · exact nomatch hplain.symm.trans hp
  · rcases hshown with ⟨id, hid, rfl⟩ | ⟨e, he, rfl⟩
    · exact hnodes id hid
    · exact hedges e he

/-- The text of a presentation is read back as its drawing. -/
theorem read_render (hp : o.plain = true ∨ p.ColorsFit) :
    ∃ d, p.draw o = .ok d ∧ p.render o = .ok (d.text, p.visibleNodes.length) ∧
      Drawing.read d.text = some d ∧ (o.plain = true → d.colors = []) := by
  obtain ⟨d, hd, -⟩ := draw_entries_shown p o
  refine ⟨d, hd, render_of_draw hd, Drawing.read_text (fits_of_draw hp hd), ?_⟩
  intro hplain
  refine List.eq_nil_iff_forall_not_mem.mpr fun color hc => ?_
  exact nomatch (color_of_draw hd hc).1.symm.trans hplain

/-- **The text of a presentation is unambiguous.**  Every presentation is
    rendered, as the text of its drawing.  When two texts drawn alike are
    equal, so are the drawings: the hints, the blocks with their names and
    labels, the nodes in each of them and outside, and the edges, all with
    their labels and colors and in their order.  Ids and labels may be any
    text; colors, where they are drawn, must not break their line. -/
theorem text_tells_drawing (o : DrawOptions) (p q : Presentation)
    (hp : o.plain = true ∨ p.ColorsFit) (hq : o.plain = true ∨ q.ColorsFit) :
    ∃ d d', p.draw o = .ok d ∧ p.render o = .ok (d.text, p.visibleNodes.length) ∧
      q.draw o = .ok d' ∧ q.render o = .ok (d'.text, q.visibleNodes.length) ∧
      (d.text = d'.text → d = d') ∧ (o.plain = true → d.colors = [] ∧ d'.colors = []) := by
  obtain ⟨d, hd, hrender, hread, hplain⟩ := read_render hp
  obtain ⟨d', hd', hrender', hread', hplain'⟩ := read_render hq
  refine ⟨d, d', hd, hrender, hd', hrender', ?_, fun h => ⟨hplain h, hplain' h⟩⟩
  intro htext
  rw [htext] at hread
  exact Option.some.inj (hread.symm.trans hread')

/-- A node whose label looks like the end of its line and the line of another
    node. -/
def forged : Presentation where
  graph := { nodes := ["a"] }
  captions := (∅ : Table String).insert "a" "a\", color=LightGray]\n  \"b\" [label=\"b"

/-- The two nodes that the label imitates. -/
def honest : Presentation where
  graph := { nodes := ["a", "b"] }

/-- The imitation is told from what it imitates. -/
theorem forged_render_ne : forged.ColorsFit ∧ honest.ColorsFit ∧
    ∃ text text', forged.render {} = .ok (text, 1) ∧ honest.render {} = .ok (text', 2) ∧
      text ≠ text' := by
  have hforged : forged.ColorsFit := ⟨by decide +kernel, by decide +kernel⟩
  have hhonest : honest.ColorsFit := ⟨by decide +kernel, by decide +kernel⟩
  obtain ⟨d, d', hd, hrender, hd', hrender', htells, -⟩ :=
    text_tells_drawing {} forged honest (Or.inr hforged) (Or.inr hhonest)
  refine ⟨hforged, hhonest, d.text, d'.text, hrender, hrender', ?_⟩
  intro htext
  have hsame : forged.draw {} = honest.draw {} := by rw [hd, hd', htells htext]
  exact absurd hsame (by decide +kernel)

end Presentation

end Lineage
