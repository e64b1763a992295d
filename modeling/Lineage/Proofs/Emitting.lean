import Lineage.Dot.Output
import Lineage.Proofs.Telling

/-! # Writing piece by piece

    A drawing is a value, and its lines are a list; writing hands pieces to an
    outlet one after the other, and keeps in mind what is written.  `Emits` says
    that both come to the same: a piece of writing does nothing but hand over
    pieces that, put together, are some lines.  It is kept by doing one thing
    after another (`Emits.bind`), and every part of the writer emits the lines of
    the part of the drawing that it stands for.

    Nothing is said about the outlet, so nothing that is written depends on it.

    The headline is `write_emits`: writing a presentation emits its drawing. -/

namespace Lineage

variable {m : Type → Type} [Monad m] {α β : Type} {out : Outlet m}

/-! ## Handing over lines -/

/-- Lines, each ended by a line break. -/
def brokenLines (lines : List String) : String := String.join (lines.map (· ++ "\n"))

theorem brokenLines_append (xs ys : List String) :
    brokenLines (xs ++ ys) = brokenLines xs ++ brokenLines ys := by
  rw [brokenLines, List.map_append, String.join_append]
  rfl

/-- All that `w` does is to hand over pieces that make up the lines, and then it
    gives `a`. -/
def Emits (out : Outlet m) (w : ExceptT Failure m α) (lines : List String) (a : α) : Prop :=
  ∃ pieces : List String, String.join pieces = brokenLines lines ∧
    w = (do forM pieces out; pure a)

namespace Emits

theorem of_eq {w : ExceptT Failure m α} {ls ls' : List String} {a : α} (h : ls = ls')
    (hw : Emits out w ls a) : Emits out w ls' a := h ▸ hw

section Laws

variable [LawfulMonad m]

theorem pure (out : Outlet m) (a : α) : Emits out (pure a) [] a := by
  refine ⟨[], rfl, ?_⟩
  rw [List.forM_nil, pure_bind]

/-- A step that writes nothing, and succeeds. -/
theorem lift (out : Outlet m) {x : Except Failure α} {a : α} (h : x = .ok a) :
    Emits out (liftM x) [] a := by
  subst h
  exact Emits.pure out a

/-- One piece of writing after another. -/
theorem bind {w : ExceptT Failure m α} {f : α → ExceptT Failure m β} {ls ls' : List String}
    {a : α} {b : β} (hw : Emits out w ls a) (hf : Emits out (f a) ls' b) :
    Emits out (w >>= f) (ls ++ ls') b := by
  obtain ⟨ps, hps, rfl⟩ := hw
  obtain ⟨ps', hps', hrest⟩ := hf
  refine ⟨ps ++ ps', ?_, ?_⟩
  · rw [String.join_append, hps, hps', brokenLines_append]
  · rw [bind_assoc, pure_bind, hrest, List.forM_append, bind_assoc]

/-- One line, handed over in one piece. -/
theorem line (out : Outlet m) (l : String) : Emits out (out (l ++ "\n")) [l] () := by
  refine ⟨[l ++ "\n"], rfl, ?_⟩
  rw [List.forM_cons, List.forM_nil, bind_assoc, pure_bind]
  exact (bind_pure _).symm

/-- The same for every member of a list. -/
theorem forM {γ : Type} {w : γ → ExceptT Failure m Unit} {line : γ → String} {xs : List γ}
    (h : ∀ x ∈ xs, Emits out (w x) [line x] ()) : Emits out (xs.forM w) (xs.map line) () := by
  induction xs with
  | nil => exact Emits.pure out ()
  | cons x xs ih =>
      exact (h x List.mem_cons_self).bind (ih fun y hy => h y (List.mem_cons_of_mem x hy))

end Laws

end Emits

namespace Presentation

section Parts

variable [LawfulMonad m] {p : Presentation} {o : DrawOptions}

theorem writeLines_emits (out : Outlet m) (lines : List String) :
    Emits out (writeLines out lines) (lines.map indent) () :=
  Emits.forM fun l _ => Emits.line out (indent l)

/-- The pieces of an entry are one line. -/
theorem writeEntry_emits (o : DrawOptions) (out : Outlet m) (head label color : String) :
    Emits out (writeEntry o out head label color)
      [head ++ attributes label (if o.plain then none else some color)] () := by
  cases hplain : o.plain with
  | true =>
      refine ⟨[head ++ " [label=" ++ Dot.quoted label, "]\n"], ?_, ?_⟩
      · simp [brokenLines, attributes, String.append_assoc]
      · simp [writeEntry, hplain]
  | false =>
      refine ⟨[head ++ " [label=" ++ Dot.quoted label, ", color=" ++ color, "]\n"], ?_, ?_⟩
      · simp [brokenLines, attributes, String.append_assoc]
      · simp [writeEntry, hplain]

theorem writeNode_emits (p : Presentation) (o : DrawOptions) (out : Outlet m) (margin : String)
    (id : NodeId) :
    Emits out (p.writeNode o out margin id) [margin ++ (p.nodeEntry o id).line] () := by
  rw [NodeEntry.line, ← String.append_assoc]
  exact writeEntry_emits o out _ _ _

theorem writeEdge_emits (p : Presentation) (o : DrawOptions) (out : Outlet m) (e : Edge) :
    Emits out (p.writeEdge o out e) [indent (p.edgeEntry o e).line] () := by
  rw [EdgeEntry.line, indent, ← String.append_assoc]
  exact writeEntry_emits o out _ _ _

/-! ## Nodes that are not written yet -/

/-- The members of a list that are not written, each once. -/
def unwritten (written ids : List NodeId) : List NodeId := (ids.filter (· ∉ written)).eraseDups

theorem unwritten_cons_of_mem {written ids : List NodeId} {id : NodeId} (h : id ∈ written) :
    unwritten written (id :: ids) = unwritten written ids := by
  rw [unwritten, List.filter_cons_of_neg (by simpa using h)]
  rfl

theorem unwritten_cons_of_not_mem {written ids : List NodeId} {id : NodeId} (h : id ∉ written) :
    unwritten written (id :: ids) = id :: unwritten (written ++ [id]) ids := by
  rw [unwritten, List.filter_cons_of_pos (by simpa using h), List.eraseDups_cons, unwritten,
    List.filter_filter]
  refine congrArg (fun rest => id :: List.eraseDups rest) (List.filter_congr fun x _ => ?_)
  rw [Bool.eq_iff_iff]
  simp [and_comm]

/-- Writing every node once writes those that were not written, in order. -/
theorem foldlM_writeOnce_emits (p : Presentation) (o : DrawOptions) (out : Outlet m)
    (margin : String) (written ids : List NodeId) :
    Emits out (ids.foldlM (p.writeOnce o out margin) written)
      ((unwritten written ids).map fun id => margin ++ (p.nodeEntry o id).line)
      (written ++ unwritten written ids) := by
  induction ids generalizing written with
  | nil =>
      rw [unwritten, List.filter_nil, List.eraseDups_nil, List.append_nil]
      exact Emits.pure out written
  | cons id ids ih =>
      rw [List.foldlM_cons, writeOnce]
      by_cases hid : id ∈ written
      · rw [if_pos hid, pure_bind, unwritten_cons_of_mem hid]
        exact ih written
      · rw [if_neg hid, bind_assoc, unwritten_cons_of_not_mem hid]
        have hrest := ih (written ++ [id])
        rw [List.append_assoc] at hrest
        refine (writeNode_emits p o out margin id).bind ?_
        rw [pure_bind]
        exact hrest

/-! ## Blocks -/

/-- A cluster with visible members emits its block. -/
theorem writeCluster_emits (o : DrawOptions) (out : Outlet m) (written : List NodeId) {c : Cluster}
    {members : List NodeId} (hmembers : p.visibleMembers c = .ok members)
    (hsome : ¬ members.isEmpty = true) :
    Emits out (p.writeCluster o out written c)
      ((Block.mk (blockName c.id) (p.caption c.id).text
        ((unwritten written members).map (p.nodeEntry o))).lines.map indent)
      (written ++ unwritten written members) := by
  refine Emits.of_eq (List.nil_append _) ((Emits.lift out hmembers).bind ?_)
  rw [if_neg hsome]
  refine Emits.of_eq ?_ <| (Emits.line out _).bind <| (Emits.line out _).bind <|
    (foldlM_writeOnce_emits p o out (indent (indent "")) written members).bind <|
    (Emits.line out _).bind <| Emits.pure out _
  simp [Block.lines, indent, Function.comp_def, ← String.append_assoc]

/-- The clusters emit their blocks, and nothing where no member is visible. -/
theorem foldlM_writeCluster_emits (out : Outlet m) {cs : List Cluster} {drawn : List NodeId}
    {bs : List Block} {drawn' : List NodeId} (h : p.blocks o cs drawn = .ok (bs, drawn')) :
    Emits out (cs.foldlM (p.writeCluster o out) drawn) ((bs.flatMap Block.lines).map indent)
      drawn' := by
  induction cs generalizing drawn bs with
  | nil =>
      obtain ⟨rfl, rfl⟩ := Prod.mk.inj (Except.ok.inj h)
      exact Emits.pure out drawn
  | cons c cs ih =>
      obtain ⟨members, hmembers, h⟩ := bind_eq_ok.mp h
      rw [List.foldlM_cons]
      by_cases hempty : members.isEmpty = true
      · rw [if_pos hempty] at h
        have hnothing : Emits out (p.writeCluster o out drawn c) [] drawn := by
          refine Emits.of_eq (List.nil_append _) ((Emits.lift out hmembers).bind ?_)
          rw [if_pos hempty]
          exact Emits.pure out drawn
        exact Emits.of_eq (List.nil_append _) (hnothing.bind (ih h))
      · rw [if_neg hempty] at h
        obtain ⟨⟨rest, drawn''⟩, hrest, h⟩ := bind_eq_ok.mp h
        obtain ⟨rfl, rfl⟩ := Prod.mk.inj (Except.ok.inj h)
        rw [List.flatMap_cons, List.map_append]
        exact (writeCluster_emits o out drawn hmembers hempty).bind (ih hrest)

/-! ## The whole -/

/-- **Writing emits the drawing.**  Whatever the outlet is, all that writing a
    presentation does is to hand over pieces that make up the text of its
    drawing, and then to give the number of visible nodes. -/
theorem write_emits (out : Outlet m) {d : Drawing} (h : p.draw o = .ok d) :
    Emits out (p.write o out) d.lines p.visibleNodes.length := by
  obtain ⟨⟨bs, drawn⟩, hblocks, h⟩ := bind_eq_ok.mp h
  obtain rfl := Except.ok.inj h
  have hnodes := foldlM_writeOnce_emits p o out (indent "") drawn p.visibleNodes
  have hedges := Emits.forM fun e (_ : e ∈ p.visibleEdges) => writeEdge_emits p o out e
  refine Emits.of_eq ?_ <| (Emits.line out "digraph \x7b").bind <|
    (writeLines_emits out Drawing.layoutLines).bind <| (writeLines_emits out _).bind <|
    (foldlM_writeCluster_emits out hblocks).bind <| hnodes.bind <| hedges.bind <|
    (Emits.line out "\x7d").bind (Emits.pure out p.visibleNodes.length)
  simp [Drawing.lines, Drawing.body, unwritten, indent, Function.comp_def]

end Parts

end Presentation

end Lineage
