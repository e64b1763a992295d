import Lineage.Proofs.Answers
import Lineage.Proofs.Bytes
import Lineage.Proofs.Emitting
import Lineage.Proofs.Flags

/-! # Where the text arrives

    Writing a presentation does nothing but hand over pieces of its text
    (`write_emits`).  An outlet is `Seamless` when it does not matter where a
    text is cut, and then writing is handing over the text at once
    (`write_eq`).  Both outlets are: of two texts, a sink takes as much as of
    both together, whether it refuses the first (`Sink.offer_append_of_not_le`) or
    not (`Sink.offer_append_of_le`); and a buffer takes everything.

    So what arrives in a sink or in a file can be read off the text.

    The headline is `output_whole_or_refused`. -/

namespace Lineage

/-! ## Seamless outlets -/

/-- It does not matter where a text is cut. -/
structure Outlet.Seamless {m : Type → Type} [Monad m] (out : Outlet m) : Prop where
  nothing : out "" = pure ()
  append : ∀ a b, out (a ++ b) = (do out a; out b)

theorem Outlet.Seamless.forM {m : Type → Type} [Monad m] {out : Outlet m} (h : out.Seamless)
    (pieces : List String) : forM pieces out = out (String.join pieces) := by
  induction pieces with
  | nil => exact h.nothing.symm
  | cons piece pieces ih => rw [List.forM_cons, ih, String.join_cons, h.append]

/-- Writing hands over the text. -/
theorem Presentation.write_eq {m : Type → Type} [Monad m] [LawfulMonad m] {out : Outlet m}
    (hout : out.Seamless) {p : Presentation} {o : DrawOptions} {text : String} {n : Nat}
    (h : p.render o = .ok (text, n)) : p.write o out = (do out text; pure n) := by
  obtain ⟨d, hdraw, h⟩ := bind_eq_ok.mp h
  obtain ⟨rfl, rfl⟩ := Prod.mk.inj (Except.ok.inj h)
  obtain ⟨pieces, hpieces, hwrite⟩ := write_emits out hdraw
  rw [hwrite, hout.forM, hpieces]
  rfl

theorem run_buffer (held piece : String) :
    (buffer piece).run.run held = (.ok (), held ++ piece) := rfl

theorem seamless_buffer : buffer.Seamless where
  nothing := by
    refine ExceptT.ext (StateT.ext fun held => ?_)
    rw [run_buffer, String.append_empty]
    rfl
  append a b := by
    refine ExceptT.ext (StateT.ext fun held => ?_)
    rw [run_buffer, ← String.append_assoc]
    rfl

/-! ## Sinks -/

namespace Sink

variable {s : Sink} {xs : List UInt8}

@[simp] theorem room_offer (s : Sink) (bytes : List UInt8) :
    (s.offer bytes).1.room = s.room - bytes.length := rfl

@[simp] theorem taken_offer (s : Sink) (bytes : List UInt8) :
    (s.offer bytes).1.taken = s.taken ++ bytes.take s.room := rfl

/-- What was not refused may as well have been offered together with the rest. -/
theorem offer_append_of_le (h : xs.length ≤ s.room) (ys : List UInt8) :
    s.offer (xs ++ ys) = (s.offer xs).1.offer ys := by
  have hfits : xs.length + ys.length ≤ s.room ↔ ys.length ≤ s.room - xs.length := by omega
  simp only [offer, List.take_append, List.take_of_length_le h, List.append_assoc,
    List.length_append, Nat.sub_sub, hfits]

/-- What does not fit does not fit together with more. -/
theorem not_fits_append (h : ¬ xs.length ≤ s.room) (ys : List UInt8) :
    ¬ (xs ++ ys).length ≤ s.room := by
  rw [List.length_append]
  omega

/-- After a refusal, more changes nothing. -/
theorem offer_append_of_not_le (h : ¬ xs.length ≤ s.room) (ys : List UInt8) :
    s.offer (xs ++ ys) = s.offer xs := by
  have hroom : s.room - (xs ++ ys).length = s.room - xs.length := by
    rw [List.length_append]
    omega
  simp only [offer, hroom, h, not_fits_append h ys,
    List.take_append_of_le_length (Nat.le_of_not_le h)]

/-- A sink takes what fits, and refuses what does not fit as a whole. -/
theorem run_outlet (s : Sink) (piece : String) :
    (outlet piece).run.run s =
      (if (bytesOf piece).length ≤ s.room then .ok () else .error (.outputRefused fullReason),
        (s.offer (bytesOf piece)).1) := by
  show ((if decide ((bytesOf piece).length ≤ s.room) then pure ()
    else throw (.outputRefused fullReason) : ExceptT Failure (StateM Sink) Unit).run.run
      (s.offer (bytesOf piece)).1) = _
  by_cases h : (bytesOf piece).length ≤ s.room
  · rw [if_pos h, decide_eq_true h]
    rfl
  · rw [if_neg h, decide_eq_false h]
    rfl

/-- A refusal ends the writing. -/
theorem run_outlet_bind (s : Sink) (piece : String) {α : Type}
    (f : Unit → ExceptT Failure (StateM Sink) α) :
    (outlet piece >>= f).run.run s =
      if (bytesOf piece).length ≤ s.room then (f ()).run.run (s.offer (bytesOf piece)).1
      else (.error (.outputRefused fullReason), (s.offer (bytesOf piece)).1) := by
  rw [ExceptT.run_bind, StateT.run_bind, run_outlet]
  by_cases h : (bytesOf piece).length ≤ s.room
  · rw [if_pos h, if_pos h]
    rfl
  · rw [if_neg h, if_neg h]
    rfl

theorem seamless_outlet : outlet.Seamless where
  nothing := by
    refine ExceptT.ext (StateT.ext fun s => ?_)
    have hsame : (s.offer (bytesOf "")).1 = s := by simp [offer, bytesOf]
    have hfits : (bytesOf "").length ≤ s.room := Nat.zero_le s.room
    rw [run_outlet, hsame, if_pos hfits]
    rfl
  append a b := by
    refine ExceptT.ext (StateT.ext fun s => ?_)
    rw [run_outlet_bind, run_outlet, bytesOf_append]
    by_cases h : (bytesOf a).length ≤ s.room
    · have hfits : (bytesOf a ++ bytesOf b).length ≤ s.room ↔
          (bytesOf b).length ≤ (s.offer (bytesOf a)).1.room := by
        rw [List.length_append, room_offer]
        omega
      rw [if_pos h, run_outlet, offer_append_of_le h]
      simp only [hfits]
    · rw [if_neg h, if_neg (not_fits_append h _), offer_append_of_not_le h]

end Sink

namespace Presentation

variable {p : Presentation} {o : DrawOptions} {text : String} {n : Nat}

/-- A sink takes as much of the text as fits, and the count is given when that
    is the whole text. -/
theorem writeTo_eq (h : p.render o = .ok (text, n)) (s : Sink) :
    p.writeTo o s = ((s.offer (bytesOf text)).1,
      if text.utf8ByteSize ≤ s.room then .ok n else .error (.outputRefused Sink.fullReason)) := by
  have hrun := Sink.run_outlet_bind s text fun _ => (pure n : ExceptT Failure (StateM Sink) Nat)
  rw [length_bytesOf] at hrun
  rw [writeTo, write_eq Sink.seamless_outlet h, hrun]
  by_cases hfits : text.utf8ByteSize ≤ s.room
  · rw [if_pos hfits, if_pos hfits]
    rfl
  · rw [if_neg hfits, if_neg hfits]

/-- A file is given the whole text at once. -/
theorem writeFile_eq {m : Type → Type} [Monad m] (files : Files m)
    (h : p.render o = .ok (text, n)) (path : String) :
    p.writeFile files o path = (do
      if ← files.write path text then return .ok n else return .error .outputUnavailable) := by
  have hrun : (p.write o buffer).run.run "" = (.ok n, text) := by
    rw [write_eq seamless_buffer h]
    show (Except.ok n, "" ++ text) = _
    rw [String.empty_append]
  rw [writeFile, hrun]

/-- Every presentation can be rendered. -/
theorem exists_render (p : Presentation) (o : DrawOptions) :
    ∃ text, p.render o = .ok (text, p.visibleNodes.length) := by
  obtain ⟨d, hdraw, -⟩ := draw_entries_shown p o
  exact ⟨d.text, render_of_draw hdraw⟩

/-- What becomes of writing a presentation into a sink that takes `c` bytes in
    all, where rendering gives the text and the count. -/
structure WrittenTo (p : Presentation) (o : DrawOptions) (c : Nat) (text : String) (n : Nat) :
    Prop where
  ok_iff : (p.writeTo o { room := c }).2 = .ok n ↔ text.utf8ByteSize ≤ c
  refused : c < text.utf8ByteSize →
    (p.writeTo o { room := c }).2 = .error (.outputRefused Sink.fullReason)
  first_part : (p.writeTo o { room := c }).1.taken <+: bytesOf text
  whole : (p.writeTo o { room := c }).2 = .ok n → (p.writeTo o { room := c }).1.taken = bytesOf text

theorem writtenTo_of_render (h : p.render o = .ok (text, n)) (c : Nat) :
    p.WrittenTo o c text n := by
  have hrun := writeTo_eq h { room := c }
  have htaken : (p.writeTo o { room := c }).1.taken = (bytesOf text).take c := by
    rw [hrun, Sink.taken_offer, List.nil_append]
  have hok : (p.writeTo o { room := c }).2 = .ok n ↔ text.utf8ByteSize ≤ c := by
    rw [hrun]
    by_cases hfits : text.utf8ByteSize ≤ c
    · simp [hfits]
    · simp [hfits]
  refine ⟨hok, ?_, ?_, ?_⟩
  · intro hc
    rw [hrun]
    exact if_neg (Nat.not_le.mpr hc)
  · rw [htaken]
    exact List.take_prefix c _
  · intro hn
    rw [htaken]
    exact List.take_of_length_le (hok.mp hn)

end Presentation

/-! ## Files -/

section Files

variable {σ : Type} (files : Files (StateM σ))

/-- A file holds what was written to it, if the writing succeeded. -/
def Files.Keeps (path : String) : Prop :=
  ∀ (text : String) (s : σ), ((files.write path text).run s).1 = true →
    ((files.read path).run ((files.write path text).run s).2).1 = some text.toUTF8

/-- A run gave the number of nodes and left the text in the file. -/
structure LeftIn (path text : String) (n : Nat) {ε : Type} (ran : Except ε Nat × σ) : Prop where
  count : ran.1 = .ok n
  content : ((files.read path).run ran.2).1 = some text.toUTF8

variable {files}

theorem Presentation.run_writeFile {p : Presentation} {o : DrawOptions} {text path : String}
    {n : Nat} (h : p.render o = .ok (text, n)) {s : σ}
    (hwritten : ((files.write path text).run s).1 = true) :
    (p.writeFile files o path).run s = (.ok n, ((files.write path text).run s).2) := by
  rw [writeFile_eq files h, StateT.run_bind]
  show StateT.run (if ((files.write path text).run s).1 = true then _ else _) _ = _
  rw [if_pos hwritten]
  rfl

/-- A drawing that is asked for is left in the file, with the count of its
    response. -/
theorem Inspection.run_renderToFile {i : Inspection} {r : RenderRequest} {path : String}
    {resp : RenderResponse} (h : (i.render r).verdict = .ok resp) {s : σ}
    (hwritten : ((files.write path resp.dot).run s).1 = true) :
    ((i.renderToFile files r path).run s).1.verdict = .ok resp.visibleNodes ∧
      ((i.renderToFile files r path).run s).2 = ((files.write path resp.dot).run s).2 := by
  have hresp := h
  rw [render, Inquiry.verdict_bind] at h
  obtain ⟨p, hp, -⟩ := bind_eq_ok.mp h
  obtain ⟨d, hdraw, -⟩ := Presentation.draw_entries_shown p r.drawOptions
  obtain rfl := Except.ok.inj ((verdict_render hp hdraw).symm.trans hresp)
  have hwrite := Presentation.run_writeFile (Presentation.render_of_draw hdraw) hwritten
  have hrun : (i.renderToFile files r path).run s =
      (ExceptT.mk ⟨.ok p.visibleNodes.length, (i.presentation r).events⟩,
        ((files.write path d.text).run s).2) := by
    rw [renderToFile, hp]
    show StateT.run (p.writeFile files r.drawOptions path >>= _) s = _
    rw [StateT.run_bind, hwrite]
    rfl
  rw [hrun]
  exact ⟨rfl, rfl⟩

/-- A drawing that cannot be made leaves the files alone. -/
theorem Inspection.run_renderToFile_of_error {i : Inspection} {r : RenderRequest} {path : String}
    {t : Trouble} (h : (i.render r).verdict = .error t) (s : σ) :
    ((i.renderToFile files r path).run s).1.verdict = .error t ∧
      ((i.renderToFile files r path).run s).2 = s := by
  cases hp : (i.presentation r).verdict with
  | ok p =>
      obtain ⟨d, hdraw, -⟩ := Presentation.draw_entries_shown p r.drawOptions
      exact nomatch (verdict_render hp hdraw).symm.trans h
  | error t' =>
      rw [render, Inquiry.verdict_bind, hp] at h
      obtain rfl := Except.error.inj h
      rw [renderToFile, hp]
      exact ⟨rfl, rfl⟩

/-- **Output is whole or refused.**  Every presentation has a text and a count.
    Writing into a sink gives the count exactly if the text fits, and is refused
    otherwise; what the sink took is a first part of the text, and the whole of
    it if nothing was refused.  Writing to a file, where it succeeds, gives the
    count too and leaves the text there, and so it does for the response to a
    request. -/
theorem output_whole_or_refused (files : Files (StateM σ)) (path : String) :
    (∀ (p : Presentation) (o : DrawOptions), ∃ text n, p.render o = .ok (text, n) ∧
      (∀ c, p.WrittenTo o c text n) ∧
      (files.Keeps path → ∀ s, ((files.write path text).run s).1 = true →
        LeftIn files path text n ((p.writeFile files o path).run s))) ∧
    ∀ (i : Inspection) (r : RenderRequest) (resp : RenderResponse),
      (i.render r).verdict = .ok resp → files.Keeps path →
        ∀ s, ((files.write path resp.dot).run s).1 = true →
          LeftIn files path resp.dot resp.visibleNodes
            (Prod.map Inquiry.verdict id ((i.renderToFile files r path).run s)) := by
  constructor
  · intro p o
    obtain ⟨text, h⟩ := p.exists_render o
    refine ⟨text, _, h, Presentation.writtenTo_of_render h, ?_⟩
    intro hkeeps s hwritten
    rw [Presentation.run_writeFile h hwritten]
    exact ⟨rfl, hkeeps text s hwritten⟩
  · intro i r resp h hkeeps s hwritten
    obtain ⟨hcount, hfolder⟩ := Inspection.run_renderToFile h hwritten
    refine ⟨hcount, ?_⟩
    rw [Prod.map_snd, id, hfolder]
    exact hkeeps resp.dot s hwritten

end Files

namespace Folder

theorem run_write (path text : String) (folder : Folder) :
    (files.write path text).run folder =
      match folder.write? path text with
      | some written => (true, written)
      | none => (false, folder) := by
  show StateT.run (match folder.write? path text with | some _ => _ | none => _) folder = _
  cases folder.write? path text with
  | some written => rfl
  | none => rfl

/-- A folder keeps what is written to it, whatever the path. -/
theorem keeps (path : String) : files.Keeps path := by
  intro text folder hwritten
  rw [run_write, write?] at hwritten ⊢
  cases hname : fileAt? path with
  | none =>
      rw [hname] at hwritten
      exact nomatch hwritten
  | some name =>
      show Option.bind (fileAt? path) (fun name' => (folder.insert name text.toUTF8)[name']?) = _
      rw [hname, Option.bind_some, getElem?_insert, if_pos rfl]

/-- Writing succeeds where the path leads to a file. -/
theorem write_succeeds {path name : String} (h : fileAt? path = some name) (text : String)
    (folder : Folder) : ((files.write path text).run folder).1 = true := by
  rw [run_write, write?, h]
  rfl

theorem fileAt?_out : fileAt? "out.dot" = some "out.dot" := by
  have hsteps : steps "out.dot" = ["out.dot"] := by decide +kernel
  have hshort : ¬ "out.dot".utf8ByteSize > longestName := by decide +kernel
  have hname : "out.dot".contains '\x00' = false := by simp
  rw [fileAt?, hsteps]
  simp [hshort, hname]

end Folder

/-- A drawing that a sink refuses in its second line and a file takes, and the
    drawing of a request that a file takes. -/
theorem drawings_refused_and_kept :
    Presentation.overlapping.writeTo {} { room := 12 } =
        (⟨0, bytesOf "digraph \x7b\n  "⟩, .error (.outputRefused Sink.fullReason)) ∧
      (∃ text, Presentation.overlapping.render {} = .ok (text, 4) ∧
        Presentation.overlapping.WrittenTo {} 12 text 4 ∧
        LeftIn Folder.files "out.dot" text 4
          ((Presentation.overlapping.writeFile Folder.files {} "out.dot").run ∅)) ∧
      Folder.files.Keeps "out.dot" ∧
      ((Folder.files.write "out.dot" Inspection.implementationText).run ∅).1 = true ∧
      ((Inspection.ofCatalog {} (.ofModules Inspection.implementation)).value.render {}).verdict =
        .ok ⟨Inspection.implementationText, 2, 2, 1⟩ ∧
      LeftIn Folder.files "out.dot" Inspection.implementationText 2
        (Prod.map Inquiry.verdict id
          (((Inspection.ofCatalog {} (.ofModules Inspection.implementation)).value.renderToFile
            Folder.files {} "out.dot").run ∅)) := by
  have hkeeps := Folder.keeps "out.dot"
  have hwritten := fun text => Folder.write_succeeds Folder.fileAt?_out text ∅
  have hrender : ((Inspection.ofCatalog {} (.ofModules Inspection.implementation)).value.render
      {}).verdict = .ok ⟨Inspection.implementationText, 2, 2, 1⟩ := by decide +kernel
  obtain ⟨hpresentations, hrequests⟩ := output_whole_or_refused Folder.files "out.dot"
  obtain ⟨text, n, htext, hsink, hfile⟩ := hpresentations Presentation.overlapping {}
  obtain ⟨d, -, hd⟩ := bind_eq_ok.mp htext
  obtain rfl : 4 = n := (Prod.mk.inj (Except.ok.inj hd)).2
  refine ⟨by decide +kernel, ⟨text, htext, hsink 12, ?_⟩, hkeeps, hwritten _, hrender, ?_⟩
  · exact hfile hkeeps ∅ (hwritten text)
  · exact hrequests _ _ _ hrender hkeeps ∅ (hwritten _)

end Lineage
