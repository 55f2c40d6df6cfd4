import HubRelay.Proofs.Writer.Printer

/-!
# Line endings are a spelling

Two writers that differ in their terminator alone write the same text, in two spellings: where the one
has a line feed, the other has a carriage return and a line feed. Neither text can tell the two apart
in any other way, because the terminator decides only which characters are left out of a written text
and what stands at the end of a line.

The argument is a simulation by a function. Of a writer that ends lines with line feeds, `respell` is
the writer in the other spelling. As long as the indentation and the head of lines are on one line and
no carriage return has been written (`IsPlain`), it does not matter whether one writes first and
respells then, or the other way round (`Respells`): this is shown for one mark (`respells_put`), and
so it holds of texts and of the beginning and the end of scopes. Scopes end in any order, so a session
is plain only if what their ends restore is on one line as well (`Session.IsPlain`). One action keeps
that and may be taken before or after respelling (`Session.IsPlain.step`), and induction on the program
carries both to whole runs (`Session.IsPlain.run`, `Session.IsPlain.trace`).
-/

set_option autoImplicit false

namespace HubRelay

/-! ### The other spelling of a text -/

namespace Text

/-- A character in the spelling with carriage returns. -/
def withReturn (c : Char) : List Char := if c = '\n' then ['\r', '\n'] else [c]

/-- The text with a carriage return before each line feed. -/
def withReturns (text : String) : String := String.ofList (text.toList.flatMap withReturn)

@[simp] theorem withReturns_append (first second : String) :
    withReturns (first ++ second) = withReturns first ++ withReturns second := by
  rw [withReturns, String.toList_append, List.flatMap_append, String.ofList_append]
  rfl

/-- On one line there is nothing to respell. -/
theorem withReturns_of_isOneLine {text : String} (h : IsOneLine text) : withReturns text = text := by
  have hsame (cs : List Char) (hfeed : '\n' ∉ cs) : cs.flatMap withReturn = cs := by
    induction cs with
    | nil => rfl
    | cons c rest ih =>
      rw [List.mem_cons, not_or] at hfeed
      obtain ⟨hc, hrest⟩ := hfeed
      rw [List.flatMap_cons, ih hrest, withReturn, if_neg (Ne.symm hc), List.singleton_append]
  rw [withReturns, hsame _ h.1, String.ofList_toList]

/-- A line in the one spelling and in the other. -/
theorem withReturns_line {line : String} (h : IsOneLine line) :
    withReturns (line ++ LineEnding.lf.text) = line ++ LineEnding.crlf.text := by
  have hterminator : withReturns LineEnding.lf.text = LineEnding.crlf.text := by decide
  rw [withReturns_append, withReturns_of_isOneLine h, hterminator]

/-- Without the white space it ends in, a text is on one line as before. -/
theorem IsOneLine.trimEnd {text : String} (h : IsOneLine text) : IsOneLine (trimEnd text) :=
  h.ofList fun _ hc ↦
    List.mem_reverse.mp (List.dropWhile_subset _ (List.mem_reverse.mp hc))

end Text

/-- No line ends in a head that is restored. -/
def Exit.HeadIsOneLine : Exit → Prop
  | restore lineHead _ => Text.IsOneLine lineHead
  | _ => True

namespace Writer

/-! ### Writers in the other spelling -/

/-- The writer with a carriage return in its terminator, and before each line feed of its output. -/
def respell (w : Writer) : Writer :=
  { w with newline := LineEnding.crlf.text, out := Text.withReturns w.out }

/-- The writer ends lines with line feeds, and there are no line breaks but these. -/
structure IsPlain (w : Writer) : Prop where
  newline_eq : w.newline = LineEnding.lf.text
  isOneLine_indentText : Text.IsOneLine w.indentText
  isOneLine_lineHead : Text.IsOneLine w.lineHead
  return_notMem_out : '\r' ∉ w.out.toList

/-- The part keeps a writer plain, and writes the same in both spellings. -/
def Respells (part : Writer → Writer) : Prop :=
  ∀ ⦃w : Writer⦄, w.IsPlain → (part w).IsPlain ∧ part w.respell = (part w).respell

theorem respells_id : Respells fun w ↦ w := fun _ h ↦ ⟨h, rfl⟩

/-- One part after the other. -/
theorem Respells.comp {f g : Writer → Writer} (hf : Respells f) (hg : Respells g) :
    Respells fun w ↦ g (f w) := by
  intro w h
  obtain ⟨hplain, hfirst⟩ := hf h
  obtain ⟨hboth, hsecond⟩ := hg hplain
  exact ⟨hboth, (congrArg g hfirst).trans hsecond⟩

/-- Parts one after the other. -/
theorem respells_foldl {α : Type} {part : Writer → α → Writer} (h : ∀ x, Respells (part · x))
    (xs : List α) : Respells fun w ↦ xs.foldl part w := by
  induction xs with
  | nil => exact respells_id
  | cons x rest ih => exact (h x).comp ih

/-! ### Marks in both spellings -/

section Plain

variable {w : Writer} (h : w.IsPlain)

include h

theorem IsPlain.isOneLine_indentation : Text.IsOneLine w.indentation := by
  refine Text.isOneLine_join fun text htext ↦ ?_
  rw [List.eq_of_mem_replicate htext]
  exact h.isOneLine_indentText

/-- What comes on a line is the same in both spellings. -/
theorem IsPlain.extend {text : String} (htext : Text.IsOneLine text) (atLineStart : Bool) :
    { w with out := w.out ++ text, atLineStart := atLineStart }.IsPlain ∧
      { w.respell with out := w.respell.out ++ text, atLineStart := atLineStart } =
        { w with out := w.out ++ text, atLineStart := atLineStart }.respell := by
  have hout : '\r' ∉ (w.out ++ text).toList := by
    rw [String.toList_append, List.mem_append, not_or]
    exact ⟨h.return_notMem_out, htext.2⟩
  refine ⟨⟨h.newline_eq, h.isOneLine_indentText, h.isOneLine_lineHead, hout⟩, ?_⟩
  rw [respell, respell, Text.withReturns_append, Text.withReturns_of_isOneLine htext]

/-- The end of a line is where the spellings differ. -/
theorem IsPlain.finish {line : String} (hline : Text.IsOneLine line) :
    { w with out := w.out ++ line ++ w.newline, atLineStart := true }.IsPlain ∧
      { w.respell with out := w.respell.out ++ line ++ w.respell.newline, atLineStart := true } =
        { w with out := w.out ++ line ++ w.newline, atLineStart := true }.respell := by
  have hout : '\r' ∉ (w.out ++ line ++ w.newline).toList := by
    rw [h.newline_eq, String.toList_append, String.toList_append, List.mem_append, List.mem_append,
      not_or, not_or]
    exact ⟨⟨h.return_notMem_out, hline.2⟩, by decide⟩
  refine ⟨⟨h.newline_eq, h.isOneLine_indentText, h.isOneLine_lineHead, hout⟩, ?_⟩
  rw [respell, respell, h.newline_eq, String.append_assoc, String.append_assoc,
    Text.withReturns_append, Text.withReturns_line hline]

end Plain

theorem respells_startLine : Respells startLine := by
  intro w h
  cases hstart : w.atLineStart with
  | false =>
    have hsame (v : Writer) (hv : v.atLineStart = false) : v.startLine = v :=
      if_neg (by rw [hv]; exact Bool.false_ne_true)
    rw [hsame w hstart, hsame w.respell hstart]
    exact ⟨h, rfl⟩
  | true =>
    have hbegin := Text.isOneLine_append.mpr ⟨h.isOneLine_lineHead, h.isOneLine_indentation⟩
    have hextend (v : Writer) (hv : v.atLineStart = true) : v.startLine =
        { v with out := v.out ++ (v.lineHead ++ v.indentation), atLineStart := false } := by
      rw [startLine, if_pos hv, String.append_assoc]
    rw [hextend w hstart, hextend w.respell hstart]
    exact h.extend hbegin false

theorem respells_endLine : Respells endLine := by
  intro w h
  cases hstart : w.atLineStart with
  | false =>
    have hfinish (v : Writer) (hv : v.atLineStart = false) : v.endLine =
        { v with out := v.out ++ "" ++ v.newline, atLineStart := true } := by
      rw [endLine, if_neg (by rw [hv]; exact Bool.false_ne_true), String.append_empty]
    rw [hfinish w hstart, hfinish w.respell hstart]
    exact h.finish Text.isOneLine_empty
  | true =>
    have hfinish (v : Writer) (hv : v.atLineStart = true) : v.endLine =
        { v with out := v.out ++ Text.trimEnd v.lineHead ++ v.newline, atLineStart := true } := by
      rw [endLine, if_pos hv]
    rw [hfinish w hstart, hfinish w.respell hstart]
    exact h.finish h.isOneLine_lineHead.trimEnd

/-- A mark is put on the page in both spellings. -/
theorem respells_put (m : Mark) : Respells (·.put m) := by
  cases m with
  | char c hfeed hreturn =>
    have hchar : Text.IsOneLine (String.singleton c) := by
      rw [Text.IsOneLine, String.toList_singleton, List.mem_singleton, List.mem_singleton]
      exact ⟨Ne.symm hfeed, Ne.symm hreturn⟩
    have happend : Respells (·.append c) := by
      intro w h
      dsimp only [append]
      rw [String.push_eq_append, String.push_eq_append]
      exact h.extend hchar w.atLineStart
    exact respells_startLine.comp happend
  | lineEnd => exact respells_endLine

theorem respells_print (ms : List Mark) : Respells (·.print ms) := respells_foldl respells_put ms

/-- A text leaves the same marks in both spellings. -/
theorem respells_write (text : String) : Respells (·.write text) := by
  intro w h
  have hreturns : w.respell.newline = LineEnding.crlf.text := rfl
  dsimp only
  rw [write_eq_print h.newline_eq, write_eq_print hreturns]
  exact respells_print _ h

theorem respells_writeLine (text : String) : Respells (·.writeLine text) :=
  (respells_write text).comp respells_endLine

theorem respells_writeBreak (text : String) : Respells (·.writeBreak text) := by
  have hbreak := (respells_write text).comp (respells_write "\n")
  unfold writeBreak
  exact hbreak

theorem respells_comment (text : String) : Respells (·.comment text) := by
  intro w h
  have hreturns : w.respell.newline = LineEnding.crlf.text := rfl
  dsimp only
  rw [comment_eq_print h.newline_eq, comment_eq_print hreturns]
  exact respells_print _ h

/-! ### Scopes in both spellings -/

theorem respells_deeper : Respells deeper := fun _ h ↦
  ⟨⟨h.newline_eq, h.isOneLine_indentText, h.isOneLine_lineHead, h.return_notMem_out⟩, rfl⟩

theorem respells_shallower : Respells shallower := fun _ h ↦
  ⟨⟨h.newline_eq, h.isOneLine_indentText, h.isOneLine_lineHead, h.return_notMem_out⟩, rfl⟩

theorem respells_openBlock (first last : String) : Respells fun w ↦ (w.openBlock first last).1 :=
  (respells_writeLine first).comp respells_deeper

/-- A head on one line, put before or in the place of one on one line, gives one on one line. -/
theorem respells_openLineHead {text : String} (htext : Text.IsOneLine text) (keepsIndent : Bool) :
    Respells fun w ↦ (w.openLineHead text keepsIndent).1 := by
  intro w h
  have hcurrent := Text.isOneLine_append.mpr ⟨h.isOneLine_lineHead, h.isOneLine_indentation⟩
  have hhead : Text.IsOneLine (w.openLineHead text keepsIndent).1.lineHead := by
    rw [openLineHead]
    dsimp only
    split
    · exact Text.isOneLine_append.mpr ⟨hcurrent, htext⟩
    · rw [getD_dropBytes]
      exact Text.isOneLine_append.mpr ⟨htext, hcurrent.ofList (Text.restAfter_subset _ _)⟩
  exact ⟨⟨h.newline_eq, h.isOneLine_indentText, hhead, h.return_notMem_out⟩, rfl⟩

/-- A scope whose head is on one line opens in both spellings. -/
theorem respells_enter {o : Opening} (ho : o.HeadIsOneLine) : Respells fun w ↦ (w.enter o).1 := by
  cases o with
  | indent => exact respells_deeper
  | block trailer => exact respells_openBlock "\x7b" ("\x7d" ++ trailer)
  | blockComment => exact respells_openBlock "/*" "*/"
  | lineHead text keepsIndent => exact respells_openLineHead ho keepsIndent
  | closingLine text => exact respells_id
  | namespaceBlock name =>
    exact (respells_writeLine ("namespace " ++ name)).comp (respells_openBlock "\x7b" "\x7d")
  | classBlock name modifiers =>
    have hmodifier (modifier : String) := (respells_write modifier).comp (respells_write " ")
    have hname := ((respells_write "class ").comp (respells_writeLine name)).comp
      (respells_openBlock "\x7b" "\x7d")
    exact (respells_foldl hmodifier modifiers).comp hname
  | documentation => exact respells_openLineHead (by decide) true
  | summary => exact respells_writeLine "<summary>"

/-- What happens when a scope ends does not depend on the spelling, and restores a head on one line. -/
theorem IsPlain.exit_enter {w : Writer} (h : w.IsPlain) (o : Opening) :
    (w.enter o).2.HeadIsOneLine ∧ (w.respell.enter o).2 = (w.enter o).2 := by
  cases o with
  | lineHead | documentation => exact ⟨h.isOneLine_lineHead, rfl⟩
  | indent | block | blockComment | closingLine | namespaceBlock | classBlock | summary =>
    dsimp only [enter, openBlock]
    exact ⟨trivial, rfl⟩

/-- A scope ends in both spellings. -/
theorem respells_leave {exit : Exit} (hexit : exit.HeadIsOneLine) : Respells (·.leave exit) := by
  cases exit with
  | dedent => exact respells_shallower
  | close text => exact respells_shallower.comp (respells_writeLine text)
  | line text => exact respells_writeLine text
  | restore lineHead level =>
    exact fun _ h ↦
      ⟨⟨h.newline_eq, h.isOneLine_indentText, hexit, h.return_notMem_out⟩, rfl⟩

/-- A part inside a scope. -/
theorem Respells.within {part : Writer → Writer} (hpart : Respells part) {o : Opening}
    (ho : o.HeadIsOneLine) : Respells (·.within o part) := by
  intro w h
  obtain ⟨hinside, hopened⟩ := respells_enter ho h
  obtain ⟨hwritten, hbody⟩ := hpart hinside
  obtain ⟨hexit, hsame⟩ := h.exit_enter o
  obtain ⟨hplain, hended⟩ := respells_leave hexit hwritten
  refine ⟨hplain, ?_⟩
  show (part (w.respell.enter o).1).leave (w.respell.enter o).2 =
    ((part (w.enter o).1).leave (w.enter o).2).respell
  rw [hsame, show (w.respell.enter o).1 = (w.enter o).1.respell from hopened, hbody]
  exact hended

/-! ### Programs in both spellings -/

namespace Session

/-- The session in the other spelling. -/
def respell (s : Session) : Session := { s with writer := s.writer.respell }

/-- The writer is plain, and stays so when a scope ends. -/
structure IsPlain (s : Session) : Prop where
  writer : s.writer.IsPlain
  exits : ∀ exit, some exit ∈ s.scopes → exit.HeadIsOneLine

/-- An action that only writes. -/
theorem IsPlain.write {s : Session} (h : s.IsPlain) {part : Writer → Writer} (hpart : Respells part) :
    { s with writer := part s.writer }.IsPlain ∧
      { s with writer := part s.writer.respell } = { s with writer := part s.writer }.respell := by
  obtain ⟨hplain, hrespell⟩ := hpart h.writer
  exact ⟨⟨hplain, h.exits⟩, by rw [hrespell, respell]⟩

/-- An action that sets no head of several lines is taken in both spellings. -/
theorem IsPlain.step {s : Session} (h : s.IsPlain) {action : Action}
    (haction : ∀ o, action = .enter o → o.HeadIsOneLine) :
    (s.step action).IsPlain ∧ s.respell.step action = (s.step action).respell := by
  cases action with
  | write text => exact h.write (respells_write text)
  | writeLine text => exact h.write (respells_writeLine text)
  | writeBreak text =>
    have hbreak := h.write (respells_writeBreak text)
    exact hbreak
  | blankLine => exact h.write respells_endLine
  | comment text => exact h.write (respells_comment text)
  | see cref => exact h.write (respells_write _)
  | enter o =>
    obtain ⟨hplain, hrespell⟩ := respells_enter (haction o rfl) h.writer
    obtain ⟨hexit, hsame⟩ := h.writer.exit_enter o
    refine ⟨⟨hplain, fun exit hmem ↦ ?_⟩, ?_⟩
    · obtain hmem | hmem := List.mem_append.mp hmem
      · exact h.exits exit hmem
      · rwa [Option.some.inj (List.mem_singleton.mp hmem)]
    · show (⟨(s.writer.respell.enter o).1, s.scopes ++ [some (s.writer.respell.enter o).2]⟩ : Session) =
        ⟨(s.writer.enter o).1.respell, s.scopes ++ [some (s.writer.enter o).2]⟩
      rw [hsame]
      exact congrArg (Session.mk · _) hrespell
  | leave index =>
    rw [Session.step, Session.step]
    dsimp only [respell]
    split
    · next exit hexit =>
      have hhead := h.exits exit (List.mem_of_getElem? hexit)
      obtain ⟨hplain, hrespell⟩ := respells_leave hhead h.writer
      refine ⟨⟨hplain, fun other hmem ↦ ?_⟩, ?_⟩
      · obtain hmem | hmem := List.mem_or_eq_of_mem_set hmem
        · exact h.exits other hmem
        · cases hmem
      · exact congrArg (Session.mk · _) hrespell
    · exact ⟨h, rfl⟩

variable {program : List Action}

/-- A program that sets no head of several lines runs in both spellings. -/
theorem IsPlain.run {s : Session} (h : s.IsPlain)
    (hheads : ∀ o, .enter o ∈ program → o.HeadIsOneLine) :
    (s.run program).IsPlain ∧ s.respell.run program = (s.run program).respell := by
  induction program generalizing s with
  | nil => exact ⟨h, rfl⟩
  | cons action rest ih =>
    obtain ⟨hplain, hrespell⟩ := h.step fun o ho ↦ hheads o (ho ▸ List.mem_cons_self)
    have hrest := ih hplain fun o ho ↦ hheads o (List.mem_cons_of_mem _ ho)
    rw [← hrespell] at hrest
    exact hrest

/-- The sessions after each action are the same in both spellings. -/
theorem IsPlain.trace {s : Session} (h : s.IsPlain)
    (hheads : ∀ o, .enter o ∈ program → o.HeadIsOneLine) :
    s.respell.trace program = (s.trace program).map respell := by
  induction program generalizing s with
  | nil => rfl
  | cons action rest ih =>
    obtain ⟨hplain, hrespell⟩ := h.step fun o ho ↦ hheads o (ho ▸ List.mem_cons_self)
    rw [Session.trace, Session.trace, List.map_cons, hrespell,
      ih hplain fun o ho ↦ hheads o (List.mem_cons_of_mem _ ho)]

/-- A new session is plain. -/
theorem isPlain_start {indentText : String} (hindent : Text.IsOneLine indentText) :
    IsPlain ⟨{ indentText := indentText, newline := LineEnding.lf.text }, []⟩ :=
  ⟨⟨rfl, hindent, Text.isOneLine_empty, List.not_mem_nil⟩, fun _ hmem ↦ absurd hmem List.not_mem_nil⟩

end Session

end Writer

end HubRelay
