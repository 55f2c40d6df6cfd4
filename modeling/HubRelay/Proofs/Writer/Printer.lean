import HubRelay.Proofs.Writer.Scopes

/-!
# A printer that follows scopes

A program is properly nested when it ends its scopes from the inside out. For such programs there is
a printer without any state of its own but the scopes that are open: it puts marks on a sheet, each
character with the scopes that are open when it is written. What stands on a line is then read off the
sheet. A line is what lines began with when its first character was written, and its characters after
that; a line without characters is the fixed head of the scopes open at its end, without the white
space that the head ends in (`Line.text`).

The writer with its flat state is such a printer (`run_eq_printed`): at every point of a properly
nested program the head and the level are those of the open scopes, and the output is the text of the
sheet. The step of the argument is `Tracks.step`: one action keeps the writer reflecting the open
scopes, the exits of the open scopes in their places, and the output equal to the sheet.
-/

set_option autoImplicit false

namespace HubRelay

/-- No line ends in a head that the scope sets. -/
def Opening.HeadIsOneLine : Opening → Prop
  | lineHead text _ => Text.IsOneLine text
  | _ => True

namespace Writer

/-! ### Sheets -/

/-- A line that has ended: the characters that were kept on it, each with the scopes open when it was
written, and the scopes open when the line ended. -/
structure Line where
  kept : List (List Opening × Char)
  scopes : List Opening

/-- The characters on a line behind what lines began with when the first of them was written. -/
def keptText (indentText : String) : List (List Opening × Char) → String
  | [] => ""
  | (scopes, c) :: rest => headOf indentText scopes ++ String.ofList (c :: rest.map (·.2))

/-- The text of a line. -/
def Line.text (indentText : String) (line : Line) : String :=
  if line.kept = [] then Text.trimEnd (fixedHead indentText line.scopes)
  else keptText indentText line.kept

/-- The lines that have ended, and the characters kept since then. -/
structure Sheet where
  lines : List Line := []
  current : List (List Opening × Char) := []

namespace Sheet

/-- Puts a mark on the sheet while scopes are open. -/
def put (scopes : List Opening) (sheet : Sheet) : Mark → Sheet
  | .char c _ _ => { sheet with current := sheet.current ++ [(scopes, c)] }
  | .lineEnd => ⟨sheet.lines ++ [⟨sheet.current, scopes⟩], []⟩

/-- Puts marks on the sheet, one after the other. -/
def print (scopes : List Opening) (sheet : Sheet) (ms : List Mark) : Sheet := ms.foldl (put scopes) sheet

/-- The texts of the lines, and of the last one if anything is kept on it. -/
def lineTexts (indentText : String) (sheet : Sheet) : List String :=
  sheet.lines.map (Line.text indentText) ++
    if sheet.current = [] then [] else [keptText indentText sheet.current]

/-- The whole text, with a terminator after each line that has ended. -/
def text (indentText : String) (newline : LineEnding) (sheet : Sheet) : String :=
  String.join ((sheet.lines.map (Line.text indentText)).map (· ++ newline.text)) ++
    keptText indentText sheet.current

end Sheet

/-- One more character on a line. -/
theorem keptText_concat (indentText : String) (kept : List (List Opening × Char))
    (scopes : List Opening) (c : Char) :
    keptText indentText (kept ++ [(scopes, c)]) =
      ((if kept = [] then headOf indentText scopes else keptText indentText kept).push c) := by
  rw [← String.toList_inj]
  cases kept with
  | nil => simp [keptText]
  | cons first rest => simp [keptText]

/-- A line on which something is kept is not empty. -/
theorem keptText_eq_empty_iff {indentText : String} {kept : List (List Opening × Char)} :
    keptText indentText kept = "" ↔ kept = [] := by
  cases kept with
  | nil => exact iff_of_true rfl rfl
  | cons first rest =>
    refine iff_of_false (fun h ↦ ?_) (List.cons_ne_nil _ _)
    rw [keptText, ← String.toList_eq_nil_iff, String.toList_append, String.toList_ofList] at h
    exact List.cons_ne_nil _ _ (List.append_eq_nil_iff.mp h).2

/-! ### A writer with a sheet -/

/-- The writer reflects the open scopes and has written what is on the sheet. -/
structure Follows (w : Writer) (indentText : String) (newline : LineEnding) (scopes : List Opening)
    (sheet : Sheet) : Prop where
  indentText_eq : w.indentText = indentText
  newline_eq : w.newline = newline.text
  reflects : w.Reflects scopes
  atLineStart_eq : w.atLineStart = sheet.current.isEmpty
  out_eq : w.out = sheet.text indentText newline

namespace Follows

variable {w : Writer} {indentText : String} {newline : LineEnding} {scopes : List Opening}
  {sheet : Sheet}

/-- A character comes after what is on the line, or after what lines begin with. -/
theorem out_put_char (h : w.Follows indentText newline scopes sheet) {c : Char} (hfeed : c ≠ '\n')
    (hreturn : c ≠ '\r') : (w.put (.char c hfeed hreturn)).out =
      (sheet.put scopes (.char c hfeed hreturn)).text indentText newline := by
  have hstart := h.atLineStart_eq
  rw [Writer.put, append, startLine, Sheet.put, Sheet.text, keptText_concat]
  cases hcurrent : sheet.current with
  | nil =>
    rw [hcurrent, List.isEmpty_nil] at hstart
    rw [if_pos hstart, if_pos rfl, ← String.toList_inj]
    dsimp only
    rw [String.append_assoc, h.reflects.lineHead_append_indentation, h.out_eq, h.indentText_eq,
      Sheet.text, hcurrent]
    simp [keptText]
  | cons first rest =>
    rw [hcurrent, List.isEmpty_cons] at hstart
    rw [if_neg (by rw [hstart]; exact Bool.false_ne_true), if_neg (List.cons_ne_nil _ _), h.out_eq,
      Sheet.text, hcurrent, ← String.toList_inj]
    simp

/-- At its end a line has its text, and the terminator comes after it. -/
theorem out_put_lineEnd (h : w.Follows indentText newline scopes sheet) :
    (w.put .lineEnd).out = (sheet.put scopes .lineEnd).text indentText newline := by
  have hstart := h.atLineStart_eq
  rw [Writer.put, endLine, Sheet.put, Sheet.text, List.map_append, List.map_append,
    String.join_append, List.map_singleton, List.map_singleton, String.join_cons]
  dsimp only
  rw [h.newline_eq, h.out_eq, Sheet.text, h.reflects.lineHead, h.indentText_eq, Line.text]
  cases hcurrent : sheet.current with
  | nil =>
    rw [hcurrent, List.isEmpty_nil] at hstart
    rw [if_pos hstart, if_pos rfl, ← String.toList_inj]
    simp [keptText]
  | cons first rest =>
    rw [hcurrent, List.isEmpty_cons] at hstart
    rw [if_neg (by rw [hstart]; exact Bool.false_ne_true), if_neg (List.cons_ne_nil _ _),
      ← String.toList_inj]
    simp [keptText]

/-- A mark comes to the same place on the sheet and in the output. -/
theorem put (h : w.Follows indentText newline scopes sheet) (m : Mark) :
    (w.put m).Follows indentText newline scopes (sheet.put scopes m) := by
  obtain ⟨hindent, hnewline, -, -⟩ := put_settings w m
  refine ⟨hindent.trans h.indentText_eq, hnewline.trans h.newline_eq, h.reflects.print [m], ?_, ?_⟩
  · cases m with
    | char c hfeed hreturn =>
      rw [Writer.put, append, startLine]
      cases hstart : w.atLineStart with
      | true => simp [Sheet.put]
      | false => simp [Sheet.put, hstart]
    | lineEnd => rfl
  · cases m with
    | char c hfeed hreturn => exact h.out_put_char hfeed hreturn
    | lineEnd => exact h.out_put_lineEnd

/-- Marks come to the same places on the sheet and in the output. -/
theorem print (h : w.Follows indentText newline scopes sheet) (ms : List Mark) :
    (w.print ms).Follows indentText newline scopes (sheet.print scopes ms) := by
  induction ms generalizing w sheet with
  | nil => exact h
  | cons m rest ih => exact ih (h.put m)

/-- The open scopes may become others, if what lines begin with changes with them. -/
theorem settle (h : w.Follows indentText newline scopes sheet) (others : List Opening) :
    (w.settle others).Follows indentText newline others sheet :=
  ⟨h.indentText_eq, h.newline_eq, reflects_settle w others, h.atLineStart_eq, h.out_eq⟩

/-- Opening a scope writes its first lines around it. -/
theorem enter (h : w.Follows indentText newline scopes sheet) (o : Opening) :
    (w.enter o).1.Follows indentText newline (o :: scopes) (sheet.print scopes (linesMarks o.firstLines)) := by
  rw [enter_eq h.newline_eq h.reflects]
  exact (h.print _).settle (o :: scopes)

/-- Ending the innermost scope writes its last lines around it. -/
theorem leave {o : Opening} (h : w.Follows indentText newline (o :: scopes) sheet) :
    (w.leave (exitOf indentText o scopes)).Follows indentText newline scopes
      (sheet.print scopes (linesMarks o.lastLines)) := by
  rw [← h.indentText_eq, leave_eq h.newline_eq h.reflects, h.indentText_eq]
  exact (h.settle scopes).print _

end Follows

/-! ### The printer -/

/-- A printer: how many scopes have been opened, those that are open with their numbers, the innermost
first, and the sheet. -/
structure Printer where
  opened : Nat := 0
  scopes : List (Nat × Opening) := []
  sheet : Sheet := {}

namespace Printer

/-- The open scopes. -/
def openings (p : Printer) : List Opening := p.scopes.map (·.2)

/-- Takes one action, unless it ends a scope that is not the innermost open one. -/
def step? (p : Printer) : Action → Option Printer
  | .enter o =>
    some ⟨p.opened + 1, (p.opened, o) :: p.scopes, p.sheet.print p.openings (linesMarks o.firstLines)⟩
  | .leave index =>
    match p.scopes with
    | [] => none
    | (innermost, o) :: around =>
      if index = innermost then
        some ⟨p.opened, around, p.sheet.print (around.map (·.2)) (linesMarks o.lastLines)⟩
      else none
  | action => some { p with sheet := p.sheet.print p.openings action.marks }

/-- The printer after a program, if the program is properly nested. -/
def run? (program : List Action) : Option Printer := program.foldlM step? {}

/-- What comes first in a properly nested program is properly nested. -/
theorem exists_run?_of_isPrefix {before program : List Action} (h : before <+: program)
    (hnested : (run? program).isSome) : ∃ p, run? before = some p := by
  obtain ⟨after, rfl⟩ := h
  rw [run?, List.foldlM_append] at hnested
  cases hbefore : before.foldlM step? {} with
  | none =>
    rw [hbefore] at hnested
    cases hnested
  | some p => exact ⟨p, hbefore⟩

end Printer

/-! ### The writer tracks the printer -/

/-- The exits of the open scopes stand in their places, and those opened later have higher numbers. -/
def HoldsExits (indentText : String) (exits : List (Option Exit)) : List (Nat × Opening) → Prop
  | [] => True
  | (index, o) :: around =>
    exits[index]? = some (some (exitOf indentText o (around.map (·.2)))) ∧
      (∀ outer ∈ around, outer.1 < index) ∧ HoldsExits indentText exits around

section Exits

variable {indentText : String} {exits : List (Option Exit)} {scopes : List (Nat × Opening)}

/-- Open scopes have been opened. -/
theorem HoldsExits.lt_length (h : HoldsExits indentText exits scopes) :
    ∀ scope ∈ scopes, scope.1 < exits.length := by
  induction scopes with
  | nil => exact List.forall_mem_nil _
  | cons scope around ih =>
    obtain ⟨hexit, -, hmore⟩ := h
    exact List.forall_mem_cons.mpr ⟨(List.getElem?_eq_some_iff.mp hexit).1, ih hmore⟩

/-- Exits of scopes opened later take no place of an earlier one. -/
theorem HoldsExits.concat (h : HoldsExits indentText exits scopes) (exit : Option Exit) :
    HoldsExits indentText (exits ++ [exit]) scopes := by
  induction scopes with
  | nil => trivial
  | cons scope around ih =>
    obtain ⟨hexit, hlower, hmore⟩ := h
    refine ⟨?_, hlower, ih hmore⟩
    rw [List.getElem?_append_left (List.getElem?_eq_some_iff.mp hexit).1, hexit]

/-- The exit of a scope can be taken without those of the scopes around it. -/
theorem HoldsExits.set (h : HoldsExits indentText exits scopes) {index : Nat}
    (hlower : ∀ outer ∈ scopes, outer.1 < index) :
    HoldsExits indentText (exits.set index none) scopes := by
  induction scopes with
  | nil => trivial
  | cons scope around ih =>
    obtain ⟨hexit, hbelow, hmore⟩ := h
    obtain ⟨hscope, haround⟩ := List.forall_mem_cons.mp hlower
    refine ⟨?_, hbelow, ih hmore haround⟩
    rw [List.getElem?_set_ne (Nat.ne_of_gt hscope), hexit]

end Exits

/-- The session has the writer, the scopes and the exits that go with the printer. -/
structure Tracks (s : Session) (indentText : String) (newline : LineEnding) (p : Printer) : Prop where
  follows : s.writer.Follows indentText newline p.openings p.sheet
  length_scopes : s.scopes.length = p.opened
  exits : HoldsExits indentText s.scopes p.scopes

namespace Tracks

variable {s : Session} {indentText : String} {newline : LineEnding} {p q : Printer}

/-- An action that only writes. -/
theorem write (h : Tracks s indentText newline p) {w : Writer} {ms : List Mark}
    (hw : w = s.writer.print ms) :
    Tracks { s with writer := w } indentText newline
      { p with sheet := p.sheet.print p.openings ms } :=
  ⟨hw ▸ h.follows.print ms, h.length_scopes, h.exits⟩

/-- An action that the printer takes keeps the session with it. -/
theorem step (h : Tracks s indentText newline p) {action : Action} (hq : p.step? action = some q) :
    Tracks (s.step action) indentText newline q := by
  have hnewline := h.follows.newline_eq
  cases action with
  | write text =>
    obtain rfl := Option.some.inj hq
    exact h.write (write_eq_print hnewline text)
  | writeLine text =>
    obtain rfl := Option.some.inj hq
    exact h.write (writeLine_eq_print hnewline text)
  | writeBreak text =>
    obtain rfl := Option.some.inj hq
    exact h.write ((writeBreak_eq_writeLine hnewline text).trans (writeLine_eq_print hnewline text))
  | blankLine =>
    obtain rfl := Option.some.inj hq
    exact h.write rfl
  | comment text =>
    obtain rfl := Option.some.inj hq
    exact h.write (comment_eq_print hnewline text)
  | see cref =>
    obtain rfl := Option.some.inj hq
    exact h.write (write_eq_print hnewline _)
  | enter o =>
    obtain rfl := Option.some.inj hq
    have hexit : (s.writer.enter o).2 = exitOf indentText o p.openings := by
      rw [enter_eq hnewline h.follows.reflects, h.follows.indentText_eq]
    refine ⟨h.follows.enter o, ?_, ?_, ?_, h.exits.concat _⟩
    · exact List.length_append.trans (congrArg (· + 1) h.length_scopes)
    · rw [← h.length_scopes, ← Printer.openings, ← hexit]
      exact List.getElem?_concat_length
    · exact h.length_scopes ▸ h.exits.lt_length
  | leave index =>
    obtain ⟨opened, scopes, sheet⟩ := p
    cases scopes with
    | nil => cases hq
    | cons scope around =>
      obtain ⟨innermost, o⟩ := scope
      obtain ⟨hexit, hlower, hmore⟩ := h.exits
      dsimp only [Printer.step?] at hq
      by_cases hindex : index = innermost
      · obtain rfl := hindex
        rw [if_pos rfl] at hq
        obtain rfl := Option.some.inj hq
        have hstep : s.step (.leave index) =
            ⟨s.writer.leave (exitOf indentText o (around.map (·.2))), s.scopes.set index none⟩ := by
          rw [Session.step, hexit]
        rw [hstep]
        exact ⟨h.follows.leave, List.length_set.trans h.length_scopes, hmore.set hlower⟩
      · rw [if_neg hindex] at hq
        cases hq

/-- A program that the printer takes keeps the session with it. -/
theorem run (h : Tracks s indentText newline p) {program : List Action}
    (hq : program.foldlM Printer.step? p = some q) :
    Tracks (s.run program) indentText newline q := by
  induction program generalizing s p with
  | nil =>
    obtain rfl := Option.some.inj hq
    exact h
  | cons action rest ih =>
    rw [List.foldlM_cons, Option.bind_eq_bind, Option.bind_eq_some_iff] at hq
    obtain ⟨next, hnext, hrest⟩ := hq
    exact ih (h.step hnext) hrest

end Tracks

/-- A new writer goes with a new printer. -/
theorem tracks_start (indentText : String) (newline : LineEnding) :
    Tracks ⟨{ indentText := indentText, newline := newline.text }, []⟩ indentText newline {} :=
  ⟨⟨rfl, rfl, ⟨rfl, rfl⟩, rfl, rfl⟩, rfl, trivial⟩

/-! ### Lines of a sheet -/

/-- Only ends of lines end a line: no line ends inside the text of one. -/
def Sheet.IsClean (indentText : String) (sheet : Sheet) : Prop :=
  (∀ line ∈ sheet.lines, Text.IsOneLine (line.text indentText)) ∧
    Text.IsOneLine (keptText indentText sheet.current)

/-- The lines of the text are the texts of the lines. -/
theorem Sheet.IsClean.lines_text {indentText : String} {sheet : Sheet} (h : sheet.IsClean indentText)
    (newline : LineEnding) :
    Text.lines (sheet.text indentText newline) = sheet.lineTexts indentText := by
  have htexts : ∀ text ∈ sheet.lines.map (Line.text indentText), Text.IsOneLine text := by
    intro text htext
    obtain ⟨line, hline, rfl⟩ := List.mem_map.mp htext
    exact h.1 line hline
  rw [text, Text.lines_join_append htexts h.2, lineTexts]
  simp only [keptText_eq_empty_iff]

section Clean

variable {indentText : String} (hindent : Text.IsOneLine indentText)

include hindent

/-- What lines begin with inside a scope is on one line, if that around it is. -/
theorem isOneLine_head {o : Opening} (ho : o.HeadIsOneLine) {around : String}
    (haround : Text.IsOneLine around) : Text.IsOneLine (o.head indentText around) := by
  cases o with
  | indent | block | blockComment | namespaceBlock | classBlock =>
    exact Text.isOneLine_append.mpr ⟨haround, hindent⟩
  | closingLine | summary => exact haround
  | documentation => exact Text.isOneLine_append.mpr ⟨haround, by decide⟩
  | lineHead text keepsIndent =>
    cases keepsIndent with
    | true => exact Text.isOneLine_append.mpr ⟨haround, ho⟩
    | false => exact Text.isOneLine_append.mpr ⟨ho, haround.ofList (Text.restAfter_subset _ _)⟩

theorem isOneLine_headOf {scopes : List Opening} (h : ∀ o ∈ scopes, o.HeadIsOneLine) :
    Text.IsOneLine (headOf indentText scopes) := by
  induction scopes with
  | nil => exact Text.isOneLine_empty
  | cons o around ih =>
    obtain ⟨ho, haround⟩ := List.forall_mem_cons.mp h
    exact isOneLine_head hindent ho (ih haround)

theorem isOneLine_fixedHead {scopes : List Opening} (h : ∀ o ∈ scopes, o.HeadIsOneLine) :
    Text.IsOneLine (fixedHead indentText scopes) := by
  induction scopes with
  | nil => exact Text.isOneLine_empty
  | cons o around ih =>
    rw [fixedHead]
    split
    · exact isOneLine_headOf hindent h
    · exact ih (List.forall_mem_cons.mp h).2

/-- A mark keeps a sheet clean, whatever heads on one line lines begin with. -/
theorem Sheet.IsClean.put {sheet : Sheet} (h : sheet.IsClean indentText) {scopes : List Opening}
    (hscopes : ∀ o ∈ scopes, o.HeadIsOneLine) (m : Mark) :
    (sheet.put scopes m).IsClean indentText := by
  cases m with
  | char c hfeed hreturn =>
    refine ⟨h.1, ?_⟩
    have hbefore : Text.IsOneLine
        (if sheet.current = [] then headOf indentText scopes
          else keptText indentText sheet.current) := by
      split
      · exact isOneLine_headOf hindent hscopes
      · exact h.2
    rw [Sheet.put, keptText_concat, String.push_eq_append]
    refine Text.isOneLine_append.mpr ⟨hbefore, ?_, ?_⟩
    · rw [String.toList_singleton, List.mem_singleton]
      exact Ne.symm hfeed
    · rw [String.toList_singleton, List.mem_singleton]
      exact Ne.symm hreturn
  | lineEnd =>
    refine ⟨List.forall_mem_append.mpr ⟨h.1, List.forall_mem_singleton.mpr ?_⟩,
      Text.isOneLine_empty⟩
    rw [Line.text]
    split
    · refine (isOneLine_fixedHead hindent hscopes).ofList fun c hc ↦ ?_
      exact List.mem_reverse.mp (List.dropWhile_subset _ (List.mem_reverse.mp hc))
    · exact h.2

theorem Sheet.IsClean.print {sheet : Sheet} (h : sheet.IsClean indentText) {scopes : List Opening}
    (hscopes : ∀ o ∈ scopes, o.HeadIsOneLine) (ms : List Mark) :
    (sheet.print scopes ms).IsClean indentText := by
  induction ms generalizing sheet with
  | nil => exact h
  | cons m rest ih => exact ih (h.put hindent hscopes m)

/-- An action that sets no head of several lines keeps the sheet of a printer clean, and the heads of
its open scopes on one line. -/
theorem Printer.isClean_step {p q : Printer} {action : Action} (hq : p.step? action = some q)
    (haction : ∀ o, action = .enter o → o.HeadIsOneLine)
    (hscopes : ∀ o ∈ p.openings, o.HeadIsOneLine) (hsheet : p.sheet.IsClean indentText) :
    (∀ o ∈ q.openings, o.HeadIsOneLine) ∧ q.sheet.IsClean indentText := by
  cases action with
  | enter o =>
    obtain rfl := Option.some.inj hq
    exact ⟨List.forall_mem_cons.mpr ⟨haction o rfl, hscopes⟩, hsheet.print hindent hscopes _⟩
  | leave index =>
    obtain ⟨opened, scopes, sheet⟩ := p
    cases scopes with
    | nil => cases hq
    | cons scope around =>
      dsimp only [Printer.step?] at hq
      obtain ⟨-, haround⟩ := List.forall_mem_cons.mp hscopes
      split at hq
      · obtain rfl := Option.some.inj hq
        exact ⟨haround, hsheet.print hindent haround _⟩
      · cases hq
  | write | writeLine | writeBreak | blankLine | comment | see =>
    obtain rfl := Option.some.inj hq
    exact ⟨hscopes, hsheet.print hindent hscopes _⟩

theorem Printer.isClean_run {p q : Printer} {program : List Action}
    (hq : program.foldlM Printer.step? p = some q)
    (hprogram : ∀ o, .enter o ∈ program → o.HeadIsOneLine)
    (hscopes : ∀ o ∈ p.openings, o.HeadIsOneLine) (hsheet : p.sheet.IsClean indentText) :
    q.sheet.IsClean indentText := by
  induction program generalizing p with
  | nil =>
    obtain rfl := Option.some.inj hq
    exact hsheet
  | cons action rest ih =>
    rw [List.foldlM_cons, Option.bind_eq_bind, Option.bind_eq_some_iff] at hq
    obtain ⟨next, hnext, hrest⟩ := hq
    have haction : ∀ o, action = .enter o → o.HeadIsOneLine := fun o ho ↦
      hprogram o (ho ▸ List.mem_cons_self)
    obtain ⟨hscopes, hsheet⟩ := Printer.isClean_step hindent hnext haction hscopes hsheet
    exact ih hrest (fun o ho ↦ hprogram o (List.mem_cons_of_mem _ ho)) hscopes hsheet

end Clean

/-! ### A whole program -/

/-- Assumes: an indentation on one line, a program that ends its scopes from the inside out and sets
heads on one line, and a first part of it. After that part the lines of the writer begin as the fold
over the open scopes says, and its output is the text of the printer's sheet, so the lines of the
output are those of the sheet: each is what lines began with when its first kept character was written
and the kept characters, or, without any, the fixed head without the white space it ends in. -/
theorem run_eq_printed {indentText : String} (hindent : Text.IsOneLine indentText)
    (newline : LineEnding) {program : List Action} (hnested : (Printer.run? program).isSome)
    (hheads : ∀ o, .enter o ∈ program → o.HeadIsOneLine) {before : List Action}
    (hbefore : before <+: program) :
    ∃ p, Printer.run? before = some p ∧
      let start : Writer := { indentText := indentText, newline := newline.text }
      let w := (Session.run ⟨start, []⟩ before).writer
      w.lineHead ++ w.indentation = headOf indentText p.openings ∧
        w.out = p.sheet.text indentText newline ∧
        Text.lines w.out = p.sheet.lineTexts indentText := by
  obtain ⟨p, hp⟩ := Printer.exists_run?_of_isPrefix hbefore hnested
  have hfollows := ((tracks_start indentText newline).run hp).follows
  have hclean : p.sheet.IsClean indentText :=
    Printer.isClean_run hindent hp (fun o ho ↦ hheads o (hbefore.subset ho))
      (List.forall_mem_nil _) ⟨List.forall_mem_nil _, Text.isOneLine_empty⟩
  refine ⟨p, hp, ?_, hfollows.out_eq, ?_⟩
  · rw [hfollows.reflects.lineHead_append_indentation, hfollows.indentText_eq]
  · rw [hfollows.out_eq, hclean.lines_text newline]

/-- A line that begins inside a block and goes on under a head of its own, which is padded to the
indentation around it; then a line under that head and an empty one. -/
theorem run_eq_printed_padded :
    let program : List Action := [.enter .indent, .enter (.block ";"), .write "a",
      .enter (.lineHead "//" false), .writeLine "b\r\nc", .blankLine, .leave 2, .leave 1, .leave 0]
    let start : Writer := { indentText := "  ", newline := LineEnding.crlf.text }
    let w := (Session.run ⟨start, []⟩ (program.take 6)).writer
    (Printer.run? program).isSome ∧ w.lineHead ++ w.indentation = "//  " ∧
      w.out = "  \x7b\r\n    ab\r\n//  c\r\n//\r\n" ∧
      Text.lines w.out = ["  \x7b", "    ab", "//  c", "//"] := by
  intro program start w
  have hnested : (Printer.run? program).isSome := by decide +kernel
  have hheads : ∀ o, .enter o ∈ program → o.HeadIsOneLine := by
    intro o ho
    simp only [program, List.mem_cons, Action.enter.injEq, reduceCtorEq, List.not_mem_nil, false_or,
      or_false] at ho
    obtain rfl | rfl | rfl := ho
    · trivial
    · trivial
    · show Text.IsOneLine "//"
      decide
  have hindent : Text.IsOneLine "  " := by decide
  obtain ⟨p, hp, hhead, hout, hlines⟩ :=
    run_eq_printed hindent .crlf hnested hheads (List.take_prefix 6 program)
  obtain rfl := Option.some.inj hp
  exact ⟨hnested, hhead.trans (by decide +kernel), hout.trans (by decide +kernel),
    hlines.trans (by decide +kernel)⟩

end Writer

end HubRelay
