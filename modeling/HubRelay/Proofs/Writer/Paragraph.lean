import HubRelay.Proofs.Writer.Printer

/-!
# What a part of the output writes

A part of the output is a function on writers. It `Writes` a list of paragraphs when, from any writer
that follows a sheet, it leads to one that follows the sheet with these paragraphs added, inside the
same open scopes. A paragraph is a text that is written as a line inside scopes of its own; where lines
end in the text it becomes several lines. Parts are put together as their paragraphs are
(`Writes.comp`, `Writes.within`, `Writes.foldl`), so of a composed part nothing needs to be known but
its paragraphs.

The text of paragraphs from a new writer is that of their lines (`out_of_writes`), and those of one
paragraph do not depend on the others.
-/

set_option autoImplicit false

namespace HubRelay

open Writer

/-- A text that is written as a line while scopes are open, the innermost of which is the first. -/
structure Paragraph where
  scopes : List Opening
  text : String
deriving DecidableEq

namespace Paragraph

/-- A paragraph inside no scopes. -/
def line (text : String) : Paragraph := ⟨[], text⟩

/-- The paragraph inside one more scope. -/
def inside (o : Opening) (p : Paragraph) : Paragraph := { p with scopes := p.scopes ++ [o] }

/-- Paragraphs inside a scope, with the lines that the scope opens and ends with. -/
def within (o : Opening) (ps : List Paragraph) : List Paragraph :=
  o.firstLines.map line ++ ps.map (inside o) ++ o.lastLines.map line

/-- The pieces of the text: it falls apart where lines end, and carriage returns are left out. -/
def pieces (p : Paragraph) : List (List Char) :=
  Text.pieces '\n' (p.text.toList.filter (· ≠ '\r'))

/-- The text of a line with a piece on it. -/
def pieceText (indentText : String) (scopes : List Opening) (piece : List Char) : String :=
  if piece = [] then Text.trimEnd (fixedHead indentText scopes)
  else headOf indentText scopes ++ String.ofList piece

/-- The texts of the lines that the paragraph becomes. -/
def lineTexts (indentText : String) (p : Paragraph) : List String :=
  p.pieces.map (pieceText indentText p.scopes)

/-- The text of the one line that the paragraph becomes if no line ends in it. -/
def lineText (indentText : String) (p : Paragraph) : String :=
  pieceText indentText p.scopes p.text.toList

/-- A paragraph in which no line ends is one line. -/
theorem lineTexts_of_isOneLine {p : Paragraph} (h : Text.IsOneLine p.text) (indentText : String) :
    p.lineTexts indentText = [p.lineText indentText] := by
  have hkept : p.text.toList.filter (· ≠ '\r') = p.text.toList := by
    refine List.filter_eq_self.mpr fun c hc ↦ decide_eq_true ?_
    rintro rfl
    exact h.2 hc
  rw [lineTexts, pieces, hkept, Text.pieces_eq_singleton h.1, List.map_singleton, lineText]

/-- Outside all scopes a line is its text. -/
theorem lineText_line (indentText text : String) : (line text).lineText indentText = text := by
  rw [lineText, pieceText, line]
  dsimp only
  split
  · next h => exact (String.toList_eq_nil_iff.mp h).symm
  · rw [String.ofList_toList]
    exact String.empty_append

end Paragraph

/-! ### Paragraphs on a sheet -/

namespace Writer

namespace Sheet

/-- Adds a paragraph to the sheet, while further scopes are open around it. -/
def add (outer : List Opening) (sheet : Sheet) (p : Paragraph) : Sheet :=
  sheet.print (p.scopes ++ outer) (lineMarks p.text)

/-- Adds paragraphs to the sheet, one after the other. -/
def addAll (outer : List Opening) (sheet : Sheet) (ps : List Paragraph) : Sheet :=
  ps.foldl (add outer) sheet

theorem print_append (scopes : List Opening) (sheet : Sheet) (first second : List Mark) :
    sheet.print scopes (first ++ second) = (sheet.print scopes first).print scopes second :=
  List.foldl_append

theorem addAll_append (outer : List Opening) (sheet : Sheet) (first second : List Paragraph) :
    sheet.addAll outer (first ++ second) = (sheet.addAll outer first).addAll outer second :=
  List.foldl_append

/-- Lines are paragraphs inside no scopes. -/
theorem addAll_line (outer : List Opening) (sheet : Sheet) (texts : List String) :
    sheet.addAll outer (texts.map Paragraph.line) = sheet.print outer (linesMarks texts) := by
  induction texts generalizing sheet with
  | nil => rfl
  | cons text rest ih =>
    rw [linesMarks, List.flatMap_cons, print_append]
    exact ih _

/-- A scope may count as one of the paragraphs or as one around them. -/
theorem addAll_inside (outer : List Opening) (o : Opening) (sheet : Sheet) (ps : List Paragraph) :
    sheet.addAll outer (ps.map (Paragraph.inside o)) = sheet.addAll (o :: outer) ps := by
  induction ps generalizing sheet with
  | nil => rfl
  | cons p rest ih =>
    have hscopes : p.scopes ++ [o] ++ outer = p.scopes ++ o :: outer :=
      List.append_assoc ..
    rw [List.map_cons, addAll, List.foldl_cons, add, Paragraph.inside, hscopes]
    exact ih _

/-- Characters and the end of a line end the current line with the first piece of the characters, and
each further piece is a line of its own. -/
theorem print_marks_lineEnd (scopes : List Opening) (lines : List Line)
    (current : List (List Opening × Char)) (cs : List Char) {first : List Char}
    {more : List (List Char)} (hpieces : Text.pieces '\n' (cs.filter (· ≠ '\r')) = first :: more) :
    print scopes ⟨lines, current⟩ (cs.filterMap Mark.ofChar? ++ [.lineEnd]) =
      ⟨lines ++ ⟨current ++ first.map (scopes, ·), scopes⟩ ::
        more.map fun piece ↦ ⟨piece.map (scopes, ·), scopes⟩, []⟩ := by
  induction cs generalizing lines current first more with
  | nil =>
    obtain ⟨rfl, rfl⟩ := List.cons.inj hpieces
    simp [print, put]
  | cons c rest ih =>
    obtain ⟨next, others, hrest⟩ :=
      List.exists_cons_of_ne_nil (Text.pieces_ne_nil '\n' (rest.filter (· ≠ '\r')))
    by_cases hreturn : c = '\r'
    · subst hreturn
      exact ih lines current hpieces
    · rw [List.filter_cons_of_pos (by simpa using hreturn), Text.pieces, hrest] at hpieces
      by_cases hfeed : c = '\n'
      · subst hfeed
        obtain ⟨rfl, rfl⟩ := List.cons.inj hpieces
        refine (ih (lines ++ [⟨current, scopes⟩]) [] hrest).trans ?_
        simp
      · rw [if_neg hfeed] at hpieces
        obtain ⟨rfl, rfl⟩ := List.cons.inj hpieces
        have hmark : Mark.ofChar? c = some (.char c hfeed hreturn) := by
          rw [Mark.ofChar?, dif_neg hfeed, dif_neg hreturn]
        rw [List.filterMap_cons, hmark]
        refine (ih lines (current ++ [(scopes, c)]) hrest).trans ?_
        simp

/-- Kept characters inside the same scopes are a piece of a paragraph. -/
theorem text_line (indentText : String) (scopes : List Opening) (piece : List Char) :
    Line.text indentText ⟨piece.map (scopes, ·), scopes⟩ =
      Paragraph.pieceText indentText scopes piece := by
  cases piece with
  | nil => rfl
  | cons c rest =>
    have hkept : (rest.map fun d ↦ (scopes, d)).map (·.2) = rest := by
      rw [List.map_map]
      exact List.map_id rest
    show headOf indentText scopes ++
      String.ofList (c :: (rest.map fun d ↦ (scopes, d)).map (·.2)) = _
    rw [hkept]
    rfl

/-- A paragraph at the start of a line becomes lines of its own. -/
theorem add_eq {sheet : Sheet} (h : sheet.current = []) (indentText : String) (p : Paragraph) :
    (sheet.add [] p).current = [] ∧ (sheet.add [] p).lines.map (Line.text indentText) =
      sheet.lines.map (Line.text indentText) ++ p.lineTexts indentText := by
  obtain ⟨lines, current⟩ := sheet
  obtain rfl : current = [] := h
  obtain ⟨first, more, hpieces⟩ := List.exists_cons_of_ne_nil
    (Text.pieces_ne_nil '\n' (p.text.toList.filter (· ≠ '\r')))
  have hadd := print_marks_lineEnd p.scopes lines [] p.text.toList hpieces
  rw [add, List.append_nil, lineMarks, marks, hadd]
  refine ⟨rfl, ?_⟩
  rw [Paragraph.lineTexts, Paragraph.pieces, hpieces, List.map_append, List.map_cons, List.map_cons,
    List.map_map, List.nil_append, text_line]
  simp only [Function.comp_def, text_line]

/-- Paragraphs at the start of a line become lines of their own. -/
theorem addAll_eq {sheet : Sheet} (h : sheet.current = []) (indentText : String)
    (ps : List Paragraph) :
    (sheet.addAll [] ps).current = [] ∧ (sheet.addAll [] ps).lines.map (Line.text indentText) =
      sheet.lines.map (Line.text indentText) ++ ps.flatMap (Paragraph.lineTexts indentText) := by
  induction ps generalizing sheet with
  | nil => exact ⟨h, (List.append_nil _).symm⟩
  | cons p rest ih =>
    obtain ⟨hcurrent, hlines⟩ := add_eq h indentText p
    obtain ⟨hrest, hmore⟩ := ih hcurrent
    refine ⟨hrest, ?_⟩
    rw [List.flatMap_cons, ← List.append_assoc, ← hlines]
    exact hmore

end Sheet

/-! ### Parts of the output -/

/-- The part of the output adds the paragraphs to what a writer has written, inside the scopes that
are open. -/
def Writes (ps : List Paragraph) (part : Writer → Writer) : Prop :=
  ∀ ⦃w : Writer⦄ ⦃indentText : String⦄ ⦃newline : LineEnding⦄ ⦃scopes : List Opening⦄ ⦃sheet : Sheet⦄,
    w.Follows indentText newline scopes sheet →
      (part w).Follows indentText newline scopes (sheet.addAll scopes ps)

section Parts

variable {ps first second : List Paragraph} {part f g : Writer → Writer}

theorem writes_id : Writes [] fun w ↦ w := fun _ _ _ _ _ h ↦ h

/-- One part after the other writes the paragraphs of both. -/
theorem Writes.comp (hf : Writes first f) (hg : Writes second g) :
    Writes (first ++ second) fun w ↦ g (f w) := by
  intro w indentText newline scopes sheet h
  rw [Sheet.addAll_append]
  exact hg (hf h)

/-- A line is a paragraph. -/
theorem writes_writeLine (text : String) : Writes [.line text] (·.writeLine text) := by
  intro w indentText newline scopes sheet h
  show (w.writeLine text).Follows indentText newline scopes (sheet.print scopes (lineMarks text))
  rw [writeLine_eq_print h.newline_eq]
  exact h.print (lineMarks text)

/-- A text with a written line feed after it is a paragraph. -/
theorem writes_writeBreak (text : String) : Writes [.line text] (·.writeBreak text) := by
  intro w indentText newline scopes sheet h
  dsimp only
  rw [writeBreak_eq_writeLine h.newline_eq]
  exact writes_writeLine text h

/-- An empty line is an empty paragraph. -/
theorem writes_blankLine : Writes [.line ""] blankLine := fun _ _ _ _ _ h ↦ h.put .lineEnd

/-- A line before a part. -/
theorem Writes.afterLine (h : Writes ps part) (text : String) :
    Writes (.line text :: ps) fun w ↦ part (w.writeLine text) := (writes_writeLine text).comp h

/-- A text with a written line feed before a part. -/
theorem Writes.afterBreak (h : Writes ps part) (text : String) :
    Writes (.line text :: ps) fun w ↦ part (w.writeBreak text) := (writes_writeBreak text).comp h

/-- An empty line before a part. -/
theorem Writes.afterBlank (h : Writes ps part) :
    Writes (.line "" :: ps) fun w ↦ part w.blankLine := writes_blankLine.comp h

/-- A part inside a scope writes its paragraphs inside it, with the lines of the scope around them. -/
theorem Writes.within (h : Writes ps part) (o : Opening) :
    Writes (Paragraph.within o ps) (·.within o part) := by
  intro w indentText newline scopes sheet hw
  have hexit : (w.enter o).2 = exitOf indentText o scopes := by
    rw [enter_eq hw.newline_eq hw.reflects, hw.indentText_eq]
  have hinside := h (hw.enter o)
  rw [Paragraph.within, Sheet.addAll_append, Sheet.addAll_append, Sheet.addAll_line,
    Sheet.addAll_inside, Sheet.addAll_line]
  show ((part (w.enter o).1).leave (w.enter o).2).Follows _ _ _ _
  rw [hexit]
  exact hinside.leave

/-- Parts one after the other write the paragraphs of all. -/
theorem Writes.foldl {α : Type} {paragraphs : α → List Paragraph} {parts : α → Writer → Writer}
    (h : ∀ x, Writes (paragraphs x) (parts x)) (xs : List α) :
    Writes (xs.flatMap paragraphs) fun w ↦ xs.foldl (fun w x ↦ parts x w) w := by
  induction xs with
  | nil => exact writes_id
  | cons x rest ih =>
    rw [List.flatMap_cons]
    exact (h x).comp ih

end Parts

/-- What a part writes from a new writer is the text of its paragraphs, with a terminator after each
of their lines. -/
theorem out_of_writes {ps : List Paragraph} {part : Writer → Writer} (h : Writes ps part)
    (indentText : String) (newline : LineEnding) :
    (part { indentText := indentText, newline := newline.text }).out =
      String.join ((ps.flatMap (Paragraph.lineTexts indentText)).map (· ++ newline.text)) := by
  have hfollows := h (tracks_start indentText newline).follows
  have hempty : ({} : Sheet).current = [] := rfl
  obtain ⟨hcurrent, hlines⟩ := Sheet.addAll_eq hempty indentText ps
  rw [hfollows.out_eq]
  show Sheet.text indentText newline (Sheet.addAll [] {} ps) = _
  rw [Sheet.text, hcurrent, hlines]
  exact String.append_empty

end Writer

end HubRelay
