import HubRelay.Writer.Session

/-!
# Marks on a page

Whatever a writer is told to do, it puts marks on a page one after the other: characters, and ends of
lines. With a usual terminator the marks of a text do not depend on which one it is: a line feed is
the end of a line, a carriage return leaves no mark, and any other character is kept (`marks`).
Writing a text is printing its marks (`write_eq_print`), and so is the part of every other action that
writes (`Action.marks`), so what holds of one mark is carried to all actions by one induction over
marks.
-/

set_option autoImplicit false

namespace HubRelay.Writer

/-! ### Marks -/

/-- What is put on a page: the end of a line, or a character that ends none. -/
inductive Mark
  | char (c : Char) (hfeed : c ≠ '\n') (hreturn : c ≠ '\r')
  | lineEnd
deriving DecidableEq

/-- The mark of a character of a text, if it leaves one. -/
def Mark.ofChar? (c : Char) : Option Mark :=
  if hfeed : c = '\n' then some .lineEnd
  else if hreturn : c = '\r' then none
  else some (.char c hfeed hreturn)

/-- The marks of a text. -/
def marks (text : String) : List Mark := text.toList.filterMap Mark.ofChar?

/-- The marks of a text that is written as a line. -/
def lineMarks (text : String) : List Mark := marks text ++ [.lineEnd]

/-- The marks of texts that are written as lines. -/
def linesMarks (texts : List String) : List Mark := texts.flatMap lineMarks

/-- The marks of a comment: each line of its text follows the same two slashes. -/
def commentMarks (text : String) : List Mark :=
  (Text.pieces '\n' text.toList).flatMap fun line ↦ marks "// " ++ lineMarks (String.ofList line)

/-- The marks that an action makes by itself, apart from opening and ending scopes. -/
def Action.marks : Action → List Mark
  | write text => Writer.marks text
  | writeLine text | writeBreak text => lineMarks text
  | blankLine => [.lineEnd]
  | comment text => commentMarks text
  | see cref => Writer.marks ("<see cref=\"" ++ cref ++ "\"/>")
  | enter _ | leave _ => []

/-- Puts a mark on the page. -/
def put (w : Writer) : Mark → Writer
  | .char c _ _ => w.startLine.append c
  | .lineEnd => w.endLine

/-- Puts marks on the page, one after the other. -/
def print (w : Writer) (ms : List Mark) : Writer := ms.foldl put w

@[simp] theorem print_nil (w : Writer) : w.print [] = w := rfl

@[simp] theorem print_cons (w : Writer) (m : Mark) (ms : List Mark) :
    w.print (m :: ms) = (w.put m).print ms := rfl

@[simp] theorem print_append (w : Writer) (first second : List Mark) :
    w.print (first ++ second) = (w.print first).print second := List.foldl_append

/-- Marks leave everything alone but the output and the place on the line. -/
theorem put_settings (w : Writer) (m : Mark) :
    (w.put m).indentText = w.indentText ∧ (w.put m).newline = w.newline ∧
      (w.put m).level = w.level ∧ (w.put m).lineHead = w.lineHead := by
  cases m with
  | char c hfeed hreturn =>
    rw [put, append, startLine]
    split <;> exact ⟨rfl, rfl, rfl, rfl⟩
  | lineEnd => exact ⟨rfl, rfl, rfl, rfl⟩

@[simp] theorem newline_print (w : Writer) (ms : List Mark) : (w.print ms).newline = w.newline := by
  induction ms generalizing w with
  | nil => rfl
  | cons m rest ih => rw [print_cons, ih, (put_settings w m).2.1]

/-! ### Writing is printing -/

section Usual

variable {w : Writer} {ending : LineEnding} (h : w.newline = ending.text)

include h

/-- A line feed ends lines, whichever the terminator. -/
theorem breakChar_eq : w.breakChar = '\n' := by
  rw [breakChar, h]
  cases ending <;> rfl

/-- No character is dropped but a carriage return, and the line feed where it ends no line. -/
theorem contains_dropped_iff (c : Char) : w.dropped.contains c = true ↔ c = '\r' ∨ c = '\n' := by
  rw [dropped, h]
  cases ending with
  | lf => simp [LineEnding.text]
  | crlf => simp [LineEnding.text]

/-- Writing a character puts its mark on the page. -/
theorem writeChar_eq_print (v : Writer) (c : Char) :
    writeChar w.breakChar w.dropped v c = v.print (Mark.ofChar? c).toList := by
  rw [writeChar, breakChar_eq h, Mark.ofChar?]
  by_cases hfeed : c = '\n'
  · rw [if_pos hfeed, dif_pos hfeed]
    rfl
  · rw [if_neg hfeed, dif_neg hfeed]
    by_cases hreturn : c = '\r'
    · rw [if_pos ((contains_dropped_iff h c).mpr (.inl hreturn)), dif_pos hreturn]
      rfl
    · have hkept : ¬ w.dropped.contains c = true := fun hdropped ↦
        ((contains_dropped_iff h c).mp hdropped).elim hreturn hfeed
      rw [if_neg hkept, dif_neg hreturn]
      rfl

/-- Writing a text puts its marks on the page. -/
theorem write_eq_print (text : String) : w.write text = w.print (marks text) := by
  have hfold (cs : List Char) (v : Writer) :
      cs.foldl (writeChar w.breakChar w.dropped) v = v.print (cs.filterMap Mark.ofChar?) := by
    induction cs generalizing v with
    | nil => rfl
    | cons c rest ih =>
      rw [List.foldl_cons, ih, writeChar_eq_print h, List.filterMap_cons]
      cases Mark.ofChar? c <;> rfl
  exact hfold text.toList w

theorem writeLine_eq_print (text : String) : w.writeLine text = w.print (lineMarks text) := by
  rw [writeLine, write_eq_print h, lineMarks, print_append]
  rfl

/-- A written line feed ends the line. -/
theorem writeBreak_eq_writeLine (text : String) : w.writeBreak text = w.writeLine text := by
  have hafter : (w.print (marks text)).newline = ending.text := (newline_print ..).trans h
  rw [writeBreak, writeLine, write_eq_print h, write_eq_print hafter]
  rfl

/-- Text after text is the text of both. -/
theorem write_write (first second : String) :
    (w.write first).write second = w.write (first ++ second) := by
  have hafter : (w.print (marks first)).newline = ending.text := (newline_print ..).trans h
  rw [write_eq_print h, write_eq_print hafter, write_eq_print h, ← print_append, marks, marks, marks,
    String.toList_append, List.filterMap_append]

/-- Text goes on where the line goes on. -/
theorem writeLine_write (first second : String) :
    (w.write first).writeLine second = w.writeLine (first ++ second) := by
  rw [writeLine, write_write h, writeLine]

/-- Lines are written one after the other. -/
theorem writeLine_writeLine_eq_print (first second : String) :
    (w.writeLine first).writeLine second = w.print (linesMarks [first, second]) := by
  have hafter : (w.print (lineMarks first)).newline = ending.text := (newline_print ..).trans h
  rw [writeLine_eq_print h, writeLine_eq_print hafter, ← print_append, linesMarks,
    List.flatMap_cons, List.flatMap_singleton]

theorem comment_eq_print (text : String) : w.comment text = w.print (commentMarks text) := by
  have hfold (lines : List (List Char)) (v : Writer) (hv : v.newline = ending.text) :
      lines.foldl (fun w line ↦ (w.write "// ").writeLine (String.ofList line)) v =
        v.print (lines.flatMap fun line ↦ marks "// " ++ lineMarks (String.ofList line)) := by
    induction lines generalizing v with
    | nil => rfl
    | cons line rest ih =>
      have hafter : (v.print (marks "// ")).newline = ending.text := (newline_print ..).trans hv
      have hline : ((v.print (marks "// ")).print (lineMarks (String.ofList line))).newline =
          ending.text := (newline_print ..).trans hafter
      rw [List.foldl_cons, write_eq_print hv, writeLine_eq_print hafter, ih _ hline,
        List.flatMap_cons, print_append, print_append]
  rw [comment, breakChar_eq h, hfold _ w h]
  rfl

end Usual

end HubRelay.Writer
