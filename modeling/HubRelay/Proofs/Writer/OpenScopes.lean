import HubRelay.Proofs.Text.Depth
import HubRelay.Proofs.Writer.Scopes

/-!
# Scopes that end in any order

A program need not end its scopes from the inside out. As long as no scope sets a head, what the writer
does is told by a ledger that only notes which scopes have been opened and which of them have ended
(`Ledger`): the level is the number of indenting scopes among those that are open. The ledger keeps what
was written as a list of deeds. Each has the level at which its strokes come on the page, and the deed of
the end of a scope says whose end it is.

The terminator may be any text here. Its last character ends a line of a written text, and its other
characters are left out of that text, as is a carriage return (`Stroke.ofChar?`).

The writer keeps the level in one counter, which goes down no further than zero. That it shows the level
of the ledger is kept by each action (`Tallies.step`), and so by a program (`Tallies.run`): a scope that
ends is open, hence counted, and has not ended before. What each scope has written when it ended is an
invariant of the ledger alone (`Ledger.IsKept`).
-/

set_option autoImplicit false

namespace HubRelay

namespace Writer

/-! ### Strokes -/

/-- What is put on a page, whatever the terminator: a character or the end of a line. -/
inductive Stroke
  | char (c : Char)
  | lineEnd
deriving DecidableEq

/-- The stroke of a character of a text, if it leaves one. -/
def Stroke.ofChar? (newline : String) (c : Char) : Option Stroke :=
  if c = newline.toList.getLast?.getD '\n' then some .lineEnd
  else if ('\r' :: newline.toList).contains c then none
  else some (.char c)

/-- The strokes of a text. -/
def strokes (newline text : String) : List Stroke := text.toList.filterMap (Stroke.ofChar? newline)

/-- The strokes of texts that are written as lines. -/
def linesStrokes (newline : String) (texts : List String) : List Stroke :=
  texts.flatMap fun text ↦ strokes newline text ++ [.lineEnd]

@[simp] theorem strokes_append (newline first second : String) :
    strokes newline (first ++ second) = strokes newline first ++ strokes newline second := by
  rw [strokes, String.toList_append, List.filterMap_append]
  rfl

/-- The strokes that an action makes by itself, apart from opening and ending scopes. -/
def Action.strokes (newline : String) : Action → List Stroke
  | write text => Writer.strokes newline text
  | writeLine text => linesStrokes newline [text]
  | writeBreak text => Writer.strokes newline text ++ Writer.strokes newline "\n"
  | blankLine => [.lineEnd]
  | comment text =>
    (Text.pieces (newline.toList.getLast?.getD '\n') text.toList).flatMap fun line ↦
      Writer.strokes newline "// " ++ linesStrokes newline [String.ofList line]
  | see cref => Writer.strokes newline ("<see cref=\"" ++ cref ++ "\"/>")
  | enter _ | leave _ => []

/-- The scope that an action opens. -/
def Action.opening? : Action → Option Opening
  | enter o => some o
  | write _ | writeLine _ | writeBreak _ | blankLine | comment _ | see _ | leave _ => none

/-- Puts a stroke on the page. -/
def draw (w : Writer) : Stroke → Writer
  | .char c => w.startLine.append c
  | .lineEnd => w.endLine

@[simp] theorem newline_draw (w : Writer) (stroke : Stroke) : (w.draw stroke).newline = w.newline := by
  cases stroke with
  | char c =>
    rw [draw, append, startLine]
    split <;> rfl
  | lineEnd => rfl

@[simp] theorem newline_foldl_draw (w : Writer) (ss : List Stroke) :
    (ss.foldl draw w).newline = w.newline := by
  induction ss generalizing w with
  | nil => rfl
  | cons stroke rest ih => rw [List.foldl_cons, ih, newline_draw]

/-- Writing a text puts its strokes on the page. -/
theorem write_eq_draw (w : Writer) (text : String) :
    w.write text = (strokes w.newline text).foldl draw w := by
  have hchar (v : Writer) (c : Char) : writeChar w.breakChar w.dropped v c =
      (Stroke.ofChar? w.newline c).toList.foldl draw v := by
    rw [writeChar, breakChar, dropped, Stroke.ofChar?]
    split
    · rfl
    · split <;> rfl
  rw [write, strokes, List.filterMap_eq_flatMap_toList, List.foldl_flatMap]
  exact congrArg (fun f ↦ text.toList.foldl f w) (funext₂ hchar)

theorem writeLine_eq_draw (w : Writer) (text : String) :
    w.writeLine text = (linesStrokes w.newline [text]).foldl draw w := by
  rw [writeLine, write_eq_draw, linesStrokes, List.flatMap_singleton, List.foldl_append]
  rfl

theorem writeBreak_eq_draw (w : Writer) (text : String) :
    w.writeBreak text = ((Action.writeBreak text).strokes w.newline).foldl draw w := by
  rw [writeBreak, write_eq_draw, write_eq_draw, newline_foldl_draw, Action.strokes, List.foldl_append]

theorem comment_eq_draw (w : Writer) (text : String) :
    w.comment text = ((Action.comment text).strokes w.newline).foldl draw w := by
  have hfold (lines : List (List Char)) (v : Writer) (hv : v.newline = w.newline) :
      lines.foldl (fun w line ↦ (w.write "// ").writeLine (String.ofList line)) v =
        (lines.flatMap fun line ↦ strokes w.newline "// " ++
          linesStrokes w.newline [String.ofList line]).foldl draw v := by
    induction lines generalizing v with
    | nil => rfl
    | cons line rest ih =>
      rw [List.foldl_cons, List.flatMap_cons, List.foldl_append, List.foldl_append, write_eq_draw,
        writeLine_eq_draw, newline_foldl_draw, hv, ih]
      rw [newline_foldl_draw, newline_foldl_draw, hv]
  exact hfold _ w rfl

/-! ### Pages -/

/-- The lines that have ended, and what is kept since then. Each kept character has the level at which it
is written. -/
structure Page where
  rows : List (List (Nat × Char)) := []
  current : List (Nat × Char) := []

/-- The text of a line: its kept characters after the indentation for the level of the first of them. -/
def rowText (indentText : String) (row : List (Nat × Char)) : String :=
  Text.indented indentText (row.head?.elim 0 (·.1)) (String.ofList (row.map (·.2)))

namespace Page

/-- Puts a stroke on the page at a level. -/
def put (level : Nat) (page : Page) : Stroke → Page
  | .char c => { page with current := page.current ++ [(level, c)] }
  | .lineEnd => ⟨page.rows ++ [page.current], []⟩

/-- The whole text, with the terminator after each line that has ended. -/
def text (indentText newline : String) (page : Page) : String :=
  String.join ((page.rows.map (rowText indentText)).map (· ++ newline)) ++
    rowText indentText page.current

end Page

theorem rowText_nil (indentText : String) : rowText indentText [] = "" := rfl

theorem rowText_cons (indentText : String) (level : Nat) (c : Char) (rest : List (Nat × Char)) :
    rowText indentText ((level, c) :: rest) =
      String.join (List.replicate level indentText) ++ String.ofList (c :: rest.map (·.2)) := by
  rw [rowText, Text.indented, if_neg]
  · rfl
  · rw [← String.toList_eq_nil_iff, String.toList_ofList]
    exact List.cons_ne_nil _ _

/-! ### A writer with a page -/

/-- The writer has no head, stands at a level, and has written what is on the page. -/
structure Shows (w : Writer) (indentText newline : String) (level : Nat) (page : Page) : Prop where
  indentText_eq : w.indentText = indentText
  newline_eq : w.newline = newline
  lineHead_eq : w.lineHead = ""
  level_eq : w.level = level
  atLineStart_eq : w.atLineStart = page.current.isEmpty
  out_eq : w.out = page.text indentText newline

namespace Shows

variable {w : Writer} {indentText newline : String} {level : Nat} {page : Page}

/-- A character comes after what is on the line, or after the indentation for the level. -/
theorem draw_char (h : w.Shows indentText newline level page) (c : Char) :
    (w.draw (.char c)).Shows indentText newline level (page.put level (.char c)) := by
  have hstart := h.atLineStart_eq
  rw [draw, append, startLine, Page.put]
  cases hcurrent : page.current with
  | nil =>
    rw [hcurrent, List.isEmpty_nil] at hstart
    rw [if_pos hstart]
    refine ⟨h.indentText_eq, h.newline_eq, h.lineHead_eq, h.level_eq, rfl, ?_⟩
    dsimp only
    rw [h.out_eq, h.lineHead_eq, indentation, h.level_eq, h.indentText_eq, Page.text, Page.text,
      hcurrent, List.nil_append, rowText_nil, rowText_cons, ← String.toList_inj]
    simp
  | cons first rest =>
    obtain ⟨start, d⟩ := first
    rw [hcurrent, List.isEmpty_cons] at hstart
    rw [if_neg (by rw [hstart]; exact Bool.false_ne_true)]
    refine ⟨h.indentText_eq, h.newline_eq, h.lineHead_eq, h.level_eq, hstart, ?_⟩
    dsimp only
    rw [h.out_eq, Page.text, Page.text, hcurrent, List.cons_append, rowText_cons, rowText_cons,
      ← String.toList_inj]
    simp

/-- The terminator comes after what is on the line. -/
theorem draw_lineEnd (h : w.Shows indentText newline level page) :
    (w.draw .lineEnd).Shows indentText newline level (page.put level .lineEnd) := by
  have hblank : Text.trimEnd "" = "" := by decide
  have hline : (if w.atLineStart then w.out ++ Text.trimEnd w.lineHead else w.out) = w.out := by
    rw [h.lineHead_eq, hblank, String.append_empty, ite_self]
  refine ⟨h.indentText_eq, h.newline_eq, h.lineHead_eq, h.level_eq, rfl, ?_⟩
  rw [draw, endLine, hline]
  dsimp only
  rw [h.out_eq, h.newline_eq, Page.put, Page.text, Page.text, rowText_nil, ← String.toList_inj]
  simp

/-- Strokes come to the same places on the page and in the output. -/
theorem foldl_draw (h : w.Shows indentText newline level page) (ss : List Stroke) :
    (ss.foldl draw w).Shows indentText newline level (ss.foldl (Page.put level) page) := by
  induction ss generalizing w page with
  | nil => exact h
  | cons stroke rest ih =>
    cases stroke with
    | char c => exact ih (h.draw_char c)
    | lineEnd => exact ih h.draw_lineEnd

theorem write (h : w.Shows indentText newline level page) (text : String) :
    (w.write text).Shows indentText newline level
      ((strokes newline text).foldl (Page.put level) page) := by
  rw [write_eq_draw, h.newline_eq]
  exact h.foldl_draw _

theorem writeLine (h : w.Shows indentText newline level page) (text : String) :
    (w.writeLine text).Shows indentText newline level
      ((linesStrokes newline [text]).foldl (Page.put level) page) := by
  rw [writeLine_eq_draw, h.newline_eq]
  exact h.foldl_draw _

/-- The writer may come to stand at another level. -/
theorem atLevel (h : w.Shows indentText newline level page) (other : Nat) :
    { w with level := other }.Shows indentText newline other page :=
  ⟨h.indentText_eq, h.newline_eq, h.lineHead_eq, rfl, h.atLineStart_eq, h.out_eq⟩

theorem deeper (h : w.Shows indentText newline level page) :
    w.deeper.Shows indentText newline (level + 1) page := by
  rw [Writer.deeper, h.level_eq]
  exact h.atLevel (level + 1)

theorem shallower (h : w.Shows indentText newline level page) :
    w.shallower.Shows indentText newline (level - 1) page := by
  rw [Writer.shallower, h.level_eq]
  exact h.atLevel (level - 1)

/-- A block after a line has the strokes of both lines in front of it. -/
theorem openBlock_writeLine (h : w.Shows indentText newline level page) (line first last : String) :
    ((w.writeLine line).openBlock first last).1.Shows indentText newline (level + 1)
      ((linesStrokes newline [line, first]).foldl (Page.put level) page) := by
  have hlines : linesStrokes newline ([line] ++ [first]) =
      linesStrokes newline [line] ++ linesStrokes newline [first] := List.flatMap_append
  rw [← List.singleton_append, hlines, List.foldl_append]
  exact ((h.writeLine line).writeLine first).deeper

/-- The modifiers of a class are written with a space after each. -/
theorem write_modifiers (h : w.Shows indentText newline level page) (modifiers : List String) :
    (modifiers.foldl (fun w modifier ↦ (w.write modifier).write " ") w).Shows indentText newline level
      ((strokes newline (String.join (modifiers.map (· ++ " ")))).foldl (Page.put level) page) := by
  induction modifiers generalizing w page with
  | nil => exact h
  | cons modifier rest ih =>
    rw [List.foldl_cons, List.map_cons, String.join_cons, strokes_append, strokes_append,
      List.foldl_append, List.foldl_append]
    exact ih ((h.write modifier).write " ")

/-- Opening a scope that sets no head writes its first lines, and indents if the scope does. -/
theorem enter (h : w.Shows indentText newline level page) {o : Opening} (ho : o.setsHead = false) :
    (w.enter o).1.Shows indentText newline (level + o.indents.toNat)
        ((linesStrokes newline o.firstLines).foldl (Page.put level) page) ∧
      (w.enter o).2 = exitOf "" o [] := by
  cases o with
  | indent => exact ⟨h.deeper, rfl⟩
  | block trailer => exact ⟨(h.writeLine _).deeper, rfl⟩
  | blockComment => exact ⟨(h.writeLine _).deeper, rfl⟩
  | lineHead | documentation => cases ho
  | closingLine text => exact ⟨h, rfl⟩
  | namespaceBlock name => exact ⟨h.openBlock_writeLine _ _ _, rfl⟩
  | classBlock name modifiers =>
    refine ⟨?_, rfl⟩
    have hclass := (h.write_modifiers modifiers).write "class "
    have hlines : linesStrokes newline (Opening.classBlock name modifiers).firstLines =
        strokes newline (String.join (modifiers.map (· ++ " "))) ++ (strokes newline "class " ++
          linesStrokes newline [name, "\x7b"]) := by
      simp only [Opening.firstLines, linesStrokes, List.flatMap_cons, strokes_append,
        List.append_assoc]
    rw [hlines, List.foldl_append, List.foldl_append]
    exact hclass.openBlock_writeLine name "\x7b" "\x7d"
  | summary => exact ⟨h.writeLine _, rfl⟩

/-- Ending a scope that sets no head takes back its indentation, and then writes its last lines. -/
theorem leave (h : w.Shows indentText newline level page) {o : Opening} (ho : o.setsHead = false) :
    (w.leave (exitOf "" o [])).Shows indentText newline (level - o.indents.toNat)
      ((linesStrokes newline o.lastLines).foldl (Page.put (level - o.indents.toNat)) page) := by
  cases o with
  | indent => exact h.shallower
  | block | blockComment | namespaceBlock | classBlock => exact h.shallower.writeLine _
  | lineHead | documentation => cases ho
  | closingLine | summary => exact h.writeLine _

end Shows

/-! ### The ledger -/

/-- Something that is written: at which level, with which strokes, and whether it is the end of a
scope. -/
structure Deed where
  level : Nat
  strokes : List Stroke
  /-- The number of the scope that ends. -/
  ends? : Option Nat := none

/-- The scopes that have been opened, in order, and what has been written. An ended scope is `none`. -/
structure Ledger where
  scopes : List (Option Opening) := []
  deeds : List Deed := []

namespace Ledger

/-- The number of indenting scopes among those that are open. -/
def openLevel (scopes : List (Option Opening)) : Nat := scopes.countP (·.any Opening.indents)

/-- Notes one action. The end of a scope is noted only if the scope is open. -/
def step (newline : String) (l : Ledger) : Action → Ledger
  | .enter o =>
    ⟨l.scopes ++ [some o], l.deeds ++ [⟨openLevel l.scopes, linesStrokes newline o.firstLines, none⟩]⟩
  | .leave index =>
    match l.scopes[index]? with
    | some (some o) =>
      let rest := l.scopes.set index none
      ⟨rest, l.deeds ++ [⟨openLevel rest, linesStrokes newline o.lastLines, some index⟩]⟩
    | _ => l
  | action =>
    { l with deeds := l.deeds ++ [⟨openLevel l.scopes, action.strokes newline, none⟩] }

/-- The ledger of a program. -/
def run (newline : String) (program : List Action) : Ledger := program.foldl (step newline) {}

/-- The page with all that has been written. -/
def page (l : Ledger) : Page :=
  l.deeds.foldl (fun page deed ↦ deed.strokes.foldl (Page.put deed.level) page) {}

/-- What the ends of a scope have written. -/
def closings (l : Ledger) (index : Nat) : List (List Stroke) :=
  (l.deeds.filter (·.ends? = some index)).map (·.strokes)

theorem page_concat (l : Ledger) (scopes : List (Option Opening)) (deed : Deed) :
    (Ledger.mk scopes (l.deeds ++ [deed])).page = deed.strokes.foldl (Page.put deed.level) l.page := by
  rw [page, List.foldl_append]
  rfl

theorem closings_concat (l : Ledger) (scopes : List (Option Opening)) (deed : Deed) (index : Nat) :
    (Ledger.mk scopes (l.deeds ++ [deed])).closings index =
      l.closings index ++ if deed.ends? = some index then [deed.strokes] else [] := by
  rw [closings, List.filter_append, List.map_append, closings]
  by_cases h : deed.ends? = some index
  · have hkept : [deed].filter (·.ends? = some index) = [deed] :=
      List.filter_cons_of_pos (decide_eq_true h)
    rw [if_pos h, hkept]
    rfl
  · have hgone : [deed].filter (·.ends? = some index) = [] :=
      List.filter_cons_of_neg (mt of_decide_eq_true h)
    rw [if_neg h, hgone]
    rfl

/-- What is written apart from the end of a scope leaves the ends as they are. -/
theorem closings_concat_of_none (l : Ledger) (scopes : List (Option Opening)) {deed : Deed}
    (h : deed.ends? = none) (index : Nat) :
    (Ledger.mk scopes (l.deeds ++ [deed])).closings index = l.closings index := by
  rw [closings_concat, h, if_neg (Option.some_ne_none index).symm, List.append_nil]

/-! ### The end of each scope -/

/-- What stands at a place in a list with one more item at its end. -/
theorem getElem?_concat_eq_some_iff {α : Type} {xs : List α} {x y : α} {index : Nat} :
    (xs ++ [x])[index]? = some y ↔ xs[index]? = some y ∨ index = xs.length ∧ x = y := by
  rcases Nat.lt_trichotomy index xs.length with hlt | rfl | hgt
  · rw [List.getElem?_append_left hlt]
    exact (or_iff_left fun hlast ↦ Nat.ne_of_lt hlt hlast.1).symm
  · simp
  · have hbeyond : (xs ++ [x]).length ≤ index := by
      rw [List.length_append]
      exact hgt
    rw [List.getElem?_eq_none hbeyond, List.getElem?_eq_none (Nat.le_of_lt hgt)]
    exact (or_iff_left fun hlast ↦ Nat.ne_of_gt hgt hlast.1).symm

/-- The scopes of the ledger are those that have been opened, and no others have ended. A scope that is
open has not written what it writes at its end, and one that has ended has written it once. -/
structure IsKept (newline : String) (opened : List Opening) (l : Ledger) : Prop where
  length_eq : l.scopes.length = opened.length
  eq_of_open : ∀ (index : Nat) (o : Opening),
    l.scopes[index]? = some (some o) → opened[index]? = some o
  closings_eq : ∀ (index : Nat) (o : Opening), opened[index]? = some o → l.closings index =
    if l.scopes[index]? = some none then [linesStrokes newline o.lastLines] else []
  ends_lt : ∀ deed ∈ l.deeds, ∀ index ∈ deed.ends?, index < opened.length

namespace IsKept

variable {newline : String} {opened : List Opening} {l : Ledger}

theorem empty (newline : String) : IsKept newline [] {} :=
  ⟨rfl, fun _ _ h ↦ by simp at h, fun _ _ h ↦ by simp at h, fun _ h ↦ by simp at h⟩

/-- A scope that has not been opened has written nothing. -/
theorem closings_of_le (h : IsKept newline opened l) {index : Nat} (hindex : opened.length ≤ index) :
    l.closings index = [] := by
  rw [closings, List.map_eq_nil_iff, List.filter_eq_nil_iff]
  intro deed hdeed hends
  have hlt := h.ends_lt deed hdeed index (of_decide_eq_true hends)
  omega

/-- Writing opens and ends nothing. -/
theorem write (h : IsKept newline opened l) (level : Nat) (strokes : List Stroke) :
    IsKept newline opened { l with deeds := l.deeds ++ [⟨level, strokes, none⟩] } := by
  refine ⟨h.length_eq, h.eq_of_open, fun index o ho ↦ ?_, fun deed hdeed index hends ↦ ?_⟩
  · rw [closings_concat_of_none l l.scopes rfl]
    exact h.closings_eq index o ho
  · rcases List.mem_append.mp hdeed with hbefore | hlast
    · exact h.ends_lt deed hbefore index hends
    · rw [List.mem_singleton] at hlast
      rw [hlast] at hends
      cases hends

/-- A scope that is opened is open. -/
theorem enter (h : IsKept newline opened l) (level : Nat) (strokes : List Stroke) (o : Opening) :
    IsKept newline (opened ++ [o])
      ⟨l.scopes ++ [some o], l.deeds ++ [⟨level, strokes, none⟩]⟩ := by
  have hended (index : Nat) :
      (l.scopes ++ [some o])[index]? = some none ↔ l.scopes[index]? = some none := by
    rw [getElem?_concat_eq_some_iff]
    exact or_iff_left fun hlast ↦ Option.some_ne_none o hlast.2
  refine ⟨?_, fun index other hother ↦ ?_, fun index other hother ↦ ?_, fun deed hdeed index hends ↦ ?_⟩
  · rw [List.length_append, List.length_append, h.length_eq]
    rfl
  · rw [getElem?_concat_eq_some_iff] at hother ⊢
    refine hother.imp (h.eq_of_open index other) fun ⟨hindex, hlast⟩ ↦ ?_
    exact ⟨hindex.trans h.length_eq, Option.some.inj hlast⟩
  · rw [closings_concat_of_none l _ rfl]
    simp only [hended]
    rcases getElem?_concat_eq_some_iff.mp hother with hbefore | ⟨hindex, -⟩
    · exact h.closings_eq index other hbefore
    · have hnone : l.scopes[index]? = none :=
        List.getElem?_eq_none (Nat.le_of_eq (h.length_eq.trans hindex.symm))
      rw [h.closings_of_le (Nat.le_of_eq hindex.symm), hnone, if_neg (Option.some_ne_none _).symm]
  · have hlt := (h.write level strokes).ends_lt deed hdeed index hends
    rw [List.length_append]
    exact Nat.lt_add_right _ hlt

/-- A scope that ends writes its last lines. -/
theorem leave (h : IsKept newline opened l) {index : Nat} {o : Opening}
    (hopen : l.scopes[index]? = some (some o)) (level : Nat) :
    IsKept newline opened
      ⟨l.scopes.set index none, l.deeds ++ [⟨level, linesStrokes newline o.lastLines, some index⟩]⟩ := by
  have hlt : index < l.scopes.length := (List.getElem?_eq_some_iff.mp hopen).1
  refine ⟨?_, fun other p hp ↦ ?_, fun other p hp ↦ ?_, fun deed hdeed other hends ↦ ?_⟩
  · rw [List.length_set, h.length_eq]
  · dsimp only at hp
    rw [List.getElem?_set] at hp
    split at hp
    · cases hp
    · exact h.eq_of_open other p hp
  · rw [closings_concat, h.closings_eq other p hp]
    dsimp only
    rw [List.getElem?_set]
    by_cases heq : index = other
    · subst heq
      have hsame : p = o := Option.some.inj (hp.symm.trans (h.eq_of_open index o hopen))
      rw [hopen, hsame, if_neg (by simp), if_pos rfl, if_pos rfl, if_pos hlt, if_pos rfl]
      rfl
    · rw [if_neg (mt Option.some.inj heq), if_neg heq, List.append_nil]
  · rcases List.mem_append.mp hdeed with hbefore | hlast
    · exact h.ends_lt deed hbefore other hends
    · rw [List.mem_singleton] at hlast
      rw [hlast] at hends
      obtain rfl := Option.some.inj hends
      rw [← h.length_eq]
      exact hlt

/-- One action keeps the invariant, with the scope that it opens. -/
theorem step (h : IsKept newline opened l) (action : Action) :
    IsKept newline (opened ++ action.opening?.toList) (l.step newline action) := by
  cases action with
  | enter o => exact h.enter _ _ o
  | leave index =>
    rw [Action.opening?, Option.toList_none, List.append_nil, Ledger.step]
    split
    · next o hopen => exact h.leave hopen _
    · exact h
  | write | writeLine | writeBreak | blankLine | comment | see =>
    rw [Action.opening?, Option.toList_none, List.append_nil]
    exact h.write _ _

/-- A program keeps it, with the scopes that it opens. -/
theorem run (h : IsKept newline opened l) (program : List Action) :
    IsKept newline (opened ++ program.filterMap Action.opening?) (program.foldl (Ledger.step newline) l) := by
  induction program generalizing opened l with
  | nil =>
    rw [List.filterMap_nil, List.append_nil]
    exact h
  | cons action rest ih =>
    have hsplit : opened ++ (action :: rest).filterMap Action.opening? =
        opened ++ action.opening?.toList ++ rest.filterMap Action.opening? := by
      rw [List.append_assoc, List.filterMap_cons]
      cases action.opening? <;> rfl
    rw [hsplit]
    exact ih (h.step action)

/-- A scope that has been opened is open or has ended. -/
theorem open_or_ended (h : IsKept newline opened l) {index : Nat} {o : Opening}
    (ho : opened[index]? = some o) :
    l.scopes[index]? = some (some o) ∨ l.scopes[index]? = some none := by
  have hlt : index < l.scopes.length := h.length_eq ▸ (List.getElem?_eq_some_iff.mp ho).1
  have hat : l.scopes[index]? = some l.scopes[index] := List.getElem?_eq_getElem hlt
  cases hscope : l.scopes[index] with
  | none => exact .inr (hscope ▸ hat)
  | some other =>
    rw [hscope] at hat
    have hsame : other = o := Option.some.inj ((h.eq_of_open index other hat).symm.trans ho)
    exact .inl (hsame ▸ hat)

end IsKept

/-! ### The level -/

/-- A scope that is opened counts if it indents. -/
theorem openLevel_concat (scopes : List (Option Opening)) (o : Opening) :
    openLevel (scopes ++ [some o]) = openLevel scopes + o.indents.toNat := by
  rw [openLevel, List.countP_append, openLevel, List.countP_singleton, Option.any_some]
  cases o.indents <;> rfl

/-- A scope that ends does not count any more. -/
theorem openLevel_set {scopes : List (Option Opening)} {index : Nat} {o : Opening}
    (hopen : scopes[index]? = some (some o)) :
    openLevel (scopes.set index none) = openLevel scopes - o.indents.toNat := by
  obtain ⟨hlt, hat⟩ := List.getElem?_eq_some_iff.mp hopen
  rw [openLevel, List.countP_set hlt, hat, Option.any_some, Option.any_none, openLevel]
  cases o.indents <;> rfl

theorem openLevel_eq_zero {scopes : List (Option Opening)} (h : ∀ scope ∈ scopes, scope = none) :
    openLevel scopes = 0 := by
  refine List.countP_eq_zero.mpr fun scope hscope ↦ ?_
  rw [h scope hscope, Option.any_none]
  exact Bool.false_ne_true

end Ledger

/-! ### The writer and the ledger -/

/-- The writer of a session shows the page of a ledger at the level of its open scopes, and the session
has the same open scopes, none of which sets a head. -/
structure Tallies (s : Session) (indentText newline : String) (l : Ledger) : Prop where
  shows : s.writer.Shows indentText newline (Ledger.openLevel l.scopes) l.page
  scopes_eq : s.scopes = l.scopes.map (Option.map (exitOf "" · []))
  setsHead_eq_false : ∀ o, some o ∈ l.scopes → o.setsHead = false

namespace Tallies

variable {s : Session} {indentText newline : String} {l : Ledger}

/-- Nothing has been written, and nothing is open. -/
theorem empty (indentText newline : String) :
    Tallies ⟨{ indentText, newline }, []⟩ indentText newline {} :=
  ⟨⟨rfl, rfl, rfl, rfl, rfl, rfl⟩, rfl, fun _ h ↦ absurd h List.not_mem_nil⟩

/-- What is written comes at the level of the open scopes. -/
theorem write (h : Tallies s indentText newline l) {w : Writer} {strokes : List Stroke}
    (hw : w = strokes.foldl draw s.writer) :
    Tallies { s with writer := w } indentText newline
      { l with deeds := l.deeds ++ [⟨Ledger.openLevel l.scopes, strokes, none⟩] } := by
  refine ⟨?_, h.scopes_eq, h.setsHead_eq_false⟩
  rw [Ledger.page_concat, hw]
  exact h.shows.foldl_draw strokes

/-- A scope that is opened is open in the session and in the ledger. -/
theorem enter (h : Tallies s indentText newline l) {o : Opening} (ho : o.setsHead = false) :
    Tallies (s.step (.enter o)) indentText newline (l.step newline (.enter o)) := by
  obtain ⟨hwriter, hexit⟩ := h.shows.enter ho
  refine ⟨?_, ?_, fun other hother ↦ ?_⟩
  · rw [Ledger.step, Ledger.page_concat, Ledger.openLevel_concat]
    exact hwriter
  · have hscopes : (s.step (.enter o)).scopes = s.scopes ++ [some (s.writer.enter o).2] := rfl
    have hopen : (l.step newline (.enter o)).scopes = l.scopes ++ [some o] := rfl
    rw [hscopes, hexit, h.scopes_eq, hopen, List.map_append, List.map_singleton, Option.map_some]
  · rcases List.mem_append.mp hother with hbefore | hlast
    · exact h.setsHead_eq_false other hbefore
    · rw [Option.some.inj (List.mem_singleton.mp hlast)]
      exact ho

/-- A scope that is open ends in the session and in the ledger, and another end does nothing. -/
theorem leave (h : Tallies s indentText newline l) (index : Nat) :
    Tallies (s.step (.leave index)) indentText newline (l.step newline (.leave index)) := by
  rw [Session.step, Ledger.step, h.scopes_eq, List.getElem?_map]
  cases hscope : l.scopes[index]? with
  | none => exact h
  | some scope =>
    cases scope with
    | none => exact h
    | some o =>
      have ho : o.setsHead = false := h.setsHead_eq_false o (List.mem_of_getElem? hscope)
      refine ⟨?_, ?_, fun other hother ↦ ?_⟩
      · rw [Ledger.page_concat, Ledger.openLevel_set hscope]
        exact h.shows.leave ho
      · show (l.scopes.map (Option.map (exitOf "" · []))).set index none =
          (l.scopes.set index none).map (Option.map (exitOf "" · []))
        rw [List.map_set, Option.map_none]
      · rcases List.mem_or_eq_of_mem_set hother with hbefore | hnone
        · exact h.setsHead_eq_false other hbefore
        · cases hnone

/-- One action keeps the writer in step with the ledger, unless it opens a scope that sets a head. -/
theorem step (h : Tallies s indentText newline l) {action : Action}
    (hhead : ∀ o ∈ action.opening?, o.setsHead = false) :
    Tallies (s.step action) indentText newline (l.step newline action) := by
  have hnewline := h.shows.newline_eq
  cases action with
  | write text => exact h.write (hnewline ▸ write_eq_draw s.writer text)
  | writeLine text => exact h.write (hnewline ▸ writeLine_eq_draw s.writer text)
  | writeBreak text => exact h.write (hnewline ▸ writeBreak_eq_draw s.writer text)
  | blankLine => exact h.write rfl
  | comment text => exact h.write (hnewline ▸ comment_eq_draw s.writer text)
  | see cref => exact h.write (hnewline ▸ write_eq_draw s.writer _)
  | enter o => exact h.enter (hhead o rfl)
  | leave index => exact h.leave index

/-- A program that opens no scope that sets a head keeps the writer in step with the ledger. -/
theorem run (h : Tallies s indentText newline l) {program : List Action}
    (hheads : ∀ o, .enter o ∈ program → o.setsHead = false) :
    Tallies (s.run program) indentText newline (program.foldl (Ledger.step newline) l) := by
  induction program generalizing s l with
  | nil => exact h
  | cons action rest ih =>
    refine ih (h.step fun o ho ↦ ?_) fun o ho ↦ hheads o (List.mem_cons_of_mem action ho)
    cases action with
    | enter other =>
      obtain rfl := Option.some.inj ho
      exact hheads other List.mem_cons_self
    | write | writeLine | writeBreak | blankLine | comment | see | leave => cases ho

end Tallies

/-- A program that opens no scope that sets a head is told by its ledger, whatever it has ended so far
and in whatever order. The level is the number of indenting scopes that are open, and zero once all have
ended. The output is the page of the ledger, on which each line has the indentation for the level at
which its first character is kept. A scope has written nothing of its end while it is open, and its last
lines once when it has ended. -/
theorem run_of_ledger (indentText newline : String) {program before : List Action}
    (hheads : ∀ o, .enter o ∈ program → o.setsHead = false) (hbefore : before <+: program) :
    let s := Session.run ⟨{ indentText, newline }, []⟩ before
    let opened := before.filterMap Action.opening?
    let l := Ledger.run newline before
    s.scopes.map Option.isSome = l.scopes.map Option.isSome ∧
      l.scopes.length = opened.length ∧
      s.writer.level = Ledger.openLevel l.scopes ∧
      s.writer.out = l.page.text indentText newline ∧
      (∀ (index : Nat) (o : Opening), opened[index]? = some o →
        l.scopes[index]? = some (some o) ∧ l.closings index = [] ∨
          l.scopes[index]? = some none ∧ l.closings index = [linesStrokes newline o.lastLines]) ∧
      ((∀ scope ∈ s.scopes, scope = none) → s.writer.level = 0) := by
  intro s opened l
  have htallies : Tallies s indentText newline l :=
    (Tallies.empty indentText newline).run fun o ho ↦ hheads o (hbefore.subset ho)
  have hkept : Ledger.IsKept newline opened l := (Ledger.IsKept.empty newline).run before
  refine ⟨?_, hkept.length_eq, htallies.shows.level_eq, htallies.shows.out_eq, fun index o ho ↦ ?_,
    fun hended ↦ ?_⟩
  · rw [htallies.scopes_eq, List.map_map]
    exact List.map_congr_left fun scope _ ↦ by cases scope <;> rfl
  · have hclosings := hkept.closings_eq index o ho
    rcases hkept.open_or_ended ho with hopen | hended
    · rw [if_neg (by rw [hopen]; exact fun heq ↦ nomatch heq)] at hclosings
      exact .inl ⟨hopen, hclosings⟩
    · rw [if_pos hended] at hclosings
      exact .inr ⟨hended, hclosings⟩
  · rw [htallies.shows.level_eq]
    refine Ledger.openLevel_eq_zero fun scope hscope ↦ ?_
    have hexit : scope.map (exitOf "" · []) ∈ s.scopes :=
      htallies.scopes_eq ▸ List.mem_map_of_mem hscope
    exact Option.map_eq_none_iff.mp (hended _ hexit)

/-- A level of indentation that ends before the block inside it, whose end is asked for twice. -/
theorem run_of_ledger_overlapping :
    let program : List Action :=
      [.enter .indent, .enter (.block ";"), .write "a", .leave 0, .writeLine "b", .write "c", .leave 1,
        .leave 1]
    let s := Session.run ⟨{ indentText := "  ", newline := "\n" }, []⟩ program
    let l := Ledger.run "\n" program
    (∀ o, .enter o ∈ program → o.setsHead = false) ∧ program <+: program ∧
      l.closings 1 = [linesStrokes "\n" ["\x7d;"]] ∧ s.writer.level = 0 ∧
      s.writer.out = "  \x7b\n    ab\n  c\x7d;\n" := by
  intro program s l
  have hheads : ∀ o, .enter o ∈ program → o.setsHead = false := by
    simp [program, Opening.setsHead]
  obtain ⟨-, -, -, hout, hends, hlevel⟩ := run_of_ledger "  " "\n" hheads (List.prefix_refl program)
  refine ⟨hheads, List.prefix_refl program, ?_, hlevel (by decide), hout.trans (by decide)⟩
  rcases hends 1 (.block ";") (by decide) with ⟨hopen, -⟩ | ⟨-, hclosed⟩
  · exact absurd hopen (by decide)
  · exact hclosed

end Writer

end HubRelay
