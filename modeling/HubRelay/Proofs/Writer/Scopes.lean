import HubRelay.Proofs.Text.Lines
import HubRelay.Proofs.Writer.Marks

/-!
# What lines begin with inside open scopes

A writer keeps a head and a level, and the scopes change these in four ways: by one level, by a level
and a closing line, by a closing line alone, and by setting the head anew, which puts the level back to
zero. All of this state is a function of the scopes that are open. What lines begin with is found by
folding over the open scopes from the outermost in (`headOf`); the head that the writer keeps is the
one that the innermost scope to set a head has fixed (`fixedHead`), and the level counts the indenting
scopes inside that one (`levelOf`). A writer whose head and level are these `Reflects` the open scopes.

`enter_eq` and `leave_eq` say what opening and ending a scope does to such a writer: it writes the
first or last lines of the scope and reflects the scopes that are open then.

Lists of open scopes have the innermost scope first.
-/

set_option autoImplicit false

namespace HubRelay

/-! ### Bytes at the start of a text -/

/-- What is left of characters after the first bytes. Nothing is left when there are not as many
bytes, or when they end inside a character. -/
def Text.restAfter : Nat → List Char → List Char
  | 0, cs => cs
  | _ + 1, [] => []
  | bytes + 1, c :: rest =>
    if c.utf8Size ≤ bytes + 1 then restAfter (bytes + 1 - c.utf8Size) rest else []

/-- What is left consists of characters that were there. -/
theorem Text.restAfter_subset (bytes : Nat) (cs : List Char) : restAfter bytes cs ⊆ cs := by
  induction bytes, cs using restAfter.induct with
  | case1 cs =>
    rw [restAfter]
    exact List.Subset.refl cs
  | case2 bytes =>
    rw [restAfter]
    exact List.Subset.refl []
  | case3 bytes c rest hfits ih =>
    rw [restAfter, if_pos hfits]
    exact List.Subset.trans ih (List.subset_cons_self c rest)
  | case4 bytes c rest hlong =>
    rw [restAfter, if_neg hlong]
    exact List.nil_subset _

namespace Writer

/-- Characters are counted the same way when only as many are looked at as there are bytes. -/
theorem charsIn?_take {bytes bound : Nat} (hbound : bytes ≤ bound) (cs : List Char) :
    charsIn? bytes (cs.take bound) = charsIn? bytes cs := by
  induction cs generalizing bytes bound with
  | nil => rw [List.take_nil]
  | cons c rest ih =>
    cases bytes with
    | zero => rw [charsIn?, charsIn?]
    | succ bytes =>
      obtain ⟨more, rfl⟩ : ∃ more, bound = more + 1 := ⟨bound - 1, by omega⟩
      rw [List.take_succ_cons, charsIn?, charsIn?]
      by_cases hfits : c.utf8Size ≤ bytes + 1
      · have hsize := c.utf8Size_pos
        rw [if_pos hfits, if_pos hfits, ih (by omega)]
      · rw [if_neg hfits, if_neg hfits]

/-- The characters that are counted are those in front of the rest. -/
theorem elim_charsIn? (bytes : Nat) (cs : List Char) :
    (charsIn? bytes cs).elim [] (cs.drop ·) = Text.restAfter bytes cs := by
  induction bytes, cs using Text.restAfter.induct with
  | case1 cs => rw [charsIn?, Text.restAfter, Option.elim_some, List.drop_zero]
  | case2 bytes => rw [charsIn?, Text.restAfter, Option.elim_none]
  | case3 bytes c rest hfits ih =>
    rw [charsIn?, if_pos hfits, Text.restAfter, if_pos hfits, ← ih]
    cases charsIn? (bytes + 1 - c.utf8Size) rest <;> rfl
  | case4 bytes c rest hlong =>
    rw [charsIn?, if_neg hlong, Text.restAfter, if_neg hlong, Option.elim_none]

/-- What a head is padded with. -/
theorem getD_dropBytes (bytes : Nat) (text : String) :
    (dropBytes bytes text).getD "" = String.ofList (Text.restAfter bytes text.toList) := by
  rw [dropBytes, String.toList_copy_take, charsIn?_take (Nat.le_refl bytes), ← elim_charsIn?]
  cases charsIn? bytes text.toList with
  | none => rfl
  | some count =>
    rw [Option.map_some, Option.getD_some, Option.elim_some, ← String.toList_inj,
      String.toList_copy_drop, String.toList_ofList]

end Writer

/-! ### One scope -/

namespace Opening

/-- Whether the scope sets anew what lines begin with. -/
def setsHead : Opening → Bool
  | lineHead .. | documentation => true
  | indent | block _ | blockComment | closingLine _ | namespaceBlock _ | classBlock .. | summary =>
    false

/-- Whether the scope is one level of indentation. -/
def indents : Opening → Bool
  | indent | block _ | blockComment | namespaceBlock _ | classBlock .. => true
  | lineHead .. | closingLine _ | documentation | summary => false

/-- What lines begin with inside a scope, from what they begin with around it. -/
def head (indentText around : String) : Opening → String
  | indent | block _ | blockComment | namespaceBlock _ | classBlock .. => around ++ indentText
  | lineHead text true => around ++ text
  | lineHead text false =>
    text ++ String.ofList (Text.restAfter text.utf8ByteSize around.toList)
  | documentation => around ++ "/// "
  | closingLine _ | summary => around

/-- The lines that opening the scope writes. -/
def firstLines : Opening → List String
  | block _ => ["\x7b"]
  | blockComment => ["/*"]
  | namespaceBlock name => ["namespace " ++ name, "\x7b"]
  | classBlock name modifiers =>
    [String.join (modifiers.map (· ++ " ")) ++ "class " ++ name, "\x7b"]
  | summary => ["<summary>"]
  | indent | lineHead .. | closingLine _ | documentation => []

/-- The lines that the end of the scope writes. -/
def lastLines : Opening → List String
  | block trailer => ["\x7d" ++ trailer]
  | blockComment => ["*/"]
  | namespaceBlock _ | classBlock .. => ["\x7d"]
  | closingLine text => [text]
  | summary => ["</summary>"]
  | indent | lineHead .. | documentation => []

/-- A scope that indents sets no head. -/
theorem setsHead_eq_false_of_indents {o : Opening} (h : o.indents = true) :
    o.setsHead = false := by
  cases o with
  | indent | block | blockComment | namespaceBlock | classBlock => rfl
  | lineHead | closingLine | documentation | summary => cases h

/-- A scope that indents adds one level to what lines begin with. -/
theorem head_of_indents {o : Opening} (h : o.indents = true) (indentText around : String) :
    o.head indentText around = around ++ indentText := by
  cases o with
  | indent | block | blockComment | namespaceBlock | classBlock => rfl
  | lineHead | closingLine | documentation | summary => cases h

/-- A scope that neither indents nor sets a head leaves lines to begin as they do. -/
theorem head_of_plain {o : Opening} (hhead : o.setsHead = false) (hindent : o.indents = false)
    (indentText around : String) : o.head indentText around = around := by
  cases o with
  | closingLine | summary => rfl
  | lineHead | documentation => cases hhead
  | indent | block | blockComment | namespaceBlock | classBlock => cases hindent

end Opening

/-! ### Open scopes -/

namespace Writer

/-- What lines begin with inside open scopes. -/
def headOf (indentText : String) (scopes : List Opening) : String :=
  scopes.foldr (fun o around ↦ o.head indentText around) ""

/-- What lines begin with inside the innermost scope that sets it; nothing if no scope does. -/
def fixedHead (indentText : String) : List Opening → String
  | [] => ""
  | o :: around =>
    if o.setsHead then headOf indentText (o :: around) else fixedHead indentText around

/-- The number of indenting scopes inside the innermost one that sets a head. -/
def levelOf : List Opening → Nat
  | [] => 0
  | o :: around => if o.setsHead then 0 else if o.indents then levelOf around + 1 else levelOf around

/-- What to do when the scope `o` ends, which was opened inside `around`. -/
def exitOf (indentText : String) (o : Opening) (around : List Opening) : Exit :=
  match o with
  | .indent => .dedent
  | .block trailer => .close ("\x7d" ++ trailer)
  | .blockComment => .close "*/"
  | .lineHead .. | .documentation => .restore (fixedHead indentText around) (levelOf around)
  | .closingLine text => .line text
  | .namespaceBlock _ | .classBlock .. => .close "\x7d"
  | .summary => .line "</summary>"

section Folds

variable {indentText : String} {o : Opening} {around : List Opening}

theorem fixedHead_of_setsHead (h : o.setsHead = true) :
    fixedHead indentText (o :: around) = headOf indentText (o :: around) := if_pos h

theorem fixedHead_of_not_setsHead (h : o.setsHead = false) :
    fixedHead indentText (o :: around) = fixedHead indentText around := by
  rw [fixedHead, h, if_neg Bool.false_ne_true]

theorem levelOf_of_setsHead (h : o.setsHead = true) : levelOf (o :: around) = 0 := if_pos h

theorem levelOf_of_indents (h : o.indents = true) :
    levelOf (o :: around) = levelOf around + 1 := by
  rw [levelOf, Opening.setsHead_eq_false_of_indents h, if_neg Bool.false_ne_true, if_pos h]

theorem levelOf_of_plain (hhead : o.setsHead = false) (hindent : o.indents = false) :
    levelOf (o :: around) = levelOf around := by
  rw [levelOf, hhead, hindent, if_neg Bool.false_ne_true, if_neg Bool.false_ne_true]

end Folds

/-- The fold over the open scopes is the fixed head and the indentation after it. -/
theorem headOf_eq_fixedHead_append (indentText : String) (scopes : List Opening) :
    headOf indentText scopes = fixedHead indentText scopes ++
      String.join (List.replicate (levelOf scopes) indentText) := by
  induction scopes with
  | nil => rfl
  | cons o around ih =>
    cases hhead : o.setsHead with
    | true =>
      rw [fixedHead_of_setsHead hhead, levelOf_of_setsHead hhead]
      exact String.append_empty.symm
    | false =>
      rw [fixedHead_of_not_setsHead hhead]
      cases hindent : o.indents with
      | true =>
        rw [headOf, List.foldr_cons, Opening.head_of_indents hindent, levelOf_of_indents hindent,
          List.replicate_succ', String.join_append, ← String.append_assoc]
        show headOf indentText around ++ indentText = _
        rw [ih, String.join_cons]
        exact congrArg _ String.append_empty.symm
      | false =>
        rw [headOf, List.foldr_cons, Opening.head_of_plain hhead hindent,
          levelOf_of_plain hhead hindent]
        exact ih

/-! ### Writers that reflect open scopes -/

/-- The head and the level of the writer are those inside the open scopes. -/
structure Reflects (w : Writer) (scopes : List Opening) : Prop where
  lineHead : w.lineHead = fixedHead w.indentText scopes
  level : w.level = levelOf scopes

/-- The writer with the head and the level that it has inside open scopes. -/
def settle (w : Writer) (scopes : List Opening) : Writer :=
  { w with lineHead := fixedHead w.indentText scopes, level := levelOf scopes }

theorem reflects_settle (w : Writer) (scopes : List Opening) : (w.settle scopes).Reflects scopes :=
  ⟨rfl, rfl⟩

namespace Reflects

variable {w : Writer} {scopes : List Opening} {o : Opening}

/-- The lines of the writer begin as the open scopes say. -/
theorem lineHead_append_indentation (h : w.Reflects scopes) :
    w.lineHead ++ w.indentation = headOf w.indentText scopes := by
  rw [headOf_eq_fixedHead_append, h.lineHead, indentation, h.level]

/-- Marks open and end no scope. -/
theorem print (h : w.Reflects scopes) (ms : List Mark) : (w.print ms).Reflects scopes := by
  induction ms generalizing w with
  | nil => exact h
  | cons m rest ih =>
    obtain ⟨hindent, -, hlevel, hhead⟩ := put_settings w m
    exact ih ⟨by rw [hhead, hindent, h.lineHead], by rw [hlevel, h.level]⟩

/-- One level deeper an indenting scope is open. -/
theorem deeper_eq (h : w.Reflects scopes) (ho : o.indents = true) :
    w.deeper = w.settle (o :: scopes) := by
  rw [deeper, settle, fixedHead_of_not_setsHead (Opening.setsHead_eq_false_of_indents ho),
    levelOf_of_indents ho, ← h.lineHead, ← h.level]

/-- One level up the indenting scope is not open any more. -/
theorem shallower_eq (h : w.Reflects (o :: scopes)) (ho : o.indents = true) :
    w.shallower = w.settle scopes := by
  rw [shallower, settle, h.level, levelOf_of_indents ho, Nat.add_sub_cancel,
    ← fixedHead_of_not_setsHead (Opening.setsHead_eq_false_of_indents ho), ← h.lineHead]

/-- A scope that neither indents nor sets a head changes nothing. -/
theorem settle_cons_eq (h : w.Reflects scopes) (hhead : o.setsHead = false)
    (hindent : o.indents = false) : w.settle (o :: scopes) = w := by
  rw [settle, fixedHead_of_not_setsHead hhead, levelOf_of_plain hhead hindent, ← h.lineHead,
    ← h.level]

theorem settle_eq_of_cons (h : w.Reflects (o :: scopes)) (hhead : o.setsHead = false)
    (hindent : o.indents = false) : w.settle scopes = w := by
  rw [settle, ← fixedHead_of_not_setsHead hhead, ← levelOf_of_plain hhead hindent, ← h.lineHead,
    ← h.level]

end Reflects

/-- Opening a line head sets it, and the level goes back to zero. -/
theorem openLineHead_eq {w : Writer} {scopes : List Opening} (h : w.Reflects scopes) (text : String)
    (keepsIndent : Bool) :
    w.openLineHead text keepsIndent = (w.settle (.lineHead text keepsIndent :: scopes),
      .restore (fixedHead w.indentText scopes) (levelOf scopes)) := by
  rw [openLineHead, settle, fixedHead_of_setsHead rfl, levelOf_of_setsHead rfl, headOf,
    List.foldr_cons, h.lineHead_append_indentation, ← h.lineHead, ← h.level]
  cases keepsIndent with
  | true => rfl
  | false =>
    dsimp only [Opening.head]
    rw [if_neg Bool.false_ne_true, getD_dropBytes]
    rfl

section Usual

variable {w : Writer} {ending : LineEnding} (hnewline : w.newline = ending.text)
  {scopes : List Opening} {o : Opening}

include hnewline

/-- Opening a block writes its first line and indents. -/
theorem openBlock_eq (h : w.Reflects scopes) (ho : o.indents = true) (first last : String) :
    w.openBlock first last = ((w.print (linesMarks [first])).settle (o :: scopes), .close last) := by
  rw [openBlock, writeLine_eq_print hnewline, (h.print _).deeper_eq ho, linesMarks,
    List.flatMap_singleton]

/-- Opening a block after a line writes both lines and indents. -/
theorem openBlock_writeLine_eq (h : w.Reflects scopes) (ho : o.indents = true)
    (line first last : String) :
    (w.writeLine line).openBlock first last =
      ((w.print (linesMarks [line, first])).settle (o :: scopes), .close last) := by
  rw [openBlock, writeLine_writeLine_eq_print hnewline, (h.print _).deeper_eq ho]

/-- The modifiers of a class are written with a space after each. -/
theorem write_modifiers (modifiers : List String) :
    modifiers.foldl (fun w modifier ↦ (w.write modifier).write " ") w =
      w.write (String.join (modifiers.map (· ++ " "))) := by
  induction modifiers generalizing w with
  | nil => rfl
  | cons modifier rest ih =>
    have hafter : (w.write (modifier ++ " ")).newline = ending.text := by
      rw [write_eq_print hnewline, newline_print, hnewline]
    rw [List.foldl_cons, write_write hnewline, ih hafter, write_write hnewline, List.map_cons,
      String.join_cons]

/-- Opening a scope writes its first lines, and lines begin as they do inside it. -/
theorem enter_eq (h : w.Reflects scopes) (o : Opening) :
    w.enter o = ((w.print (linesMarks o.firstLines)).settle (o :: scopes),
      exitOf w.indentText o scopes) := by
  cases o with
  | indent =>
    rw [enter, h.deeper_eq (o := .indent) rfl]
    rfl
  | block trailer => exact openBlock_eq hnewline h rfl _ _
  | blockComment => exact openBlock_eq hnewline h rfl _ _
  | lineHead text keepsIndent => exact openLineHead_eq h text keepsIndent
  | closingLine text =>
    rw [Opening.firstLines, linesMarks, List.flatMap_nil, print_nil, h.settle_cons_eq rfl rfl]
    rfl
  | namespaceBlock name => exact openBlock_writeLine_eq hnewline h rfl _ _ _
  | classBlock name modifiers =>
    rw [enter, write_modifiers hnewline, write_write hnewline, writeLine_write hnewline]
    exact openBlock_writeLine_eq hnewline h rfl _ _ _
  | documentation => exact openLineHead_eq h "/// " true
  | summary =>
    rw [enter, writeLine_eq_print hnewline, (h.print _).settle_cons_eq rfl rfl, Opening.firstLines,
      linesMarks, List.flatMap_singleton]
    rfl

/-- Ending a scope with a line writes it. -/
theorem writeLine_eq_print_lastLines {text : String} (ho : o.lastLines = [text]) :
    w.writeLine text = w.print (linesMarks o.lastLines) := by
  rw [writeLine_eq_print hnewline, ho, linesMarks, List.flatMap_singleton]

/-- Ending the innermost scope writes its last lines where lines begin as around it. -/
theorem leave_eq (h : w.Reflects (o :: scopes)) :
    w.leave (exitOf w.indentText o scopes) = (w.settle scopes).print (linesMarks o.lastLines) := by
  have hsettled : (w.settle scopes).newline = ending.text := hnewline
  cases o with
  | indent => exact h.shallower_eq rfl
  | block | blockComment | namespaceBlock | classBlock =>
    rw [exitOf, leave, h.shallower_eq rfl]
    exact writeLine_eq_print_lastLines hsettled rfl
  | closingLine | summary =>
    rw [exitOf, leave, h.settle_eq_of_cons rfl rfl]
    exact writeLine_eq_print_lastLines hnewline rfl
  | lineHead | documentation => rfl

end Usual

end Writer

end HubRelay
