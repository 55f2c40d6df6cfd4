import HubRelay.Settings.Basic
import HubRelay.Text.Pieces

/-!
# The lines of a text

`lines` takes a text apart where lines end, at a line feed with or without a carriage return before
it. A text in which no line ends is on one line (`IsOneLine`). When texts on one line are put
together, each with the same terminator after it, they are the lines of the whole
(`lines_join_append`), so two writers that agree on the lines and on the terminator agree on the
text.
-/

set_option autoImplicit false

namespace HubRelay.Text

/-! ### Pieces -/

/-- The pieces of two texts with a separator between them. -/
theorem pieces_append_separator_cons (separator : Char) (before after : List Char) :
    pieces separator (before ++ separator :: after) =
      pieces separator before ++ pieces separator after := by
  induction before with
  | nil =>
    show pieces separator (separator :: after) = [] :: pieces separator after
    rw [pieces, if_pos rfl]
  | cons c rest ih =>
    obtain ⟨piece, more, hrest⟩ := List.exists_cons_of_ne_nil (pieces_ne_nil separator rest)
    rw [List.cons_append, pieces, pieces, ih, hrest, List.cons_append]
    split <;> rfl

/-- A text without separators is one piece. -/
theorem pieces_eq_singleton {separator : Char} {piece : List Char} (h : separator ∉ piece) :
    pieces separator piece = [piece] := by
  induction piece with
  | nil => rfl
  | cons c more ih =>
    rw [List.mem_cons, not_or] at h
    obtain ⟨hc, hmore⟩ := h
    rw [pieces, if_neg (Ne.symm hc), ih hmore]

/-- A piece is complete where the next separator stands. -/
theorem pieces_append_cons {separator : Char} {piece : List Char} (h : separator ∉ piece)
    (rest : List Char) :
    pieces separator (piece ++ separator :: rest) = piece :: pieces separator rest := by
  rw [pieces_append_separator_cons, pieces_eq_singleton h, List.singleton_append]

/-- Pieces followed by further pieces, with the separator between any two. -/
theorem intercalate_append_cons {α : Type} (separator first : List α) {before : List (List α)}
    (hbefore : before ≠ []) (after : List (List α)) :
    separator.intercalate (before ++ first :: after) =
      separator.intercalate before ++ (separator ++ separator.intercalate (first :: after)) := by
  induction before with
  | nil => exact absurd rfl hbefore
  | cons piece more ih =>
    cases more with
    | nil =>
      rw [List.singleton_append, List.intercalate_cons_cons, List.intercalate_singleton,
        List.append_assoc]
    | cons next others =>
      rw [List.cons_append, List.cons_append, List.intercalate_cons_cons,
        List.intercalate_cons_cons, ← List.cons_append, ih (List.cons_ne_nil _ _)]
      simp only [List.append_assoc]

/-! ### Texts on one line -/

/-- No line ends in the text. -/
def IsOneLine (text : String) : Prop := '\n' ∉ text.toList ∧ '\r' ∉ text.toList

instance (text : String) : Decidable (IsOneLine text) :=
  inferInstanceAs (Decidable ('\n' ∉ text.toList ∧ '\r' ∉ text.toList))

@[simp] theorem isOneLine_empty : IsOneLine "" := by decide

@[simp] theorem isOneLine_append {first second : String} :
    IsOneLine (first ++ second) ↔ IsOneLine first ∧ IsOneLine second := by
  simp only [IsOneLine, String.toList_append, List.mem_append, not_or]
  exact and_and_and_comm

/-- A text that is spelled out is on one line if none of its characters ends a line. It need not be taken
apart to see this. -/
theorem IsOneLine.literal {text : String} {cs : List Char} (htext : text = String.ofList cs)
    (hcs : cs.all (fun c ↦ c != '\n' && c != '\r') = true) : IsOneLine text := by
  subst htext
  rw [IsOneLine, String.toList_ofList]
  exact ⟨fun h ↦ absurd (List.all_eq_true.mp hcs _ h) (by decide),
    fun h ↦ absurd (List.all_eq_true.mp hcs _ h) (by decide)⟩

/-- The text of a number is made of digits. -/
theorem isDigit_of_mem_toString {count : Nat} {c : Char} (h : c ∈ (toString count).toList) :
    c.isDigit = true := by
  have hmem : c ∈ Nat.toDigits 10 count := by
    rwa [← String.toList_ofList (l := Nat.toDigits 10 count)]
  exact Nat.isDigit_of_mem_toDigits (by decide) (by decide) hmem

/-- A text made of characters of a text on one line is on one line. -/
theorem IsOneLine.ofList {text : String} (h : IsOneLine text) {cs : List Char}
    (hcs : cs ⊆ text.toList) : IsOneLine (String.ofList cs) := by
  rw [IsOneLine, String.toList_ofList]
  exact ⟨fun hmem ↦ h.1 (hcs hmem), fun hmem ↦ h.2 (hcs hmem)⟩

/-- Texts on one line put together are on one line. -/
theorem isOneLine_join {texts : List String} (h : ∀ text ∈ texts, IsOneLine text) :
    IsOneLine (String.join texts) := by
  induction texts with
  | nil => exact isOneLine_empty
  | cons first rest ih =>
    obtain ⟨hfirst, hrest⟩ := List.forall_mem_cons.mp h
    rw [String.join_cons]
    exact isOneLine_append.mpr ⟨hfirst, ih hrest⟩

/-! ### Lines -/

/-- A line without the carriage return that stands before its line feed. -/
def withoutReturn (line : List Char) : List Char :=
  if line.getLast? = some '\r' then line.dropLast else line

/-- The lines in the pieces between line feeds. After the last line feed there is one more line if
anything stands there. -/
def linesOfPieces : List (List Char) → List String
  | [] => []
  | [last] => if last = [] then [] else [String.ofList last]
  | line :: next :: more => String.ofList (withoutReturn line) :: linesOfPieces (next :: more)

/-- The lines of a text. -/
def lines (text : String) : List String := linesOfPieces (pieces '\n' text.toList)

/-- The terminator of a line is taken off again. -/
theorem lines_append_terminator {line : String} (hline : IsOneLine line) (newline : LineEnding)
    (rest : String) : lines (line ++ newline.text ++ rest) = line :: lines rest := by
  obtain ⟨next, more, hrest⟩ := List.exists_cons_of_ne_nil (pieces_ne_nil '\n' rest.toList)
  cases newline with
  | lf =>
    have htext : (line ++ LineEnding.lf.text ++ rest).toList =
        line.toList ++ '\n' :: rest.toList := by simp [LineEnding.text]
    have hreturn : withoutReturn line.toList = line.toList :=
      if_neg fun h ↦ hline.2 (List.mem_of_getLast? h)
    rw [lines, htext, pieces_append_cons hline.1, hrest, linesOfPieces, hreturn,
      String.ofList_toList, lines, hrest]
  | crlf =>
    have htext : (line ++ LineEnding.crlf.text ++ rest).toList =
        (line.toList ++ ['\r']) ++ '\n' :: rest.toList := by simp [LineEnding.text]
    have hfeed : '\n' ∉ line.toList ++ ['\r'] := by
      rw [List.mem_append, not_or]
      exact ⟨hline.1, by decide⟩
    have hreturn : withoutReturn (line.toList ++ ['\r']) = line.toList := by
      rw [withoutReturn, if_pos List.getLast?_concat, List.dropLast_concat]
    rw [lines, htext, pieces_append_cons hfeed, hrest, linesOfPieces, hreturn,
      String.ofList_toList, lines, hrest]

/-- What stands after the last line feed is a line of its own, unless it is nothing. -/
theorem lines_of_isOneLine {text : String} (h : IsOneLine text) :
    lines text = if text = "" then [] else [text] := by
  rw [lines, pieces_eq_singleton h.1, linesOfPieces, String.ofList_toList]
  simp only [String.toList_eq_nil_iff]

/-- Texts on one line, each with the terminator after it, and a last one without it are the lines of
the whole. -/
theorem lines_join_append {texts : List String} (htexts : ∀ text ∈ texts, IsOneLine text)
    {last : String} (hlast : IsOneLine last) (newline : LineEnding) :
    lines (String.join (texts.map (· ++ newline.text)) ++ last) =
      texts ++ if last = "" then [] else [last] := by
  induction texts with
  | nil => exact (congrArg lines String.empty_append).trans (lines_of_isOneLine hlast)
  | cons first rest ih =>
    obtain ⟨hfirst, hrest⟩ := List.forall_mem_cons.mp htexts
    rw [List.map_cons, String.join_cons, String.append_assoc, lines_append_terminator hfirst,
      ih hrest, List.cons_append]

/-! ### After some lines -/

/-- What is left of characters after the first lines that end among them. -/
def afterFeeds : Nat → List Char → List Char
  | 0, cs => cs
  | _ + 1, [] => []
  | count + 1, c :: rest =>
    if c = '\n' then afterFeeds count rest else afterFeeds (count + 1) rest

/-- What is left of a text after its first lines. -/
def afterLines (count : Nat) (text : String) : String :=
  String.ofList (afterFeeds count text.toList)

/-- Up to its line feed a line is passed over. -/
theorem afterFeeds_append_cons {line : List Char} (h : '\n' ∉ line) (count : Nat)
    (rest : List Char) : afterFeeds (count + 1) (line ++ '\n' :: rest) = afterFeeds count rest := by
  induction line with
  | nil => rw [List.nil_append, afterFeeds, if_pos rfl]
  | cons c more ih =>
    rw [List.mem_cons, not_or] at h
    obtain ⟨hc, hmore⟩ := h
    rw [List.cons_append, afterFeeds, if_neg (Ne.symm hc), ih hmore]

/-- A line is passed over with its terminator. -/
theorem afterLines_append_terminator {line : String} (hline : IsOneLine line) (newline : LineEnding)
    (count : Nat) (rest : String) :
    afterLines (count + 1) (line ++ newline.text ++ rest) = afterLines count rest := by
  obtain ⟨before, hbefore, htext⟩ : ∃ before, '\n' ∉ before ∧
      (line ++ newline.text ++ rest).toList = before ++ '\n' :: rest.toList := by
    cases newline with
    | lf => exact ⟨line.toList, hline.1, by simp [LineEnding.text]⟩
    | crlf =>
      refine ⟨line.toList ++ ['\r'], ?_, by simp [LineEnding.text]⟩
      rw [List.mem_append, not_or]
      exact ⟨hline.1, by decide⟩
  rw [afterLines, htext, afterFeeds_append_cons hbefore, afterLines]

theorem afterLines_zero (text : String) : afterLines 0 text = text := by
  rw [afterLines, afterFeeds, String.ofList_toList]

end HubRelay.Text
