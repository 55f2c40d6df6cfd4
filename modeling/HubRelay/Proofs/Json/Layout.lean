import HubRelay.Json.Lexical
import HubRelay.Json.Value
import HubRelay.Proofs.Text.Classes

/-!
# Layouts of JSON

A value is written on one line or indented, and the two texts differ only in their blanks. A
`Layout` is one of these ways, and `Layout.text` the text that a value has in it. An array is a
bracket, its elements with a comma between any two of them, blanks, and a bracket
(`exists_text_array`), and an object is the same with fields in place of elements
(`exists_text_object`). So what is said of reading such texts is said once for all layouts.
-/

set_option autoImplicit false

namespace HubRelay.Json

/-- How a value is laid out: on one line, or over several lines from a depth on. -/
inductive Layout
  | oneLine
  | indented (depth : Nat)

namespace Layout

/-- The text of a value. -/
def text : Layout → Value → List Char
  | oneLine, v => v.compact.toList
  | indented depth, v => (v.pretty depth).toList

/-- The layout of what a value contains. -/
def deeper : Layout → Layout
  | oneLine => oneLine
  | indented depth => indented (depth + 1)

/-- What stands in front of each element and each field. -/
def gap : Layout → List Char
  | oneLine => []
  | indented depth => (Value.lineStart (depth + 1)).toList

/-- What stands between the colon of a field and its value. -/
def space : Layout → List Char
  | oneLine => []
  | indented _ => [' ']

/-- An element of an array. -/
def item (layout : Layout) (v : Value) : List Char := layout.gap ++ layout.deeper.text v

/-- A field of an object. -/
def field (layout : Layout) (entry : String × Value) : List Char :=
  layout.gap ++
    ((Value.quote entry.1).toList ++ ':' :: (layout.space ++ layout.deeper.text entry.2))

/-! ### Blanks -/

theorem isBlank_lineStart (depth : Nat) : (Value.lineStart depth).toList.all isBlank = true := by
  rw [Value.lineStart, String.toList_append, Text.toList_pushn, List.all_append]
  simp [isBlank]

theorem isBlank_gap (layout : Layout) : layout.gap.all isBlank = true := by
  cases layout with
  | oneLine => rfl
  | indented depth => exact isBlank_lineStart (depth + 1)

theorem isBlank_space (layout : Layout) : layout.space.all isBlank = true := by
  cases layout <;> rfl

end Layout

/-! ### Texts with commas -/

/-- Texts with a comma before each of them. Before the first one there is none if nothing precedes
it. -/
def separated (first : Bool) : List (List Char) → List Char
  | [] => []
  | text :: rest => (if first then text else ',' :: text) ++ separated false rest

/-- There are at least as many characters as texts, if none of them is empty. -/
theorem length_le_length_separated {texts : List (List Char)} (h : ∀ text ∈ texts, text ≠ [])
    (first : Bool) : texts.length ≤ (separated first texts).length := by
  induction texts generalizing first with
  | nil => exact Nat.le_refl 0
  | cons text rest ih =>
    obtain ⟨htext, hrest⟩ := List.forall_mem_cons.mp h
    have hpos := List.length_pos_iff.mpr htext
    have hmore := ih hrest false
    rw [separated, List.length_append, List.length_cons]
    cases first with
    | true =>
      rw [if_pos rfl]
      omega
    | false =>
      rw [if_neg Bool.false_ne_true, List.length_cons]
      omega

theorem toList_compactItems (items : List Value) :
    (Value.compactItems items).toList = separated false (items.map Layout.oneLine.item) := by
  induction items with
  | nil => rfl
  | cons v rest ih =>
    simp [Value.compactItems, separated, ih, Layout.item, Layout.gap, Layout.deeper, Layout.text]

theorem toList_compactFields (entries : List (String × Value)) :
    (Value.compactFields entries).toList = separated false (entries.map Layout.oneLine.field) := by
  induction entries with
  | nil => rfl
  | cons entry rest ih =>
    obtain ⟨name, v⟩ := entry
    simp [Value.compactFields, separated, ih, Layout.field, Layout.gap, Layout.space,
      Layout.deeper, Layout.text]

theorem toList_prettyItems (depth : Nat) (items : List Value) :
    (Value.prettyItems (depth + 1) items).toList =
      separated false (items.map (Layout.indented depth).item) := by
  induction items with
  | nil => rfl
  | cons v rest ih =>
    simp [Value.prettyItems, separated, ih, Layout.item, Layout.gap, Layout.deeper, Layout.text]

theorem toList_prettyFields (depth : Nat) (entries : List (String × Value)) :
    (Value.prettyFields (depth + 1) entries).toList =
      separated false (entries.map (Layout.indented depth).field) := by
  induction entries with
  | nil => rfl
  | cons entry rest ih =>
    obtain ⟨name, v⟩ := entry
    simp [Value.prettyFields, separated, ih, Layout.field, Layout.gap, Layout.space,
      Layout.deeper, Layout.text]

theorem toList_quote (s : String) :
    (Value.quote s).toList = '"' :: (s.toList.flatMap Value.escapeChar ++ ['"']) := by
  rw [Value.quote, String.toList_ofList]
  rfl

namespace Layout

/-! ### Texts of values -/

theorem text_null (layout : Layout) : layout.text .null = "null".toList := by
  cases layout with
  | oneLine => rw [text, Value.compact]
  | indented depth => rw [text, Value.pretty]

theorem text_boolean (layout : Layout) (value : Bool) :
    layout.text (.boolean value) = (toString value).toList := by
  cases layout with
  | oneLine => rw [text, Value.compact]
  | indented depth => rw [text, Value.pretty]

theorem text_string (layout : Layout) (s : String) :
    layout.text (.string s) = '"' :: (s.toList.flatMap Value.escapeChar ++ ['"']) := by
  cases layout with
  | oneLine => rw [text, Value.compact, toList_quote]
  | indented depth => rw [text, Value.pretty, toList_quote]

/-- An array is written as its elements between brackets. -/
theorem exists_text_array (layout : Layout) (items : List Value) :
    ∃ closing : List Char, closing.all isBlank = true ∧
      layout.text (.array items) =
        '[' :: (separated true (items.map layout.item) ++ (closing ++ [']'])) := by
  cases layout with
  | oneLine =>
    refine ⟨[], rfl, ?_⟩
    cases items with
    | nil => rfl
    | cons v rest =>
      simp [text, Value.compact, toList_compactItems, separated, item, gap, deeper]
  | indented depth =>
    cases items with
    | nil =>
      refine ⟨[], rfl, ?_⟩
      rw [text, Value.pretty]
      rfl
    | cons v rest =>
      refine ⟨_, isBlank_lineStart depth, ?_⟩
      simp [text, Value.pretty, toList_prettyItems, separated, item, gap, deeper]

/-- An object is written as its fields between braces. -/
theorem exists_text_object (layout : Layout) (entries : List (String × Value)) :
    ∃ closing : List Char, closing.all isBlank = true ∧
      layout.text (.object entries) =
        '\x7b' :: (separated true (entries.map layout.field) ++ (closing ++ ['\x7d'])) := by
  cases layout with
  | oneLine =>
    refine ⟨[], rfl, ?_⟩
    cases entries with
    | nil => rfl
    | cons entry rest =>
      obtain ⟨name, v⟩ := entry
      simp [text, Value.compact, toList_compactFields, separated, field, gap, space, deeper]
  | indented depth =>
    cases entries with
    | nil =>
      refine ⟨[], rfl, ?_⟩
      rw [text, Value.pretty]
      rfl
    | cons entry rest =>
      obtain ⟨name, v⟩ := entry
      refine ⟨_, isBlank_lineStart depth, ?_⟩
      simp [text, Value.pretty, toList_prettyFields, separated, field, gap, space, deeper]

/-- A value begins with a character that is no blank and ends no array. -/
theorem exists_text_eq_cons (layout : Layout) (v : Value) :
    ∃ c rest, layout.text v = c :: rest ∧ isBlank c = false ∧ c ≠ ']' := by
  cases v with
  | null => exact ⟨'n', _, text_null layout, by decide⟩
  | boolean value =>
    cases value with
    | false => exact ⟨'f', _, text_boolean layout false, by decide⟩
    | true => exact ⟨'t', _, text_boolean layout true, by decide⟩
  | string s => exact ⟨'"', _, text_string layout s, by decide⟩
  | array items =>
    obtain ⟨closing, -, htext⟩ := exists_text_array layout items
    exact ⟨'[', _, htext, by decide⟩
  | object entries =>
    obtain ⟨closing, -, htext⟩ := exists_text_object layout entries
    exact ⟨'\x7b', _, htext, by decide⟩

theorem item_ne_nil (layout : Layout) (v : Value) : layout.item v ≠ [] := by
  obtain ⟨c, more, htext, -⟩ := exists_text_eq_cons layout.deeper v
  rw [item, htext]
  exact List.append_ne_nil_of_right_ne_nil _ (List.cons_ne_nil _ _)

theorem field_ne_nil (layout : Layout) (entry : String × Value) : layout.field entry ≠ [] := by
  refine List.append_ne_nil_of_right_ne_nil _ (List.append_ne_nil_of_right_ne_nil _ ?_)
  exact List.cons_ne_nil _ _

end Layout

end HubRelay.Json
