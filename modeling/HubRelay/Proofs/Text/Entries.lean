import HubRelay.Proofs.Text.Starts
import Mathlib.Data.List.TakeWhile

/-!
# Entries in parentheses

A declaration and a call end with a list of entries in parentheses. A reader takes what stands in the last
parentheses of a line (`enclosed`) and cuts it at the commas (`cut`), but not at those that stand in
brackets, which part the arguments or the dimensions of a type.

Texts can be read this way when they are entries: they have no parenthesis in them, and no comma outside
brackets that are closed again (`IsEntry`). So the entries that a line was put together from are read back
(`entries_eq`), as is the text in front of the parentheses (`inFront_eq`), and a declared entry is a type
and a name, parted at the last space (`declaration_eq`).
-/

set_option autoImplicit false

namespace HubRelay.Text

/-! ### Cutting at commas -/

/-- Puts a text in front of the first piece. -/
def prepend (front : List Char) : List (List Char) → List (List Char)
  | [] => [front]
  | first :: rest => (front ++ first) :: rest

/-- How many brackets are open after a character, if `depth` are before it. -/
def depthAfter (depth : Nat) (c : Char) : Nat :=
  if c = '<' ∨ c = '[' then depth + 1 else if c = '>' ∨ c = ']' then depth - 1 else depth

/-- The pieces of a text between the commas that stand outside brackets. Before the text `depth` brackets
are open. -/
def cut (depth : Nat) : List Char → List (List Char)
  | [] => [[]]
  | c :: rest =>
    if c = ',' ∧ depth = 0 then [] :: cut 0 rest else prepend [c] (cut (depthAfter depth c) rest)

theorem prepend_prepend (front next : List Char) (pieces : List (List Char)) :
    prepend front (prepend next pieces) = prepend (front ++ next) pieces := by
  cases pieces with
  | nil => rfl
  | cons first rest =>
    rw [prepend, prepend, prepend, List.append_assoc]

/-- There is always a piece, though it may be empty. -/
theorem prepend_nil_cut (depth : Nat) (text : List Char) :
    prepend [] (cut depth text) = cut depth text := by
  cases hpieces : cut depth text with
  | nil =>
    cases text with
    | nil => cases hpieces
    | cons c rest =>
      rw [cut] at hpieces
      split at hpieces
      · cases hpieces
      · cases hrest : cut (depthAfter depth c) rest <;> rw [hrest] at hpieces <;> cases hpieces
  | cons first rest => rfl

/-- At this depth the text is passed over: it is not cut, and the depth is the same behind it. -/
def IsPassed (depth : Nat) (text : List Char) : Prop :=
  ∀ rest, cut depth (text ++ rest) = prepend text (cut depth rest)

namespace IsPassed

variable {depth : Nat} {text more : List Char}

theorem nil (depth : Nat) : IsPassed depth [] := fun rest ↦ (prepend_nil_cut depth rest).symm

theorem append (h : IsPassed depth text) (hmore : IsPassed depth more) : IsPassed depth (text ++ more) := by
  intro rest
  rw [List.append_assoc, h, hmore, prepend_prepend]

/-- A character that is neither a comma nor a bracket is passed over. -/
theorem char {c : Char} (h : c ∉ [',', '<', '[', '>', ']']) (depth : Nat) : IsPassed depth [c] := by
  simp only [List.mem_cons, List.not_mem_nil, or_false, not_or] at h
  obtain ⟨hcomma, hless, hleft, hgreater, hright⟩ := h
  intro rest
  rw [List.singleton_append, cut, if_neg fun hboth ↦ hcomma hboth.1, depthAfter,
    if_neg (not_or.mpr ⟨hless, hleft⟩), if_neg (not_or.mpr ⟨hgreater, hright⟩)]

/-- So is a text of such characters. -/
theorem of_forall (h : ∀ c ∈ text, c ∉ [',', '<', '[', '>', ']']) (depth : Nat) : IsPassed depth text := by
  induction text with
  | nil => exact nil depth
  | cons c rest ih =>
    obtain ⟨hc, hrest⟩ := List.forall_mem_cons.mp h
    exact (char hc depth).append (ih hrest)

/-- Inside brackets a comma is passed over. -/
theorem comma (depth : Nat) : IsPassed (depth + 1) [','] := by
  intro rest
  rw [List.singleton_append, cut, if_neg fun hboth ↦ Nat.succ_ne_zero depth hboth.2]
  rfl

/-- A text is passed over in brackets when it is one level deeper. -/
theorem bracketed {opening closing : Char} (hopening : opening = '<' ∨ opening = '[')
    (hclosing : closing = '>' ∨ closing = ']') (h : IsPassed (depth + 1) text) :
    IsPassed depth (opening :: (text ++ [closing])) := by
  have hopens : opening ≠ ',' ∧ depthAfter depth opening = depth + 1 := by
    refine ⟨?_, if_pos hopening⟩
    rcases hopening with rfl | rfl <;> decide
  have hcloses : closing ≠ ',' ∧ depthAfter (depth + 1) closing = depth := by
    rcases hclosing with rfl | rfl <;> exact ⟨by decide, rfl⟩
  intro rest
  rw [List.cons_append, cut, if_neg fun hboth ↦ hopens.1 hboth.1, hopens.2, List.append_assoc, h,
    List.singleton_append, cut, if_neg fun hboth ↦ hcloses.1 hboth.1, hcloses.2, prepend_prepend,
    prepend_prepend]
  rfl

end IsPassed

/-! ### Reading entries -/

/-- What stands in the last parentheses of a line. -/
def enclosed (line : String) : List Char :=
  (line.toList.reverse.takeWhile (· != '(')).reverse.takeWhile (· != ')')

/-- What stands in front of the last parentheses of a line. -/
def inFront (line : String) : String :=
  String.ofList (line.toList.reverse.dropWhile (· != '(')).tail.reverse

/-- The entries in the last parentheses of a line. -/
def entries (line : String) : List String :=
  if enclosed line = [] then []
  else (cut 0 (enclosed line)).map fun piece ↦ String.ofList (piece.dropWhile (· == ' '))

/-- The type and the name in an entry. -/
def declaration (entry : String) : String × String :=
  let name := (entry.toList.reverse.takeWhile (· != ' ')).reverse
  (String.ofList (entry.toList.take (entry.toList.length - name.length - 1)), String.ofList name)

/-- A text that can be read as one entry. -/
structure IsEntry (text : String) : Prop where
  passed : IsPassed 0 text.toList
  notMem : '(' ∉ text.toList ∧ ')' ∉ text.toList
  head : ∃ c rest, text.toList = c :: rest ∧ c ≠ ' '

/-- Up to a character that it does not have in it, all of a text is taken. -/
theorem takeWhile_bne_append {mark : Char} {text : List Char} (h : mark ∉ text) (rest : List Char) :
    (text ++ mark :: rest).takeWhile (· != mark) = text := by
  have hall : ∀ c ∈ text, (c != mark) = true := by
    intro c hc
    rw [bne_iff_ne]
    rintro rfl
    exact h hc
  rw [List.takeWhile_append_of_pos hall, List.takeWhile_cons_of_neg (by simp), List.append_nil]

/-- The last parentheses of a line are those that no other parenthesis opens behind. -/
theorem enclosed_and_inFront_eq (front : String) {inside closing : String} {back : List Char}
    (hinside : '(' ∉ inside.toList ∧ ')' ∉ inside.toList) (hclosing : closing.toList = ')' :: back)
    (hback : '(' ∉ back) : enclosed (front ++ "(" ++ inside ++ closing) = inside.toList ∧
      inFront (front ++ "(" ++ inside ++ closing) = front := by
  have hline : (front ++ "(" ++ inside ++ closing).toList.reverse =
      (inside.toList ++ ')' :: back).reverse ++ '(' :: front.toList.reverse := by
    simp [hclosing]
  have hnone : '(' ∉ (inside.toList ++ ')' :: back).reverse := by
    rw [List.mem_reverse, List.mem_append, List.mem_cons, not_or, not_or]
    exact ⟨hinside.1, by decide, hback⟩
  have htake := takeWhile_bne_append hnone front.toList.reverse
  have hdrop := List.takeWhile_append_dropWhile (p := (· != '('))
    (l := (inside.toList ++ ')' :: back).reverse ++ '(' :: front.toList.reverse)
  rw [htake, List.append_cancel_left_eq] at hdrop
  constructor
  · rw [enclosed, hline, htake, List.reverse_reverse, takeWhile_bne_append hinside.2]
  · rw [inFront, hline, hdrop, List.tail_cons, List.reverse_reverse, String.ofList_toList]

/-- Entries with a comma and a space between them are cut apart. -/
theorem cut_intercalate {first : String} {rest : List String} (hfirst : IsEntry first)
    (hrest : ∀ entry ∈ rest, IsEntry entry) :
    cut 0 (", ".intercalate (first :: rest)).toList =
      first.toList :: rest.map fun entry ↦ ' ' :: entry.toList := by
  induction rest generalizing first with
  | nil =>
    have hpassed := hfirst.passed []
    rw [List.append_nil, cut, prepend, List.append_nil] at hpassed
    rw [String.intercalate_singleton, hpassed, List.map_nil]
  | cons next more ih =>
    obtain ⟨hnext, hmore⟩ := List.forall_mem_cons.mp hrest
    have hspace : IsPassed 0 [' '] := .char (by decide) 0
    have hblank (text : List Char) : cut 0 (' ' :: text) = prepend [' '] (cut 0 text) := hspace text
    have hlist : (", ".intercalate (first :: next :: more)).toList =
        first.toList ++ ',' :: ' ' :: (", ".intercalate (next :: more)).toList := by
      rw [String.intercalate_cons_cons, String.toList_append, String.toList_append, List.append_assoc]
      rfl
    rw [hlist, hfirst.passed, cut, if_pos ⟨rfl, rfl⟩, hblank, ih hnext hmore, prepend, prepend,
      List.append_nil, List.map_cons]
    rfl

/-- Entries with commas between them have no parenthesis. -/
theorem notMem_intercalate {list : List String} (h : ∀ entry ∈ list, IsEntry entry) :
    '(' ∉ (", ".intercalate list).toList ∧ ')' ∉ (", ".intercalate list).toList := by
  induction list with
  | nil => exact ⟨List.not_mem_nil, List.not_mem_nil⟩
  | cons first rest ih =>
    obtain ⟨hfirst, hrest⟩ := List.forall_mem_cons.mp h
    cases rest with
    | nil =>
      rw [String.intercalate_singleton]
      exact hfirst.notMem
    | cons next more =>
      obtain ⟨hopening, hclosing⟩ := ih hrest
      have hgap : '(' ∉ ", ".toList ∧ ')' ∉ ", ".toList := by decide
      simp only [String.intercalate_cons_cons, String.toList_append, List.mem_append, not_or]
      exact ⟨⟨⟨hfirst.notMem.1, hgap.1⟩, hopening⟩, ⟨hfirst.notMem.2, hgap.2⟩, hclosing⟩

/-- An entry begins with no space. -/
theorem IsEntry.dropWhile_eq {entry : String} (h : IsEntry entry) :
    entry.toList.dropWhile (· == ' ') = entry.toList := by
  obtain ⟨c, more, hlist, hc⟩ := h.head
  rw [hlist, List.dropWhile_cons_of_neg (by simpa using hc)]

/-- The entries in the last parentheses of a line are read back. -/
theorem entries_eq (front : String) {list : List String} (h : ∀ entry ∈ list, IsEntry entry)
    {closing : String} {back : List Char} (hclosing : closing.toList = ')' :: back)
    (hback : '(' ∉ back) : entries (front ++ "(" ++ ", ".intercalate list ++ closing) = list := by
  rw [entries, (enclosed_and_inFront_eq front (notMem_intercalate h) hclosing hback).1]
  cases list with
  | nil => rfl
  | cons first rest =>
    obtain ⟨hfirst, hrest⟩ := List.forall_mem_cons.mp h
    have hcut := cut_intercalate hfirst hrest
    have hne : (", ".intercalate (first :: rest)).toList ≠ [] := by
      intro hnil
      obtain ⟨c, more, hlist, -⟩ := hfirst.head
      rw [hnil, hlist] at hcut
      cases hcut
    have hmore : ∀ entry ∈ rest, ((fun piece ↦ String.ofList (piece.dropWhile (· == ' '))) ∘
        fun entry ↦ ' ' :: entry.toList) entry = id entry := by
      intro entry hentry
      rw [Function.comp_apply, List.dropWhile_cons_of_pos (by decide), (hrest entry hentry).dropWhile_eq,
        String.ofList_toList, id]
    rw [if_neg hne, hcut, List.map_cons, hfirst.dropWhile_eq, String.ofList_toList, List.map_map,
      List.map_congr_left hmore, List.map_id]

/-- What stands in front of the entries is read back. -/
theorem inFront_eq (front : String) {list : List String} (h : ∀ entry ∈ list, IsEntry entry)
    {closing : String} {back : List Char} (hclosing : closing.toList = ')' :: back)
    (hback : '(' ∉ back) : inFront (front ++ "(" ++ ", ".intercalate list ++ closing) = front :=
  (enclosed_and_inFront_eq front (notMem_intercalate h) hclosing hback).2

/-- A type with a name behind it is read back if the name has no space in it. -/
theorem declaration_eq (type : String) {name : String} (h : ' ' ∉ name.toList) :
    declaration (type ++ " " ++ name) = (type, name) := by
  have hentry : (type ++ " " ++ name).toList = type.toList ++ ' ' :: name.toList := by simp
  have hreverse : (type.toList ++ ' ' :: name.toList).reverse =
      name.toList.reverse ++ ' ' :: type.toList.reverse := by simp
  have hname : ' ' ∉ name.toList.reverse := fun hmem ↦ h (List.mem_reverse.mp hmem)
  have hlength : (type.toList ++ ' ' :: name.toList).length - name.toList.length - 1 =
      type.toList.length := by
    rw [List.length_append, List.length_cons]
    omega
  unfold declaration
  dsimp only
  rw [hentry, hreverse, takeWhile_bne_append hname, List.reverse_reverse, hlength,
    List.take_left, String.ofList_toList, String.ofList_toList]

end HubRelay.Text
