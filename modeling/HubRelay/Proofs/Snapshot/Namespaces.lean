import HubRelay.Proofs.Snapshot.Lookup
import HubRelay.Proofs.Text.Lines
import HubRelay.Proofs.TypeExpr.Completeness

/-!
# Namespaces around a namespace

A namespace encloses another if it is the other up to one of its dots, or the other itself
(`Model.Encloses`). `enclosing` lists the namespaces that enclose one (`Model.mem_enclosing_iff`),
from the inside out, so each is longer than those after it (`Model.pairwise_length_enclosing`).

No namespace that can be read begins with a dot. So in an accepted snapshot a namespace is not
enclosed by the empty one unless it is empty itself, and the list of a declaration has just the
enclosing namespaces that are not empty (`Model.mem_enclosing_iff_of_mem`).
-/

set_option autoImplicit false

namespace HubRelay.Model

/-! ### The parts of a namespace -/

/-- A namespace encloses another if it is the other, or the other up to a dot in it. -/
def Encloses (outer container : String) : Prop :=
  container = outer ∨ ∃ rest, container = outer ++ "." ++ rest

/-- A namespace up to one of its dots: its first parts. -/
def firstParts (container : String) (count : Nat) : String :=
  ".".intercalate (((Text.pieces '.' container.toList).map String.ofList).take count)

/-- The first parts as a list of characters. -/
theorem toList_firstParts (container : String) (count : Nat) :
    (firstParts container count).toList =
      ['.'].intercalate ((Text.pieces '.' container.toList).take count) := by
  have hid : String.toList ∘ String.ofList = id := funext fun cs ↦ String.toList_ofList
  rw [firstParts, String.toList_intercalate, ← List.map_take, List.map_map, hid, List.map_id]
  rfl

/-- All parts of a namespace are the namespace. -/
theorem firstParts_length (container : String) :
    firstParts container (Text.pieces '.' container.toList).length = container := by
  rw [← String.toList_inj, toList_firstParts, List.take_length, Text.intercalate_pieces]

/-- A text up to a dot and after it, as a list of characters. -/
theorem toList_append_dot (outer rest : String) :
    (outer ++ "." ++ rest).toList = outer.toList ++ '.' :: rest.toList := by
  rw [String.toList_append, String.toList_append, List.append_assoc]
  rfl

/-- Fewer parts are the others up to a dot. -/
theorem exists_firstParts_eq {container : String} {few many : Nat} (hpos : 0 < few)
    (hlt : few < many) (hmany : many ≤ (Text.pieces '.' container.toList).length) :
    ∃ rest, firstParts container many = firstParts container few ++ "." ++ rest := by
  set parts := Text.pieces '.' container.toList with hparts
  have hfew : parts.take few ≠ [] := by
    rw [Ne, List.take_eq_nil_iff, not_or]
    exact ⟨hpos.ne', Text.pieces_ne_nil '.' _⟩
  have hbetween : (parts.drop few).take (many - few) ≠ [] := by
    rw [← List.length_pos_iff, List.length_take, List.length_drop]
    omega
  obtain ⟨next, others, hnext⟩ := List.exists_cons_of_ne_nil hbetween
  have hsplit : parts.take many = parts.take few ++ next :: others := by
    rw [← hnext, ← List.take_add]
    congr 1
    omega
  refine ⟨String.ofList (['.'].intercalate (next :: others)), ?_⟩
  rw [← String.toList_inj, toList_append_dot, toList_firstParts, toList_firstParts, ← hparts,
    hsplit, Text.intercalate_append_cons _ _ hfew, String.toList_ofList, List.singleton_append]

/-- The text in front of a dot of a namespace is its first parts. -/
theorem firstParts_append (outer rest : String) :
    firstParts (outer ++ "." ++ rest) (Text.pieces '.' outer.toList).length = outer := by
  rw [← String.toList_inj, toList_firstParts, toList_append_dot, Text.pieces_append_separator_cons,
    List.take_left, Text.intercalate_pieces]

/-- The first parts of a namespace are listed, from all of them to the first alone. -/
theorem enclosing_eq {container : String} (h : container ≠ "") :
    enclosing container = (List.range (Text.pieces '.' container.toList).length).reverse.map
      fun count ↦ firstParts container (count + 1) := by
  have hempty : container.isEmpty = false := by simpa using h
  rw [enclosing, hempty]
  simp only [Bool.false_eq_true, if_false, List.length_map]
  rfl

/-- The namespaces that are listed around one are those that enclose it. -/
theorem mem_enclosing_iff {outer container : String} :
    outer ∈ enclosing container ↔ container ≠ "" ∧ Encloses outer container := by
  by_cases hempty : container = ""
  · simp [hempty, enclosing]
  have hparts := List.length_pos_iff.mpr (Text.pieces_ne_nil '.' container.toList)
  simp only [enclosing_eq hempty, List.mem_map, List.mem_reverse, List.mem_range, ne_eq, hempty,
    not_false_eq_true, true_and]
  constructor
  · rintro ⟨count, hcount, rfl⟩
    rcases Nat.lt_or_eq_of_le (Nat.succ_le_of_lt hcount) with hlt | heq
    · obtain ⟨rest, hrest⟩ := exists_firstParts_eq (Nat.succ_pos count) hlt le_rfl
      rw [firstParts_length] at hrest
      exact .inr ⟨rest, hrest⟩
    · exact .inl (by rw [← Nat.succ_eq_add_one, heq, firstParts_length])
  · rintro (rfl | ⟨rest, rfl⟩)
    · refine ⟨_, Nat.sub_lt hparts Nat.one_pos, ?_⟩
      rw [Nat.sub_add_cancel hparts, firstParts_length]
    · have houter := List.length_pos_iff.mpr (Text.pieces_ne_nil '.' outer.toList)
      refine ⟨(Text.pieces '.' outer.toList).length - 1, ?_, ?_⟩
      · rw [toList_append_dot, Text.pieces_append_separator_cons, List.length_append]
        omega
      · rw [Nat.sub_add_cancel houter, firstParts_append]

/-- The enclosing namespaces are listed from the inside out, each longer than those after it. -/
theorem pairwise_length_enclosing (container : String) :
    (enclosing container).Pairwise fun inner outer ↦ outer.length < inner.length := by
  by_cases hempty : container = ""
  · simp [hempty, enclosing]
  rw [enclosing_eq hempty, List.pairwise_map, List.pairwise_reverse]
  refine List.pairwise_lt_range.imp_of_mem fun {few many} _ hmany hlt ↦ ?_
  have hpos : 0 < few + 1 := few.succ_pos
  obtain ⟨rest, hrest⟩ := exists_firstParts_eq hpos (Nat.add_lt_add_right hlt 1)
    (Nat.succ_le_of_lt (List.mem_range.mp hmany))
  have hdot : ".".length = 1 := rfl
  rw [hrest, String.length_append, String.length_append, hdot]
  omega

/-! ### Namespaces of declarations -/

/-- A namespace that can be read does not begin with a dot. -/
theorem parse_dot_ne_ok (rest : String) (t : TypeExpr) : TypeExpr.parse ("." ++ rest) ≠ .ok t := by
  intro hparse
  obtain ⟨-, htokens⟩ := TypeExpr.parse_sound hparse
  obtain ⟨word, more, hword⟩ := TypeExpr.exists_tokens_eq_cons t
  have htext : ("." ++ rest).toList = '.' :: rest.toList := by
    rw [String.toList_append]
    rfl
  have hmark : '.' ∈ TypeExpr.punctuation := by decide
  have hscan := TypeExpr.map_token_scan_mark hmark (by decide) 0 rest.toList
  rw [hword, htext, hscan] at htokens
  exact TypeExpr.Token.noConfusion (List.cons.inj htokens).1

variable {m : Model} {scope : TypeDecl}

/-- Assumes: a declaration of the snapshot, not in the global namespace. The global namespace does
not enclose that of the declaration. -/
theorem ne_empty_of_encloses (hscope : scope ∈ m.candidates) (hcontainer : scope.container ≠ "")
    {outer : String} (houter : Encloses outer scope.container) : outer ≠ "" := by
  rintro rfl
  rcases m.accepted.namespaces scope hscope scope.container List.mem_cons_self with hempty | hread
  · exact hcontainer hempty
  · obtain ⟨t, hparse⟩ := hread
    rcases houter with h | ⟨rest, hrest⟩
    · exact hcontainer h
    · rw [hrest, String.empty_append] at hparse
      exact parse_dot_ne_ok rest t hparse

/-- Assumes: a declaration of the snapshot. The namespaces listed around it are those that enclose
its own, but for the global one. -/
theorem mem_enclosing_iff_of_mem (hscope : scope ∈ m.candidates) {outer : String} :
    outer ∈ enclosing scope.container ↔ outer ≠ "" ∧ Encloses outer scope.container := by
  rw [mem_enclosing_iff]
  constructor
  · rintro ⟨hcontainer, hencloses⟩
    exact ⟨ne_empty_of_encloses hscope hcontainer hencloses, hencloses⟩
  · rintro ⟨houter, hencloses⟩
    refine ⟨fun hempty ↦ ?_, hencloses⟩
    rw [hempty] at hencloses
    rcases hencloses with h | ⟨rest, hrest⟩
    · exact houter h.symm
    · have htext := congrArg String.toList hrest
      rw [toList_append_dot] at htext
      exact absurd htext.symm (List.append_ne_nil_of_right_ne_nil _ (List.cons_ne_nil _ _))

/-- Assumes: a declaration of the snapshot. With the global namespace at the end, the namespaces
listed around it still get shorter. -/
theorem pairwise_length_enclosing_append (hscope : scope ∈ m.candidates) :
    (enclosing scope.container ++ [""]).Pairwise fun inner outer ↦
      outer.length < inner.length := by
  rw [List.pairwise_append]
  refine ⟨pairwise_length_enclosing _, List.pairwise_singleton _ _, fun outer houter other h ↦ ?_⟩
  obtain ⟨hne, -⟩ := (mem_enclosing_iff_of_mem hscope).mp houter
  rw [List.mem_singleton.mp h]
  exact Nat.pos_of_ne_zero fun hlength ↦ hne (String.length_eq_zero_iff.mp hlength)

end HubRelay.Model
