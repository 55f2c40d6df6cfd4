/-!
# Texts in pieces

A text falls into pieces between the places where a separator stands. There is one piece more than
there are separators, so the pieces with a separator between any two of them are the text again.
-/

set_option autoImplicit false

namespace HubRelay.Text

/-- The pieces of a text between the places where a character stands. -/
def pieces (separator : Char) : List Char → List (List Char)
  | [] => [[]]
  | c :: rest =>
    if c = separator then [] :: pieces separator rest
    else
      match pieces separator rest with
      | [] => [[c]]
      | piece :: more => (c :: piece) :: more

/-- Every text has a piece. -/
theorem pieces_ne_nil (separator : Char) (cs : List Char) : pieces separator cs ≠ [] := by
  cases cs with
  | nil => simp [pieces]
  | cons c rest =>
    rw [pieces]
    split
    · simp
    · split <;> simp

/-- The pieces with the separator between them are the text. -/
theorem intercalate_pieces (separator : Char) (cs : List Char) :
    [separator].intercalate (pieces separator cs) = cs := by
  induction cs with
  | nil => rfl
  | cons c rest ih =>
    rw [pieces]
    cases hp : pieces separator rest with
    | nil => exact absurd hp (pieces_ne_nil separator rest)
    | cons piece more =>
      rw [hp] at ih
      by_cases hc : c = separator
      · rw [if_pos hc, List.intercalate_cons_cons, ih, hc]
        rfl
      · rw [if_neg hc]
        cases more with
        | nil => rw [List.intercalate_singleton] at ih ⊢; rw [ih]
        | cons next others =>
          rw [List.intercalate_cons_cons] at ih ⊢
          rw [List.cons_append, List.cons_append, ih]

end HubRelay.Text
