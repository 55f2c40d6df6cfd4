import HubRelay.Proofs.Text.Starts

/-!
# Indentation and depth

An indented line is a body with some levels of indentation in front of it, and an empty body stays an
empty line. When a level is white space and the body does not begin with any, the body is what the line
has past its indentation (`trimStart_indented`).

In lines with braces the depth goes up after a line that is an opening brace and down before one that is
a closing brace. `depths` walks lines and gives each with its depth; `rise` is how much deeper the walk
ends than it began. Both of lines put together are found from their parts (`depths_append`,
`rise_append`), and a walk that begins deeper is deeper everywhere (`depths_add`).
-/

set_option autoImplicit false

namespace HubRelay.Text

/-! ### Indentation -/

/-- A body after some levels of indentation; an empty one stays empty. -/
def indented (indent : String) (depth : Nat) (body : String) : String :=
  if body = "" then "" else String.join (List.replicate depth indent) ++ body

/-- Levels of indentation on one line are on one line. -/
theorem isOneLine_replicate {indent : String} (h : IsOneLine indent) (depth : Nat) :
    IsOneLine (String.join (List.replicate depth indent)) :=
  isOneLine_join fun _ htext ↦ List.eq_of_mem_replicate htext ▸ h

theorem isOneLine_indented {indent body : String} (hindent : IsOneLine indent)
    (hbody : IsOneLine body) (depth : Nat) : IsOneLine (indented indent depth body) := by
  rw [indented]
  split
  · exact isOneLine_empty
  · exact isOneLine_append.mpr ⟨isOneLine_replicate hindent depth, hbody⟩

/-- Levels of white space are white space. -/
theorem isBlank_replicate {indent : String} (h : ∀ c ∈ indent.toList, isBlank c = true)
    (depth : Nat) : ∀ c ∈ (String.join (List.replicate depth indent)).toList, isBlank c = true := by
  induction depth with
  | zero => exact List.forall_mem_nil _
  | succ depth ih =>
    rw [List.replicate_succ, String.join_cons, String.toList_append]
    exact List.forall_mem_append.mpr ⟨h, ih⟩

/-- Past its indentation a line has its body. -/
theorem trimStart_indented {indent body : String} (hindent : ∀ c ∈ indent.toList, isBlank c = true)
    (hbody : IsFlush body) (depth : Nat) : trimStart (indented indent depth body) = body := by
  rw [indented]
  split
  · next hempty => exact hempty.symm
  · rw [trimStart, String.toList_append,
      List.dropWhile_append_of_pos (isBlank_replicate hindent depth),
      dropWhile_isBlank_of_isFlush hbody, String.ofList_toList]

/-! ### Depth -/

/-- How the depth changes with a line: it goes up after an opening brace and down before a closing
one. -/
def turn (body : String) : Int := if body = "\x7b" then 1 else if body = "\x7d" then -1 else 0

section Walks

variable {α β : Type}

/-- How much deeper it is after lines than before them. What each line has past its indentation is
found by `body`. -/
def rise (body : α → String) : List α → Int
  | [] => 0
  | line :: rest => turn (body line) + rise body rest

/-- Lines, each with the depth that it stands at when it is `depth` before the first. -/
def depths (body : α → String) (depth : Int) : List α → List (Int × α)
  | [] => []
  | line :: rest =>
    (if body line = "\x7d" then depth - 1 else depth, line) ::
      depths body (depth + turn (body line)) rest

variable (body : α → String)

theorem rise_append (first second : List α) :
    rise body (first ++ second) = rise body first + rise body second := by
  induction first with
  | nil => exact (Int.zero_add _).symm
  | cons line rest ih => rw [List.cons_append, rise, ih, rise, Int.add_assoc]

/-- A walk goes on where it has come to. -/
theorem depths_append (depth : Int) (first second : List α) :
    depths body depth (first ++ second) =
      depths body depth first ++ depths body (depth + rise body first) second := by
  induction first generalizing depth with
  | nil => rw [List.nil_append, rise, Int.add_zero, depths, List.nil_append]
  | cons line rest ih =>
    rw [List.cons_append, depths, ih, depths, rise, ← Int.add_assoc, List.cons_append]

/-- A walk that begins deeper is deeper everywhere. -/
theorem depths_add (depth more : Int) (lines : List α) :
    depths body (depth + more) lines =
      (depths body depth lines).map fun entry ↦ (entry.1 + more, entry.2) := by
  induction lines generalizing depth with
  | nil => rfl
  | cons line rest ih =>
    rw [depths, depths, List.map_cons, ← ih, Int.add_right_comm]
    dsimp only
    split
    · rw [Int.sub_eq_add_neg, Int.sub_eq_add_neg, Int.add_right_comm]
    · rfl

/-- Depths depend on what lines have past their indentation. -/
theorem depths_map (f : β → α) (depth : Int) (items : List β) :
    depths body depth (items.map f) =
      (depths (fun item ↦ body (f item)) depth items).map fun entry ↦ (entry.1, f entry.2) := by
  induction items generalizing depth with
  | nil => rfl
  | cons item rest ih => rw [List.map_cons, depths, ih, depths, List.map_cons]

theorem rise_map (f : β → α) (items : List β) :
    rise body (items.map f) = rise (fun item ↦ body (f item)) items := by
  induction items with
  | nil => rfl
  | cons item rest ih => rw [List.map_cons, rise, ih, rise]

/-- What is walked are the lines. -/
theorem map_snd_depths (depth : Int) (lines : List α) :
    (depths body depth lines).map (·.2) = lines := by
  induction lines generalizing depth with
  | nil => rfl
  | cons line rest ih => rw [depths, List.map_cons, ih]

theorem mem_of_mem_depths {body : α → String} {depth : Int} {lines : List α} {entry : Int × α}
    (h : entry ∈ depths body depth lines) : entry.2 ∈ lines :=
  map_snd_depths body depth lines ▸ List.mem_map_of_mem h

/-- Two ways to find what lines have past their indentation that agree on the lines give the same
depths. -/
theorem depths_congr {body other : α → String} {lines : List α}
    (h : ∀ line ∈ lines, body line = other line) (depth : Int) :
    depths body depth lines = depths other depth lines := by
  induction lines generalizing depth with
  | nil => rfl
  | cons line rest ih =>
    obtain ⟨hline, hrest⟩ := List.forall_mem_cons.mp h
    rw [depths, depths, hline, ih hrest]

theorem rise_congr {body other : α → String} {lines : List α}
    (h : ∀ line ∈ lines, body line = other line) : rise body lines = rise other lines := by
  induction lines with
  | nil => rfl
  | cons line rest ih =>
    obtain ⟨hline, hrest⟩ := List.forall_mem_cons.mp h
    rw [rise, rise, hline, ih hrest]

end Walks

end HubRelay.Text
