import Mathlib.Data.List.Basic

/-!
# What is found in a list of lines

A list of lines is searched by looking at each line together with the lines after it (`findings`). In a
part of the list something may be found whatever comes after the part (`Finds`). Of parts one after the
other all that is found in each is found, in order, so what a search finds in a long list follows from
what it finds in the parts that the list is made of.
-/

set_option autoImplicit false

namespace HubRelay.Text

section Searches

variable {α β : Type}

/-- What holds of the separators and of all items of the parts holds of the items of the whole. -/
theorem forall_mem_intercalate {P : α → Prop} {separator : List α} (hseparator : ∀ x ∈ separator, P x)
    {parts : List (List α)} (h : ∀ part ∈ parts, ∀ x ∈ part, P x) :
    ∀ x ∈ separator.intercalate parts, P x := by
  induction parts with
  | nil => exact List.forall_mem_nil _
  | cons first rest ih =>
    obtain ⟨hfirst, hrest⟩ := List.forall_mem_cons.mp h
    cases rest with
    | nil => rwa [List.intercalate_singleton]
    | cons next more =>
      rw [List.intercalate_cons_cons]
      exact List.forall_mem_append.mpr
        ⟨List.forall_mem_append.mpr ⟨hfirst, hseparator⟩, ih hrest⟩

/-- What is found in a list, looking at each item together with the items after it. -/
def findings (look : α → List α → Option β) : List α → List β
  | [] => []
  | x :: rest => (look x rest).toList ++ findings look rest

/-- A search may go on with what is found. -/
theorem findings_map {γ : Type} (look : α → List α → Option β) (f : β → γ) (list : List α) :
    findings (fun x rest ↦ (look x rest).map f) list = (findings look list).map f := by
  induction list with
  | nil => rfl
  | cons x rest ih =>
    rw [findings, findings, ih, List.map_append]
    cases look x rest <;> rfl

/-- Whatever comes after the part, this is found in it. -/
def Finds (look : α → List α → Option β) (part : List α) (found : List β) : Prop :=
  ∀ rest, findings look (part ++ rest) = found ++ findings look rest

/-- What is found in a part, when the search goes on with what is found. -/
theorem Finds.map {γ : Type} {look : α → List α → Option β} {part : List α} {found : List β}
    (h : Finds look part found) (f : β → γ) :
    Finds (fun x rest ↦ (look x rest).map f) part (found.map f) := by
  intro rest
  rw [findings_map, findings_map, h, List.map_append]

/-- What is found after a part is found last. -/
theorem exists_findings_append (look : α → List α → Option β) (part rest : List α) :
    ∃ found, findings look (part ++ rest) = found ++ findings look rest := by
  induction part with
  | nil => exact ⟨[], rfl⟩
  | cons x part ih =>
    obtain ⟨found, hfound⟩ := ih
    exact ⟨(look x (part ++ rest)).toList ++ found, by
      rw [List.cons_append, findings, hfound, List.append_assoc]⟩

namespace Finds

variable {look : α → List α → Option β} {part first second : List α} {found more : List β} {x : α}
  {y : β}

theorem nil : Finds look [] [] := fun _ ↦ rfl

/-- Parts one after the other. -/
theorem append (hfirst : Finds look first found) (hsecond : Finds look second more) :
    Finds look (first ++ second) (found ++ more) := by
  intro rest
  rw [List.append_assoc, hfirst, hsecond, List.append_assoc]

/-- An item at which nothing is found. -/
theorem skip (hx : ∀ rest, look x (part ++ rest) = none) (h : Finds look part found) :
    Finds look (x :: part) found := by
  intro rest
  rw [List.cons_append, findings, hx, h]
  rfl

/-- An item at which something is found. -/
theorem cons (hx : ∀ rest, look x (part ++ rest) = some y) (h : Finds look part found) :
    Finds look (x :: part) (y :: found) := by
  intro rest
  rw [List.cons_append, findings, hx, h]
  rfl

/-- An item at which something may be found. -/
theorem item {y? : Option β} (hx : ∀ rest, look x (part ++ rest) = y?) (h : Finds look part found) :
    Finds look (x :: part) (y?.toList ++ found) := by
  cases y? with
  | none => exact h.skip hx
  | some y => exact h.cons hx

/-- Items at none of which anything is found. -/
theorem none_of_forall (h : ∀ x ∈ part, ∀ rest, look x rest = none) : Finds look part [] := by
  induction part with
  | nil => exact nil
  | cons x rest ih =>
    obtain ⟨hx, hrest⟩ := List.forall_mem_cons.mp h
    exact skip (fun _ ↦ hx _) (ih hrest)

theorem flatMap {γ : Type} {parts : γ → List α} {results : γ → List β} {items : List γ}
    (h : ∀ item ∈ items, Finds look (parts item) (results item)) :
    Finds look (items.flatMap parts) (items.flatMap results) := by
  induction items with
  | nil => exact nil
  | cons item rest ih =>
    obtain ⟨hitem, hrest⟩ := List.forall_mem_cons.mp h
    rw [List.flatMap_cons, List.flatMap_cons]
    exact hitem.append (ih hrest)

/-- Parts with separators between them in which nothing is found. -/
theorem intercalate {γ : Type} {separator : List α} (hseparator : Finds look separator [])
    {parts : γ → List α} {results : γ → List β} {items : List γ}
    (h : ∀ item ∈ items, Finds look (parts item) (results item)) :
    Finds look (separator.intercalate (items.map parts)) (items.flatMap results) := by
  induction items with
  | nil => exact nil
  | cons item rest ih =>
    obtain ⟨hitem, hrest⟩ := List.forall_mem_cons.mp h
    cases rest with
    | nil =>
      rw [List.map_singleton, List.intercalate_singleton, List.flatMap_singleton]
      exact hitem
    | cons next others =>
      rw [List.map_cons, List.map_cons, List.intercalate_cons_cons, List.flatMap_cons,
        ← List.append_nil (results item)]
      exact (hitem.append hseparator).append (ih hrest)

/-- Parts in which nothing is found, with separators between them in which nothing is found. -/
theorem intercalate_none {γ : Type} {separator : List α} (hseparator : Finds look separator [])
    {parts : γ → List α} {items : List γ} (h : ∀ item ∈ items, Finds look (parts item) []) :
    Finds look (separator.intercalate (items.map parts)) [] := by
  have hnothing : (items.flatMap fun _ ↦ ([] : List β)) = [] :=
    List.flatMap_eq_nil_iff.mpr fun _ _ ↦ rfl
  rw [← hnothing]
  exact intercalate hseparator h

/-- Where nothing is found, a search that finds things at fewer items finds nothing either. -/
theorem nil_of_imp {γ : Type} {other : α → List α → Option γ}
    (himp : ∀ x rest, look x rest = none → other x rest = none) (h : Finds look part []) :
    Finds other part [] := by
  induction part with
  | nil => exact nil
  | cons x part ih =>
    have hnothing (rest : List α) : look x (part ++ rest) = none ∧
        findings look (part ++ rest) = findings look rest := by
      obtain ⟨found, hfound⟩ := exists_findings_append look part rest
      have hwhole := h rest
      rw [List.cons_append, findings, hfound, List.nil_append, ← List.append_assoc,
        List.append_left_eq_self, List.append_eq_nil_iff] at hwhole
      obtain ⟨hx, hpart⟩ := hwhole
      exact ⟨Option.toList_eq_nil_iff.mp hx, by rw [hfound, hpart, List.nil_append]⟩
    exact (ih fun rest ↦ (hnothing rest).2).skip fun rest ↦ himp x _ (hnothing rest).1

/-- What is found in the part by itself. -/
theorem findings_eq (h : Finds look part found) : findings look part = found := by
  have hpart := h []
  rwa [List.append_nil, findings, List.append_nil] at hpart

end Finds

end Searches

end HubRelay.Text
