import HubRelay.Document.Field
import Mathlib.Data.List.Nodup
import Mathlib.Data.List.Perm.Subperm
import Std.Data.String.ToNat

/-!
# Fresh names of fields

A field takes the first name that is free among those tried for its parameter: the name that the
parameter suggests, and then this with the numbers from two on (`tried`). No two of these are the
same, since a number can be read off its digits, so with some names taken a free one is reached after
at most as many tries as there are taken names (`IsFirstFree.le_length`), and the bound that the
search is given is never what ends it (`exists_fresh_eq`).

Each name is taken for the fields after it, which is all that `assign` adds to the search of one name
(`exists_getElem?_assign_eq`). So the names of the fields of a record are new one after the other, and
with that different from each other, from the fields of the connection and from the record itself.
-/

set_option autoImplicit false

namespace HubRelay.Field

/-! ### The names tried for one field -/

/-- The names that are tried for a field, in turn: what its parameter suggests, and this with the
numbers from two on. -/
def tried (base : String) : Nat → String
  | 0 => base
  | k + 1 => base ++ toString (k + 2)

/-- The first of the names tried that is not taken is the one at place `k`. -/
structure IsFirstFree (taken : List String) (base : String) (k : Nat) : Prop where
  notMem : tried base k ∉ taken
  mem_of_lt : ∀ j < k, tried base j ∈ taken

/-- No name is tried twice. -/
theorem tried_injective (base : String) : Function.Injective (tried base) := by
  have hnumbered (k : Nat) : tried base (k + 1) ≠ base := by
    intro h
    have hsame : base.toList ++ (toString (k + 2)).toList = base.toList := by
      rw [← String.toList_append]
      exact congrArg String.toList h
    have hempty : (toString (k + 2)).toList = [] := List.append_right_eq_self.mp hsame
    exact Nat.repr_ne_empty (String.toList_eq_nil_iff.mp hempty)
  intro i j h
  cases i with
  | zero =>
    cases j with
    | zero => rfl
    | succ j => exact absurd h.symm (hnumbered j)
  | succ i =>
    cases j with
    | zero => exact absurd h (hnumbered i)
    | succ j =>
      have hdigits : Nat.repr (i + 2) = Nat.repr (j + 2) := (String.append_right_inj base).mp h
      have hnumber := Nat.repr_injective hdigits
      omega

/-- Assumes: names tried one after the other from some place on, all of them taken. There are at most
as many of them as names that are taken. -/
theorem length_le_of_tried_mem {taken : List String} {base : String} {start count : Nat}
    (h : ∀ j < count, tried base (start + j) ∈ taken) : count ≤ taken.length := by
  have hnodup : ((List.range count).map fun j ↦ tried base (start + j)).Nodup := by
    refine List.Nodup.map (fun i j hij ↦ ?_) List.nodup_range
    exact Nat.add_left_cancel (tried_injective base hij)
  have hsubset : (List.range count).map (fun j ↦ tried base (start + j)) ⊆ taken := by
    intro name hname
    obtain ⟨j, hj, rfl⟩ := List.mem_map.mp hname
    exact h j (List.mem_range.mp hj)
  have hlength := (hnodup.subperm hsubset).length_le
  rwa [List.length_map, List.length_range] at hlength

namespace IsFirstFree

variable {taken other : List String} {base : String} {k : Nat}

/-- A free name is reached after at most as many tries as there are taken names. -/
theorem le_length (h : IsFirstFree taken base k) : k ≤ taken.length := by
  have hmem : ∀ j < k, tried base (0 + j) ∈ taken := by
    intro j hj
    rw [Nat.zero_add]
    exact h.mem_of_lt j hj
  exact length_le_of_tried_mem hmem

/-- There is only one first free name. -/
theorem unique {l : Nat} (h : IsFirstFree taken base k) (hother : IsFirstFree taken base l) :
    k = l := by
  rcases Nat.lt_trichotomy k l with hlt | heq | hgt
  · exact absurd (hother.mem_of_lt k hlt) h.notMem
  · exact heq
  · exact absurd (h.mem_of_lt l hgt) hother.notMem

/-- Nothing matters of the taken names but which they are. -/
theorem congr (h : IsFirstFree taken base k) (hsame : ∀ name, name ∈ other ↔ name ∈ taken) :
    IsFirstFree other base k :=
  ⟨fun hmem ↦ h.notMem ((hsame _).mp hmem), fun j hj ↦ (hsame _).mpr (h.mem_of_lt j hj)⟩

end IsFirstFree

/-! ### The search -/

/-- Assumes: one of the names within the bound is free. The search from a place on finds the first of
them. -/
theorem exists_numbered_eq (taken : Std.HashSet String) (base : String) {start bound : Nat}
    (h : ∃ j ≤ bound, tried base (start + 1 + j) ∉ taken) :
    ∃ k, numbered taken base (start + 2) bound = tried base (start + 1 + k) ∧
      tried base (start + 1 + k) ∉ taken ∧ ∀ j < k, tried base (start + 1 + j) ∈ taken := by
  induction bound generalizing start with
  | zero =>
    obtain ⟨j, hj, hfree⟩ := h
    obtain rfl := Nat.le_zero.mp hj
    exact ⟨0, rfl, hfree, fun j hj ↦ absurd hj (Nat.not_lt_zero j)⟩
  | succ bound ih =>
    rw [numbered]
    split
    · next htaken =>
      have hmem : tried base (start + 1) ∈ taken := Std.HashSet.contains_iff_mem.mp htaken
      have hlater : ∃ j ≤ bound, tried base (start + 1 + 1 + j) ∉ taken := by
        obtain ⟨j, hj, hfree⟩ := h
        cases j with
        | zero => exact absurd hmem hfree
        | succ j =>
          refine ⟨j, Nat.le_of_succ_le_succ hj, ?_⟩
          rwa [Nat.add_right_comm (start + 1) 1 j]
      obtain ⟨k, hfound, hfree, hbefore⟩ := ih hlater
      refine ⟨k + 1, ?_, ?_, fun j hj ↦ ?_⟩
      · rw [hfound, Nat.add_right_comm (start + 1) 1 k]
        rfl
      · rwa [← Nat.add_assoc, ← Nat.add_right_comm (start + 1) 1 k]
      · cases j with
        | zero => exact hmem
        | succ j =>
          have hj := hbefore j (Nat.lt_of_succ_lt_succ hj)
          rwa [Nat.add_right_comm (start + 1) 1 j] at hj
    · next hfree =>
      refine ⟨0, rfl, fun hmem ↦ hfree (Std.HashSet.contains_iff_mem.mpr hmem), ?_⟩
      exact fun j hj ↦ absurd hj (Nat.not_lt_zero j)

/-- A fresh name is the first of those tried that is free. -/
theorem exists_fresh_eq (taken : Std.HashSet String) (base : String) :
    ∃ k, fresh taken base = tried base k ∧ IsFirstFree taken.toList base k := by
  have hmem (name : String) : name ∈ taken.toList ↔ name ∈ taken := Std.HashSet.mem_toList
  rw [fresh]
  split
  · next htaken =>
    have hbase : base ∈ taken.toList := (hmem base).mpr (Std.HashSet.contains_iff_mem.mp htaken)
    have hfree : ∃ j ≤ taken.size, tried base (0 + 1 + j) ∉ taken := by
      by_contra hnone
      push Not at hnone
      have hall : ∀ j < taken.size + 1, tried base (0 + 1 + j) ∈ taken.toList := fun j hj ↦
        (hmem _).mpr (hnone j (Nat.le_of_lt_succ hj))
      have hlength := length_le_of_tried_mem hall
      rw [Std.HashSet.length_toList] at hlength
      omega
    obtain ⟨k, hfound, hnew, hbefore⟩ := exists_numbered_eq taken base hfree
    rw [Nat.zero_add, Nat.add_comm 1 k] at hfound hnew
    refine ⟨k + 1, hfound, fun h ↦ hnew ((hmem _).mp h), fun j hj ↦ ?_⟩
    cases j with
    | zero => exact hbase
    | succ j =>
      have hj := hbefore j (Nat.lt_of_succ_lt_succ hj)
      rw [Nat.zero_add, Nat.add_comm 1 j] at hj
      exact (hmem _).mpr hj
  · next hfree =>
    refine ⟨0, rfl, fun h ↦ ?_, fun j hj ↦ absurd hj (Nat.not_lt_zero j)⟩
    exact hfree (Std.HashSet.contains_iff_mem.mpr ((hmem base).mp h))

/-! ### The names of all fields -/

theorem length_assign (taken : Std.HashSet String) (bases : List String) :
    (assign taken bases).length = bases.length := by
  induction bases generalizing taken with
  | nil => rfl
  | cons base rest ih => rw [assign, List.length_cons, List.length_cons, ih]

/-- Each name is the first free one of those tried, where the names before it are taken too. -/
theorem exists_getElem?_assign_eq (taken : Std.HashSet String) {bases : List String} {i : Nat}
    {base : String} (h : bases[i]? = some base) :
    ∃ k, (assign taken bases)[i]? = some (tried base k) ∧
      IsFirstFree (taken.toList ++ (assign taken bases).take i) base k := by
  induction bases generalizing taken i with
  | nil => cases h
  | cons first rest ih =>
    rw [assign]
    cases i with
    | zero =>
      obtain rfl := Option.some.inj h
      obtain ⟨k, hname, hfirst⟩ := exists_fresh_eq taken first
      refine ⟨k, congrArg some hname, ?_⟩
      rwa [List.take_zero, List.append_nil]
    | succ i =>
      obtain ⟨k, hname, hfirst⟩ := ih (taken.insert (fresh taken first)) h
      refine ⟨k, hname, hfirst.congr fun name ↦ ?_⟩
      simp only [List.take_succ_cons, List.mem_append, List.mem_cons, Std.HashSet.mem_toList,
        Std.HashSet.mem_insert, beq_iff_eq, eq_comm (a := fresh taken first)]
      tauto

/-- The names that are taken before the field at a place: that of the method, those of the fields of
the connection, and those of the fields before it. -/
def takenBefore (direction : Direction) (method : Method) (i : Nat) : List String :=
  method.name :: direction.contextFields.map (·.2) ++ (names direction method).take i

/-- The field of a parameter takes the first free name of those tried. -/
theorem exists_getElem?_names_eq (direction : Direction) (method : Method) {i : Nat}
    {parameter : Parameter} (h : method.parameters[i]? = some parameter) :
    ∃ k, (names direction method)[i]? = some (tried (suggestion parameter.name) k) ∧
      IsFirstFree (takenBefore direction method i) (suggestion parameter.name) k := by
  have hbase : (method.parameters.map fun p ↦ suggestion p.name)[i]? =
      some (suggestion parameter.name) := by rw [List.getElem?_map, h, Option.map_some]
  obtain ⟨k, hname, hfirst⟩ := exists_getElem?_assign_eq
    (Std.HashSet.ofList (method.name :: direction.contextFields.map (·.2))) hbase
  refine ⟨k, hname, hfirst.congr fun name ↦ ?_⟩
  rw [takenBefore, List.mem_append, List.mem_append, Std.HashSet.mem_toList, Std.HashSet.mem_ofList,
    List.contains_iff_mem]
  rfl

/-- The field of a parameter has a name that is free and that is tried after taken names only. -/
theorem getElem?_names_eq (direction : Direction) (method : Method) {i k : Nat} {parameter : Parameter}
    (h : method.parameters[i]? = some parameter)
    (hfirst : IsFirstFree (takenBefore direction method i) (suggestion parameter.name) k) :
    (names direction method)[i]? = some (tried (suggestion parameter.name) k) := by
  obtain ⟨l, hname, hother⟩ := exists_getElem?_names_eq direction method h
  rw [hfirst.unique hother]
  exact hname

/-- There is one name for each parameter. -/
theorem length_names (direction : Direction) (method : Method) :
    (names direction method).length = method.parameters.length := by
  rw [names, length_assign, List.length_map]

/-- Names of which each is the first free one of those tried, in front of the names after it, are the names
of the fields. -/
theorem names_eq {direction : Direction} {method : Method} {expected : List String}
    (hlength : expected.length = method.parameters.length)
    (h : ∀ (i : Nat) (p : Parameter), method.parameters[i]? = some p → ∃ k,
      expected[i]? = some (tried (suggestion p.name) k) ∧
        IsFirstFree (method.name :: direction.contextFields.map (·.2) ++ expected.take i)
          (suggestion p.name) k) : names direction method = expected := by
  have htake : ∀ i ≤ method.parameters.length, (names direction method).take i = expected.take i := by
    intro i hi
    induction i with
    | zero => rw [List.take_zero, List.take_zero]
    | succ i ih =>
      obtain ⟨k, hname, hfirst⟩ := h i _ (List.getElem?_eq_getElem hi)
      have hbefore := ih (Nat.le_of_succ_le hi)
      rw [← hbefore] at hfirst
      rw [List.take_add_one, List.take_add_one, hbefore, hname,
        getElem?_names_eq direction method (List.getElem?_eq_getElem hi) hfirst]
  have hall := htake _ (Nat.le_refl _)
  rwa [List.take_of_length_le (Nat.le_of_eq hlength),
    List.take_of_length_le (Nat.le_of_eq (length_names direction method))] at hall

/-- A field does not have a name that is taken before it. -/
theorem notMem_takenBefore (direction : Direction) (method : Method) {i : Nat} {name : String}
    (h : (names direction method)[i]? = some name) : name ∉ takenBefore direction method i := by
  have hi : i < method.parameters.length :=
    length_names direction method ▸ (List.getElem?_eq_some_iff.mp h).1
  obtain ⟨k, hname, hfirst⟩ :=
    exists_getElem?_names_eq direction method (List.getElem?_eq_getElem hi)
  obtain rfl := Option.some.inj (h.symm.trans hname)
  exact hfirst.notMem

/-- No two fields have the same name. -/
theorem nodup_names (direction : Direction) (method : Method) : (names direction method).Nodup := by
  rw [List.nodup_iff_getElem?_ne_getElem?]
  intro i j hij hj hsame
  obtain ⟨hi, hname⟩ := List.getElem?_eq_some_iff.mp (hsame.trans (List.getElem?_eq_getElem hj))
  refine notMem_takenBefore direction method (List.getElem?_eq_getElem hj) ?_
  rw [takenBefore, List.mem_append, ← hname]
  exact .inr (List.mem_take_iff_getElem.mpr ⟨i, by omega, rfl⟩)

/-- The field of a parameter is named neither like the method nor like a field of the connection. -/
theorem ne_and_notMem_of_mem_names (direction : Direction) (method : Method) :
    ∀ name ∈ names direction method,
      name ≠ method.name ∧ name ∉ direction.contextFields.map (·.2) := by
  intro name hname
  obtain ⟨i, hi, rfl⟩ := List.getElem_of_mem hname
  have hfree := notMem_takenBefore direction method (List.getElem?_eq_getElem hi)
  rw [takenBefore, List.mem_append, List.mem_cons] at hfree
  exact ⟨fun h ↦ hfree (.inl (.inl h)), fun h ↦ hfree (.inl (.inr h))⟩

/-- For each parameter of a method there is one field, in order. Its name is the first of those tried
for it that is neither the name of the method, nor that of a field of the connection, nor the name of
a field before it, and it is reached after no more tries than there are such names. So the names of
the fields are different from each other and from all of these. -/
theorem names_areFirstFree (direction : Direction) (method : Method) :
    (names direction method).length = method.parameters.length ∧
      (∀ i : Fin method.parameters.length,
        ∃ k ≤ (takenBefore direction method i).length,
          (names direction method)[i]? = some (tried (suggestion method.parameters[i].name) k) ∧
            IsFirstFree (takenBefore direction method i) (suggestion method.parameters[i].name) k) ∧
      (names direction method).Nodup ∧
      ∀ name ∈ names direction method,
        name ≠ method.name ∧ name ∉ direction.contextFields.map (·.2) := by
  refine ⟨length_names direction method, fun i ↦ ?_, nodup_names direction method,
    ne_and_notMem_of_mem_names direction method⟩
  obtain ⟨k, hname, hfirst⟩ :=
    exists_getElem?_names_eq direction method (List.getElem?_eq_getElem i.isLt)
  exact ⟨k, hfirst.le_length, hname, hfirst⟩

end HubRelay.Field
