import Mathlib.Data.List.Forall2

/-!
# Steps that may fail

A step after another succeeds when both do, and the steps for the entries of a list succeed when each
of them does. Why a sequence of steps fails is found by asking its steps in order: the first that fails
gives the reason (`refusal?_bind`, `refusal?_mapM`).
-/

set_option autoImplicit false

namespace HubRelay

/-- Two steps succeed when the first has a value with which the second succeeds. -/
theorem bind_eq_ok_iff {ε α β : Type} {first : Except ε α} {next : α → Except ε β} {result : β} :
    (first >>= next) = .ok result ↔ ∃ value, first = .ok value ∧ next value = .ok result := by
  cases first with
  | error reason =>
    constructor
    · intro h
      cases h
    · rintro ⟨value, hvalue, -⟩
      cases hvalue
  | ok value =>
    constructor
    · exact fun h ↦ ⟨value, rfl, h⟩
    · rintro ⟨other, hother, hresult⟩
      obtain rfl := Except.ok.inj hother
      exact hresult

/-- Two steps fail when the first does, or has a value with which the second fails. -/
theorem bind_eq_error_iff {ε α β : Type} {first : Except ε α} {next : α → Except ε β} {reason : ε} :
    (first >>= next) = .error reason ↔
      first = .error reason ∨ ∃ value, first = .ok value ∧ next value = .error reason := by
  cases first with
  | error other =>
    constructor
    · exact fun h ↦ .inl (congrArg Except.error (Except.error.inj h))
    · rintro (h | ⟨value, hvalue, -⟩)
      · exact congrArg Except.error (Except.error.inj h)
      · cases hvalue
  | ok value =>
    constructor
    · exact fun h ↦ .inr ⟨value, rfl, h⟩
    · rintro (h | ⟨other, hother, hnext⟩)
      · cases h
      · obtain rfl := Except.ok.inj hother
        exact hnext

/-- A step behind a guard succeeds when the guard lets it pass and it succeeds. -/
theorem guarded_eq_ok_iff {ε α : Type} {refused : Prop} [Decidable refused] {reason : ε}
    {step : Except ε α} {result : α} :
    (if refused then .error reason else step) = .ok result ↔ ¬ refused ∧ step = .ok result := by
  by_cases h : refused
  · rw [if_pos h]
    constructor
    · intro hresult
      cases hresult
    · exact fun hboth ↦ absurd h hboth.1
  · rw [if_neg h, and_iff_right h]

/-- A step whose error is changed succeeds when the step does. -/
theorem mapError_eq_ok_iff {ε δ α : Type} {step : Except ε α} {change : ε → δ} {result : α} :
    step.mapError change = .ok result ↔ step = .ok result := by
  cases step with
  | error reason =>
    constructor
    · intro h
      cases h
    · intro h
      cases h
  | ok value =>
    constructor
    · intro h
      exact congrArg Except.ok (Except.ok.inj h)
    · intro h
      exact congrArg Except.ok (Except.ok.inj h)

/-- The steps for the entries of a list succeed when each of them does, with their values in order. -/
theorem mapM_eq_ok_iff {ε α β : Type} {step : α → Except ε β} {xs : List α} {ys : List β} :
    xs.mapM step = .ok ys ↔ List.Forall₂ (fun x y ↦ step x = .ok y) xs ys := by
  induction xs generalizing ys with
  | nil =>
    rw [List.mapM_nil, List.forall₂_nil_left_iff]
    exact ⟨fun h ↦ (Except.ok.inj h).symm, fun h ↦ congrArg Except.ok h.symm⟩
  | cons x rest ih =>
    rw [List.mapM_cons, bind_eq_ok_iff, List.forall₂_cons_left_iff]
    constructor
    · rintro ⟨y, hy, hnext⟩
      obtain ⟨more, hmore, hall⟩ := bind_eq_ok_iff.mp hnext
      exact ⟨y, more, hy, ih.mp hmore, (Except.ok.inj hall).symm⟩
    · rintro ⟨y, more, hy, hmore, rfl⟩
      exact ⟨y, hy, bind_eq_ok_iff.mpr ⟨more, ih.mpr hmore, rfl⟩⟩

/-- Assumes: steps whose values, where they succeed, are those of a function. If all succeed, the values
for the entries of a list are those of the function. -/
theorem eq_map_of_mapM_eq_ok {ε α β : Type} {step : α → Except ε β} {value : α → β}
    (hvalue : ∀ x y, step x = .ok y → value x = y) {xs : List α} {ys : List β}
    (h : xs.mapM step = .ok ys) : ys = xs.map value := by
  have hall : List.Forall₂ (fun x y ↦ value x = y) xs ys := (mapM_eq_ok_iff.mp h).imp hvalue
  rw [← List.forall₂_map_left_iff (f := value) (R := (· = ·)), List.forall₂_eq_eq_eq] at hall
  exact hall.symm

/-- Assumes: steps whose values, where they succeed, have a property. If all succeed, the values for the
entries of a list have it. -/
theorem forall_mem_of_mapM_eq_ok {ε α β : Type} {step : α → Except ε β} {p : β → Prop}
    (hp : ∀ x y, step x = .ok y → p y) {xs : List α} {ys : List β} (h : xs.mapM step = .ok ys) :
    ∀ y ∈ ys, p y := by
  have hall : List.Forall₂ (fun _ y ↦ p y) xs ys := (mapM_eq_ok_iff.mp h).imp hp
  clear h
  induction hall with
  | nil => exact List.forall_mem_nil p
  | cons hhead _ ih => exact List.forall_mem_cons.mpr ⟨hhead, ih⟩

/-! ### The step that fails -/

/-- Assumes: a run over a list that fails. It fails at one of the items, after a run over those before
it. -/
theorem exists_of_foldlM_eq_error {ε α σ : Type} {step : σ → α → Except ε σ} {xs : List α} {s : σ}
    {reason : ε} (h : xs.foldlM step s = .error reason) :
    ∃ before x after next, xs = before ++ x :: after ∧ before.foldlM step s = .ok next ∧
      step next x = .error reason := by
  induction xs generalizing s with
  | nil => cases h
  | cons x rest ih =>
    rw [List.foldlM_cons, bind_eq_error_iff] at h
    rcases h with h | ⟨next, hnext, hrest⟩
    · exact ⟨[], x, rest, s, rfl, rfl, h⟩
    · obtain ⟨before, y, after, last, rfl, hbefore, hstep⟩ := ih hrest
      refine ⟨x :: before, y, after, last, rfl, ?_, hstep⟩
      rw [List.foldlM_cons, hnext]
      exact hbefore

/-- Why a step fails, if it does. -/
def refusal? {ε α : Type} : Except ε α → Option ε
  | .error reason => some reason
  | .ok _ => none

theorem refusal?_eq_some_iff {ε α : Type} {step : Except ε α} {reason : ε} :
    refusal? step = some reason ↔ step = .error reason := by
  cases step with
  | error other => rw [refusal?, Option.some_inj, Except.error.injEq]
  | ok value => exact iff_of_false (fun h ↦ nomatch h) fun h ↦ nomatch h

theorem refusal?_eq_none_iff {ε α : Type} {step : Except ε α} :
    refusal? step = none ↔ ∃ value, step = .ok value := by
  cases step with
  | error reason => exact iff_of_false (fun h ↦ nomatch h) fun ⟨_, h⟩ ↦ nomatch h
  | ok value => exact iff_of_true rfl ⟨value, rfl⟩

/-- Assumes: a step that fails for the same reason, or for none, whatever the value of the one before it.
The two fail for the reason of the first of them that fails. -/
theorem refusal?_bind {ε α β : Type} {first : Except ε α} {next : α → Except ε β} {reason? : Option ε}
    (h : ∀ value, refusal? (next value) = reason?) :
    refusal? (first >>= next) = (refusal? first).or reason? := by
  cases first with
  | error reason => rfl
  | ok value => exact h value

/-- Before a step that does not fail. -/
theorem refusal?_bind_of_none {ε α β : Type} {first : Except ε α} {next : α → Except ε β}
    (h : ∀ value, refusal? (next value) = none) : refusal? (first >>= next) = refusal? first := by
  rw [refusal?_bind h, Option.or_none]

/-- The steps for the entries of a list fail for the reason of the first of them that fails. -/
theorem refusal?_mapM {ε α β : Type} (step : α → Except ε β) (xs : List α) :
    refusal? (xs.mapM step) = xs.findSome? fun x ↦ refusal? (step x) := by
  induction xs with
  | nil => rfl
  | cons x rest ih =>
    have hnext (value : β) :
        refusal? (do return value :: (← rest.mapM step)) = refusal? (rest.mapM step) :=
      refusal?_bind_of_none fun _ ↦ rfl
    rw [List.mapM_cons, refusal?_bind hnext, ih, List.findSome?_cons]
    cases refusal? (step x) <;> rfl

end HubRelay
