import HubRelay.Proofs.Discovery.Resolved
import Mathlib.Data.Nat.Find

/-!
# How deep type arguments may nest

A position in a type is a list of numbers, each of which leads on to a type argument; array layers are
passed over on the way and do not count (`TypeView.at?`). Positions are ordered like words, so the first
of several positions is the left-most one, which a reader who goes through the arguments depth first
meets first (`TypeView.IsFirst`).

A type has a reference just when none of its positions is longer than the limit. The reference then has
the same positions as the type, with the namespace and the name of the type at each of them
(`TypeView.rel_at?_reference`). Otherwise the type is refused at the left-most of the positions that are
one longer than the limit (`TypeView.typeRefAt_of_isFirst`): the arguments in front of it have their
references, so the collection of arguments goes on to it, and each generic type around it joins the chain
of the error on the way back, the innermost first (`TypeView.around`).
-/

set_option autoImplicit false

namespace HubRelay

/-- A named type, with how it is displayed and the views of its type arguments. -/
structure NamedView where
  display : String
  container : String
  name : String
  arguments : List TypeView

namespace TypeView

/-! ### Array layers -/

/-- The named type inside the array layers. -/
def innermost : TypeView → NamedView
  | named display container name arguments => ⟨display, container, name, arguments⟩
  | array _ element _ => innermost element

/-- The dimensions of the array layers, those of the innermost layer first. -/
def ranks : TypeView → List Nat
  | named .. => []
  | array _ element rank => ranks element ++ [rank]

/-! ### Positions -/

/-- The type at a position. -/
def at? : TypeView → List Nat → Option TypeView
  | view, [] => some view
  | view, index :: rest => view.innermost.arguments[index]?.bind (at? · rest)

/-- How the generic types around a position are displayed, the innermost first. -/
def around : TypeView → List Nat → List String
  | _, [] => []
  | view, index :: rest =>
    view.innermost.arguments[index]?.elim [] (around · rest) ++ [view.innermost.display]

/-- The left-most of the positions with a number of steps: where another one first differs from it, this
one has the smaller number. -/
structure IsFirst (view : TypeView) (steps : Nat) (position : List Nat) : Prop where
  length_eq : position.length = steps
  isSome_at? : (view.at? position).isSome
  eq_or_lex : ∀ other, other.length = steps → (view.at? other).isSome →
    other = position ∨ List.Lex (· < ·) position other

end TypeView

namespace TypeRef

/-- The reference at a position. -/
def at? : TypeRef → List Nat → Option TypeRef
  | r, [] => some r
  | r, index :: rest => r.arguments[index]?.bind (at? · rest)

/-- The reference has the namespace of the type inside the array layers, the name of this type with the
suffixes of the layers from the inside out, and as many arguments as this type. -/
structure Mirrors (r : TypeRef) (view : TypeView) : Prop where
  container_eq : r.container = view.innermost.container
  name_eq : r.name = view.innermost.name ++ TypeExpr.rankSuffixes view.ranks
  length_eq : r.arguments.length = view.innermost.arguments.length

/-! ### The longest positions of a reference -/

theorem lt_depthOfAll_iff {n : Nat} {references : List TypeRef} :
    n < depthOfAll references ↔ ∃ r ∈ references, n ≤ r.depth := by
  induction references with
  | nil =>
    rw [depthOfAll]
    exact iff_of_false (Nat.not_lt_zero n) (by simp)
  | cons first rest ih =>
    simp only [List.mem_cons, exists_eq_or_imp, ← ih]
    rw [depthOfAll]
    omega

/-- The depth of a reference is the length of its longest positions. -/
theorem exists_isSome_at?_iff (n : Nat) (r : TypeRef) :
    (∃ position, position.length = n ∧ (r.at? position).isSome) ↔ n ≤ r.depth := by
  induction n generalizing r with
  | zero => exact iff_of_true ⟨[], rfl, rfl⟩ (Nat.zero_le _)
  | succ n ih =>
    obtain ⟨container, name, arguments⟩ := r
    rw [depth, Nat.succ_le_iff, lt_depthOfAll_iff]
    constructor
    · rintro ⟨position, hlength, hsome⟩
      obtain ⟨index, rest, rfl⟩ := List.exists_cons_of_length_eq_add_one hlength
      rw [at?, Option.isSome_bind, Option.any_eq_true] at hsome
      obtain ⟨argument, hargument, hrest⟩ := hsome
      exact ⟨argument, List.mem_of_getElem? hargument,
        (ih argument).mp ⟨rest, Nat.succ.inj hlength, hrest⟩⟩
    · rintro ⟨argument, hmem, hdepth⟩
      obtain ⟨index, hargument⟩ := List.getElem?_of_mem hmem
      obtain ⟨rest, hlength, hrest⟩ := (ih argument).mpr hdepth
      refine ⟨index :: rest, congrArg (· + 1) hlength, ?_⟩
      rw [at?, hargument]
      exact hrest

end TypeRef

namespace TypeView

/-! ### The reference mirrors the type -/

theorem arguments_reference (view : TypeView) :
    view.reference.arguments = view.innermost.arguments.map reference := by
  induction view using innermost.induct with
  | case1 display container name arguments =>
    rw [reference, referenceAll_eq_map]
    rfl
  | case2 display element rank ih =>
    rw [reference, TypeRef.arrayOf]
    exact ih

theorem mirrors_reference (view : TypeView) : view.reference.Mirrors view := by
  refine ⟨?_, ?_, by rw [arguments_reference, List.length_map]⟩
  · induction view using innermost.induct with
    | case1 display container name arguments =>
      rw [reference]
      rfl
    | case2 display element rank ih =>
      rw [reference, TypeRef.arrayOf]
      exact ih
  · induction view using innermost.induct with
    | case1 display container name arguments =>
      rw [reference, ranks, TypeExpr.rankSuffixes, String.append_empty]
      rfl
    | case2 display element rank ih =>
      rw [reference, TypeRef.arrayOf, ranks, TypeExpr.rankSuffixes_concat, ← String.append_assoc,
        innermost, ← ih, TypeExpr.rankSuffix, String.append_assoc, String.append_assoc,
        String.append_assoc]

/-- The positions of a type are those of its reference, which mirrors the type at each of them. -/
theorem rel_at?_reference (view : TypeView) (position : List Nat) :
    Option.Rel TypeRef.Mirrors (view.reference.at? position) (view.at? position) := by
  induction position generalizing view with
  | nil => exact .some view.mirrors_reference
  | cons index rest ih =>
    rw [TypeRef.at?, at?, arguments_reference, List.getElem?_map]
    cases view.innermost.arguments[index]? with
    | none => exact .none
    | some argument => exact ih argument

theorem isSome_at?_reference (view : TypeView) (position : List Nat) :
    (view.reference.at? position).isSome = (view.at? position).isSome := by
  have hrel := view.rel_at?_reference position
  generalize view.reference.at? position = r?, view.at? position = found? at hrel
  cases hrel with
  | some _ => rfl
  | none => rfl

/-- A type has a position with a number of steps when its reference is that deep. -/
theorem exists_isSome_at?_iff (steps : Nat) (view : TypeView) :
    (∃ position, position.length = steps ∧ (view.at? position).isSome) ↔
      steps ≤ view.reference.depth := by
  rw [← TypeRef.exists_isSome_at?_iff]
  simp only [isSome_at?_reference]

/-! ### The left-most position -/

/-- If there are positions with a number of steps, one of them is the left-most. -/
theorem exists_isFirst {steps : Nat} {view : TypeView} {position : List Nat}
    (hlength : position.length = steps) (hsome : (view.at? position).isSome) :
    ∃ first, view.IsFirst steps first := by
  classical
  induction steps generalizing view position with
  | zero => exact ⟨[], rfl, rfl, fun other hother _ ↦ .inl (List.eq_nil_of_length_eq_zero hother)⟩
  | succ steps ih =>
    let leads (index : Nat) : Prop := ∃ argument rest,
      view.innermost.arguments[index]? = some argument ∧ rest.length = steps ∧
        (argument.at? rest).isSome
    have hleads {index : Nat} {rest : List Nat} (hlength : (index :: rest).length = steps + 1)
        (hsome : (view.at? (index :: rest)).isSome) : leads index := by
      rw [at?, Option.isSome_bind, Option.any_eq_true] at hsome
      obtain ⟨argument, hargument, hrest⟩ := hsome
      exact ⟨argument, rest, hargument, Nat.succ.inj hlength, hrest⟩
    obtain ⟨index, rest, rfl⟩ := List.exists_cons_of_length_eq_add_one hlength
    -- The left-most position goes through the first argument that leads deep enough.
    have hexists : ∃ index, leads index := ⟨index, hleads hlength hsome⟩
    obtain ⟨argument, deep, hargument, hdeep, hfound⟩ := Nat.find_spec hexists
    obtain ⟨first, hfirst⟩ := ih hdeep hfound
    have hat (tail : List Nat) :
        view.at? (Nat.find hexists :: tail) = argument.at? tail := by
      rw [at?, hargument, Option.bind_some]
    refine ⟨Nat.find hexists :: first, congrArg (· + 1) hfirst.length_eq, ?_, ?_⟩
    · rw [hat]
      exact hfirst.isSome_at?
    · intro other hother hsomeOther
      obtain ⟨next, tail, rfl⟩ := List.exists_cons_of_length_eq_add_one hother
      obtain hlt | heq := Nat.lt_or_eq_of_le (Nat.find_min' hexists (hleads hother hsomeOther))
      · exact .inr (.rel hlt)
      · rw [← heq, hat] at hsomeOther
        rw [← heq]
        exact (hfirst.eq_or_lex tail (Nat.succ.inj hother) hsomeOther).imp (congrArg (_ :: ·)) .cons

/-- Behind its first number a left-most position is left-most, and the arguments in front of the one that
it leads to have no position with as many steps. -/
theorem IsFirst.cons {view : TypeView} {steps index : Nat} {rest : List Nat}
    (h : view.IsFirst steps (index :: rest)) :
    ∃ front argument back, view.innermost.arguments = front ++ argument :: back ∧
      front.length = index ∧ argument.IsFirst rest.length rest ∧
        ∀ earlier ∈ front, earlier.reference.depth < rest.length := by
  have hsome := h.isSome_at?
  rw [at?, Option.isSome_bind, Option.any_eq_true] at hsome
  obtain ⟨argument, hargument, hrest⟩ := hsome
  obtain ⟨hindex, hget⟩ := List.getElem?_eq_some_iff.mp hargument
  have hother {next : Nat} {other : TypeView} {tail : List Nat}
      (hnext : view.innermost.arguments[next]? = some other) (hlength : tail.length = rest.length)
      (htail : (other.at? tail).isSome) :
      index < next ∨ index = next ∧ (tail = rest ∨ List.Lex (· < ·) rest tail) := by
    have hat : (view.at? (next :: tail)).isSome := by
      rw [at?, hnext]
      exact htail
    obtain heq | hlex := h.eq_or_lex (next :: tail)
        ((congrArg (· + 1) hlength).trans h.length_eq) hat
    · obtain ⟨rfl, rfl⟩ := List.cons.inj heq
      exact .inr ⟨rfl, .inl rfl⟩
    · cases hlex with
      | rel hlt => exact .inl hlt
      | cons hlex => exact .inr ⟨rfl, .inr hlex⟩
  refine ⟨view.innermost.arguments.take index, argument, view.innermost.arguments.drop (index + 1),
    ?_, List.length_take_of_le (Nat.le_of_lt hindex), ⟨rfl, hrest, fun tail hlength htail ↦ ?_⟩,
    fun earlier hearlier ↦ ?_⟩
  · rw [← hget, List.getElem_cons_drop, List.take_append_drop]
  · obtain hlt | ⟨-, hle⟩ := hother hargument hlength htail
    · exact absurd hlt (Nat.lt_irrefl index)
    · exact hle
  · obtain ⟨next, hnext⟩ := List.getElem?_of_mem hearlier
    rw [List.getElem?_take] at hnext
    split at hnext
    · next hbefore =>
      refine Nat.lt_of_not_le fun hdeep ↦ ?_
      obtain ⟨tail, hlength, htail⟩ := (exists_isSome_at?_iff _ _).mpr hdeep
      obtain hlt | ⟨heq, -⟩ := hother hnext hlength htail
      · exact Nat.lt_asymm hbefore hlt
      · exact Nat.ne_of_gt hbefore heq
    · cases hnext

/-! ### Where a type is refused -/

/-- Arguments are refused with the first of them that is. -/
theorem argumentsAt_append_cons {depth : Nat} {enclosing : String} {front back : List TypeView}
    {argument : TypeView} {reason : ExtractionError}
    (hfront : ∀ earlier ∈ front, ∃ r, earlier.typeRefAt depth = .ok r)
    (hargument : argument.typeRefAt depth = .error reason) :
    argumentsAt depth enclosing (front ++ argument :: back) = .error (reason.within enclosing) := by
  induction front with
  | nil =>
    rw [List.nil_append, argumentsAt, hargument]
    rfl
  | cons earlier rest ih =>
    obtain ⟨⟨r, hr⟩, hrest⟩ := List.forall_mem_cons.mp hfront
    rw [List.cons_append, argumentsAt, hr, ih hrest]
    rfl

/-- Assumes: a depth within the limit. With the arguments of the type inside its array layers an array
is refused. -/
theorem typeRefAt_of_innermost {depth : Nat} (hdepth : depth ≤ maxArgumentDepth) {view : TypeView}
    {reason : ExtractionError}
    (h : argumentsAt (depth + 1) view.innermost.display view.innermost.arguments = .error reason) :
    view.typeRefAt depth = .error reason := by
  induction view using innermost.induct with
  | case1 display container name arguments =>
    rw [innermost] at h
    rw [typeRefAt, if_neg (Nat.not_lt.mpr hdepth), h]
    rfl
  | case2 display element rank ih =>
    rw [typeRefAt, if_neg (Nat.not_lt.mpr hdepth), ih h]
    rfl

/-- At a depth, a type is refused at its left-most position that lies one step beyond the limit. The chain
of the error has the generic types around this position. -/
theorem typeRefAt_of_isFirst {depth steps : Nat} (hsteps : depth + steps = maxArgumentDepth + 1)
    {view found : TypeView} {position : List Nat} (h : view.IsFirst steps position)
    (hfound : view.at? position = some found) :
    view.typeRefAt depth = .error (.genericRecursion found.display (view.around position)) := by
  induction position generalizing depth steps view with
  | nil =>
    obtain rfl := h.length_eq
    obtain rfl := Option.some.inj hfound
    have hbeyond : maxArgumentDepth < depth := Nat.lt_of_succ_le (Nat.le_of_eq hsteps.symm)
    cases view with
    | named => rw [typeRefAt, if_pos hbeyond, around, display]
    | array => rw [typeRefAt, if_pos hbeyond, around, display]
  | cons index rest ih =>
    have hlength := h.length_eq
    rw [List.length_cons] at hlength
    obtain ⟨front, argument, back, harguments, hindex, hfirst, hearlier⟩ := h.cons
    have hargument : view.innermost.arguments[index]? = some argument := by
      rw [harguments, ← hindex, List.getElem?_append_right (Nat.le_refl _), Nat.sub_self,
        List.getElem?_cons_zero]
    have hrefused : argument.typeRefAt (depth + 1) =
        .error (.genericRecursion found.display (argument.around rest)) := by
      refine ih (by omega) hfirst ?_
      rw [at?, hargument] at hfound
      exact hfound
    have hfront : ∀ earlier ∈ front, ∃ r, earlier.typeRefAt (depth + 1) = .ok r := by
      intro earlier hmem
      have hdepth := hearlier earlier hmem
      exact ⟨_, (typeRefAt_eq_ok_iff _ _ _).mpr ⟨rfl, by omega⟩⟩
    refine typeRefAt_of_innermost (by omega) ?_
    rw [harguments, argumentsAt_append_cons hfront hrefused, around, hargument]
    rfl

/-- There is one generic type around a position for each of its steps. -/
theorem length_around {view : TypeView} {position : List Nat} (h : (view.at? position).isSome) :
    (view.around position).length = position.length := by
  induction position generalizing view with
  | nil => rfl
  | cons index rest ih =>
    rw [at?, Option.isSome_bind, Option.any_eq_true] at h
    obtain ⟨argument, hargument, hrest⟩ := h
    rw [around, hargument, Option.elim_some, List.length_append, ih hrest, List.length_cons]
    rfl

end TypeView

/-! ### The limit -/

open TypeView in
/-- The limit on type arguments is exact. A symbol has a reference just when no position of it is longer
than the limit, and then the reference has the same positions and mirrors the symbol at each of them.
Otherwise the symbol is refused, at the left-most of the positions that are one longer than the limit: the
error names the type found there, and its chain has the generic types around it, as many as the position
has steps. -/
theorem Host.typeRef_ok_iff_forall_position {ν σ : Type} (host : Host ν σ) (s : σ) :
    let view := host.view s
    ((∃ r, host.typeRef s = .ok r) ↔
        ∀ position, (view.at? position).isSome → position.length ≤ maxArgumentDepth) ∧
      (∀ r, host.typeRef s = .ok r →
        ∀ position, Option.Rel TypeRef.Mirrors (r.at? position) (view.at? position)) ∧
      ((¬ ∃ r, host.typeRef s = .ok r) → ∃ position found,
        view.IsFirst (maxArgumentDepth + 1) position ∧ view.at? position = some found ∧
          (view.around position).length = maxArgumentDepth + 1 ∧
          host.typeRef s = .error (.genericRecursion found.display (view.around position))) := by
  intro view
  have hok (r : TypeRef) : host.typeRef s = .ok r ↔
      view.reference = r ∧ r.depth ≤ maxArgumentDepth := typeRef_eq_ok_iff
  have hexists : (∃ r, host.typeRef s = .ok r) ↔ view.reference.depth ≤ maxArgumentDepth := by
    simp only [hok, exists_eq_left']
  refine ⟨hexists.trans ⟨fun hdepth position hsome ↦ ?_, fun hall ↦ ?_⟩, fun r hr ↦ ?_, fun hnone ↦ ?_⟩
  · exact Nat.le_trans ((exists_isSome_at?_iff _ _).mp ⟨position, rfl, hsome⟩) hdepth
  · obtain ⟨position, hlength, hsome⟩ := (exists_isSome_at?_iff _ view).mpr (Nat.le_refl _)
    exact hlength ▸ hall position hsome
  · obtain ⟨rfl, -⟩ := (hok r).mp hr
    exact view.rel_at?_reference
  · rw [hexists, Nat.not_le] at hnone
    obtain ⟨deep, hlength, hsome⟩ := (exists_isSome_at?_iff _ view).mpr hnone
    obtain ⟨position, hfirst⟩ := exists_isFirst hlength hsome
    obtain ⟨found, hfound⟩ := Option.isSome_iff_exists.mp hfirst.isSome_at?
    exact ⟨position, found, hfirst, hfound, (length_around hfirst.isSome_at?).trans hfirst.length_eq,
      typeRefAt_of_isFirst (Nat.zero_add _) hfirst hfound⟩

end HubRelay
