import HubRelay.Proofs.TypeExpr.Spelling
import HubRelay.Proofs.TypeRef.WellNamed

/-!
# The names of array types

An array type keeps its suffix at the end of its name, behind the suffixes that stand there, and every
style writes the suffixes last. So the array of a type is written as the type with one more suffix
(`TypeRef.render_arrayOf`), whatever the name of the type looks like, and arrays of arrays are written
with their suffixes in order (`TypeRef.renderings_arrays`). Only `System.Void` is different: by itself it is
written by its keyword in every style, while an array of it has the keyword only in the styles that
prefer keywords (`TypeRef.render_arrays_void`). In these the keyword is that of the identifier, whether
suffixes follow or not (`TypeRef.keywordIn?_eq_ofType?`).
-/

set_option autoImplicit false

namespace HubRelay.TypeRef

open TypeExpr (rankSuffix rankSuffixes toList_rankSuffix)

/-- An array type by its name. -/
theorem arrayOf_eq (r : TypeRef) (rank : Nat) :
    r.arrayOf rank = ⟨r.container, r.name ++ rankSuffix rank, r.arguments⟩ := by
  rw [arrayOf, rankSuffix]
  simp only [String.append_assoc]

/-- The type of the elements can be read off an array type of a known rank. -/
theorem arrayOf_inj {r s : TypeRef} {rank : Nat} : r.arrayOf rank = s.arrayOf rank ↔ r = s := by
  obtain ⟨container, name, arguments⟩ := r
  obtain ⟨otherContainer, otherName, otherArguments⟩ := s
  rw [arrayOf_eq, arrayOf_eq, mk.injEq, mk.injEq, String.append_left_inj]

/-- What is split off the name of an array type. -/
theorem splitSuffix_append_rankSuffix (name : String) (rank : Nat) :
    splitSuffix (name ++ rankSuffix rank) =
      ((splitSuffix name).1, (splitSuffix name).2 ++ rankSuffix rank) := by
  refine splitSuffix_append fun c hc ↦ ?_
  rw [toList_rankSuffix] at hc
  exact (Option.some.inj hc).symm

/-- The name of an array is not the one that is written by its keyword in every style. -/
theorem append_rankSuffix_ne_void (name : String) (rank : Nat) : name ++ rankSuffix rank ≠ "Void" := by
  intro heq
  have hmem : '[' ∈ (name ++ rankSuffix rank).toList := by
    rw [String.toList_append, toList_rankSuffix]
    exact List.mem_append_right _ List.mem_cons_self
  rw [heq] at hmem
  exact absurd hmem (by decide)

/-! ### Keywords -/

variable {style : NameStyle}

/-- A style that prefers keywords writes the keyword of the identifier. The exception for `void` is
none here, since `void` is in the table. -/
theorem keywordIn?_eq_ofType? (hstyle : style.prefersKeyword = true) (container name : String) :
    keywordIn? style container name (splitSuffix name).1 =
      Keyword.ofType? container (splitSuffix name).1 := by
  unfold keywordIn?
  split
  · next hvoid =>
    obtain ⟨rfl, rfl⟩ := hvoid
    decide
  · rfl

/-- Assumes: another type than `System.Void`, or a style that prefers keywords. A suffix does not
change which keyword is written. -/
theorem keywordIn?_append_rankSuffix {container name : String}
    (h : ¬ (container = Keyword.systemNamespace ∧ name = "Void") ∨ style.prefersKeyword = true)
    (rank : Nat) :
    keywordIn? style container (name ++ rankSuffix rank) (splitSuffix name).1 =
      keywordIn? style container name (splitSuffix name).1 := by
  have hstem : (splitSuffix (name ++ rankSuffix rank)).1 = (splitSuffix name).1 := by
    rw [splitSuffix_append_rankSuffix]
  by_cases hstyle : style.prefersKeyword = true
  · have hsuffixed := keywordIn?_eq_ofType? hstyle container (name ++ rankSuffix rank)
    rw [hstem] at hsuffixed
    rw [hsuffixed, keywordIn?_eq_ofType? hstyle]
  · have hvoid := h.resolve_right hstyle
    have hsuffixed : name ++ rankSuffix rank ≠ "Void" := by
      intro heq
      have hmem : '[' ∈ (name ++ rankSuffix rank).toList := by
        rw [String.toList_append, toList_rankSuffix]
        exact List.mem_append_right _ List.mem_cons_self
      rw [heq] at hmem
      exact absurd hmem (by decide)
    unfold keywordIn?
    rw [if_neg hvoid, if_neg fun hboth ↦ hsuffixed hboth.2]

/-! ### Names -/

/-- The name of a type without type arguments. -/
theorem render_nil (style : NameStyle) (container name : String) :
    render style ⟨container, name, []⟩ =
      (keywordIn? style container name (splitSuffix name).1).getD
        (qualification style container ++ (splitSuffix name).1) ++ (splitSuffix name).2 := by
  rw [render]
  dsimp only
  split
  · next h => rw [h, Option.getD_some]
  · next h => rw [h, Option.getD_none]

/-- Assumes: another type than `System.Void`, or a style that prefers keywords. The name of an array is
the name of its elements with a suffix. -/
theorem render_arrayOf {r : TypeRef} (h : r.isVoid = false ∨ style.prefersKeyword = true)
    (rank : Nat) : (r.arrayOf rank).render style = r.render style ++ rankSuffix rank := by
  obtain ⟨container, name, arguments⟩ := r
  rw [arrayOf_eq]
  cases arguments with
  | nil =>
    have hvoid : ¬ (container = Keyword.systemNamespace ∧ name = "Void") ∨
        style.prefersKeyword = true := by
      refine h.imp_left fun hother ↦ ?_
      rintro ⟨rfl, rfl⟩
      exact Bool.noConfusion hother
    rw [render_nil, render_nil, splitSuffix_append_rankSuffix, keywordIn?_append_rankSuffix hvoid,
      String.append_assoc]
  | cons first rest =>
    rw [render, render, splitSuffix_append_rankSuffix]
    simp only [String.append_assoc]

/-! ### Arrays of arrays -/

/-- Arrays of arrays of a type, with the dimensions of the innermost array first. -/
def arrays (r : TypeRef) (ranks : List Nat) : TypeRef := ranks.foldl arrayOf r

/-- Only one reference is that of the type of methods that return nothing. -/
theorem isVoid_eq_false_iff {r : TypeRef} : r.isVoid = false ↔ r ≠ plain "System" "Void" := by
  obtain ⟨container, name, arguments⟩ := r
  rw [← Bool.not_eq_true, isVoid, isPlain, plain, Ne, TypeRef.mk.injEq]
  simp only [Bool.and_eq_true, beq_iff_eq, List.isEmpty_iff, and_assoc]

/-- An array returns something, be it of `System.Void`. -/
theorem isVoid_arrayOf (r : TypeRef) (rank : Nat) : (r.arrayOf rank).isVoid = false := by
  rw [isVoid_eq_false_iff, arrayOf_eq]
  intro heq
  exact append_rankSuffix_ne_void r.name rank (congrArg TypeRef.name heq)

/-- Assumes: another type than `System.Void`, or a style that prefers keywords. Arrays of arrays are
named as their elements, with one suffix after the other. -/
theorem render_arrays_append {r : TypeRef} (h : r.isVoid = false ∨ style.prefersKeyword = true)
    (ranks : List Nat) : (r.arrays ranks).render style = r.render style ++ rankSuffixes ranks := by
  induction ranks generalizing r with
  | nil => rw [arrays, List.foldl_nil, rankSuffixes, String.append_empty]
  | cons rank more ih =>
    have hmore := ih (.inl (isVoid_arrayOf r rank))
    rw [arrays, List.foldl_cons, ← arrays, hmore, render_arrayOf h, rankSuffixes, String.append_assoc]

/-- Arrays of `System.Void` have the keyword in the styles that prefer keywords, and the full name in
the others. -/
theorem render_arrays_void (style : NameStyle) (rank : Nat) (ranks : List Nat) :
    ((plain "System" "Void").arrays (rank :: ranks)).render style =
      (if style.prefersKeyword then "void" else "global::System.Void") ++
        rankSuffixes (rank :: ranks) := by
  split
  · next hstyle =>
    have hvoid : (plain "System" "Void").render style = "void" := by
      cases style <;> decide
    rw [render_arrays_append (.inr hstyle), hvoid]
  · next hstyle =>
    -- The innermost array is `System.Void` no more, and what is around it is as for any type.
    have hkeyword : keywordIn? style "System" ("Void" ++ rankSuffix rank) "Void" = none := by
      unfold keywordIn?
      rw [if_neg fun hboth ↦ append_rankSuffix_ne_void "Void" rank hboth.2, if_neg hstyle]
    have hqualification : qualification style "System" = "global::System." := by
      cases style with
      | global | cref => decide
      | keyword | short => exact absurd rfl hstyle
    have hsplit : splitSuffix "Void" = ("Void", "") := by decide
    have hname : "global::System." ++ "Void" = "global::System.Void" := by decide
    have hinner : ((plain "System" "Void").arrayOf rank).render style =
        "global::System.Void" ++ rankSuffix rank := by
      rw [arrayOf_eq, plain, render_nil, splitSuffix_append_rankSuffix, hsplit, hkeyword,
        Option.getD_none, hqualification, String.empty_append]
      exact congrArg (· ++ rankSuffix rank) hname
    have hother := isVoid_arrayOf (plain "System" "Void") rank
    rw [arrays, List.foldl_cons, ← arrays, render_arrays_append (.inl hother), hinner, rankSuffixes,
      String.append_assoc]

/-- Assumes: another type than `System.Void`. In each of the four styles, arrays of arrays of the type
are named as the type itself with a suffix for each array, that of the innermost first: `[` and `]`
around one comma less than there are dimensions. -/
theorem renderings_arrays {r : TypeRef} (h : r ≠ plain "System" "Void") (ranks : List Nat) :
    let suffixes := String.join (ranks.map fun rank ↦ "[" ++ "".pushn ',' (rank - 1) ++ "]")
    (r.arrays ranks).globalName = r.globalName ++ suffixes ∧
      (r.arrays ranks).crefName = r.crefName ++ suffixes ∧
      (r.arrays ranks).keywordOrGlobalName = r.keywordOrGlobalName ++ suffixes ∧
      (r.arrays ranks).shortName = r.shortName ++ suffixes := by
  have hsuffixes : String.join (ranks.map rankSuffix) = rankSuffixes ranks := by
    induction ranks with
    | nil => rfl
    | cons rank more ih => rw [List.map_cons, String.join_cons, ih, rankSuffixes]
  have hrender (style : NameStyle) :
      (r.arrays ranks).render style = r.render style ++ String.join (ranks.map rankSuffix) := by
    rw [hsuffixes]
    exact render_arrays_append (.inl (isVoid_eq_false_iff.mpr h)) ranks
  exact ⟨hrender .global, hrender .cref, hrender .keyword, hrender .short⟩

/-- A generic type with a bracket in its name. -/
theorem renderings_arrays_list :
    let list : TypeRef := ⟨"System.Collections.Generic", "List[", [plain "System" "Int32"]⟩
    list ≠ plain "System" "Void" ∧
      (list.arrays [2, 0, 1]).globalName =
        "global::System.Collections.Generic.List<global::System.Int32>[" ++ "[,][][]" ∧
      (list.arrays [2, 0, 1]).crefName =
        "global::System.Collections.Generic.List\x7bglobal::System.Int32\x7d[" ++ "[,][][]" ∧
      (list.arrays [2, 0, 1]).keywordOrGlobalName =
        "global::System.Collections.Generic.List<int>[" ++ "[,][][]" ∧
      (list.arrays [2, 0, 1]).shortName = "List<int>[" ++ "[,][][]" := by
  intro list
  have hother : list ≠ plain "System" "Void" := by decide
  obtain ⟨hglobal, hcref, hkeyword, hshort⟩ := renderings_arrays hother [2, 0, 1]
  exact ⟨hother, hglobal.trans (by decide +kernel), hcref.trans (by decide +kernel),
    hkeyword.trans (by decide +kernel), hshort.trans (by decide +kernel)⟩

end HubRelay.TypeRef
