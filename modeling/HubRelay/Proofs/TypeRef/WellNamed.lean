import HubRelay.Proofs.TypeExpr.Grammar
import HubRelay.TypeRef.Rendering
import Mathlib.Data.List.TakeWhile

/-!
# Well-named references

A reference can be written down in a program when its parts are what a program can write: its
namespace dotted identifiers, its name an identifier with array suffixes after it, and its type
arguments references of this kind (`TypeRef.IsWellNamed`). The identifier and the suffixes can then
be told apart again (`splitSuffix_append_rankSuffixes`), and a style that writes a keyword for the
reference writes the keyword of just this type (`typeName?_of_keywordIn?_eq_some`).
-/

set_option autoImplicit false

namespace HubRelay

/-! ### Arrays of arrays -/

namespace TypeExpr

/-- Array suffixes one after the other, that of the innermost array first. -/
def rankSuffixes : List Nat → String
  | [] => ""
  | rank :: more => rankSuffix rank ++ rankSuffixes more

theorem rankSuffixes_concat (ranks : List Nat) (rank : Nat) :
    rankSuffixes (ranks ++ [rank]) = rankSuffixes ranks ++ rankSuffix rank := by
  induction ranks with
  | nil =>
    rw [List.nil_append, rankSuffixes, rankSuffixes, rankSuffixes, String.append_empty,
      String.empty_append]
  | cons first more ih => rw [List.cons_append, rankSuffixes, ih, rankSuffixes, String.append_assoc]

/-- Arrays of arrays, with the dimensions of the innermost array first. -/
def arrays (t : TypeExpr) : List Nat → TypeExpr
  | [] => t
  | rank :: more => arrays (.array t rank) more

/-- Arrays are written with their suffixes after the type of their elements. -/
theorem render_arrays (t : TypeExpr) (ranks : List Nat) :
    (arrays t ranks).render = t.render ++ rankSuffixes ranks := by
  induction ranks generalizing t with
  | nil => rw [arrays, rankSuffixes, String.append_empty]
  | cons rank more ih => rw [arrays, ih, render, rankSuffixes, String.append_assoc]

/-- Arrays with at least one dimension of a type are types. -/
theorem isType_arrays {t : TypeExpr} {ranks : List Nat} (ht : IsType t)
    (hranks : ∀ rank ∈ ranks, 1 ≤ rank) : IsType (arrays t ranks) := by
  induction ranks generalizing t with
  | nil => exact ht
  | cons rank more ih =>
    exact ih (.array ht (hranks rank List.mem_cons_self))
      fun other h ↦ hranks other (List.mem_cons_of_mem _ h)

/-! ### Plain identifiers -/

/-- Whether a text is an identifier without a leading `@`. -/
def isPlainIdentifier (text : String) : Bool :=
  isIdentifier text && text.toList.head? != some '@'

/-- A plain identifier is an identifier. -/
theorem isIdentifier_of_isPlainIdentifier {text : String} (h : isPlainIdentifier text = true) :
    isIdentifier text = true :=
  (Bool.and_eq_true _ _ ▸ h).1

/-- No identifier has a bracket in it. -/
theorem bracket_notMem_identifier {text : String} (h : isIdentifier text = true) :
    '[' ∉ text.toList := by
  obtain ⟨c, rest, htext, hstart, hrest⟩ := isIdentifier_iff.mp h
  have hbracket : startsIdentifier '[' = false ∧ continuesIdentifier '[' = false := by
    decide +kernel
  rw [htext]
  intro hmem
  rcases List.mem_cons.mp hmem with rfl | hmem
  · exact Bool.noConfusion (hstart.symm.trans hbracket.1)
  · exact Bool.noConfusion ((hrest _ hmem).symm.trans hbracket.2)

end TypeExpr

/-! ### The names of references -/

namespace TypeRef

open TypeExpr (isIdentifier isPlainIdentifier rankSuffix rankSuffixes)

/-- A namespace that is empty, or identifiers with a dot between any two. -/
def IsDotted (container : String) : Prop :=
  ∃ qualifiers : List String, (∀ qualifier ∈ qualifiers, isIdentifier qualifier = true) ∧
    ".".intercalate qualifiers = container

/-- The global namespace has no identifiers. -/
theorem isDotted_empty : IsDotted "" :=
  ⟨[], List.forall_mem_nil _, rfl⟩

/-- A reference whose namespace is empty or dotted identifiers, whose name is an identifier with
array suffixes, and whose type arguments are such references. -/
inductive IsWellNamed : TypeRef → Prop
  | intro {container stem : String} {ranks : List Nat} {arguments : List TypeRef}
      (hcontainer : IsDotted container) (hstem : isPlainIdentifier stem = true)
      (hranks : ∀ rank ∈ ranks, 1 ≤ rank)
      (harguments : ∀ argument ∈ arguments, IsWellNamed argument) :
      IsWellNamed ⟨container, stem ++ rankSuffixes ranks, arguments⟩

/-- A reference without array suffixes is well named when its parts are. -/
theorem IsWellNamed.of_parts {container name : String} {arguments : List TypeRef}
    (hcontainer : IsDotted container) (hname : isPlainIdentifier name = true)
    (harguments : ∀ argument ∈ arguments, IsWellNamed argument) :
    IsWellNamed ⟨container, name, arguments⟩ := by
  have h : IsWellNamed ⟨container, name ++ rankSuffixes [], arguments⟩ :=
    .intro hcontainer hname (List.forall_mem_nil _) harguments
  rwa [rankSuffixes, String.append_empty] at h

/-- Arrays of a well-named type are well named. -/
theorem IsWellNamed.arrayOf {r : TypeRef} {rank : Nat} (h : IsWellNamed r) (hrank : 1 ≤ rank) :
    IsWellNamed (r.arrayOf rank) := by
  cases h with
  | @intro container stem ranks arguments hcontainer hstem hranks harguments =>
    have hall : ∀ other ∈ ranks ++ [rank], 1 ≤ other := fun other hother ↦
      (List.mem_append.mp hother).elim (hranks other) fun hlast ↦ by
        rwa [List.mem_singleton.mp hlast]
    have harray := IsWellNamed.intro hcontainer hstem hall harguments
    have hname : stem ++ rankSuffixes (ranks ++ [rank]) =
        stem ++ rankSuffixes ranks ++ "[" ++ "".pushn ',' (rank - 1) ++ "]" := by
      rw [TypeExpr.rankSuffixes_concat, rankSuffix]
      simp only [String.append_assoc]
    rwa [hname] at harray

/-- Array suffixes begin with a bracket, if there are any. -/
theorem head?_rankSuffixes (ranks : List Nat) :
    ∀ c ∈ (rankSuffixes ranks).toList.head?, c = '[' := by
  cases ranks with
  | nil =>
    intro c hc
    cases hc
  | cons rank more =>
    intro c hc
    rw [rankSuffixes, rankSuffix, String.toList_append, String.toList_append, String.toList_append]
      at hc
    exact (Option.some.inj hc).symm

/-- What is split off a name makes up the name. -/
theorem append_splitSuffix (name : String) : (splitSuffix name).1 ++ (splitSuffix name).2 = name := by
  unfold splitSuffix
  dsimp only
  rw [← String.ofList_append, List.prefix_iff_eq_append.mp (List.takeWhile_prefix _),
    String.ofList_toList]

/-- A name without a bracket has no suffixes. -/
theorem splitSuffix_of_bracket_notMem {name : String} (h : '[' ∉ name.toList) :
    splitSuffix name = (name, "") := by
  have hall : ∀ c ∈ name.toList, (c != '[') = true := by
    intro c hc
    rw [bne_iff_ne]
    rintro rfl
    exact h hc
  have htake : name.toList.takeWhile (· != '[') = name.toList := List.takeWhile_eq_self_iff.mpr hall
  unfold splitSuffix
  dsimp only
  rw [htake, List.drop_length, String.ofList_toList, String.ofList_nil]

/-- Assumes: an appended text that begins with a bracket. It belongs to the suffixes. -/
theorem splitSuffix_append {name suffix : String} (h : ∀ c ∈ suffix.toList.head?, c = '[') :
    splitSuffix (name ++ suffix) = ((splitSuffix name).1, (splitSuffix name).2 ++ suffix) := by
  have hsuffix : suffix.toList.takeWhile (· != '[') = [] := by
    cases hlist : suffix.toList with
    | nil => rfl
    | cons c rest =>
      rw [hlist] at h
      obtain rfl := h c rfl
      rfl
  have htake : (name ++ suffix).toList.takeWhile (· != '[') = name.toList.takeWhile (· != '[') := by
    rw [String.toList_append, List.takeWhile_append, hsuffix, List.append_nil]
    split
    · next hlength => exact ((List.takeWhile_prefix _).eq_of_length hlength).symm
    · rfl
  unfold splitSuffix
  dsimp only
  rw [htake, String.toList_append,
    List.drop_append_of_le_length (List.takeWhile_prefix _).length_le, String.ofList_append,
    String.ofList_toList]

/-- The identifier and the suffixes of a name are told apart. -/
theorem splitSuffix_append_rankSuffixes {stem : String} (hstem : isIdentifier stem = true)
    (ranks : List Nat) :
    splitSuffix (stem ++ rankSuffixes ranks) = (stem, rankSuffixes ranks) := by
  have hplain := splitSuffix_of_bracket_notMem (TypeExpr.bracket_notMem_identifier hstem)
  rw [splitSuffix_append (head?_rankSuffixes ranks), hplain, String.empty_append]

/-- A style writes a keyword for the type that the keyword stands for. -/
theorem typeName?_of_keywordIn?_eq_some {style : NameStyle} {container name stem keyword : String}
    (hstem : (splitSuffix name).1 = stem)
    (h : keywordIn? style container name stem = some keyword) :
    container = Keyword.systemNamespace ∧ Keyword.typeName? keyword = some stem := by
  unfold keywordIn? at h
  split at h
  · next hvoid =>
    obtain ⟨hcontainer, rfl⟩ := hvoid
    obtain rfl := Option.some.inj h
    rw [← hstem]
    exact ⟨hcontainer, by decide⟩
  · split at h
    · unfold Keyword.ofType? at h
      split at h
      · next hcontainer =>
        obtain ⟨entry, hentry, rfl⟩ := Option.map_eq_some_iff.mp h
        have hbeq := List.find?_some hentry
        have hname : entry.2 = stem := eq_of_beq hbeq
        have hmem := List.mem_of_find?_eq_some hentry
        rw [← hname]
        exact ⟨hcontainer, (Keyword.ofType?_typeName? entry hmem).1⟩
      · cases h
    · cases h

end TypeRef

end HubRelay
