import HubRelay.Proofs.Snapshot.LookupOrder
import Mathlib.Data.List.Forall2
import Mathlib.Logic.Relation

/-!
# Identifiers with `@` in front

In C# an identifier is the same with and without `@` in front. When a name is resolved, the `@` is taken off
the last identifier only, and the qualifying ones are compared with namespaces as they are written. So a type
and the same type with `@` in front of some identifiers (`TypeExpr.IsVerbatim`) stand for the same just when
each name that is looked up in them has the same qualifying identifiers in both
(`Model.resolve_verbatim_eq_iff`).

That they differ otherwise is seen from the namespaces of their symbols. The qualifying identifiers of a name
are the last parts of each namespace that it is searched in, so as many last parts of one namespace would have
to be different (`Model.resolvePath_eq_iff`). A nullable type needs an argument of its own: a value type and a
type that is none differ by a `System.Nullable` around the one, and the other could be just that if symbols
were inside each other (`Model.areApart_resolve`, `Model.nullableOf_eq_iff`).
-/

set_option autoImplicit false

namespace HubRelay

/-- An item of the second of two related lists is related to one of the first. -/
theorem exists_of_forall₂_of_mem {α β : Type} {R : α → β → Prop} {first : List α} {second : List β}
    (h : List.Forall₂ R first second) {y : β} (hy : y ∈ second) : ∃ x ∈ first, R x y := by
  induction h with
  | nil => cases hy
  | @cons x next _ _ hxy _ ih =>
    rcases List.mem_cons.mp hy with rfl | hrest
    · exact ⟨x, List.mem_cons_self, hxy⟩
    · obtain ⟨other, hother, hrelated⟩ := ih hrest
      exact ⟨other, List.mem_cons_of_mem _ hother, hrelated⟩

namespace Text

/-- Texts without separators, with the separator between any two, fall into these texts again. -/
theorem pieces_intercalate {separator : Char} {texts : List (List Char)} (hne : texts ≠ [])
    (h : ∀ text ∈ texts, separator ∉ text) : pieces separator ([separator].intercalate texts) = texts := by
  induction texts with
  | nil => exact absurd rfl hne
  | cons first rest ih =>
    obtain ⟨hfirst, hrest⟩ := List.forall_mem_cons.mp h
    cases rest with
    | nil => rw [List.intercalate_singleton, pieces_eq_singleton hfirst]
    | cons next more =>
      rw [List.intercalate_cons_cons, List.append_assoc, List.singleton_append,
        pieces_append_cons hfirst, ih (List.cons_ne_nil _ _) hrest]

end Text

namespace TypeExpr

/-! ### Identifiers with `@` -/

/-- The second identifier is the first one, or the first one with `@` in front, where there was none. -/
def IsVerbatimWord (identifier other : String) : Prop :=
  other = identifier ∨ '@' ∉ identifier.toList.head? ∧ other = "@" ++ identifier

/-- The second type is the first one with `@` in front of some of its identifiers. Aliases and keywords are
as they were. -/
inductive IsVerbatim : TypeExpr → TypeExpr → Prop
  | keyword (word : String) : IsVerbatim (.keyword word) (.keyword word)
  | simple {identifier other : String} (h : IsVerbatimWord identifier other) :
      IsVerbatim (.simple identifier) (.simple other)
  | generic {identifier other : String} {arguments others : List TypeExpr}
      (h : IsVerbatimWord identifier other) (harguments : List.Forall₂ IsVerbatim arguments others) :
      IsVerbatim (.generic identifier arguments) (.generic other others)
  | qualified {left right left' right' : TypeExpr} (hleft : IsVerbatim left left')
      (hright : IsVerbatim right right') : IsVerbatim (.qualified left right) (.qualified left' right')
  | aliased (label : String) {name name' : TypeExpr} (hname : IsVerbatim name name') :
      IsVerbatim (.aliased label name) (.aliased label name')
  | array {element element' : TypeExpr} (helement : IsVerbatim element element') (rank : Nat) :
      IsVerbatim (.array element rank) (.array element' rank)
  | nullable {inner inner' : TypeExpr} (hinner : IsVerbatim inner inner') :
      IsVerbatim (.nullable inner) (.nullable inner')

theorem IsVerbatimWord.withoutAt_eq {identifier other : String} (h : IsVerbatimWord identifier other) :
    Model.withoutAt other = Model.withoutAt identifier := by
  obtain rfl | ⟨-, rfl⟩ := h
  · rfl
  · rw [Model.withoutAt, Model.withoutAt, String.toList_append]
    rfl

theorem IsVerbatimWord.notMem {identifier other : String} (h : IsVerbatimWord identifier other) {c : Char}
    (hc : c ≠ '@') (hidentifier : c ∉ identifier.toList) : c ∉ other.toList := by
  obtain rfl | ⟨-, rfl⟩ := h
  · exact hidentifier
  · rw [String.toList_append, List.mem_append, not_or]
    exact ⟨List.mem_singleton.not.mpr hc, hidentifier⟩

/-! ### Paths -/

/-- The path of a name and that of the name with `@` in front of some identifiers. -/
structure Path.IsVerbatim (path other : Path) : Prop where
  label_eq : other.label = path.label
  qualifiers : List.Forall₂ IsVerbatimWord path.qualifiers other.qualifiers
  identifier : IsVerbatimWord path.identifier other.identifier
  arguments : List.Forall₂ TypeExpr.IsVerbatim path.arguments other.arguments

/-- A segment with `@` in front of some identifiers is a segment. -/
theorem IsVerbatim.exists_eq_segmentOf {identifier : String} {arguments : List TypeExpr} {t : TypeExpr}
    (h : IsVerbatim (segmentOf identifier arguments) t) :
    ∃ other others, t = segmentOf other others ∧ IsVerbatimWord identifier other ∧
      List.Forall₂ IsVerbatim arguments others := by
  unfold segmentOf at h
  split at h
  · next hnil =>
    cases h with
    | simple hword =>
      subst hnil
      exact ⟨_, [], rfl, hword, .nil⟩
  · next hne =>
    cases h with
    | @generic _ other _ others hword harguments =>
      have hothers : others ≠ [] := by
        rintro rfl
        exact hne (List.forall₂_nil_right_iff.mp harguments)
      exact ⟨other, others, by rw [segmentOf, if_neg hothers], hword, harguments⟩

/-- A name with `@` in front of some identifiers is a name. -/
theorem IsVerbatim.exists_hasPath {t t' : TypeExpr} {path : Path} (hpath : HasPath t path)
    (h : IsVerbatim t t') : ∃ other, HasPath t' other ∧ path.IsVerbatim other := by
  induction hpath generalizing t' with
  | segment identifier arguments =>
    obtain ⟨other, others, rfl, hword, harguments⟩ := h.exists_eq_segmentOf
    exact ⟨_, .segment other others, rfl, .nil, hword, harguments⟩
  | aliased label identifier arguments =>
    cases h with
    | aliased _ hname =>
      obtain ⟨other, others, rfl, hword, harguments⟩ := hname.exists_eq_segmentOf
      exact ⟨_, .aliased label other others, rfl, .nil, hword, harguments⟩
  | qualified hleft identifier arguments ih =>
    cases h with
    | qualified hleft' hright =>
      obtain ⟨other, others, rfl, hword, harguments⟩ := hright.exists_eq_segmentOf
      obtain ⟨before, hbefore, hlabel, hqualifiers, hidentifier, -⟩ := ih hleft'
      exact ⟨_, .qualified hbefore other others, hlabel,
        List.rel_append hqualifiers (.cons hidentifier .nil), hword, harguments⟩

/-- The list is as high as its highest entry. -/
theorem height_le_heightOfAll {arguments : List TypeExpr} :
    ∀ argument ∈ arguments, argument.height ≤ heightOfAll arguments := by
  induction arguments with
  | nil => exact List.forall_mem_nil _
  | cons first rest ih =>
    rw [heightOfAll]
    exact List.forall_mem_cons.mpr ⟨Nat.le_max_left _ _, fun argument hmem ↦
      Nat.le_trans (ih argument hmem) (Nat.le_max_right _ _)⟩

/-- The last segment is no higher than the name. -/
theorem height_rightmost_le (t : TypeExpr) : t.rightmost.height ≤ t.height := by
  cases t with
  | qualified left right =>
    rw [rightmost, height]
    exact Nat.le_succ_of_le (Nat.le_max_right _ _)
  | aliased label name =>
    rw [rightmost, height]
    exact Nat.le_succ _
  | keyword | simple | generic | array | nullable => exact Nat.le_refl _

/-- The type arguments of a name are types of the grammar, and lower than the name. -/
theorem isType_and_height_lt_of_mem_arguments {t : TypeExpr} (ht : IsName t) {path : Path}
    (hpath : HasPath t path) : ∀ argument ∈ path.arguments, IsType argument ∧ argument.height < t.height := by
  intro argument hargument
  obtain ⟨identifier, hsegment, -⟩ := exists_isSegment_rightmost ht
  have hheight := height_rightmost_le t
  rw [hpath.rightmost_eq, segmentOf, if_neg (List.ne_nil_of_mem hargument)] at hsegment hheight
  cases hsegment with
  | generic hidentifier hne harguments =>
    rw [height] at hheight
    exact ⟨harguments argument hargument,
      Nat.lt_of_lt_of_le (Nat.lt_succ_of_le (height_le_heightOfAll argument hargument)) hheight⟩

/-- The qualifying identifiers of a name of the grammar are identifiers. -/
theorem isIdentifier_of_mem_qualifiers {t : TypeExpr} (ht : IsName t) {path : Path}
    (hpath : HasPath t path) : ∀ qualifier ∈ path.qualifiers, isIdentifier qualifier = true := by
  obtain ⟨other, hother, -, hqualifiers⟩ := exists_path?_eq_of_isName ht
  rw [hpath.path?_eq] at hother
  obtain rfl := Option.some.inj hother
  exact fun qualifier h ↦ isLegal_of_mem_tokens_name ht _ (hqualifiers qualifier h)

/-- What holds of all types of the grammar and the same types with `@` in front of some identifiers, if it
holds of names because it holds of their type arguments, and of arrays and nullable types because it holds
of what they are made of. The induction is on the height of the type. -/
theorem verbatim_induction {P : TypeExpr → TypeExpr → Prop}
    (keyword : ∀ word, P (.keyword word) (.keyword word))
    (name : ∀ {t t' : TypeExpr} {path path' : Path}, HasPath t path → HasPath t' path' →
      path.IsVerbatim path' → (∀ qualifier ∈ path.qualifiers, isIdentifier qualifier = true) →
        List.Forall₂ P path.arguments path'.arguments → P t t')
    (array : ∀ {element element' : TypeExpr} (rank : Nat), P element element' →
      P (.array element rank) (.array element' rank))
    (nullable : ∀ {inner inner' : TypeExpr}, IsType inner → IsVerbatim inner inner' → P inner inner' →
      P (.nullable inner) (.nullable inner'))
    {t t' : TypeExpr} (ht : IsType t) (h : IsVerbatim t t') : P t t' := by
  induction hheight : t.height using Nat.strongRecOn generalizing t t' with
  | ind n ih =>
    cases ht with
    | keyword hword =>
      cases h
      exact keyword _
    | name ht =>
      obtain ⟨path, hpath⟩ := TypeExpr.exists_hasPath ht
      obtain ⟨path', hpath', hverbatim⟩ := h.exists_hasPath hpath
      have harguments := (List.forall₂_and_left _ _).mpr
        ⟨isType_and_height_lt_of_mem_arguments ht hpath, hverbatim.arguments⟩
      refine name hpath hpath' hverbatim (isIdentifier_of_mem_qualifiers ht hpath) <|
        harguments.imp ?_
      rintro argument other ⟨⟨hargument, hlower⟩, hother⟩
      exact ih _ (hheight ▸ hlower) hargument hother rfl
    | array helement hrank =>
      cases h with
      | array helement' =>
        exact array _ (ih _ (by rw [← hheight, TypeExpr.height]; omega) helement helement' rfl)
    | nullable hinner =>
      cases h with
      | nullable hinner' =>
        exact nullable hinner hinner'
          (ih _ (by rw [← hheight, TypeExpr.height]; omega) hinner hinner' rfl)

/-! ### Qualifiers -/

mutual

/-- The qualifying identifiers of each name in a type that is looked up: those of the name itself, and those
of the names in its type arguments. -/
def qualifications : TypeExpr → List (List String)
  | keyword _ => []
  | simple _ => [[]]
  | generic _ arguments => [] :: qualificationsInAll arguments
  | qualified left right => ((left.segments?.map (·.2)).getD []) :: (qualifications right).tail
  | aliased _ name => qualifications name
  | array element _ => qualifications element
  | nullable inner => qualifications inner

/-- The qualifying identifiers of each name in types that is looked up. -/
def qualificationsInAll : List TypeExpr → List (List String)
  | [] => []
  | first :: rest => qualifications first ++ qualificationsInAll rest

end

theorem qualificationsInAll_eq_flatMap (ts : List TypeExpr) :
    qualificationsInAll ts = ts.flatMap qualifications := by
  induction ts with
  | nil => rfl
  | cons first rest ih => rw [qualificationsInAll, ih, List.flatMap_cons]

theorem qualifications_segmentOf (identifier : String) (arguments : List TypeExpr) :
    (segmentOf identifier arguments).qualifications = [] :: arguments.flatMap qualifications := by
  rw [segmentOf]
  split
  · next hnil =>
    subst hnil
    rw [qualifications, List.flatMap_nil]
  · rw [qualifications, qualificationsInAll_eq_flatMap]

/-- The qualifying identifiers of a name are those of its path. -/
theorem HasPath.qualifications_eq {t : TypeExpr} {path : Path} (h : HasPath t path) :
    t.qualifications = path.qualifiers :: path.arguments.flatMap qualifications := by
  cases h with
  | segment => exact qualifications_segmentOf _ _
  | aliased => rw [qualifications, qualifications_segmentOf]
  | qualified hleft =>
    rw [qualifications, qualifications_segmentOf, hleft.segments?_eq]
    rfl

end TypeExpr

/-! ### Parts of symbols -/

namespace Symbol

/-- What a symbol is made of: the type arguments of a type, or the element of an array. -/
def parts : Symbol → List Symbol
  | declared _ _ arguments | external _ _ arguments => arguments
  | typeParameter _ => []
  | array element _ => [element]

/-- A symbol is inside another, at any depth. -/
def IsInside : Symbol → Symbol → Prop := Relation.TransGen fun part whole ↦ part ∈ whole.parts

/-- None of two symbols is inside the other. -/
def AreApart (s s' : Symbol) : Prop := ¬ IsInside s s' ∧ ¬ IsInside s' s

/-- Assumes: symbols of whose parts, one by one, none is inside the other. Then one whole is not inside the
other, for a part of it would be. -/
theorem not_isInside_of_parts {s s' : Symbol}
    (h : List.Forall₂ (fun part part' ↦ ¬ IsInside part part') s.parts s'.parts) : ¬ IsInside s s' := by
  intro hinside
  obtain ⟨part', hwithin, hpart'⟩ := Relation.TransGen.tail'_iff.mp hinside
  obtain ⟨part, hpart, hapart⟩ := exists_of_forall₂_of_mem h hpart'
  exact hapart (.head' hpart hwithin)

theorem areApart_of_parts {s s' : Symbol} (h : List.Forall₂ AreApart s.parts s'.parts) :
    AreApart s s' :=
  ⟨not_isInside_of_parts (h.imp fun _ _ hapart ↦ hapart.1),
    not_isInside_of_parts (List.Forall₂.flip (h.imp fun _ _ hapart ↦ hapart.2))⟩

end Symbol

namespace Model

variable {m : Model} {scope : TypeDecl}

open TypeExpr (IsType IsVerbatim HasPath)
open HubRelay.Symbol (AreApart IsInside)

theorem parts_named (container name : String) (arguments : List Symbol) :
    (m.named container name arguments).parts = arguments := by
  unfold named
  split <;> rfl

theorem parts_resolvePath (path : TypeExpr.Path) (arguments : List Symbol) :
    (m.resolvePath scope path arguments).parts = arguments := by
  obtain ⟨h, rfl, -⟩ | ⟨container, assembly, d, -, -, h⟩ | h := m.resolvePath_cases scope path arguments
  all_goals rw [h]; rfl

/-- The symbol of a nullable type, by the symbol of the type inside. -/
def nullableOf (m : Model) (s : Symbol) : Symbol :=
  if s.isValueType then m.named Keyword.systemNamespace "Nullable" [s] else s

theorem resolve_nullable (inner : TypeExpr) :
    m.resolve scope (.nullable inner) = m.nullableOf (m.resolve scope inner) := by
  rw [resolve]
  rfl

/-- Assumes: a symbol that is not inside another. Neither is it when the types are nullable. -/
theorem not_isInside_nullableOf {s s' : Symbol} (h : ¬ IsInside s s') :
    ¬ IsInside (m.nullableOf s) (m.nullableOf s') := by
  have hparts (s : Symbol) : (m.named Keyword.systemNamespace "Nullable" [s]).parts = [s] :=
    parts_named _ _ _
  unfold nullableOf
  split
  · next hvalue =>
    split
    · refine Symbol.not_isInside_of_parts ?_
      rw [hparts, hparts]
      exact .cons h .nil
    · have hpart : s ∈ (m.named Keyword.systemNamespace "Nullable" [s]).parts := by
        rw [hparts]
        exact List.mem_singleton_self s
      exact fun hinside ↦ h (.head hpart hinside)
  · next hother =>
    split
    · next hvalue =>
      intro hinside
      obtain ⟨part, hwithin, hpart⟩ := Relation.TransGen.tail'_iff.mp hinside
      rw [hparts] at hpart
      obtain rfl := List.mem_singleton.mp hpart
      -- They are different, since only one of them is a value type.
      have hne : s ≠ part := fun heq ↦ hother (heq ▸ hvalue)
      exact h ((Relation.reflTransGen_iff_eq_or_transGen.mp hwithin).resolve_left hne.symm)
    · exact h

/-- Assumes: symbols of which none is inside the other. If they are different, so are the nullable types. -/
theorem nullableOf_eq_iff {s s' : Symbol} (h : AreApart s s') :
    m.nullableOf s' = m.nullableOf s ↔ s' = s := by
  have hinside (s : Symbol) : IsInside s (m.named Keyword.systemNamespace "Nullable" [s]) := by
    refine .single ?_
    rw [parts_named]
    exact List.mem_singleton_self s
  refine ⟨fun heq ↦ ?_, congrArg _⟩
  unfold nullableOf at heq
  split at heq
  · split at heq
    · have hparts := congrArg Symbol.parts heq
      rw [parts_named, parts_named] at hparts
      exact (List.cons.inj hparts).1
    · exact absurd (heq ▸ hinside s') h.2
  · split at heq
    · exact absurd (heq ▸ hinside s) h.1
    · exact heq

/-! ### Names -/

/-- The qualifying identifiers of a name are the last parts of each namespace that it is searched in. -/
theorem qualifiers_suffix_of_mem_searched {path : TypeExpr.Path} (hne : path.qualifiers ≠ [])
    (hdots : ∀ qualifier ∈ path.qualifiers, '.' ∉ qualifier.toList) {container : String}
    (h : container ∈ searched scope path) :
    path.qualifiers.map String.toList <:+ Text.pieces '.' container.toList := by
  have hpieces : Text.pieces '.' path.qualifier.toList = path.qualifiers.map String.toList := by
    rw [TypeExpr.Path.qualifier, String.toList_intercalate]
    exact Text.pieces_intercalate (List.map_eq_nil_iff.not.mpr hne) (List.forall_mem_map.mpr hdots)
  have hplain : path.qualifiers.map String.toList <:+ Text.pieces '.' path.qualifier.toList :=
    hpieces ▸ List.suffix_rfl
  have hqualified : path.isQualified = true := by simp [TypeExpr.Path.isQualified, hne]
  unfold searched at h
  rw [if_pos hqualified] at h
  split at h
  · rwa [List.mem_singleton.mp h]
  · rcases List.mem_append.mp h with hbelow | hwritten
    · obtain ⟨outer, -, rfl⟩ := List.mem_map.mp hbelow
      rw [toList_append_dot, Text.pieces_append_separator_cons, hpieces]
      exact List.suffix_append _ _
    · rwa [List.mem_singleton.mp hwritten]

/-- The qualifying identifiers of a name are the last parts of the namespace of its symbol. -/
theorem qualifiers_suffix_container {path : TypeExpr.Path} (hne : path.qualifiers ≠ [])
    (hdots : ∀ qualifier ∈ path.qualifiers, '.' ∉ qualifier.toList) (arguments : List Symbol) :
    path.qualifiers.map String.toList <:+
      Text.pieces '.' (m.resolvePath scope path arguments).container.toList := by
  obtain ⟨-, -, hqualified⟩ | ⟨container, assembly, d, hmem, hlookup, h⟩ | h :=
    m.resolvePath_cases scope path arguments
  · simp [TypeExpr.Path.isQualified, hne] at hqualified
  · rw [h, Symbol.container, (key_of_lookup hlookup).1]
    exact qualifiers_suffix_of_mem_searched hne hdots hmem
  · rw [h, Symbol.container]
    exact qualifiers_suffix_of_mem_searched hne hdots (qualifier_mem_searched scope path)

/-- Assumes: a name whose qualifying identifiers have no dots in them, and the same name with `@` in front of
some identifiers. They stand for the same just when the qualifying identifiers and the type arguments are the
same. As many last parts of one namespace are the same, and the `@` in front of the last identifier does not
count. -/
theorem resolvePath_eq_iff {path other : TypeExpr.Path} (h : path.IsVerbatim other)
    (hdots : ∀ qualifier ∈ path.qualifiers, '.' ∉ qualifier.toList) (arguments others : List Symbol) :
    m.resolvePath scope other others = m.resolvePath scope path arguments ↔
      other.qualifiers = path.qualifiers ∧ others = arguments := by
  constructor
  · intro heq
    have harguments := congrArg Symbol.parts heq
    rw [parts_resolvePath, parts_resolvePath] at harguments
    refine ⟨?_, harguments⟩
    by_cases hnil : path.qualifiers = []
    · rw [hnil]
      exact List.forall₂_nil_left_iff.mp (hnil ▸ h.qualifiers)
    have hlength := h.qualifiers.length_eq
    have hne : other.qualifiers ≠ [] := by
      rw [← List.length_pos_iff, ← hlength]
      exact List.length_pos_iff.mpr hnil
    have hother : ∀ qualifier ∈ other.qualifiers, '.' ∉ qualifier.toList := fun qualifier hmem ↦ by
      obtain ⟨identifier, hidentifier, hword⟩ := exists_of_forall₂_of_mem h.qualifiers hmem
      exact hword.notMem (by decide) (hdots identifier hidentifier)
    have hsuffix := @qualifiers_suffix_container m scope _ hnil hdots arguments
    have hsuffix' := @qualifiers_suffix_container m scope _ hne hother others
    rw [heq] at hsuffix'
    have hsame := (List.suffix_of_suffix_length_le hsuffix' hsuffix (by simp [hlength])).eq_of_length
      (by simp [hlength])
    exact List.map_injective_iff.mpr (fun _ _ ↦ String.toList_inj.mp) hsame
  · rintro ⟨hqualifiers, rfl⟩
    unfold resolvePath searched TypeExpr.Path.isQualified TypeExpr.Path.qualifier
    rw [h.label_eq, hqualifiers, h.identifier.withoutAt_eq]

/-! ### Types -/

/-- As many names are looked up in both types, and the types stand for the same just when these names have
the same qualifying identifiers. -/
def SameByQualifications (m : Model) (scope : TypeDecl) (t t' : TypeExpr) : Prop :=
  t'.qualifications.length = t.qualifications.length ∧
    (m.resolve scope t' = m.resolve scope t ↔ t'.qualifications = t.qualifications)

/-- What is true of types one by one is true of all together. -/
theorem length_and_map_resolve_eq_iff {arguments others : List TypeExpr}
    (h : List.Forall₂ (m.SameByQualifications scope) arguments others) :
    (others.flatMap TypeExpr.qualifications).length = (arguments.flatMap TypeExpr.qualifications).length ∧
      (others.map (m.resolve scope) = arguments.map (m.resolve scope) ↔
        others.flatMap TypeExpr.qualifications = arguments.flatMap TypeExpr.qualifications) := by
  induction h with
  | nil => exact ⟨rfl, iff_of_true rfl rfl⟩
  | cons hfirst _ ih =>
    obtain ⟨hlength, hiff⟩ := hfirst
    obtain ⟨hlengths, hrest⟩ := ih
    simp only [List.map_cons, List.cons.injEq, List.flatMap_cons, List.length_append, hiff, hrest]
    refine ⟨by rw [hlength, hlengths], ?_, fun heq ↦ List.append_inj heq hlength⟩
    rintro ⟨hfirst, hmore⟩
    rw [hfirst, hmore]

/-- The symbols of a type and of the type with `@` in front of some identifiers are not inside each other. -/
theorem areApart_resolve {t t' : TypeExpr} (ht : IsType t) (h : IsVerbatim t t') :
    AreApart (m.resolve scope t) (m.resolve scope t') := by
  refine TypeExpr.verbatim_induction
    (P := fun t t' ↦ AreApart (m.resolve scope t) (m.resolve scope t')) ?_ ?_ ?_ ?_ ht h
  · intro word
    refine Symbol.areApart_of_parts ?_
    rw [resolve, parts_named]
    exact .nil
  · intro t t' path path' hpath hpath' _ _ harguments
    refine Symbol.areApart_of_parts ?_
    rw [resolve_of_hasPath hpath, resolve_of_hasPath hpath', parts_resolvePath, parts_resolvePath,
      List.forall₂_map_left_iff, List.forall₂_map_right_iff]
    exact harguments
  · intro element element' rank helement
    refine Symbol.areApart_of_parts ?_
    rw [resolve, resolve]
    exact .cons helement .nil
  · intro inner inner' _ _ hinner
    rw [resolve_nullable, resolve_nullable]
    exact ⟨not_isInside_nullableOf hinner.1, not_isInside_nullableOf hinner.2⟩

/-- Assumes: a type of the grammar, and the same type with `@` in front of some identifiers. The types stand
for the same just when the names in them have the same qualifying identifiers. -/
theorem sameByQualifications {t t' : TypeExpr} (ht : IsType t) (h : IsVerbatim t t') :
    m.SameByQualifications scope t t' := by
  refine TypeExpr.verbatim_induction (P := m.SameByQualifications scope) ?_ ?_ ?_ ?_ ht h
  · exact fun word ↦ ⟨rfl, iff_of_true rfl rfl⟩
  · intro t t' path path' hpath hpath' hverbatim hidentifiers harguments
    have hdot := @TypeExpr.not_word_of_lt '.' (by decide) (by decide) (by decide) (by decide)
    have hdots : ∀ qualifier ∈ path.qualifiers, '.' ∉ qualifier.toList := fun qualifier hmem ↦
      TypeExpr.notMem_of_isIdentifier (hidentifiers qualifier hmem) hdot.1 hdot.2
    obtain ⟨hlengths, hiff⟩ := length_and_map_resolve_eq_iff harguments
    rw [SameByQualifications, hpath.qualifications_eq, hpath'.qualifications_eq, resolve_of_hasPath hpath,
      resolve_of_hasPath hpath', resolvePath_eq_iff hverbatim hdots, hiff, List.cons.injEq]
    exact ⟨by rw [List.length_cons, List.length_cons, hlengths], Iff.rfl⟩
  · intro element element' rank helement
    rw [SameByQualifications, resolve, resolve, Symbol.array.injEq, TypeExpr.qualifications,
      TypeExpr.qualifications, and_iff_left rfl]
    exact helement
  · intro inner inner' hinner hverbatim hboth
    -- One of the two may be a value type and the other not, so the types inside must not be inside each
    -- other either.
    have hapart := @areApart_resolve m scope _ _ hinner hverbatim
    rw [SameByQualifications, resolve_nullable, resolve_nullable, nullableOf_eq_iff hapart,
      TypeExpr.qualifications, TypeExpr.qualifications]
    exact hboth

/-- Assumes: a text that is read, and the same type with `@` in front of some identifiers. Written in any
declaration, they stand for the same just when each name that is looked up in them has the same qualifying
identifiers in both. In front of the last identifier of a name an `@` does not count. -/
theorem resolve_verbatim_eq_iff (m : Model) (scope : TypeDecl) {text : String} {t t' : TypeExpr}
    (hparse : TypeExpr.parse text = .ok t) (h : IsVerbatim t t') :
    m.resolve scope t' = m.resolve scope t ↔ t'.qualifications = t.qualifications :=
  (sameByQualifications (TypeExpr.parse_sound hparse).1.1 h).2

/-- An `@` in front of a generic name, and of the last identifier of its type argument. -/
theorem resolve_verbatim_eq_iff_box :
    let box : TypeDecl := ⟨.classType, "", "Box", ["T"], [], [], []⟩
    let point : TypeDecl := ⟨.structType, "Lib", "Point", [], [], [], []⟩
    let s : Snapshot := ⟨[⟨"App", [box, point]⟩]⟩
    let t : TypeExpr := .generic "Box" [.qualified (.simple "Lib") (.simple "Point")]
    let t' : TypeExpr := .generic "@Box" [.qualified (.simple "Lib") (.simple "@Point")]
    ∃ m, ofSnapshot s = .ok m ∧ TypeExpr.parse "Box<Lib.Point>" = .ok t ∧ IsVerbatim t t' ∧
      m.resolve box t' = m.resolve box t := by
  intro box point s t t'
  obtain ⟨m, hm, -⟩ := exists_ofSnapshot_eq_ok (s := s) (by decide +kernel)
  have hparse : TypeExpr.parse "Box<Lib.Point>" = .ok t := by decide +kernel
  have hverbatim : IsVerbatim t t' :=
    .generic (.inr ⟨by decide, by decide⟩) (.cons (.qualified (.simple (.inl rfl))
      (.simple (.inr ⟨by decide, by decide⟩))) .nil)
  exact ⟨m, hm, hparse, hverbatim, (resolve_verbatim_eq_iff m box hparse hverbatim).mpr (by decide)⟩

/-- Types do not stand for the same with `@` in front of any identifiers: in front of a qualifying one it is
part of the namespace that is searched. -/
theorem not_forall_resolve_verbatim_eq :
    ¬ ∀ (m : Model) (scope : TypeDecl) (text : String) (t t' : TypeExpr), scope ∈ m.candidates →
      TypeExpr.parse text = .ok t → IsVerbatim t t' → m.resolve scope t' = m.resolve scope t := by
  intro h
  let point : TypeDecl := ⟨.classType, "Lib", "Point", [], [], [], []⟩
  let hub : TypeDecl := ⟨.classType, "Chat", "ChatHub", [], [], [], []⟩
  let s : Snapshot := ⟨[⟨"App", [point, hub]⟩]⟩
  let t : TypeExpr := .qualified (.simple "Lib") (.simple "Point")
  let t' : TypeExpr := .qualified (.simple "@Lib") (.simple "Point")
  obtain ⟨m, -, hsnapshot⟩ := exists_ofSnapshot_eq_ok (s := s) (by decide +kernel)
  have hscope : hub ∈ m.candidates := by
    rw [candidates, hsnapshot]
    decide +kernel
  have hparse : TypeExpr.parse "Lib.Point" = .ok t := by decide +kernel
  have hverbatim : IsVerbatim t t' :=
    .qualified (.simple (.inr ⟨by decide, by decide⟩)) (.simple (.inl rfl))
  have hiff := (@sameByQualifications m hub _ _ (TypeExpr.parse_sound hparse).1.1 hverbatim).2
  exact absurd (hiff.mp (h m hub _ t t' hscope hparse hverbatim)) (by decide)

end Model

end HubRelay
