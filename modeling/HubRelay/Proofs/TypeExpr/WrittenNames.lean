import HubRelay.Proofs.TypeExpr.Completeness
import HubRelay.Proofs.TypeExpr.Paths
import Mathlib.Data.List.Induction

/-!
# Names as they are written

A dotted name is segments with a dot between any two, behind an alias if there is one (`DottedName`). It is
written in a text that spells its tokens (`DottedName.IsWrittenIn`), so it says what stands in the text and
in which order, without a tree.

The tree of a name nests to the left, a level for each segment (`HasSegments`). It has the tokens of the
name (`HasSegments.tokens_eq`), so what a text with a name in it is read as can only be the tree of the name
(`hasSegments_of_isWrittenIn`). The parts of the name are those of the path of its tree
(`HasSegments.hasPath`), and they are all of the tree's normal form when no segment but the last one has
type arguments (`HasSegments.render_eq_iff`). So the path of a type that is read is what is written in the
text (`path?_of_parse`).
-/

set_option autoImplicit false

namespace HubRelay.TypeExpr

/-! ### Segments -/

/-- A segment of a name: an identifier, and the type arguments behind it if there are any. -/
structure Segment where
  identifier : String
  arguments : List TypeExpr

/-- Type arguments as they are written in normal form, nothing if there are none. -/
def argumentText (arguments : List TypeExpr) : String :=
  if arguments = [] then "" else "<" ++ renderArguments arguments ++ ">"

theorem argumentText_nil : argumentText [] = "" := if_pos rfl

theorem argumentText_eq_empty_iff {arguments : List TypeExpr} :
    argumentText arguments = "" ↔ arguments = [] := by
  refine ⟨fun h ↦ ?_, fun h ↦ h ▸ argumentText_nil⟩
  by_contra hne
  rw [argumentText, if_neg hne, String.append_assoc, String.append_eq_empty_iff] at h
  exact absurd h.1 (by decide)

/-- Only an empty list adds nothing. -/
theorem append_argumentText_eq_iff {text : String} {arguments : List TypeExpr} :
    text ++ argumentText arguments = text ↔ arguments = [] := by
  have hcancel : text ++ argumentText arguments = text ++ "" ↔ argumentText arguments = "" :=
    String.append_right_inj text
  rwa [String.append_empty, argumentText_eq_empty_iff] at hcancel

namespace Segment

/-- The tokens of a segment. -/
def tokens (s : Segment) : List Token :=
  .word s.identifier ::
    if s.arguments = [] then [] else .less :: (tokensOfAll s.arguments ++ [.greater])

/-- An identifier with types as arguments. -/
def IsLegal (s : Segment) : Prop :=
  isIdentifier s.identifier = true ∧ ∀ argument ∈ s.arguments, IsType argument

/-- The tree of a segment. -/
def expr (s : Segment) : TypeExpr := segmentOf s.identifier s.arguments

variable {s : Segment}

theorem tokens_expr (s : Segment) : s.expr.tokens = s.tokens := by
  rw [expr, segmentOf, tokens]
  split_ifs
  · rw [TypeExpr.tokens]
  · rw [TypeExpr.tokens]

theorem render_expr (s : Segment) : s.expr.render = s.identifier ++ argumentText s.arguments := by
  rw [expr, segmentOf, argumentText]
  split_ifs
  · rw [render, String.append_empty]
  · rw [render, String.append_assoc, String.append_assoc, String.append_assoc]

theorem IsLegal.isSegment_expr (h : s.IsLegal) : IsSegment s.identifier s.expr :=
  isSegment_segmentOf h.1 h.2

/-- The trees of segments are the segments of the grammar. -/
theorem exists_expr_eq {identifier : String} {t : TypeExpr} (ht : IsSegment identifier t) :
    ∃ s : Segment, s.IsLegal ∧ s.identifier = identifier ∧ s.expr = t := by
  cases ht with
  | simple hidentifier => exact ⟨⟨identifier, []⟩, ⟨hidentifier, List.forall_mem_nil _⟩, rfl, rfl⟩
  | @generic _ arguments hidentifier hne harguments =>
    exact ⟨⟨identifier, arguments⟩, ⟨hidentifier, harguments⟩, rfl, if_neg hne⟩

end Segment

/-! ### Dotted names -/

/-- A dotted name as it is written. -/
structure DottedName where
  /-- The alias in front, if there is one. -/
  label : Option String
  /-- The segments before the last one, from left to right. -/
  qualifying : List Segment
  /-- The last segment. -/
  last : Segment

namespace DottedName

/-- The segments of a name, from left to right. -/
def segments (name : DottedName) : List Segment := name.qualifying ++ [name.last]

/-- The identifiers of a name, from left to right. Those in type arguments are not among them. -/
def identifiers (name : DottedName) : List String := name.segments.map Segment.identifier

/-- The alias and the identifiers of a name. -/
def words (name : DottedName) : List String := name.label.toList ++ name.identifiers

/-- The tokens of a name, from left to right. -/
def tokens (name : DottedName) : List Token :=
  (name.label.elim [] fun label ↦ [.word label, .doubleColon]) ++
    (name.qualifying.flatMap fun s ↦ s.tokens ++ [.dot]) ++ name.last.tokens

/-- The alias and the identifiers are identifiers of the grammar, the first of them is no keyword, and the
arguments are types. -/
structure IsLegal (name : DottedName) : Prop where
  words : ∀ word ∈ name.words, isIdentifier word = true
  first : ∀ word ∈ name.words.head?, Keyword.isKeyword word = false
  arguments : ∀ s ∈ name.segments, ∀ argument ∈ s.arguments, IsType argument

/-- The text consists of the name, with any white space around its tokens. -/
def IsWrittenIn (name : DottedName) (text : String) : Prop :=
  name.IsLegal ∧ Spells name.tokens text.toList

/-- The path that a name is read as. -/
def path (name : DottedName) : Path :=
  ⟨name.label, name.qualifying.map Segment.identifier, name.last.identifier, name.last.arguments⟩

/-- A name without its type arguments. -/
def front (name : DottedName) : String := aliasText name.label ++ ".".intercalate name.identifiers

/-- A name with one more segment at its right end. -/
def member (before : DottedName) (s : Segment) : DottedName := ⟨before.label, before.segments, s⟩

/-- A name is a segment, behind an alias or not, or a name with one more segment. -/
@[elab_as_elim]
theorem member_induction {motive : DottedName → Prop} (single : ∀ label s, motive ⟨label, [], s⟩)
    (member : ∀ before s, motive before → motive (before.member s)) (name : DottedName) :
    motive name := by
  obtain ⟨label, qualifying, last⟩ := name
  induction qualifying using List.reverseRecOn generalizing last with
  | nil => exact single label last
  | append_singleton more s ih => exact member ⟨label, more, s⟩ last (ih s)

variable {before name : DottedName} {label : Option String} {s : Segment}

theorem identifiers_eq (name : DottedName) :
    name.identifiers = name.path.qualifiers ++ [name.path.identifier] :=
  List.map_append

theorem segments_single : segments ⟨label, [], s⟩ = [s] := rfl

theorem segments_member : (before.member s).segments = before.segments ++ [s] := rfl

theorem identifiers_member :
    (before.member s).identifiers = before.identifiers ++ [s.identifier] := by
  rw [identifiers, segments_member, List.map_append]
  rfl

theorem identifiers_ne_nil (name : DottedName) : name.identifiers ≠ [] := by
  rw [identifiers_eq]
  exact List.append_ne_nil_of_right_ne_nil _ (List.cons_ne_nil _ _)

theorem words_member : (before.member s).words = before.words ++ [s.identifier] := by
  rw [words, identifiers_member, ← List.append_assoc]
  rfl

theorem words_ne_nil (name : DottedName) : name.words ≠ [] :=
  List.append_ne_nil_of_right_ne_nil _ name.identifiers_ne_nil

theorem tokens_member : (before.member s).tokens = before.tokens ++ .dot :: s.tokens := by
  simp [tokens, member, segments]

theorem front_single : front ⟨label, [], s⟩ = aliasText label ++ s.identifier := by
  rw [front]
  exact congrArg _ String.intercalate_singleton

theorem front_member : (before.member s).front = before.front ++ "." ++ s.identifier := by
  rw [front, identifiers_member,
    String.intercalate_append_of_ne_nil before.identifiers_ne_nil (List.cons_ne_nil _ _),
    String.intercalate_singleton, front]
  simp only [String.append_assoc]
  rfl

/-- A single segment is a legal name when it is legal, with a legal alias or with none. -/
theorem isLegal_single_iff :
    IsLegal ⟨label, [], s⟩ ↔ ((∀ word ∈ label, isIdentifier word = true) ∧
      Keyword.isKeyword (label.getD s.identifier) = false) ∧ s.IsLegal := by
  constructor
  · rintro ⟨hwords, hfirst, harguments⟩
    obtain ⟨hlabel, hidentifiers⟩ := List.forall_mem_append.mp hwords
    refine ⟨⟨fun word hword ↦ hlabel word (Option.mem_toList.mpr hword), ?_⟩,
      hidentifiers _ List.mem_cons_self, List.forall_mem_singleton.mp harguments⟩
    cases label with
    | none => exact hfirst _ rfl
    | some word => exact hfirst _ rfl
  · rintro ⟨⟨hlabel, hkeyword⟩, hidentifier, harguments⟩
    refine ⟨List.forall_mem_append.mpr ⟨fun word hword ↦ hlabel word (Option.mem_toList.mp hword),
      List.forall_mem_singleton.mpr hidentifier⟩, fun word hword ↦ ?_,
      List.forall_mem_singleton.mpr harguments⟩
    cases label with
    | none => exact Option.some.inj hword ▸ hkeyword
    | some other => exact Option.some.inj hword ▸ hkeyword

/-- A name with one more segment is legal when the name and the segment are. -/
theorem isLegal_member_iff : (before.member s).IsLegal ↔ before.IsLegal ∧ s.IsLegal := by
  have hhead : (before.member s).words.head? = before.words.head? := by
    rw [words_member, List.head?_append_of_ne_nil _ before.words_ne_nil]
  constructor
  · rintro ⟨hwords, hfirst, harguments⟩
    rw [words_member, List.forall_mem_append] at hwords
    rw [segments_member, List.forall_mem_append] at harguments
    exact ⟨⟨hwords.1, hhead ▸ hfirst, harguments.1⟩,
      hwords.2 _ List.mem_cons_self, List.forall_mem_singleton.mp harguments.2⟩
  · rintro ⟨⟨hwords, hfirst, harguments⟩, hidentifier, hmore⟩
    refine ⟨?_, hhead.symm ▸ hfirst, ?_⟩
    · rw [words_member, List.forall_mem_append]
      exact ⟨hwords, List.forall_mem_singleton.mpr hidentifier⟩
    · rw [segments_member, List.forall_mem_append]
      exact ⟨harguments, List.forall_mem_singleton.mpr hmore⟩

end DottedName

/-! ### The tree of a name -/

/-- A tree and the name that it is the tree of. -/
inductive HasSegments : TypeExpr → DottedName → Prop
  | segment (s : Segment) : HasSegments s.expr ⟨none, [], s⟩
  | aliased (label : String) (s : Segment) : HasSegments (.aliased label s.expr) ⟨some label, [], s⟩
  | member {left : TypeExpr} {before : DottedName} (hleft : HasSegments left before) (s : Segment) :
      HasSegments (.qualified left s.expr) (before.member s)

/-- A legal name has a tree, and this is a name of the grammar. -/
theorem DottedName.IsLegal.exists_hasSegments {name : DottedName} (h : name.IsLegal) :
    ∃ t, IsName t ∧ HasSegments t name := by
  induction name using DottedName.member_induction with
  | single label s =>
    obtain ⟨⟨hlabel, hkeyword⟩, hs⟩ := isLegal_single_iff.mp h
    cases label with
    | none => exact ⟨_, .first hkeyword hs.isSegment_expr, .segment s⟩
    | some word => exact ⟨_, .aliased (hlabel word rfl) hkeyword hs.isSegment_expr, .aliased word s⟩
  | member before s ih =>
    obtain ⟨hbefore, hs⟩ := isLegal_member_iff.mp h
    obtain ⟨left, hleft, hsegments⟩ := ih hbefore
    exact ⟨_, .qualified hleft hs.isSegment_expr, .member hsegments s⟩

/-- A name of the grammar is the tree of a legal name. -/
theorem exists_hasSegments {t : TypeExpr} (ht : IsName t) :
    ∃ name : DottedName, name.IsLegal ∧ HasSegments t name := by
  cases ht with
  | first hkeyword ht =>
    obtain ⟨s, hs, rfl, rfl⟩ := Segment.exists_expr_eq ht
    exact ⟨⟨none, [], s⟩,
      DottedName.isLegal_single_iff.mpr ⟨⟨fun _ h ↦ (nomatch h), hkeyword⟩, hs⟩, .segment s⟩
  | @aliased label _ _ hlabel hkeyword hname =>
    obtain ⟨s, hs, rfl, rfl⟩ := Segment.exists_expr_eq hname
    refine ⟨⟨some label, [], s⟩,
      DottedName.isLegal_single_iff.mpr ⟨⟨fun word hword ↦ ?_, hkeyword⟩, hs⟩, .aliased label s⟩
    exact Option.some.inj hword ▸ hlabel
  | qualified hleft hright =>
    obtain ⟨before, hbefore, hsegments⟩ := exists_hasSegments hleft
    obtain ⟨s, hs, rfl, rfl⟩ := Segment.exists_expr_eq hright
    exact ⟨_, DottedName.isLegal_member_iff.mpr ⟨hbefore, hs⟩, .member hsegments s⟩

namespace HasSegments

variable {t : TypeExpr} {name : DottedName}

/-- The tokens of the tree are those of the name. -/
theorem tokens_eq (h : HasSegments t name) : t.tokens = name.tokens := by
  induction h with
  | segment s => exact s.tokens_expr
  | aliased label s =>
    rw [tokens, s.tokens_expr]
    rfl
  | member hleft s ih => rw [tokens, ih, s.tokens_expr, DottedName.tokens_member]

/-- The parts of the tree are those of the name. -/
theorem hasPath (h : HasSegments t name) : HasPath t name.path := by
  induction h with
  | segment s => exact .segment s.identifier s.arguments
  | aliased label s => exact .aliased label s.identifier s.arguments
  | @member left before hleft s ih =>
    have hqualified := HasPath.qualified ih s.identifier s.arguments
    rwa [← before.identifiers_eq] at hqualified

/-- The normal form of the tree has the name without its type arguments in it. -/
theorem length_front_le (h : HasSegments t name) : name.front.length ≤ t.render.length := by
  induction h with
  | segment s =>
    rw [DottedName.front_single, aliasText, s.render_expr]
    simp
  | aliased label s =>
    rw [DottedName.front_single, aliasText, render, s.render_expr]
    simp
  | member hleft s ih =>
    rw [DottedName.front_member, render, s.render_expr]
    simp only [String.length_append]
    omega

/-- The normal form of the tree is the name without its type arguments when the name has none. -/
theorem render_eq_front_iff (h : HasSegments t name) :
    t.render = name.front ↔ ∀ s ∈ name.segments, s.arguments = [] := by
  induction h with
  | segment s =>
    rw [DottedName.front_single, aliasText, String.empty_append, s.render_expr,
      append_argumentText_eq_iff, DottedName.segments_single, List.forall_mem_singleton]
  | aliased label s =>
    rw [DottedName.front_single, aliasText, render, s.render_expr, ← String.append_assoc,
      append_argumentText_eq_iff, DottedName.segments_single, List.forall_mem_singleton]
  | @member left before hleft s ih =>
    rw [DottedName.segments_member, List.forall_mem_append, List.forall_mem_singleton, ← ih,
      DottedName.front_member, render, s.render_expr]
    constructor
    · intro heq
      -- The qualifying part is at least as long as without type arguments, so nothing is left for `s`.
      have hlength := congrArg String.length heq
      have hle := hleft.length_front_le
      simp only [String.length_append] at hlength
      have hnone : s.arguments = [] :=
        argumentText_eq_empty_iff.mp (String.length_eq_zero_iff.mp (by omega))
      rw [hnone, argumentText_nil, String.append_empty] at heq
      exact ⟨(String.append_left_inj _).mp ((String.append_left_inj _).mp heq), hnone⟩
    · rintro ⟨hrender, hnone⟩
      rw [hrender, hnone, argumentText_nil, String.append_empty]

/-- The normal form of the tree has no type arguments but the last ones when only the last segment has
any. -/
theorem render_eq_iff (h : HasSegments t name) :
    t.render = name.front ++ argumentText name.last.arguments ↔
      ∀ s ∈ name.qualifying, s.arguments = [] := by
  cases h with
  | segment s =>
    refine iff_of_true ?_ (List.forall_mem_nil _)
    rw [DottedName.front_single, aliasText, String.empty_append, s.render_expr]
  | aliased label s =>
    refine iff_of_true ?_ (List.forall_mem_nil _)
    rw [DottedName.front_single, aliasText, render, s.render_expr, ← String.append_assoc]
  | @member left before hleft s =>
    rw [DottedName.front_member, render, s.render_expr, ← String.append_assoc]
    exact (String.append_left_inj _).trans ((String.append_left_inj _).trans
      ((String.append_left_inj _).trans hleft.render_eq_front_iff))

end HasSegments

/-! ### Texts with a name in them -/

section Texts

variable {text : String} {t : TypeExpr} {name : DottedName} {path : Path}

/-- A text is read as the tree of the name that is written in it. -/
theorem hasSegments_of_isWrittenIn (h : parse text = .ok t) (hname : name.IsWrittenIn text) :
    HasSegments t name := by
  obtain ⟨other, hother, hsegments⟩ := hname.1.exists_hasSegments
  -- The text spells the tree of the name, and a text is read as no other type than the one it spells.
  have hreads := reads_parse (.name hother) (hsegments.tokens_eq ▸ hname.2)
  rw [h] at hreads
  obtain rfl : t = other := hreads
  exact hsegments

/-- A text that is read as a name has a name written in it. -/
theorem exists_isWrittenIn (h : parse text = .ok t) (ht : IsName t) :
    ∃ name : DottedName, name.IsWrittenIn text := by
  obtain ⟨name, hlegal, hsegments⟩ := exists_hasSegments ht
  exact ⟨name, hlegal, hsegments.tokens_eq ▸ (parse_eq_ok_iff.mp h).2⟩

/-- Only a name has a path. -/
theorem isName_of_path?_eq_some (ht : IsType t) (hpath : t.path? = some path) : IsName t := by
  cases ht with
  | name ht => exact ht
  | keyword | array | nullable => cases hpath

/-- A type without a path is a keyword or has a suffix. -/
theorem path?_eq_none_iff (ht : IsType t) :
    t.path? = none ↔ (∃ word, t = .keyword word) ∨ (∃ element rank, t = .array element rank) ∨
      ∃ inner, t = .nullable inner := by
  constructor
  · intro hnone
    cases ht with
    | keyword => exact .inl ⟨_, rfl⟩
    | name ht =>
      obtain ⟨path, hpath⟩ := exists_hasPath ht
      rw [hpath.path?_eq] at hnone
      cases hnone
    | array => exact .inr (.inl ⟨_, _, rfl⟩)
    | nullable => exact .inr (.inr ⟨_, rfl⟩)
  · rintro (⟨word, rfl⟩ | ⟨element, rank, rfl⟩ | ⟨inner, rfl⟩) <;> rfl

/-- Assumes: a text that is read as a type. The type has no path just when it is a keyword, an array or a
nullable type. Otherwise a dotted name is written in the text, and the path has the alias of this name, its
identifiers from left to right, and the type arguments of its last segment. Put together, these are the
normal form of the type just when no segment before the last one has type arguments. -/
theorem path?_of_parse (h : parse text = .ok t) :
    (t.path? = none ↔ (∃ word, t = .keyword word) ∨ (∃ element rank, t = .array element rank) ∨
      ∃ inner, t = .nullable inner) ∧
    ∀ path, t.path? = some path →
      (∃ name : DottedName, name.IsWrittenIn text) ∧
      ∀ name : DottedName, name.IsWrittenIn text →
        path.label = name.label ∧
        path.qualifiers ++ [path.identifier] = name.identifiers ∧
        path.arguments = name.last.arguments ∧
        (aliasText path.label ++ ".".intercalate (path.qualifiers ++ [path.identifier]) ++
          argumentText path.arguments = t.render ↔ ∀ s ∈ name.qualifying, s.arguments = []) := by
  have ht := (isType_of_parse h).1
  refine ⟨path?_eq_none_iff ht, fun path hpath ↦
    ⟨exists_isWrittenIn h (isName_of_path?_eq_some ht hpath), fun name hname ↦ ?_⟩⟩
  have hsegments := hasSegments_of_isWrittenIn h hname
  have hsame := hsegments.hasPath.path?_eq
  rw [hpath] at hsame
  obtain rfl := Option.some.inj hsame
  refine ⟨rfl, name.identifiers_eq.symm, rfl, ?_⟩
  rw [← name.identifiers_eq, eq_comm]
  exact hsegments.render_eq_iff

/-- An alias, type arguments in the middle, and names inside the last type arguments. -/
theorem path?_of_parse_global :
    let text := " global ::A<int> .\tList< B.C , int ?>"
    let last : List TypeExpr := [.qualified (.simple "B") (.simple "C"), .nullable (.keyword "int")]
    let t : TypeExpr :=
      .qualified (.aliased "global" (.generic "A" [.keyword "int"])) (.generic "List" last)
    parse text = .ok t ∧ t.path? = some ⟨some "global", ["A"], "List", last⟩ ∧
      (∃ name : DottedName, name.IsWrittenIn text) ∧
      ∀ name : DottedName, name.IsWrittenIn text →
        some "global" = name.label ∧ ["A", "List"] = name.identifiers ∧
        last = name.last.arguments ∧ ∃ s ∈ name.qualifying, s.arguments ≠ [] := by
  intro text last t
  have hparse : parse text = .ok t := by decide +kernel
  have hpath : t.path? = some ⟨some "global", ["A"], "List", last⟩ := rfl
  obtain ⟨hexists, hall⟩ := (path?_of_parse hparse).2 _ hpath
  refine ⟨hparse, hpath, hexists, fun name hname ↦ ?_⟩
  obtain ⟨hlabel, hidentifiers, harguments, hrender⟩ := hall name hname
  refine ⟨hlabel, hidentifiers, harguments, ?_⟩
  by_contra hnone
  push Not at hnone
  exact absurd (hrender.mpr hnone) (by decide)

end Texts

end HubRelay.TypeExpr
