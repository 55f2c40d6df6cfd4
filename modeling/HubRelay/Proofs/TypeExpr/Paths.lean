import HubRelay.Proofs.TypeExpr.Grammar
import HubRelay.TypeExpr.Path

/-!
# Paths of names

Every name of the grammar has a path, whose identifiers are words of the name
(`exists_path?_eq_of_isName`). Conversely, dotted identifiers and a segment make a name that is
taken as written wherever it stands: the name behind the alias `global`, with the segment at its
right end (`inGlobal`). Its path has just these identifiers as qualifiers
(`exists_path?_inGlobal_eq`). `HasPath` says of a name what its parts are, and its path is made of them
(`HasPath.path?_eq`).
-/

set_option autoImplicit false

namespace HubRelay

/-- The alias in front of a name, if there is one. -/
def aliasText : Option String → String
  | none => ""
  | some label => label ++ "::"

namespace TypeExpr

variable {identifier : String} {t : TypeExpr}

/-! ### Names of the grammar -/

/-- A segment is a single identifier. -/
theorem segments?_of_isSegment (ht : IsSegment identifier t) :
    t.segments? = some (none, [identifier]) := by
  cases ht <;> rfl

/-- A segment is the right-most name of itself. -/
theorem rightmost_of_isSegment (ht : IsSegment identifier t) : t.rightmost = t := by
  cases ht <;> rfl

/-- The identifier of a segment is one of its words. -/
theorem word_mem_tokens_of_isSegment (ht : IsSegment identifier t) :
    .word identifier ∈ t.tokens := by
  cases ht with
  | simple | generic =>
    rw [tokens]
    exact List.mem_cons_self

/-- The identifiers of a name are words of it. -/
theorem exists_segments?_eq_of_isName {t : TypeExpr} (ht : IsName t) :
    ∃ label identifiers, t.segments? = some (label, identifiers) ∧
      ∀ identifier ∈ identifiers, .word identifier ∈ t.tokens := by
  cases ht with
  | @first identifier _ hkeyword ht =>
    refine ⟨none, [identifier], segments?_of_isSegment ht, fun other hother ↦ ?_⟩
    rw [List.mem_singleton.mp hother]
    exact word_mem_tokens_of_isSegment ht
  | @aliased label identifier name hlabel hkeyword hname =>
    refine ⟨some label, [identifier], ?_, fun other hother ↦ ?_⟩
    · rw [segments?, segments?_of_isSegment hname]
      rfl
    · rw [List.mem_singleton.mp hother, tokens]
      exact List.mem_cons_of_mem _ (List.mem_cons_of_mem _ (word_mem_tokens_of_isSegment hname))
  | @qualified identifier left right hleft hright =>
    obtain ⟨label, before, hsegments, hwords⟩ := exists_segments?_eq_of_isName hleft
    refine ⟨label, before ++ [identifier], ?_, fun other hother ↦ ?_⟩
    · rw [segments?, hsegments, segments?_of_isSegment hright]
    · rw [tokens]
      rcases List.mem_append.mp hother with hmem | hmem
      · exact List.mem_append_left _ (hwords other hmem)
      · rw [List.mem_singleton.mp hmem]
        exact List.mem_append_right _
          (List.mem_cons_of_mem _ (word_mem_tokens_of_isSegment hright))

/-- The right-most name of a name is a segment, and its tokens are tokens of the name. -/
theorem exists_isSegment_rightmost (ht : IsName t) :
    ∃ identifier, IsSegment identifier t.rightmost ∧ t.rightmost.tokens ⊆ t.tokens := by
  cases ht with
  | first hkeyword ht =>
    rw [rightmost_of_isSegment ht]
    exact ⟨_, ht, List.Subset.refl _⟩
  | aliased hlabel hkeyword hname =>
    rw [rightmost, tokens]
    exact ⟨_, hname, fun token h ↦ List.mem_cons_of_mem _ (List.mem_cons_of_mem _ h)⟩
  | qualified hleft hright =>
    rw [rightmost, tokens]
    exact ⟨_, hright, fun token h ↦ List.mem_append_right _ (List.mem_cons_of_mem _ h)⟩

/-- Assumes: an expression with identifiers and a segment at its right end. Its path has all
identifiers but the last as qualifiers. -/
theorem exists_path?_eq {label : Option String} {identifiers : List String}
    (hsegments : t.segments? = some (label, identifiers))
    (hright : IsSegment identifier t.rightmost) :
    ∃ arguments, t.path? = some ⟨label, identifiers.dropLast, identifier, arguments⟩ := by
  unfold path?
  rw [hsegments]
  generalize t.rightmost = right at hright
  cases hright with
  | simple => exact ⟨_, rfl⟩
  | generic => exact ⟨_, rfl⟩

/-- A name has a path, whose identifiers are words of it. -/
theorem exists_path?_eq_of_isName (ht : IsName t) :
    ∃ path, t.path? = some path ∧ .word path.identifier ∈ t.tokens ∧
      ∀ qualifier ∈ path.qualifiers, .word qualifier ∈ t.tokens := by
  obtain ⟨label, identifiers, hsegments, hwords⟩ := exists_segments?_eq_of_isName ht
  obtain ⟨identifier, hsegment, htokens⟩ := exists_isSegment_rightmost ht
  obtain ⟨arguments, hpath⟩ := exists_path?_eq hsegments hsegment
  refine ⟨_, hpath, htokens (word_mem_tokens_of_isSegment hsegment), fun qualifier h ↦ ?_⟩
  exact hwords qualifier ((List.dropLast_sublist identifiers).mem h)

/-! ### Segments and qualified names -/

/-- The segment with an identifier and type arguments, a simple name if there are none. -/
def segmentOf (identifier : String) (arguments : List TypeExpr) : TypeExpr :=
  if arguments = [] then .simple identifier else .generic identifier arguments

/-- A segment is one of the grammar when its identifier and its type arguments are. -/
theorem isSegment_segmentOf {arguments : List TypeExpr}
    (hidentifier : isIdentifier identifier = true)
    (harguments : ∀ argument ∈ arguments, IsType argument) :
    IsSegment identifier (segmentOf identifier arguments) := by
  unfold segmentOf
  split
  · exact .simple hidentifier
  · next hne => exact .generic hidentifier hne harguments

/-- Names inside a name, each qualified by the ones before it. -/
def qualify (left : TypeExpr) : List String → TypeExpr → TypeExpr
  | [], t => .qualified left t
  | next :: more, t => qualify (.qualified left (.simple next)) more t

/-- The name in the namespace with the given identifiers, as it is found from anywhere. -/
def inGlobal : List String → TypeExpr → TypeExpr
  | [], t => .aliased "global" t
  | first :: more, t => qualify (.aliased "global" (.simple first)) more t

/-- Qualifying a name keeps it a name. -/
theorem isName_qualify {left : TypeExpr} {identifiers : List String} (hleft : IsName left)
    (hidentifiers : ∀ next ∈ identifiers, isIdentifier next = true) (ht : IsSegment identifier t) :
    IsName (qualify left identifiers t) := by
  induction identifiers generalizing left with
  | nil => exact .qualified hleft ht
  | cons next more ih =>
    have hnext : IsSegment next (.simple next) := .simple (hidentifiers next List.mem_cons_self)
    exact ih (.qualified hleft hnext) fun other h ↦ hidentifiers other (List.mem_cons_of_mem _ h)

/-- A segment in a namespace of identifiers is a name. -/
theorem isName_inGlobal {qualifiers : List String}
    (hqualifiers : ∀ qualifier ∈ qualifiers, isIdentifier qualifier = true)
    (ht : IsSegment identifier t) : IsName (inGlobal qualifiers t) := by
  have hlabel : isIdentifier "global" = true := by decide
  have hkeyword : Keyword.isKeyword "global" = false := by decide
  cases qualifiers with
  | nil => exact .aliased hlabel hkeyword ht
  | cons first more =>
    have hfirst : IsSegment first (.simple first) := .simple (hqualifiers first List.mem_cons_self)
    exact isName_qualify (.aliased hlabel hkeyword hfirst)
      (fun other h ↦ hqualifiers other (List.mem_cons_of_mem _ h)) ht

/-- What a qualified name is written as. -/
theorem render_qualify (left : TypeExpr) (identifiers : List String) (t : TypeExpr) :
    (qualify left identifiers t).render =
      left.render ++ "." ++ ".".intercalate (identifiers ++ [t.render]) := by
  induction identifiers generalizing left with
  | nil => rw [qualify, render, List.nil_append, String.intercalate_singleton]
  | cons next more ih =>
    have hne : more ++ [t.render] ≠ [] :=
      List.append_ne_nil_of_right_ne_nil _ (List.cons_ne_nil _ _)
    rw [qualify, ih, render, render, List.cons_append, String.intercalate_cons_of_ne_nil hne]
    simp only [String.append_assoc]

/-- What a name in a namespace is written as. -/
theorem render_inGlobal (qualifiers : List String) (t : TypeExpr) :
    (inGlobal qualifiers t).render = "global::" ++ ".".intercalate (qualifiers ++ [t.render]) := by
  have hlabel : "global::" = "global" ++ "::" := by decide
  cases qualifiers with
  | nil => rw [inGlobal, render, List.nil_append, String.intercalate_singleton, hlabel]
  | cons first more =>
    have hne : more ++ [t.render] ≠ [] :=
      List.append_ne_nil_of_right_ne_nil _ (List.cons_ne_nil _ _)
    rw [inGlobal, render_qualify, render, render, List.cons_append, hlabel,
      String.intercalate_cons_of_ne_nil hne]
    simp only [String.append_assoc]

/-- The right-most name of a qualified name is what has been qualified. -/
theorem rightmost_qualify (left : TypeExpr) (identifiers : List String) (t : TypeExpr) :
    (qualify left identifiers t).rightmost = t := by
  induction identifiers generalizing left with
  | nil => rfl
  | cons next more ih => exact ih _

/-- The right-most name of a name in a namespace is that name. -/
theorem rightmost_inGlobal (qualifiers : List String) (t : TypeExpr) :
    (inGlobal qualifiers t).rightmost = t := by
  cases qualifiers with
  | nil => rfl
  | cons first more => exact rightmost_qualify _ _ _

/-- The identifiers of a qualified name. -/
theorem segments?_qualify {left : TypeExpr} {label : Option String} {before : List String}
    (identifiers : List String) (hleft : left.segments? = some (label, before))
    (ht : IsSegment identifier t) :
    (qualify left identifiers t).segments? =
      some (label, before ++ identifiers ++ [identifier]) := by
  induction identifiers generalizing left before with
  | nil => rw [qualify, segments?, hleft, segments?_of_isSegment ht, List.append_nil]
  | cons next more ih =>
    have hnext : (qualified left (simple next)).segments? = some (label, before ++ [next]) := by
      rw [segments?, hleft, segments?]
    rw [qualify, ih hnext, List.append_assoc before, List.singleton_append]

/-- The path of a name in a namespace: behind the alias, with the namespace as its qualifiers. -/
theorem exists_path?_inGlobal_eq (qualifiers : List String) (ht : IsSegment identifier t) :
    ∃ arguments, (inGlobal qualifiers t).path? =
      some ⟨some "global", qualifiers, identifier, arguments⟩ := by
  have hsegments : (inGlobal qualifiers t).segments? =
      some (some "global", qualifiers ++ [identifier]) := by
    cases qualifiers with
    | nil => rw [inGlobal, segments?, segments?_of_isSegment ht]; rfl
    | cons first more =>
      have hfirst : (aliased "global" (simple first)).segments? =
          some (some "global", [first]) := by
        rw [segments?, segments?]
        rfl
      exact segments?_qualify more hfirst ht
  have hright : IsSegment identifier (inGlobal qualifiers t).rightmost := by
    rwa [rightmost_inGlobal]
  obtain ⟨arguments, hpath⟩ := exists_path?_eq hsegments hright
  rw [List.dropLast_concat] at hpath
  exact ⟨arguments, hpath⟩

/-! ### The parts of a name -/

/-- A name and its parts: the last segment, the identifiers before it, and the alias in front. -/
inductive HasPath : TypeExpr → Path → Prop
  | segment (identifier : String) (arguments : List TypeExpr) :
      HasPath (segmentOf identifier arguments) ⟨none, [], identifier, arguments⟩
  | aliased (label identifier : String) (arguments : List TypeExpr) :
      HasPath (.aliased label (segmentOf identifier arguments))
        ⟨some label, [], identifier, arguments⟩
  | qualified {left : TypeExpr} {before : Path} (hleft : HasPath left before) (identifier : String)
      (arguments : List TypeExpr) :
      HasPath (.qualified left (segmentOf identifier arguments))
        ⟨before.label, before.qualifiers ++ [before.identifier], identifier, arguments⟩

theorem segments?_segmentOf (identifier : String) (arguments : List TypeExpr) :
    (segmentOf identifier arguments).segments? = some (none, [identifier]) := by
  unfold segmentOf
  split <;> rfl

theorem rightmost_segmentOf (identifier : String) (arguments : List TypeExpr) :
    (segmentOf identifier arguments).rightmost = segmentOf identifier arguments := by
  unfold segmentOf
  split <;> rfl

/-- A segment of the grammar is the one with its identifier and its type arguments. -/
theorem exists_eq_segmentOf (ht : IsSegment identifier t) :
    ∃ arguments, t = segmentOf identifier arguments := by
  cases ht with
  | simple => exact ⟨[], rfl⟩
  | @generic _ arguments hidentifier hne => exact ⟨arguments, by rw [segmentOf, if_neg hne]⟩

/-- A name of the grammar has parts. -/
theorem exists_hasPath {t : TypeExpr} (ht : IsName t) : ∃ path, HasPath t path := by
  cases ht with
  | first hkeyword ht =>
    obtain ⟨arguments, rfl⟩ := exists_eq_segmentOf ht
    exact ⟨_, .segment _ _⟩
  | aliased hlabel hkeyword hname =>
    obtain ⟨arguments, rfl⟩ := exists_eq_segmentOf hname
    exact ⟨_, .aliased _ _ _⟩
  | qualified hleft hright =>
    obtain ⟨before, hbefore⟩ := exists_hasPath hleft
    obtain ⟨arguments, rfl⟩ := exists_eq_segmentOf hright
    exact ⟨_, .qualified hbefore _ _⟩

/-- The identifiers of a name are the qualifying ones and the last. -/
theorem HasPath.segments?_eq {path : Path} (h : HasPath t path) :
    t.segments? = some (path.label, path.qualifiers ++ [path.identifier]) := by
  induction h with
  | segment identifier arguments => exact segments?_segmentOf identifier arguments
  | aliased label identifier arguments =>
    rw [segments?, segments?_segmentOf]
    rfl
  | qualified hleft identifier arguments ih => rw [segments?, ih, segments?_segmentOf]

/-- The right-most name is the last segment. -/
theorem HasPath.rightmost_eq {path : Path} (h : HasPath t path) :
    t.rightmost = segmentOf path.identifier path.arguments := by
  cases h with
  | segment => exact rightmost_segmentOf _ _
  | aliased | qualified => rfl

/-- The path of a name has its parts. -/
theorem HasPath.path?_eq {path : Path} (h : HasPath t path) : t.path? = some path := by
  unfold path?
  rw [h.segments?_eq, h.rightmost_eq, segmentOf]
  by_cases hempty : path.arguments = []
  · rw [if_pos hempty]
    dsimp only
    rw [List.dropLast_concat, ← hempty]
  · rw [if_neg hempty]
    dsimp only
    rw [List.dropLast_concat]

end TypeExpr

end HubRelay
