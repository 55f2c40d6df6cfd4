import HubRelay.Proofs.Discovery.Resolved
import HubRelay.Proofs.TypeExpr.Completeness

/-!
# Full names

The full name of a well-named reference, with keywords or without, is the normal form of a type
expression that stands for this reference wherever it is written: whatever the snapshot declares,
and whatever namespaces are searched (`TypeRef.exists_names`). For a keyword stands for the same
type everywhere, and a name behind the alias `global` is not searched for.

References of types that are resolved in a snapshot are well named. So whichever way a document
writes the name of a type, and wherever it does, the name is read back as the type.
-/

set_option autoImplicit false

namespace HubRelay

open TypeExpr (IsType IsSegment isIdentifier isPlainIdentifier rankSuffixes arrays segmentOf
  inGlobal)

/-! ### Expressions that stand for a reference -/

/-- A type expression is what a style writes for a reference, and stands for that reference at every
place of every snapshot. -/
structure TypeExpr.Names (style : NameStyle) (t : TypeExpr) (r : TypeRef) : Prop where
  isType : IsType t
  render_eq : t.render = r.render style
  reference_eq : ∀ (m : Model) (scope : TypeDecl), (m.resolve scope t).reference = r

namespace Model

variable {m : Model} {scope : TypeDecl}

/-- Arrays of arrays refer to their elements with the suffixes after the name. -/
theorem reference_resolve_arrays (t : TypeExpr) (ranks : List Nat) {container name : String}
    {arguments : List TypeRef} (ht : (m.resolve scope t).reference = ⟨container, name, arguments⟩) :
    (m.resolve scope (arrays t ranks)).reference =
      ⟨container, name ++ rankSuffixes ranks, arguments⟩ := by
  induction ranks generalizing t name with
  | nil => rw [arrays, ht, rankSuffixes, String.append_empty]
  | cons rank more ih =>
    have harray : (m.resolve scope (.array t rank)).reference =
        ⟨container, name ++ TypeExpr.rankSuffix rank, arguments⟩ := by
      rw [resolve, Symbol.reference_array, ht, TypeRef.arrayOf, TypeExpr.rankSuffix]
      simp only [String.append_assoc]
    rw [arrays, ih _ harray, rankSuffixes, String.append_assoc]

/-- A keyword refers to the type of the namespace `System` that it stands for. -/
theorem reference_resolve_keyword {word name : String} (h : Keyword.typeName? word = some name) :
    (m.resolve scope (.keyword word)).reference = ⟨Keyword.systemNamespace, name, []⟩ := by
  rw [resolve, h, reference_named]
  rfl

/-- A name in a namespace behind the alias `global` refers to the type with that full name. -/
theorem reference_resolve_inGlobal (qualifiers : List String) {identifier : String} {t : TypeExpr}
    (hidentifier : isPlainIdentifier identifier = true) (ht : IsSegment identifier t) :
    (m.resolve scope (inGlobal qualifiers t)).reference =
      ⟨".".intercalate qualifiers, identifier,
        (m.resolveArguments scope t).map Symbol.reference⟩ := by
  have hname : (inGlobal qualifiers t).rightmost.segments?.isSome = true := by
    rw [TypeExpr.rightmost_inGlobal, TypeExpr.segments?_of_isSegment ht]
    rfl
  obtain ⟨written, hpath⟩ := TypeExpr.exists_path?_inGlobal_eq qualifiers ht
  rw [resolve_eq_resolveName scope hname, TypeExpr.rightmost_inGlobal, resolveName, hpath]
  dsimp only
  rw [resolvePath_of_label scope rfl, reference_named,
    TypeExpr.withoutAt_of_isPlainIdentifier hidentifier]
  rfl

end Model

/-! ### Names of type arguments -/

namespace TypeExpr

variable {style : NameStyle}

/-- Where there is an expression for each of several references, there are expressions for all. -/
theorem exists_forall₂_names {arguments : List TypeRef}
    (h : ∀ r ∈ arguments, ∃ t, Names style t r) :
    ∃ ts, List.Forall₂ (Names style) ts arguments := by
  induction arguments with
  | nil => exact ⟨[], .nil⟩
  | cons first rest ih =>
    obtain ⟨t, ht⟩ := h first List.mem_cons_self
    obtain ⟨ts, hts⟩ := ih fun r hr ↦ h r (List.mem_cons_of_mem _ hr)
    exact ⟨t :: ts, .cons ht hts⟩

variable {ts : List TypeExpr} {arguments : List TypeRef}

/-- Expressions for references are types. -/
theorem isType_of_forall₂_names (h : List.Forall₂ (Names style) ts arguments) :
    ∀ t ∈ ts, IsType t := by
  induction h with
  | nil => exact List.forall_mem_nil _
  | cons hfirst _ ih => exact List.forall_mem_cons.mpr ⟨hfirst.isType, ih⟩

/-- Expressions for references refer to these. -/
theorem map_reference_of_forall₂_names (h : List.Forall₂ (Names style) ts arguments) (m : Model)
    (scope : TypeDecl) : (ts.map (m.resolve scope)).map Symbol.reference = arguments := by
  induction h with
  | nil => rfl
  | cons hfirst _ ih => rw [List.map_cons, List.map_cons, ih, hfirst.reference_eq]

/-- Assumes: a style that separates type arguments by a comma and a space. Expressions for
references are written as type arguments like the references. -/
theorem renderArguments_of_forall₂_names (hstyle : style.brackets.2.1 = ", ") {t : TypeExpr}
    {r : TypeRef} (ht : Names style t r) (h : List.Forall₂ (Names style) ts arguments) :
    renderArguments (t :: ts) = r.render style ++ TypeRef.renderMore style arguments := by
  induction h generalizing t r with
  | nil => rw [renderArguments, TypeRef.renderMore, ht.render_eq, String.append_empty]
  | cons hnext _ ih =>
    rw [renderArguments, TypeRef.renderMore, ih hnext, hstyle, ht.render_eq]
    · simp only [String.append_assoc]
    · intro hnil
      cases hnil

end TypeExpr

/-! ### The expression for a reference -/

namespace TypeRef

variable {style : NameStyle}

/-- The styles of full names: `global` and `keyword`. -/
def IsFull (style : NameStyle) : Prop := style = .global ∨ style = .keyword

/-- A full name without a keyword begins with the alias `global` and the namespace. -/
theorem render_inGlobal_eq (hstyle : IsFull style) {qualifiers : List String}
    (hqualifiers : ∀ qualifier ∈ qualifiers, isIdentifier qualifier = true) (t : TypeExpr) :
    (inGlobal qualifiers t).render =
      qualification style (".".intercalate qualifiers) ++ t.render := by
  have hshort : style ≠ .short := by
    rcases hstyle with rfl | rfl <;> decide
  rw [TypeExpr.render_inGlobal, qualification, if_neg hshort]
  cases qualifiers with
  | nil =>
    rw [List.nil_append, String.intercalate_singleton, String.intercalate_nil]
    rfl
  | cons first more =>
    have hnonempty : (".".intercalate (first :: more)).isEmpty = false := by
      obtain ⟨c, rest, hfirst, -⟩ :=
        TypeExpr.isIdentifier_iff.mp (hqualifiers first List.mem_cons_self)
      rw [← Bool.not_eq_true, String.isEmpty_iff]
      intro hempty
      have hlist := congrArg String.toList hempty
      cases more <;> simp [hfirst] at hlist
    rw [hnonempty, String.intercalate_append_of_ne_nil (List.cons_ne_nil _ _)
      (List.cons_ne_nil _ _), String.intercalate_singleton]
    simp only [Bool.false_eq_true, if_false, String.append_assoc]

/-- Assumes: an expression that stands for a reference without array suffixes everywhere. With array
suffixes it stands for the reference with these. -/
theorem names_arrays {t : TypeExpr} {ranks : List Nat} {container name : String}
    {arguments : List TypeRef} (ht : IsType t) (hranks : ∀ rank ∈ ranks, 1 ≤ rank)
    (hreference : ∀ (m : Model) (scope : TypeDecl),
      (m.resolve scope t).reference = ⟨container, name, arguments⟩)
    (hrender : t.render ++ rankSuffixes ranks =
      render style ⟨container, name ++ rankSuffixes ranks, arguments⟩) :
    (arrays t ranks).Names style ⟨container, name ++ rankSuffixes ranks, arguments⟩ where
  isType := TypeExpr.isType_arrays ht hranks
  render_eq := by rw [TypeExpr.render_arrays, hrender]
  reference_eq := fun m scope ↦ m.reference_resolve_arrays t ranks (hreference m scope)

/-- The keyword that a style writes for a type stands for it, with the array suffixes after it. -/
theorem names_keyword {container stem keyword : String} {ranks : List Nat}
    (hstem : isPlainIdentifier stem = true) (hranks : ∀ rank ∈ ranks, 1 ≤ rank)
    (hkeyword : keywordIn? style container (stem ++ rankSuffixes ranks) stem = some keyword) :
    (arrays (.keyword keyword) ranks).Names style ⟨container, stem ++ rankSuffixes ranks, []⟩ := by
  have hsplit := splitSuffix_append_rankSuffixes
    (TypeExpr.isIdentifier_of_isPlainIdentifier hstem) ranks
  obtain ⟨hsystem, hname⟩ := typeName?_of_keywordIn?_eq_some (congrArg Prod.fst hsplit) hkeyword
  have hword : IsType (.keyword keyword) := .keyword (Option.isSome_of_eq_some hname)
  refine names_arrays hword hranks (fun m scope ↦ ?_) ?_
  · rw [Model.reference_resolve_keyword hname, hsystem]
  · rw [render, hsplit]
    dsimp only
    rw [hkeyword]
    rfl

/-- Assumes: expressions for the type arguments, and no keyword for the type. The name in its
namespace behind the alias stands for the type, with the array suffixes after it. -/
theorem names_inGlobal (hstyle : IsFull style) {qualifiers : List String}
    (hqualifiers : ∀ qualifier ∈ qualifiers, isIdentifier qualifier = true) {stem : String}
    (hstem : isPlainIdentifier stem = true) {ranks : List Nat}
    (hranks : ∀ rank ∈ ranks, 1 ≤ rank) {ts : List TypeExpr} {arguments : List TypeRef}
    (hts : List.Forall₂ (TypeExpr.Names style) ts arguments)
    (hkeyword : arguments = [] → keywordIn? style (".".intercalate qualifiers)
      (stem ++ rankSuffixes ranks) stem = none) :
    (arrays (inGlobal qualifiers (segmentOf stem ts)) ranks).Names style
      ⟨".".intercalate qualifiers, stem ++ rankSuffixes ranks, arguments⟩ := by
  have hidentifier := TypeExpr.isIdentifier_of_isPlainIdentifier hstem
  have hsegment : IsSegment stem (segmentOf stem ts) :=
    TypeExpr.isSegment_segmentOf hidentifier (TypeExpr.isType_of_forall₂_names hts)
  have htype : IsType (inGlobal qualifiers (segmentOf stem ts)) :=
    .name (TypeExpr.isName_inGlobal hqualifiers hsegment)
  refine names_arrays htype hranks (fun m scope ↦ ?_) ?_
  · rw [Model.reference_resolve_inGlobal qualifiers hstem hsegment,
      Model.resolveArguments_segmentOf, TypeExpr.map_reference_of_forall₂_names hts]
  · have hsplit := splitSuffix_append_rankSuffixes hidentifier ranks
    rw [render_inGlobal_eq hstyle hqualifiers]
    cases hts with
    | nil =>
      rw [render, hsplit]
      dsimp only
      rw [hkeyword rfl]
      rfl
    | @cons first r rest more hfirst hrest =>
      have hbrackets : style.brackets = ("<", ", ", ">") := by
        rcases hstyle with rfl | rfl <;> rfl
      have hne : first :: rest ≠ [] := List.cons_ne_nil _ _
      have harguments := TypeExpr.renderArguments_of_forall₂_names (by rw [hbrackets]) hfirst hrest
      rw [segmentOf, if_neg hne, TypeExpr.render, harguments, render, hsplit, hbrackets]
      simp only [String.append_assoc]

/-- Every well-named reference has an expression that a full style writes for it. -/
theorem exists_names (hstyle : IsFull style) {r : TypeRef} (h : r.IsWellNamed) :
    ∃ t, TypeExpr.Names style t r := by
  induction h with
  | @intro container stem ranks arguments hcontainer hstem hranks harguments ih =>
    obtain ⟨qualifiers, hqualifiers, rfl⟩ := hcontainer
    obtain ⟨ts, hts⟩ := TypeExpr.exists_forall₂_names ih
    -- Only a type without type arguments is ever written as a keyword.
    by_cases hplain : arguments = []
    · subst hplain
      cases hkeyword : keywordIn? style (".".intercalate qualifiers) (stem ++ rankSuffixes ranks)
          stem with
      | some keyword => exact ⟨_, names_keyword hstem hranks hkeyword⟩
      | none => exact ⟨_, names_inGlobal hstyle hqualifiers hstem hranks hts fun _ ↦ hkeyword⟩
    · exact ⟨_, names_inGlobal hstyle hqualifiers hstem hranks hts fun h ↦ absurd h hplain⟩

/-- The full name of a well-named reference is refused for its depth, or read as an expression that
stands for the reference everywhere. -/
theorem parse_render_of_isWellNamed (hstyle : IsFull style) {r : TypeRef} (h : r.IsWellNamed) :
    (∃ offset, TypeExpr.parse (r.render style) = .error (.tooDeep offset)) ∨
      ∃ t, TypeExpr.parse (r.render style) = .ok t ∧
        ∀ (m : Model) (scope : TypeDecl), (m.resolve scope t).reference = r := by
  obtain ⟨t, ht⟩ := exists_names hstyle h
  have htext := TypeExpr.spells_render t
  rw [ht.render_eq] at htext
  by_cases hlimit : t.height ≤ TypeExpr.maxNesting
  · exact .inr ⟨t, TypeExpr.parse_eq_ok_iff.mpr ⟨⟨ht.isType, hlimit⟩, htext⟩, ht.reference_eq⟩
  · exact .inl (TypeExpr.exists_parse_eq_tooDeep ht.isType htext (Nat.not_le.mp hlimit))

end TypeRef

namespace Model

/-- Assumes: declared namespaces that are empty or dotted identifiers; a text that is read as a
type, with a letter or `_` after each leading `@`; and the reference of this type as it is resolved
somewhere. Then each full name of the reference, with keywords and without, is refused for its
depth, or read as a type that has the same reference wherever it is resolved. -/
theorem typeRef_resolve_fullName {m : Model}
    (hm : ∀ d ∈ m.candidates, TypeRef.IsDotted d.container) {text : String} {t : TypeExpr}
    (ht : TypeExpr.parse text = .ok t)
    (hwords : ∀ word, .word word ∈ t.tokens → TypeExpr.atBeforeLetter word = true)
    {scope : TypeDecl} {r : TypeRef} (hr : m.host.typeRef (m.resolve scope t) = .ok r)
    (other : TypeDecl) :
    ∀ name ∈ [r.globalName, r.keywordOrGlobalName],
      (∃ offset, TypeExpr.parse name = .error (.tooDeep offset)) ∨
        ∃ t', TypeExpr.parse name = .ok t' ∧ m.host.typeRef (m.resolve other t') = .ok r := by
  obtain ⟨hreference, hdepth⟩ := typeRef_host_eq_ok_iff.mp hr
  have htype : IsType t := (TypeExpr.parse_eq_ok_iff.mp ht).1.1
  have hnamed : r.IsWellNamed := hreference ▸ m.isWellNamed_resolve hm scope htype hwords
  have hread {style : NameStyle} (hstyle : TypeRef.IsFull style) :
      (∃ offset, TypeExpr.parse (r.render style) = .error (.tooDeep offset)) ∨
        ∃ t', TypeExpr.parse (r.render style) = .ok t' ∧
          m.host.typeRef (m.resolve other t') = .ok r := by
    rcases TypeRef.parse_render_of_isWellNamed hstyle hnamed with hdeep | ⟨t', hparse, hevery⟩
    · exact .inl hdeep
    · exact .inr ⟨t', hparse, typeRef_host_eq_ok_iff.mpr ⟨hevery m other, hdepth⟩⟩
  intro name hname
  simp only [List.mem_cons, List.not_mem_nil, or_false] at hname
  rcases hname with rfl | rfl
  · exact hread (.inl rfl)
  · exact hread (.inr rfl)

/-- Two namespaces declare a type `Message`. Arrays of the one, written in its own namespace, keep
their meaning by their full name in the other. -/
theorem typeRef_resolve_fullName_message :
    let chat : TypeDecl := ⟨.classType, "Chat", "Message", [], [], [], []⟩
    let mail : TypeDecl := ⟨.classType, "Mail", "Message", [], [], [], []⟩
    ∃ m, ofSnapshot ⟨[⟨"App", [chat, mail]⟩]⟩ = .ok m ∧
      ∃ t, TypeExpr.parse "@Message[]" = .ok t ∧
        m.host.typeRef (m.resolve chat t) = .ok (.plain "Chat" "Message[]") ∧
      ∃ t', TypeExpr.parse "global::Chat.Message[]" = .ok t' ∧
        m.host.typeRef (m.resolve mail t') = .ok (.plain "Chat" "Message[]") := by
  intro chat mail
  obtain ⟨m, hm, hsnapshot⟩ := exists_ofSnapshot_eq_ok
    (s := ⟨[⟨"App", [chat, mail]⟩]⟩) (by decide +kernel)
  have hdotted : ∀ d ∈ m.candidates, TypeRef.IsDotted d.container := by
    intro d hd
    rw [candidates, hsnapshot] at hd
    have hcases : d ∈ [chat, mail] := hd
    simp only [List.mem_cons, List.not_mem_nil, or_false] at hcases
    rcases hcases with rfl | rfl
    · exact ⟨["Chat"], by decide, String.intercalate_singleton⟩
    · exact ⟨["Mail"], by decide, String.intercalate_singleton⟩
  have hresolve : m.resolve chat (.simple "@Message") = .declared "App" chat [] := by
    have hfound : (searched chat ⟨none, [], "@Message", []⟩).findSome?
        (m.lookup · (withoutAt "@Message") 0) = some ("App", chat) := by
      simp only [lookup_eq_find?, hsnapshot]
      decide +kernel
    rw [resolve, resolveName]
    show m.resolvePath chat ⟨none, [], "@Message", []⟩ [] = _
    rw [resolvePath, List.length_nil, hfound]
    rfl
  have hparse : TypeExpr.parse "@Message[]" = .ok (.array (.simple "@Message") 1) := by
    decide +kernel
  have htypeRef : m.host.typeRef (m.resolve chat (.array (.simple "@Message") 1)) =
      .ok (.plain "Chat" "Message[]") := by
    rw [resolve, hresolve]
    rfl
  have hwords : ∀ word, .word word ∈ (TypeExpr.array (.simple "@Message") 1).tokens →
      TypeExpr.atBeforeLetter word = true := by
    intro word hword
    simp only [TypeExpr.tokens, List.mem_append, List.mem_cons, List.mem_replicate,
      List.not_mem_nil, or_false, TypeExpr.Token.word.injEq] at hword
    rcases hword with rfl | hbracket | ⟨-, hcomma⟩ | hbracket
    · decide +kernel
    · cases hbracket
    · cases hcomma
    · cases hbracket
  refine ⟨m, hm, _, hparse, htypeRef, ?_⟩
  have hname : (TypeRef.plain "Chat" "Message[]").globalName = "global::Chat.Message[]" := by
    decide +kernel
  have hread : TypeExpr.parse "global::Chat.Message[]" =
      .ok (.array (.qualified (.aliased "global" (.simple "Chat")) (.simple "Message")) 1) := by
    decide +kernel
  rcases typeRef_resolve_fullName hdotted hparse hwords htypeRef mail _ List.mem_cons_self with
    ⟨offset, hdeep⟩ | hsame
  · rw [hname, hread] at hdeep
    cases hdeep
  · rwa [hname] at hsame

end Model

end HubRelay
