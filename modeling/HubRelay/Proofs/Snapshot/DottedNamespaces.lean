import HubRelay.Proofs.Document.Headers
import HubRelay.Proofs.Snapshot.Lookup
import HubRelay.Proofs.Text.Findings
import HubRelay.Proofs.TypeExpr.Paths
import HubRelay.Proofs.TypeExpr.Soundness
import HubRelay.Proofs.TypeRef.Unambiguous

/-!
# Namespaces that are names

A namespace is accepted when it can be read as a type, whatever type that is. It is the name of a
namespace (`IsNamespaceName`) if it is made of identifiers with a dot between any two, and `global::` may
stand in front. Other types are accepted as well (`not_forall_hasNamespaceNames`). An accepted namespace is
such a name if and only if it has no white space, no type arguments and no suffix in it, and no alias but
`global` in front (`isNamespaceName_iff`), since without these a type is written as its identifiers
(`exists_render_eq_of_isType`). It can be equal to the qualifier of a name that is written somewhere if and
only if it is such a name and has no alias (`isQualifier_iff`), and of every such name the document has just
the identifiers (`isDottedName_localNamespace`).
-/

set_option autoImplicit false

namespace HubRelay

open TypeExpr (IsType IsName IsSegment isIdentifier)
open TypeRef (IsDotted isPathChar)

/-! ### Dotted names -/

/-- Identifiers, at least one, with a dot between any two. -/
def IsDottedName (text : String) : Prop := text ≠ "" ∧ IsDotted text

/-- A dotted name, which `global::` may stand in front of. -/
def IsNamespaceName (container : String) : Prop :=
  ∃ name, IsDottedName name ∧ (container = name ∨ container = "global::" ++ name)

section Dotted

variable {text : String} {identifiers : List String}

theorem isDottedName_intercalate (hne : identifiers ≠ [])
    (h : ∀ identifier ∈ identifiers, isIdentifier identifier = true) :
    IsDottedName (".".intercalate identifiers) := by
  refine ⟨fun hempty ↦ ?_, identifiers, h, rfl⟩
  obtain ⟨first, rest, rfl⟩ := List.exists_cons_of_ne_nil hne
  obtain ⟨c, more, hfirst, -, -⟩ := TypeExpr.isIdentifier_iff.mp (h first List.mem_cons_self)
  have htext := congrArg String.toList hempty
  cases rest with
  | nil =>
    rw [String.intercalate_singleton, hfirst] at htext
    cases htext
  | cons next others =>
    rw [String.intercalate_cons_cons, String.toList_append, String.toList_append, hfirst] at htext
    cases htext

/-- The characters of identifiers and the dots between them, none of which is a colon. -/
theorem isPathChar_and_ne_colon_of_mem (h : IsDotted text) :
    ∀ c ∈ text.toList, isPathChar c = true ∧ c ≠ ':' := by
  obtain ⟨qualifiers, hqualifiers, rfl⟩ := h
  rw [String.toList_intercalate]
  refine Text.forall_mem_intercalate (P := fun c ↦ isPathChar c = true ∧ c ≠ ':') ?_ ?_
  · exact List.forall_mem_singleton.mpr ⟨by decide +kernel, by decide⟩
  · intro part hpart c hc
    obtain ⟨qualifier, hmem, rfl⟩ := List.mem_map.mp hpart
    obtain ⟨hpath, -, hcolon⟩ := TypeRef.isPathChar_of_mem_identifier (hqualifiers qualifier hmem) hc
    exact ⟨hpath, hcolon⟩

end Dotted

/-! ### How types without arguments and suffixes are written -/

namespace TypeExpr

/-- A segment without type arguments is written as its identifier. -/
theorem render_of_isSegment {identifier : String} {t : TypeExpr} (ht : IsSegment identifier t)
    (hless : '<' ∉ t.render.toList) : t.render = identifier ∧ isIdentifier identifier = true := by
  cases ht with
  | simple hidentifier => exact ⟨by rw [render], hidentifier⟩
  | generic =>
    refine absurd ?_ hless
    rw [render]
    simp

/-- A name without type arguments is written as its identifiers with dots, behind the alias if it has
one. -/
theorem exists_render_eq_of_isName {t : TypeExpr} (ht : IsName t) (hless : '<' ∉ t.render.toList) :
    ∃ label identifiers, (∀ l ∈ label, isIdentifier l = true) ∧ identifiers ≠ [] ∧
      (∀ identifier ∈ identifiers, isIdentifier identifier = true) ∧
      t.render = aliasText label ++ ".".intercalate identifiers := by
  cases ht with
  | @first identifier _ hkeyword ht =>
    obtain ⟨hrender, hidentifier⟩ := render_of_isSegment ht hless
    refine ⟨none, [identifier], fun l hl ↦ (nomatch hl), List.cons_ne_nil _ _,
      List.forall_mem_singleton.mpr hidentifier, ?_⟩
    rw [hrender, aliasText, String.empty_append, String.intercalate_singleton]
  | @aliased label identifier name hlabel hkeyword hname =>
    rw [render, String.toList_append] at hless
    obtain ⟨hrender, hidentifier⟩ :=
      render_of_isSegment hname fun h ↦ hless (List.mem_append_right _ h)
    refine ⟨some label, [identifier], fun l hl ↦ Option.some.inj hl ▸ hlabel, List.cons_ne_nil _ _,
      List.forall_mem_singleton.mpr hidentifier, ?_⟩
    rw [render, hrender, aliasText, String.intercalate_singleton]
  | @qualified identifier left right hleft hright =>
    rw [render, String.toList_append, String.toList_append, List.append_assoc] at hless
    obtain ⟨label, identifiers, hlabel, hne, hidentifiers, hrender⟩ :=
      exists_render_eq_of_isName hleft fun h ↦ hless (List.mem_append_left _ h)
    obtain ⟨hsegment, hidentifier⟩ := render_of_isSegment hright fun h ↦
      hless (List.mem_append_right _ (List.mem_append_right _ h))
    refine ⟨label, identifiers ++ [identifier], hlabel, by simp, ?_, ?_⟩
    · exact List.forall_mem_append.mpr ⟨hidentifiers, List.forall_mem_singleton.mpr hidentifier⟩
    · rw [render, hrender, hsegment, String.intercalate_append_of_ne_nil hne (List.cons_ne_nil _ _),
        String.intercalate_singleton]
      simp only [String.append_assoc]

/-- The characters that type arguments and suffixes begin with. -/
def extras : List Char := ['<', '[', '?']

/-- A type without type arguments and suffixes is written as identifiers with dots, behind an alias if
it has one. -/
theorem exists_render_eq_of_isType {t : TypeExpr} (ht : IsType t)
    (hplain : ∀ c ∈ extras, c ∉ t.render.toList) :
    ∃ label identifiers, (∀ l ∈ label, isIdentifier l = true) ∧ identifiers ≠ [] ∧
      (∀ identifier ∈ identifiers, isIdentifier identifier = true) ∧
      t.render = aliasText label ++ ".".intercalate identifiers := by
  cases ht with
  | @keyword word hword =>
    refine ⟨none, [word], fun l hl ↦ (nomatch hl), List.cons_ne_nil _ _,
      List.forall_mem_singleton.mpr (isIdentifier_of_isKeyword hword), ?_⟩
    rw [render, aliasText, String.empty_append, String.intercalate_singleton]
  | name ht => exact exists_render_eq_of_isName ht (hplain '<' (by decide))
  | array helement hrank =>
    refine absurd ?_ (hplain '[' (by decide))
    rw [render, rankSuffix]
    simp
  | nullable hinner =>
    refine absurd ?_ (hplain '?' (by decide))
    rw [render]
    simp

end TypeExpr

/-! ### Namespaces that can be read -/

/-- A text without white space, type arguments and suffixes. -/
def IsPlain (container : String) : Prop :=
  ∀ c ∈ container.toList, Text.isBlank c = false ∧ c ∉ TypeExpr.extras

/-- The qualifier of a name that can be written. -/
def IsQualifier (container : String) : Prop :=
  ∃ t path, IsType t ∧ t.path? = some path ∧ path.qualifier = container

section Readable

variable {container : String}

theorem isBlank_eq_false_of_isPathChar {c : Char} (h : isPathChar c = true) : Text.isBlank c = false := by
  simp only [isPathChar, Bool.or_eq_true, beq_iff_eq] at h
  rcases h with ((hstart | hcontinues) | rfl) | rfl
  · exact TypeExpr.isBlank_eq_false_of_startsIdentifier hstart
  · exact TypeExpr.isBlank_eq_false_of_continuesIdentifier hcontinues
  · decide
  · decide

/-- The characters of a path are not those of type arguments and suffixes. -/
theorem notMem_extras_of_isPathChar {c : Char} (h : isPathChar c = true) : c ∉ TypeExpr.extras := by
  have hextras : ∀ d ∈ TypeExpr.extras, isPathChar d = false :=
    List.all_iff_forall_prop.mp (by decide +kernel)
  exact fun hc ↦ Bool.noConfusion ((hextras c hc).symm.trans h)

/-- A text of the characters of a path is plain. -/
theorem isPlain_of_isPathChar (h : ∀ c ∈ container.toList, isPathChar c = true) : IsPlain container :=
  fun c hc ↦ ⟨isBlank_eq_false_of_isPathChar (h c hc), notMem_extras_of_isPathChar (h c hc)⟩

theorem isPathChar_of_mem_aliasText_append {label : Option String} {name : String}
    (hlabel : ∀ l ∈ label, isIdentifier l = true) (hname : IsDotted name) :
    ∀ c ∈ (aliasText label ++ name).toList, isPathChar c = true := by
  rw [String.toList_append]
  refine List.forall_mem_append.mpr ⟨?_, fun c hc ↦ (isPathChar_and_ne_colon_of_mem hname c hc).1⟩
  cases label with
  | none => exact List.forall_mem_nil _
  | some l =>
    rw [aliasText, String.toList_append]
    refine List.forall_mem_append.mpr ⟨fun c hc ↦ ?_, List.all_iff_forall_prop.mp (by decide +kernel)⟩
    exact (TypeRef.isPathChar_of_mem_identifier (hlabel l rfl) hc).1

/-- Assumes: a plain text that is read as a type. It is made of identifiers with dots, behind an alias if it
has one. -/
theorem exists_eq_of_isPlain {t : TypeExpr} (hparse : TypeExpr.parse container = .ok t)
    (hplain : IsPlain container) :
    ∃ label name, (∀ l ∈ label, isIdentifier l = true) ∧ IsDottedName name ∧
      container = aliasText label ++ name := by
  obtain ⟨ht, -, hwithout⟩ := TypeExpr.isType_of_parse hparse
  have hcontainer : Text.withoutBlanks container.toList = container.toList :=
    Text.withoutBlanks_eq_self fun c hc ↦ (hplain c hc).1
  have hextras : ∀ c ∈ TypeExpr.extras, c ∉ t.render.toList := fun c hc hmem ↦ by
    have hblank : ∀ d ∈ TypeExpr.extras, Text.isBlank d = false :=
      List.all_iff_forall_prop.mp (by decide)
    have hkept : c ∈ Text.withoutBlanks t.render.toList :=
      List.mem_filter.mpr ⟨hmem, by rw [hblank c hc]; rfl⟩
    rw [← hwithout, hcontainer] at hkept
    exact (hplain c hkept).2 hc
  obtain ⟨label, identifiers, hlabel, hne, hidentifiers, hrender⟩ :=
    TypeExpr.exists_render_eq_of_isType ht hextras
  have hname := isDottedName_intercalate hne hidentifiers
  refine ⟨label, _, hlabel, hname, ?_⟩
  have hpath := isPathChar_of_mem_aliasText_append hlabel hname.2
  rw [hcontainer, hrender, Text.withoutBlanks_eq_self fun c hc ↦
    isBlank_eq_false_of_isPathChar (hpath c hc)] at hwithout
  exact String.toList_injective hwithout

/-- The text before the first colon. -/
def beforeColon (text : String) : String := String.ofList (text.toList.takeWhile (· != ':'))

/-- In front of the first colon of a name with an alias is the alias. -/
theorem beforeColon_aliasText_append {l : String} (hl : isIdentifier l = true) (name : String) :
    beforeColon (aliasText (some l) ++ name) = l := by
  have hall : ∀ c ∈ l.toList, (c != ':') = true := fun c hc ↦
    bne_iff_ne.mpr (TypeRef.isPathChar_of_mem_identifier hl hc).2.2
  have hmark : ("::" ++ name).toList.takeWhile (· != ':') = [] := by
    rw [String.toList_append]
    rfl
  rw [beforeColon, aliasText, String.append_assoc, String.toList_append,
    List.takeWhile_append_of_pos hall, hmark, List.append_nil, String.ofList_toList]

/-- Assumes: a text that is read as a type. It is the name of a namespace when it is plain and there is no
alias but `global` in it. -/
theorem isNamespaceName_iff {t : TypeExpr} (hparse : TypeExpr.parse container = .ok t) :
    IsNamespaceName container ↔
      IsPlain container ∧ (':' ∈ container.toList → ∃ name, container = "global::" ++ name) := by
  have hglobal : aliasText (some "global") = "global::" := by decide
  constructor
  · rintro ⟨name, hname, rfl | rfl⟩
    · have hpath := isPathChar_and_ne_colon_of_mem hname.2
      exact ⟨isPlain_of_isPathChar fun c hc ↦ (hpath c hc).1, fun hcolon ↦
        absurd rfl (hpath ':' hcolon).2⟩
    · refine ⟨isPlain_of_isPathChar ?_, fun _ ↦ ⟨name, rfl⟩⟩
      rw [← hglobal]
      exact isPathChar_of_mem_aliasText_append (fun l hl ↦ Option.some.inj hl ▸ (by decide)) hname.2
  · rintro ⟨hplain, hcolon⟩
    obtain ⟨label, name, hlabel, hname, rfl⟩ := exists_eq_of_isPlain hparse hplain
    cases label with
    | none => exact ⟨name, hname, .inl (String.empty_append)⟩
    | some l =>
      have hmark : ':' ∈ (aliasText (some l) ++ name).toList := by
        rw [aliasText, String.toList_append, String.toList_append]
        exact List.mem_append_left _ (List.mem_append_right _ (by decide))
      obtain ⟨other, hother⟩ := hcolon hmark
      rw [← hglobal] at hother
      have hl : l = "global" := by
        rw [← beforeColon_aliasText_append (hlabel l rfl) name, hother,
          beforeColon_aliasText_append (by decide)]
      rw [hl, hglobal]
      exact ⟨name, hname, .inr rfl⟩

/-- What qualifies a name is made of identifiers with dots, and such texts qualify names. -/
theorem isQualifier_iff_isDotted : IsQualifier container ↔ IsDotted container := by
  constructor
  · rintro ⟨t, path, ht, hpath, rfl⟩
    cases ht with
    | keyword | array | nullable => cases hpath
    | name ht =>
      obtain ⟨other, hother, -, hwords⟩ := TypeExpr.exists_path?_eq_of_isName ht
      obtain rfl := Option.some.inj (hpath.symm.trans hother)
      exact ⟨path.qualifiers, fun qualifier h ↦
        TypeExpr.isLegal_of_mem_tokens_name ht _ (hwords qualifier h), rfl⟩
  · rintro ⟨qualifiers, hqualifiers, rfl⟩
    have hsegment : IsSegment "A" (.simple "A") := .simple (by decide)
    obtain ⟨arguments, hpath⟩ := TypeExpr.exists_path?_inGlobal_eq qualifiers hsegment
    exact ⟨_, _, .name (TypeExpr.isName_inGlobal hqualifiers hsegment), hpath, rfl⟩

/-- A text, other than none, qualifies names when it is the name of a namespace without an alias. -/
theorem isQualifier_iff (hne : container ≠ "") :
    IsQualifier container ↔ IsNamespaceName container ∧ ':' ∉ container.toList := by
  rw [isQualifier_iff_isDotted]
  constructor
  · intro h
    exact ⟨⟨container, ⟨hne, h⟩, .inl rfl⟩, fun hcolon ↦
      absurd rfl (isPathChar_and_ne_colon_of_mem h ':' hcolon).2⟩
  · rintro ⟨⟨name, hname, rfl | rfl⟩, hcolon⟩
    · exact hname.2
    · refine absurd ?_ hcolon
      rw [String.toList_append]
      exact List.mem_append_left _ (by decide)

/-- The document writes the name of a namespace as its identifiers with dots. -/
theorem isDottedName_localNamespace (h : IsNamespaceName container) :
    IsDottedName (Document.localNamespace container) := by
  obtain ⟨name, hname, hcontainer⟩ := h
  have hkept (bound : Nat) : Document.withoutGlobal bound name.toList = name.toList := by
    cases bound with
    | zero => rw [Document.withoutGlobal]
    | succ bound =>
      rw [Document.withoutGlobal]
      refine if_neg fun hprefix ↦ ?_
      have hmem : ':' ∈ name.toList :=
        (List.isPrefixOf_iff_prefix.mp hprefix).subset (by decide)
      exact (isPathChar_and_ne_colon_of_mem hname.2 ':' hmem).2 rfl
  have hdropped (bound : Nat) :
      Document.withoutGlobal (bound + 1) ("global::".toList ++ name.toList) = name.toList := by
    rw [Document.withoutGlobal, if_pos (List.isPrefixOf_iff_prefix.mpr (List.prefix_append _ _)),
      List.drop_left, hkept]
  have hlocal : Document.localNamespace container = name := by
    rw [Document.localNamespace]
    rcases hcontainer with rfl | rfl
    · rw [hkept, String.ofList_toList]
    · have hlength : ("global::" ++ name).toList.length = 7 + name.toList.length + 1 := by
        rw [String.toList_append, List.length_append, Nat.add_right_comm]
        rfl
      rw [hlength, String.toList_append, hdropped, String.ofList_toList]
  rwa [hlocal]

end Readable

/-! ### Namespaces of accepted snapshots -/

namespace Model

/-- Every namespace that is declared or imported is the global one or has the name of a namespace. -/
def HasNamespaceNames (s : Snapshot) : Prop :=
  ∀ d ∈ s.types, ∀ container ∈ d.namespaces, container ≠ "" → IsNamespaceName container

/-- Assumes: an accepted snapshot. A namespace that is declared or imported in it, other than the global
one, has the name of a namespace if and only if it has no white space, type arguments and suffixes in it, and
no alias but `global`. It can be equal to the qualifier of a name if and only if moreover it has no alias at
all, and where it has the name of a namespace the document has its identifiers with dots. -/
theorem isNamespaceName_iff_of_ofSnapshot {s : Snapshot} {m : Model} (h : ofSnapshot s = .ok m) :
    ∀ d ∈ s.types, ∀ container ∈ d.namespaces, container ≠ "" →
      (IsNamespaceName container ↔ IsPlain container ∧
        (':' ∈ container.toList → ∃ name, container = "global::" ++ name)) ∧
      (IsQualifier container ↔ IsNamespaceName container ∧ ':' ∉ container.toList) ∧
      (IsNamespaceName container → IsDottedName (Document.localNamespace container)) := by
  obtain rfl := ofSnapshot_eq_ok_iff.mp h
  intro d hd container hcontainer hne
  rcases m.accepted.namespaces d hd container hcontainer with hempty | ⟨t, hparse⟩
  · exact absurd hempty hne
  · exact ⟨isNamespaceName_iff hparse, isQualifier_iff hne, isDottedName_localNamespace⟩

/-- A hub in a namespace with a dot in it, which imports one behind `global::`. -/
theorem isNamespaceName_iff_of_ofSnapshot_chat :
    let hub : TypeDecl := ⟨.classType, "App.Chat", "ChatHub", [], ["global::System"], [], []⟩
    let s : Snapshot := ⟨[⟨"App", [hub]⟩]⟩
    (∃ m, ofSnapshot s = .ok m) ∧ IsNamespaceName "App.Chat" ∧ IsQualifier "App.Chat" ∧
      IsNamespaceName "global::System" ∧ ¬ IsQualifier "global::System" := by
  intro hub s
  obtain ⟨m, hm, -⟩ := exists_ofSnapshot_eq_ok (s := s) (by decide +kernel)
  have hall := isNamespaceName_iff_of_ofSnapshot hm hub (List.mem_singleton_self hub)
  obtain ⟨hchat, hqualifies, -⟩ := hall "App.Chat" List.mem_cons_self (by decide)
  obtain ⟨hsystem, hglobal, -⟩ :=
    hall "global::System" (List.mem_cons_of_mem _ List.mem_cons_self) (by decide)
  have hplain : IsPlain "App.Chat" ∧ IsPlain "global::System" :=
    ⟨List.all_iff_forall_prop.mp (by decide), List.all_iff_forall_prop.mp (by decide)⟩
  have hname : IsNamespaceName "App.Chat" :=
    hchat.mpr ⟨hplain.1, fun hcolon ↦ absurd hcolon (by decide)⟩
  exact ⟨⟨m, hm⟩, hname, hqualifies.mpr ⟨hname, by decide⟩,
    hsystem.mpr ⟨hplain.2, fun _ ↦ ⟨"System", by decide⟩⟩, fun h ↦ (hglobal.mp h).2 (by decide)⟩

/-- An accepted snapshot can have a namespace that is the type of an array. -/
theorem not_forall_hasNamespaceNames :
    ¬ ∀ (s : Snapshot) (m : Model), ofSnapshot s = .ok m → HasNamespaceNames s := by
  intro h
  let hub : TypeDecl := ⟨.classType, "Chat[]", "ChatHub", [], [], [], []⟩
  let s : Snapshot := ⟨[⟨"App", [hub]⟩]⟩
  obtain ⟨m, hm, -⟩ := exists_ofSnapshot_eq_ok (s := s) (by decide +kernel)
  have hname := h s m hm hub (List.mem_singleton_self hub) "Chat[]" List.mem_cons_self (by decide)
  have hparse : TypeExpr.parse "Chat[]" = .ok (.array (.simple "Chat") 1) := by decide +kernel
  have hplain := ((isNamespaceName_iff hparse).mp hname).1 '[' (by decide)
  exact hplain.2 (by decide)

end Model

end HubRelay
