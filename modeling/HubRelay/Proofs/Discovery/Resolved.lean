import HubRelay.Discovery.Snapshot
import HubRelay.Proofs.Discovery.Reference
import HubRelay.Proofs.Snapshot.Lookup
import HubRelay.Proofs.TypeExpr.Paths
import HubRelay.Proofs.TypeRef.WellNamed

/-!
# References of resolved types

The reference of a symbol has its namespace, its name and the references of its type arguments,
whether the type is declared or not (`Model.reference_named`). What is said of all types of the
grammar that are resolved in a snapshot follows from what is said of names, of arrays and of the types
of `System` that keywords and nullable types stand for (`Model.KeptByResolution.of_isType`).

One such property is to have a well-named reference (`Model.isWellNamed_resolve`): its namespace is
one that the snapshot declares or that is written in the type, and its name is an identifier of the
type, with a leading `@` taken away. So this is assumed of the identifiers: what follows an `@` can
begin one.
-/

set_option autoImplicit false

namespace HubRelay

/-! ### The reference of a symbol -/

theorem TypeView.referenceAll_eq_map (views : List TypeView) :
    referenceAll views = views.map reference := by
  induction views with
  | nil => rfl
  | cons first rest ih => rw [referenceAll, ih, List.map_cons]

namespace Symbol

theorem viewAll_eq_map (symbols : List Symbol) : viewAll symbols = symbols.map view := by
  induction symbols with
  | nil => rfl
  | cons first rest ih => rw [viewAll, ih, List.map_cons]

/-- The reference of a symbol, however deep its type arguments nest. -/
def reference (s : Symbol) : TypeRef := s.view.reference

theorem referenceAll_viewAll (symbols : List Symbol) :
    TypeView.referenceAll (viewAll symbols) = symbols.map reference := by
  rw [viewAll_eq_map, TypeView.referenceAll_eq_map, List.map_map]
  rfl

@[simp] theorem reference_declared (assembly : String) (d : TypeDecl) (arguments : List Symbol) :
    (declared assembly d arguments).reference =
      ⟨d.container, d.name, arguments.map reference⟩ := by
  rw [reference, view, TypeView.reference, referenceAll_viewAll]

@[simp] theorem reference_external (container name : String) (arguments : List Symbol) :
    (external container name arguments).reference =
      ⟨container, name, arguments.map reference⟩ := by
  rw [reference, view, TypeView.reference, referenceAll_viewAll]

@[simp] theorem reference_typeParameter (name : String) :
    (typeParameter name).reference = .plain "" name := by
  rw [reference, view, TypeView.reference]
  rfl

@[simp] theorem reference_array (element : Symbol) (rank : Nat) :
    (array element rank).reference = element.reference.arrayOf rank := by
  rw [reference, view, TypeView.reference]
  rfl

end Symbol

namespace Model

variable {m : Model} {scope : TypeDecl}

theorem resolveAll_eq_map (ts : List TypeExpr) :
    m.resolveAll scope ts = ts.map (m.resolve scope) := by
  induction ts with
  | nil => rw [resolveAll, List.map_nil]
  | cons first rest ih => rw [resolveAll, ih, List.map_cons]

/-- The type arguments of a segment are resolved one by one. -/
theorem resolveArguments_segmentOf (identifier : String) (arguments : List TypeExpr) :
    m.resolveArguments scope (TypeExpr.segmentOf identifier arguments) =
      arguments.map (m.resolve scope) := by
  rw [← resolveAll_eq_map]
  unfold TypeExpr.segmentOf
  split
  · next hnil =>
    rw [hnil, resolveArguments, resolveAll]
    exact fun _ _ h ↦ TypeExpr.noConfusion h
  · rw [resolveArguments]

/-- The host refers to a symbol when its type arguments nest within the limit. -/
theorem typeRef_host_eq_ok_iff {s : Symbol} {r : TypeRef} :
    m.host.typeRef s = .ok r ↔ s.reference = r ∧ r.depth ≤ TypeView.maxArgumentDepth :=
  TypeView.typeRef_eq_ok_iff

/-- A type has the reference with its full name, declared or not. -/
theorem reference_named (container name : String) (arguments : List Symbol) :
    (m.named container name arguments).reference =
      ⟨container, name, arguments.map Symbol.reference⟩ := by
  unfold named
  split
  · next assembly d h =>
    obtain ⟨hcontainer, hname, -⟩ := key_of_lookup h
    rw [Symbol.reference_declared, hcontainer, hname]
  · rw [Symbol.reference_external]

end Model

/-! ### Identifiers without a leading `@` -/

namespace TypeExpr

/-- Whether what follows a leading `@` can begin an identifier by itself: a letter or `_`. -/
def atBeforeLetter (identifier : String) : Bool :=
  match identifier.toList with
  | '@' :: rest => rest.head?.any fun c ↦ c == '_' || Text.isAlphabetic c
  | _ => true

/-- A plain identifier is left as it is. -/
theorem withoutAt_of_isPlainIdentifier {identifier : String}
    (h : isPlainIdentifier identifier = true) : Model.withoutAt identifier = identifier := by
  simp only [isPlainIdentifier, Bool.and_eq_true, bne_iff_ne] at h
  obtain ⟨c, rest, htext, -⟩ := isIdentifier_iff.mp h.1
  have hc : (c == '@') = false := by
    rw [beq_eq_false_iff_ne]
    intro heq
    apply h.2
    rw [htext, heq, List.head?_cons]
  rw [Model.withoutAt, htext, List.dropWhile_cons, hc, ← htext]
  exact String.ofList_toList

/-- Without a leading `@` an identifier is a plain one, if what follows the `@` can begin one. -/
theorem isPlainIdentifier_withoutAt {identifier : String} (h : isIdentifier identifier = true)
    (hat : atBeforeLetter identifier = true) :
    isPlainIdentifier (Model.withoutAt identifier) = true := by
  obtain ⟨c, rest, htext, hstart, hrest⟩ := isIdentifier_iff.mp h
  by_cases hc : c = '@'
  · subst hc
    rw [atBeforeLetter, htext] at hat
    obtain ⟨d, more, rfl⟩ : ∃ d more, rest = d :: more := by
      cases rest with
      | nil => cases hat
      | cons d more => exact ⟨d, more, rfl⟩
    have hd : (d == '_' || Text.isAlphabetic d) = true := hat
    have hne : (d == '@') = false := by
      rw [beq_eq_false_iff_ne]
      rintro rfl
      have hletter : ('@' == '_' || Text.isAlphabetic '@') = false := by decide +kernel
      exact Bool.noConfusion (hd.symm.trans hletter)
    have hname : (Model.withoutAt identifier).toList = d :: more := by
      rw [Model.withoutAt, htext, String.toList_ofList, List.dropWhile_cons, beq_self_eq_true,
        if_pos rfl, List.dropWhile_cons, hne]
      rfl
    have hfirst : startsIdentifier d = true := by
      rw [startsIdentifier, Bool.or_assoc, hd, Bool.or_true]
    rw [isPlainIdentifier, Bool.and_eq_true, bne_iff_ne, isIdentifier_iff, hname]
    refine ⟨⟨d, more, rfl, hfirst, fun e he ↦ hrest e (List.mem_cons_of_mem _ he)⟩, ?_⟩
    rw [List.head?_cons]
    intro heq
    rw [Option.some.inj heq] at hne
    exact Bool.noConfusion hne
  · have hplain : isPlainIdentifier identifier = true := by
      rw [isPlainIdentifier, h, htext, List.head?_cons, Bool.true_and, bne_iff_ne]
      intro heq
      exact hc (Option.some.inj heq)
    rw [withoutAt_of_isPlainIdentifier hplain]
    exact hplain

end TypeExpr

/-! ### Resolved types -/

namespace TypeExpr

/-- What follows each leading `@` in the expression can begin an identifier by itself. -/
def AtsBeforeLetters (t : TypeExpr) : Prop :=
  ∀ word, .word word ∈ t.tokens → atBeforeLetter word = true

end TypeExpr

namespace Model

open TypeExpr (IsType IsName IsSegment AtsBeforeLetters isIdentifier isPlainIdentifier)

variable {m : Model}

/-- A property of symbols that resolution in `scope` hands on from type arguments and elements, as long as
the words of the type have the property `legal`. -/
structure KeptByResolution (m : Model) (scope : TypeDecl) (legal : String → Prop)
    (property : Symbol → Prop) : Prop where
  /-- It holds of a type of the namespace `System`, which keywords and nullable types stand for. -/
  system : ∀ (name : String) (arguments : List Symbol), isPlainIdentifier name = true →
    (∀ argument ∈ arguments, property argument) →
      property (m.named Keyword.systemNamespace name arguments)
  /-- It holds of what a name stands for. -/
  path : ∀ (path : TypeExpr.Path) (arguments : List Symbol), legal path.identifier →
    (∀ qualifier ∈ path.qualifiers, legal qualifier) → (∀ argument ∈ arguments, property argument) →
      property (m.resolvePath scope path arguments)
  /-- It holds of an array. -/
  array : ∀ (element : Symbol) (rank : Nat), 1 ≤ rank → property element →
    property (.array element rank)

namespace KeptByResolution

variable {scope : TypeDecl} {legal : String → Prop} {property : Symbol → Prop}

mutual

/-- Such a property holds of every type of the grammar that is resolved in the scope. The induction is on
the type: a name has its type arguments in the segment at its right end. -/
theorem of_isType (h : m.KeptByResolution scope legal property) {t : TypeExpr} :
    IsType t → (∀ word, .word word ∈ t.tokens → legal word) → property (m.resolve scope t)
  | @IsType.keyword word hword, _ => by
    have htable : ∀ entry ∈ Keyword.table, isPlainIdentifier entry.2 = true := by
      decide +kernel
    obtain ⟨name, hname⟩ := Option.isSome_iff_exists.mp hword
    have hplain : isPlainIdentifier name = true :=
      htable _ (TypeExpr.mem_table_of_typeName? hname)
    rw [resolve, hname]
    exact h.system _ _ hplain (List.forall_mem_nil _)
  | .name ht, hwords => by
    obtain ⟨identifier, hsegment, -⟩ := TypeExpr.exists_isSegment_rightmost ht
    have hname : t.rightmost.segments?.isSome = true := by
      rw [TypeExpr.segments?_of_isSegment hsegment]
      rfl
    obtain ⟨path, hpath, hidentifier, hqualifiers⟩ := TypeExpr.exists_path?_eq_of_isName ht
    rw [resolve_eq_resolveName scope hname, resolveName, hpath]
    exact h.path _ _ (hwords _ hidentifier)
      (fun qualifier hqualifier ↦ hwords _ (hqualifiers qualifier hqualifier))
      (of_isName h ht hwords)
  | .array helement hrank, hwords => by
    have ih := of_isType h helement fun word hword ↦ hwords word <| by simp [TypeExpr.tokens, hword]
    rw [resolve]
    exact h.array _ _ hrank ih
  | .nullable hinner, hwords => by
    have ih := of_isType h hinner fun word hword ↦ hwords word <| by simp [TypeExpr.tokens, hword]
    have hnullable : isPlainIdentifier "Nullable" = true := by decide
    rw [resolve]
    split
    · exact h.system _ _ hnullable (List.forall_mem_singleton.mpr ih)
    · exact ih

/-- It holds of the type arguments at the right end of a name. -/
theorem of_isName (h : m.KeptByResolution scope legal property) {t : TypeExpr} :
    IsName t → (∀ word, .word word ∈ t.tokens → legal word) →
      ∀ argument ∈ m.resolveArguments scope t.rightmost, property argument
  | .first hkeyword ht, hwords => by
    rw [TypeExpr.rightmost_of_isSegment ht]
    exact of_isSegment h ht hwords
  | .aliased hlabel hkeyword hname, hwords =>
    of_isSegment h hname fun word hword ↦ hwords word <| by
      rw [TypeExpr.tokens]
      exact List.mem_cons_of_mem _ (List.mem_cons_of_mem _ hword)
  | .qualified hleft hright, hwords =>
    of_isSegment h hright fun word hword ↦ hwords word <| by
      rw [TypeExpr.tokens]
      exact List.mem_append_right _ (List.mem_cons_of_mem _ hword)

/-- It holds of the type arguments of a segment. -/
theorem of_isSegment (h : m.KeptByResolution scope legal property) {identifier : String}
    {t : TypeExpr} : IsSegment identifier t → (∀ word, .word word ∈ t.tokens → legal word) →
      ∀ argument ∈ m.resolveArguments scope t, property argument
  | .simple hidentifier, _ => by
    rw [resolveArguments]
    · exact List.forall_mem_nil _
    · exact fun _ _ h ↦ TypeExpr.noConfusion h
  | @IsSegment.generic _ arguments hidentifier hne harguments, hwords => by
    rw [resolveArguments, resolveAll_eq_map]
    intro symbol hsymbol
    obtain ⟨argument, hargument, rfl⟩ := List.mem_map.mp hsymbol
    refine of_isType h (harguments argument hargument) fun word hword ↦ hwords word ?_
    rw [TypeExpr.tokens]
    refine List.mem_cons_of_mem _ (List.mem_cons_of_mem _ (List.mem_append_left _ ?_))
    exact TypeExpr.tokens_subset_tokensOfAll hargument hword

end

end KeptByResolution

/-- Assumes: well-named type arguments. Their references are well named. -/
theorem isWellNamed_of_mem_map {arguments : List Symbol}
    (harguments : ∀ argument ∈ arguments, argument.reference.IsWellNamed) :
    ∀ r ∈ arguments.map Symbol.reference, r.IsWellNamed := by
  intro r hr
  obtain ⟨argument, hargument, rfl⟩ := List.mem_map.mp hr
  exact harguments argument hargument

section DottedNamespaces

variable (hm : ∀ d ∈ m.candidates, TypeRef.IsDotted d.container) (scope : TypeDecl)
include hm

/-- Assumes: declared namespaces that are dotted identifiers. Being well named is kept by resolution of
types in which what follows each leading `@` begins an identifier. -/
theorem keptByResolution_isWellNamed :
    m.KeptByResolution scope
      (fun word ↦ isIdentifier word = true ∧ TypeExpr.atBeforeLetter word = true)
      (fun symbol ↦ symbol.reference.IsWellNamed) where
  system name arguments hname harguments := by
    have hsystem : TypeRef.IsDotted Keyword.systemNamespace :=
      ⟨["System"], by decide, String.intercalate_singleton⟩
    rw [reference_named]
    exact .of_parts hsystem hname (isWellNamed_of_mem_map harguments)
  path path arguments hidentifier hqualifiers harguments := by
    have hname : isPlainIdentifier (withoutAt path.identifier) = true :=
      TypeExpr.isPlainIdentifier_withoutAt hidentifier.1 hidentifier.2
    have hreferences := isWellNamed_of_mem_map harguments
    obtain ⟨h, -⟩ | ⟨container, assembly, d, -, hlookup, h⟩ | h :=
      m.resolvePath_cases scope path arguments
    · rw [h, Symbol.reference_typeParameter]
      exact .of_parts TypeRef.isDotted_empty hname (List.forall_mem_nil _)
    · rw [h, Symbol.reference_declared, (key_of_lookup hlookup).2.1]
      exact .of_parts (hm d (mem_candidates_of_lookup hlookup)) hname hreferences
    · rw [h, Symbol.reference_external]
      exact .of_parts ⟨path.qualifiers, fun qualifier hq ↦ (hqualifiers qualifier hq).1, rfl⟩ hname
        hreferences
  array element rank hrank helement := by
    rw [Symbol.reference_array]
    exact helement.arrayOf hrank

/-- Assumes: declared namespaces that are dotted identifiers, and a type, what follows a leading `@`
in it beginning an identifier. Then the resolved type is well named. -/
theorem isWellNamed_resolve {t : TypeExpr} (ht : IsType t) (hwords : t.AtsBeforeLetters) :
    (m.resolve scope t).reference.IsWellNamed :=
  (keptByResolution_isWellNamed hm scope).of_isType ht fun word hword ↦
    ⟨TypeExpr.isLegal_of_mem_tokens ht _ hword, hwords word hword⟩

end DottedNamespaces

end Model

end HubRelay
