import HubRelay.Proofs.Discovery.Resolved
import HubRelay.Proofs.TypeExpr.Completeness
import HubRelay.Proofs.TypeRef.ArrayNames

/-!
# Short names and displays

A type is shown to a reader in two ways. A symbol is displayed from its own structure, where an array is
a node above its elements. The reference that is made from it keeps the array suffix at the end of a name,
and its short name splits the suffix off again. The two agree (`Symbol.IsUnbracketed.shortName_reference`)
unless the name of a type has a bracket in itself, which would be taken for a suffix.

No such name comes from a type that is written in a program: its names are identifiers, or names of
built-in types. So the declared names alone have to be without brackets
(`Model.shortName_eq_display`).
-/

set_option autoImplicit false

namespace HubRelay

namespace Symbol

/-! ### Two ways to show a symbol -/

/-- The named types in the symbol have no bracket in their names. -/
inductive IsUnbracketed : Symbol → Prop
  | declared {assembly : String} {d : TypeDecl} {arguments : List Symbol}
      (hname : '[' ∉ d.name.toList) (harguments : ∀ argument ∈ arguments, IsUnbracketed argument) :
      IsUnbracketed (.declared assembly d arguments)
  | external {container name : String} {arguments : List Symbol} (hname : '[' ∉ name.toList)
      (harguments : ∀ argument ∈ arguments, IsUnbracketed argument) :
      IsUnbracketed (.external container name arguments)
  | typeParameter {name : String} : IsUnbracketed (.typeParameter name)
  | array {element : Symbol} {rank : Nat} (helement : IsUnbracketed element) :
      IsUnbracketed (.array element rank)

/-- A declared type is displayed like an external one with its full name. -/
theorem display_declared (assembly : String) (d : TypeDecl) (arguments : List Symbol) :
    (declared assembly d arguments).display = (external d.container d.name arguments).display := by
  cases arguments with
  | nil => rw [display, display]
  | cons first rest => rw [display, display]

/-- Further type arguments have the same names in a reference as in a display, if each has. -/
theorem renderMore_map_reference {arguments : List Symbol}
    (h : ∀ argument ∈ arguments, argument.reference.shortName = argument.display) :
    TypeRef.renderMore .short (arguments.map reference) = displayMore arguments := by
  induction arguments with
  | nil => rw [List.map_nil, TypeRef.renderMore, displayMore]
  | cons next rest ih =>
    have hnext := h next List.mem_cons_self
    have hrest := ih fun argument hargument ↦ h argument (List.mem_cons_of_mem _ hargument)
    rw [TypeRef.shortName] at hnext
    rw [List.map_cons, TypeRef.renderMore, displayMore, hnext, hrest]
    rfl

/-- Assumes: a name without a bracket, and type arguments whose short names are their displays. The short
name of the type is its display. -/
theorem shortName_named (container : String) {name : String} (hname : '[' ∉ name.toList)
    {arguments : List Symbol}
    (harguments : ∀ argument ∈ arguments, argument.reference.shortName = argument.display) :
    TypeRef.shortName ⟨container, name, arguments.map reference⟩ =
      (external container name arguments).display := by
  have hsplit := TypeRef.splitSuffix_of_bracket_notMem hname
  rw [TypeRef.shortName]
  cases arguments with
  | nil =>
    have hstyle : NameStyle.short.prefersKeyword = true := rfl
    have hkeyword := TypeRef.keywordIn?_eq_ofType? hstyle container name
    have hqualification : TypeRef.qualification .short container = "" := rfl
    rw [hsplit] at hkeyword
    rw [List.map_nil, TypeRef.render_nil, hsplit, hkeyword, hqualification, String.empty_append,
      String.append_empty, display, plainDisplay]
  | cons first rest =>
    have hfirst := harguments first List.mem_cons_self
    have hrest := renderMore_map_reference fun argument hargument ↦
      harguments argument (List.mem_cons_of_mem _ hargument)
    rw [TypeRef.shortName] at hfirst
    rw [List.map_cons, TypeRef.render, hsplit]
    dsimp only
    rw [hfirst, hrest, display]
    have hqualification : TypeRef.qualification .short container = "" := rfl
    rw [hqualification, String.empty_append, String.append_empty]
    rfl

/-- The short name of the reference to a symbol is the display of the symbol. Arrays are undone one by
one, each at the end of both texts. -/
theorem IsUnbracketed.shortName_reference {s : Symbol} (h : s.IsUnbracketed) :
    s.reference.shortName = s.display := by
  induction h with
  | declared hname _ ih =>
    rw [reference_declared, display_declared]
    exact shortName_named _ hname ih
  | external hname _ ih =>
    rw [reference_external]
    exact shortName_named _ hname ih
  | @typeParameter name =>
    have hsystem : "" ≠ Keyword.systemNamespace := by decide
    have hkeyword : TypeRef.keywordIn? .short "" name (TypeRef.splitSuffix name).1 = none := by
      rw [TypeRef.keywordIn?_eq_ofType? rfl, Keyword.ofType?, if_neg hsystem]
    have hqualification : TypeRef.qualification .short "" = "" := rfl
    rw [reference_typeParameter, TypeRef.plain, TypeRef.shortName, TypeRef.render_nil, hkeyword,
      Option.getD_none, hqualification, String.empty_append, display]
    exact TypeRef.append_splitSuffix name
  | @array element rank _ ih =>
    rw [TypeRef.shortName] at ih
    rw [reference_array, TypeRef.shortName, TypeRef.render_arrayOf (.inr rfl), ih, display]

end Symbol

namespace Model

open TypeExpr (isIdentifier)

variable {m : Model}

/-! ### Resolved symbols -/

section DeclaredNames

variable (hm : ∀ d ∈ m.candidates, '[' ∉ d.name.toList)
include hm

/-- Assumes: declared names without brackets. A named type has no bracket in its name if it is resolved
by a name without one. -/
theorem isUnbracketed_named (container : String) {name : String} (hname : '[' ∉ name.toList)
    {arguments : List Symbol} (harguments : ∀ argument ∈ arguments, argument.IsUnbracketed) :
    (m.named container name arguments).IsUnbracketed := by
  unfold named
  split
  · next h => exact .declared (hm _ (mem_candidates_of_lookup h)) harguments
  · exact .external hname harguments

/-- Assumes: declared names without brackets. That there are none in the names of a symbol is kept by
resolution. -/
theorem keptByResolution_isUnbracketed (scope : TypeDecl) :
    m.KeptByResolution scope (fun word ↦ isIdentifier word = true) Symbol.IsUnbracketed where
  system name arguments hname harguments := by
    have hidentifier := TypeExpr.isIdentifier_of_isPlainIdentifier hname
    exact isUnbracketed_named hm _ (TypeExpr.bracket_notMem_identifier hidentifier) harguments
  path path arguments hidentifier _ harguments := by
    have hname : '[' ∉ (withoutAt path.identifier).toList := by
      rw [withoutAt, String.toList_ofList]
      exact fun hmem ↦ TypeExpr.bracket_notMem_identifier hidentifier
        ((List.dropWhile_suffix _).mem hmem)
    obtain ⟨h, -⟩ | ⟨container, assembly, d, -, hlookup, h⟩ | h :=
      m.resolvePath_cases scope path arguments
    · rw [h]
      exact .typeParameter
    · rw [h]
      exact .declared (hm d (mem_candidates_of_lookup hlookup)) harguments
    · rw [h]
      exact .external hname harguments
  array element rank _ helement := .array helement

/-- Assumes: declared names without brackets. The symbol of a declaration, and that of any type that is
read from a text and resolved in a declaration, has a reference only with the short name that it is
displayed by. -/
theorem shortName_eq_display {s : Symbol}
    (hs : (∃ d, m.declaredSymbol d = some s) ∨
      ∃ scope ∈ m.candidates, ∃ text t, TypeExpr.parse text = .ok t ∧ m.resolve scope t = s)
    {r : TypeRef} (hr : m.host.typeRef s = .ok r) : r.shortName = s.display := by
  obtain ⟨rfl, -⟩ := typeRef_host_eq_ok_iff.mp hr
  refine Symbol.IsUnbracketed.shortName_reference ?_
  rcases hs with ⟨d, hd⟩ | ⟨scope, -, text, t, ht, rfl⟩
  · obtain ⟨⟨assembly, declaration⟩, hlookup, rfl⟩ := Option.map_eq_some_iff.mp hd
    exact .declared (hm _ (mem_candidates_of_lookup hlookup)) (List.forall_mem_nil _)
  · have htype : TypeExpr.IsType t := (TypeExpr.parse_eq_ok_iff.mp ht).1.1
    exact (keptByResolution_isUnbracketed hm scope).of_isType htype fun word hword ↦
      TypeExpr.isLegal_of_mem_tokens htype _ hword

end DeclaredNames

/-- Arrays of boxes of arrays, written in the declaration of the box. -/
theorem shortName_eq_display_box :
    let box : TypeDecl := ⟨.classType, "Store", "Box", ["T"], [], [], []⟩
    let t : TypeExpr := .array (.generic "Box" [.array (.keyword "int") 1]) 2
    let r : TypeRef := ⟨"Store", "Box[,]", [.plain "System" "Int32[]"]⟩
    ∃ m, ofSnapshot ⟨[⟨"Lib", [box]⟩]⟩ = .ok m ∧ (∀ d ∈ m.candidates, '[' ∉ d.name.toList) ∧
      box ∈ m.candidates ∧ TypeExpr.parse "Box<int[]>[,]" = .ok t ∧
      m.host.typeRef (m.resolve box t) = .ok r ∧ r.shortName = (m.resolve box t).display ∧
      r.shortName = "Box<int[]>[,]" := by
  intro box t r
  obtain ⟨m, hm, hsnapshot⟩ := exists_ofSnapshot_eq_ok
    (s := ⟨[⟨"Lib", [box]⟩]⟩) (by decide +kernel)
  have hcandidates : m.candidates = [box] := by
    rw [candidates, hsnapshot]
    rfl
  have hmem : box ∈ m.candidates := hcandidates ▸ List.mem_cons_self
  have hnames : ∀ d ∈ m.candidates, '[' ∉ d.name.toList := by
    rw [hcandidates, List.forall_mem_singleton]
    decide
  have hint : m.resolve box (.keyword "int") = .external "System" "Int32" [] := by
    have hnone : m.lookup "System" "Int32" 0 = none := by
      simp only [lookup_eq_find?, hsnapshot]
      decide +kernel
    rw [resolve]
    show m.named "System" "Int32" [] = _
    rw [named, List.length_nil, hnone]
  have hbox : m.resolve box (.generic "Box" [.array (.keyword "int") 1]) =
      .declared "Lib" box [.array (.external "System" "Int32" []) 1] := by
    have hfound : (searched box ⟨none, [], "Box", [.array (.keyword "int") 1]⟩).findSome?
        (m.lookup · (withoutAt "Box") 1) = some ("Lib", box) := by
      simp only [lookup_eq_find?, hsnapshot]
      decide +kernel
    rw [resolve, resolveName, resolveAll, resolve, hint]
    show m.resolvePath box ⟨none, [], "Box", [.array (.keyword "int") 1]⟩
      [.array (.external "System" "Int32" []) 1] = _
    rw [resolvePath, List.length_singleton, hfound]
    rfl
  have hparse : TypeExpr.parse "Box<int[]>[,]" = .ok t := by decide +kernel
  have hreference : m.host.typeRef (m.resolve box t) = .ok r := by
    rw [show m.resolve box t = .array (m.resolve box (.generic "Box" [.array (.keyword "int") 1])) 2
      from rfl, hbox]
    rfl
  have hshort : r.shortName = "Box<int[]>[,]" := by decide +kernel
  exact ⟨m, hm, hnames, hmem, hparse, hreference,
    shortName_eq_display hnames (.inr ⟨box, hmem, _, t, hparse, rfl⟩) hreference, hshort⟩

end Model

end HubRelay
