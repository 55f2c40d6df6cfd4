import HubRelay.Hub.Basic
import HubRelay.Proofs.TypeRef.Unambiguous

/-!
# References to methods are unambiguous

The documentation refers to a method by the full name of its declaring type, its name, and the full names
of the types of its parameters in parentheses. The reference is parted at the parenthesis, which no full
name has in it, and at the last dot before it; behind it the parameters are read back like type arguments.
So two legal methods have the same reference only if they agree in all this (`Method.IsLegal.cref_eq_iff`),
and overloads have different ones. Of the characters that have a meaning in an attribute, none is in the
reference (`Method.IsLegal.notMem_cref`).
-/

set_option autoImplicit false

namespace HubRelay

namespace TypeRef

/-! ### The types of parameters -/

/-- The names of types with commas between them. -/
theorem intercalate_crefName (first : TypeRef) (rest : List TypeRef) :
    ",".intercalate ((first :: rest).map crefName) = first.crefName ++ renderMore .cref rest := by
  induction rest generalizing first with
  | nil => rw [List.map_singleton, String.intercalate_singleton, renderMore, String.append_empty]
  | cons next more ih =>
    have hne : (next :: more).map crefName ≠ [] := List.cons_ne_nil _ _
    rw [List.map_cons, String.intercalate_cons_of_ne_nil hne, ih, renderMore, String.append_assoc,
      String.append_assoc]
    rfl

/-- Assumes: legal types. Their names with commas between them determine them, up to the parenthesis. -/
theorem eq_of_intercalate_crefName_eq {types types' : List TypeRef} (h : ∀ type ∈ types, type.IsLegal)
    (h' : ∀ type ∈ types', type.IsLegal)
    (heq : (",".intercalate (types.map crefName)).toList ++ [')'] =
      (",".intercalate (types'.map crefName)).toList ++ [')']) : types = types' := by
  have hstyle : NameStyle.cref ≠ .short := by decide
  have hclosing : ')' ∈ ['>', '\x7d', ')'] := by decide
  have hne {type : TypeRef} (htype : type.IsLegal) (more : List TypeRef) :
      [')'] ≠ (",".intercalate ((type :: more).map crefName)).toList ++ [')'] := by
    intro hparenthesis
    obtain ⟨c, rest, hlist, hc⟩ := htype.exists_toList_render .cref
    rw [intercalate_crefName, crefName, String.toList_append, hlist] at hparenthesis
    rw [← (List.cons.inj hparenthesis).1, isPathChar_eq_false ')' (by decide)] at hc
    cases hc
  cases types with
  | nil =>
    cases types' with
    | nil => rfl
    | cons first' more' => exact absurd heq (hne (h' first' List.mem_cons_self) more')
  | cons first more =>
    cases types' with
    | nil => exact absurd heq.symm (hne (h first List.mem_cons_self) more)
    | cons first' more' =>
      obtain ⟨hfirst, hmore⟩ := List.forall_mem_cons.mp h
      obtain ⟨hfirst', hmore'⟩ := List.forall_mem_cons.mp h'
      simp only [intercalate_crefName, String.toList_append, List.append_assoc] at heq
      obtain ⟨rfl, hback⟩ := hfirst.isReadBack hstyle hfirst' (stops_renderMore hclosing more [])
        (stops_renderMore hclosing more' []) heq
      obtain ⟨rfl, -⟩ := eq_of_renderMore_eq hclosing
        (fun type htype ↦ (hmore type htype).isReadBack hstyle) hmore' hback
      rfl

end TypeRef

/-! ### References to methods -/

namespace Method

open TypeExpr (isIdentifier)
open TypeRef (isNameChar)

/-- A method with an identifier for its name and legal types. -/
structure IsLegal (m : Method) : Prop where
  declaringType : m.declaringType.IsLegal
  name : isIdentifier m.name = true
  parameters : ∀ p ∈ m.parameters, p.type.IsLegal

/-- The types of the parameters. -/
def parameterTypes (m : Method) : List TypeRef := m.parameters.map (·.type)

/-- The reference to a method by its characters. -/
theorem toList_cref (m : Method) :
    m.cref.toList = (m.declaringType.crefName.toList ++ '.' :: m.name.toList) ++
      '(' :: ((",".intercalate (m.parameterTypes.map TypeRef.crefName)).toList ++ [')']) := by
  rw [cref, parameterTypes, List.map_map]
  simp [Function.comp_def]

variable {m m' : Method}

/-- The parameters of a legal method have legal types. -/
theorem IsLegal.isLegal_parameterTypes (h : m.IsLegal) : ∀ type ∈ m.parameterTypes, type.IsLegal :=
  List.forall_mem_map.mpr h.parameters

/-- In front of its parenthesis the reference to a legal method has no other parenthesis. -/
theorem IsLegal.isNameChar_of_mem (h : m.IsLegal) :
    ∀ c ∈ m.declaringType.crefName.toList ++ '.' :: m.name.toList, isNameChar .cref c = true := by
  have hdot : isNameChar .cref '.' = true := by simp [isNameChar, TypeRef.isPathChar]
  rw [List.forall_mem_append, List.forall_mem_cons]
  refine ⟨h.declaringType.isNameChar_of_mem .cref, hdot, fun c hc ↦ ?_⟩
  rw [isNameChar, (TypeRef.isPathChar_of_mem_identifier h.name hc).1, Bool.true_or]

/-- Assumes: two legal methods. They have the same reference when they have the same declaring type, the
same name and the same types of parameters. -/
theorem IsLegal.cref_eq_iff (h : m.IsLegal) (h' : m'.IsLegal) :
    m.cref = m'.cref ↔ m.declaringType = m'.declaringType ∧ m.name = m'.name ∧
      m.parameterTypes = m'.parameterTypes := by
  have hstyle : NameStyle.cref ≠ .short := by decide
  have hparenthesis (text : List Char) : ∀ c ∈ ('(' :: text).head?, isNameChar .cref c = false := by
    intro c hc
    rw [← Option.some.inj hc]
    exact TypeRef.isNameChar_eq_false (by decide) (by decide)
  have hnodot {m : Method} (h : m.IsLegal) : '.' ∉ m.name.toList :=
    fun hmem ↦ (TypeRef.isPathChar_of_mem_identifier h.name hmem).2.1 rfl
  constructor
  · intro heq
    have hlist := congrArg String.toList heq
    rw [toList_cref, toList_cref] at hlist
    obtain ⟨hfront, hback⟩ := Text.eq_of_append_eq_append h.isNameChar_of_mem h'.isNameChar_of_mem
      (hparenthesis _) (hparenthesis _) hlist
    obtain ⟨htype, hname⟩ := Text.eq_of_append_cons_eq_append_cons (hnodot h) (hnodot h') hfront
    have htypes := TypeRef.eq_of_intercalate_crefName_eq h.isLegal_parameterTypes
      h'.isLegal_parameterTypes (List.cons.inj hback).2
    exact ⟨(h.declaringType.render_inj hstyle h'.declaringType).mp (String.toList_injective htype),
      String.toList_injective hname, htypes⟩
  · rintro ⟨htype, hname, htypes⟩
    apply String.toList_injective
    rw [toList_cref, toList_cref, htype, hname, htypes]

/-- Nothing in the reference to a legal method has to be escaped in an attribute. -/
theorem IsLegal.notMem_cref (h : m.IsLegal) : ∀ c ∈ ['<', '>', '&', '"'], c ∉ m.cref.toList := by
  have hnone : ∀ c ∈ ['<', '>', '&', '"'], isNameChar .cref c = false ∧ c ≠ '(' ∧ c ≠ ')' := by
    have hmarks : ∀ c ∈ ['<', '>', '&', '"'], c ∈ TypeRef.marks ∧
        ("\x7b" ++ "," ++ "\x7d" ++ "[],").toList.contains c = false ∧ c ≠ '(' ∧ c ≠ ')' :=
      List.all_iff_forall_prop.mp (by decide)
    exact fun c hc ↦ ⟨TypeRef.isNameChar_eq_false (hmarks c hc).1 (hmarks c hc).2.1, (hmarks c hc).2.2⟩
  have hmore (types : List TypeRef) (htypes : ∀ type ∈ types, type.IsLegal) :
      ∀ c ∈ (",".intercalate (types.map TypeRef.crefName)).toList, isNameChar .cref c = true := by
    cases types with
    | nil => exact List.forall_mem_nil _
    | cons first rest =>
      obtain ⟨hfirst, hrest⟩ := List.forall_mem_cons.mp htypes
      rw [TypeRef.intercalate_crefName, String.toList_append, List.forall_mem_append]
      exact ⟨hfirst.isNameChar_of_mem .cref, TypeRef.isNameChar_of_mem_renderMore
        fun type htype ↦ (hrest type htype).isNameChar_of_mem .cref⟩
  intro c hc hmem
  obtain ⟨hother, hopening, hclosing⟩ := hnone c hc
  have hall := List.forall_mem_append.mpr
    ⟨h.isNameChar_of_mem, hmore m.parameterTypes h.isLegal_parameterTypes⟩
  have hin : c ∈ (m.declaringType.crefName.toList ++ '.' :: m.name.toList) ++
      (",".intercalate (m.parameterTypes.map TypeRef.crefName)).toList := by
    rw [toList_cref] at hmem
    simp only [List.mem_append, List.mem_cons, List.not_mem_nil, or_false, hopening, hclosing,
      false_or] at hmem ⊢
    exact hmem
  exact Bool.noConfusion (hother.symm.trans (hall c hin))

end Method

/-- Assumes: legal references and legal methods. The full names are different for different references, in
every style that writes namespaces; the references to methods are different unless the declaring types,
the names and the types of the parameters are the same; and they stand in an attribute as they are. -/
theorem fullNames_unambiguous {r r' : TypeRef} (hr : r.IsLegal) (hr' : r'.IsLegal) {m m' : Method}
    (hm : m.IsLegal) (hm' : m'.IsLegal) :
    (r.globalName = r'.globalName ↔ r = r') ∧ (r.crefName = r'.crefName ↔ r = r') ∧
      (r.keywordOrGlobalName = r'.keywordOrGlobalName ↔ r = r') ∧
      (m.cref = m'.cref ↔ m.declaringType = m'.declaringType ∧ m.name = m'.name ∧
        m.parameterTypes = m'.parameterTypes) ∧
      ∀ c ∈ ['<', '>', '&', '"'], c ∉ m.cref.toList :=
  ⟨hr.render_inj (by decide) hr', hr.render_inj (by decide) hr', hr.render_inj (by decide) hr',
    hm.cref_eq_iff hm', hm.notMem_cref⟩

/-- Two overloads, for arrays of lists of numbers and of lists of arrays of numbers. -/
theorem fullNames_unambiguous_overloads :
    let listsOf (argument : TypeRef) : TypeRef := ⟨"System.Collections", "List[]", [argument]⟩
    let first : TypeRef := listsOf (.plain "System" "Int32")
    let second : TypeRef := listsOf (.plain "System" "Int32[,]")
    let send (type : TypeRef) : Method :=
      ⟨"Send", .plain "System" "Void", .plain "" "@IClient", [⟨"value", type⟩]⟩
    first.IsLegal ∧ second.IsLegal ∧ (send first).IsLegal ∧ (send second).IsLegal ∧
      first.globalName ≠ second.globalName ∧ first.crefName ≠ second.crefName ∧
      first.keywordOrGlobalName ≠ second.keywordOrGlobalName ∧
      (send first).cref ≠ (send second).cref ∧ '<' ∉ (send first).cref.toList := by
  intro listsOf first second send
  have hsystem : TypeRef.IsDotted "System" :=
    ⟨["System"], by decide, String.intercalate_singleton⟩
  have hcollections : TypeRef.IsDotted "System.Collections" :=
    ⟨["System", "Collections"], by decide, by decide +kernel⟩
  have hint : TypeRef.IsLegal (.plain "System" "Int32") :=
    .of_parts hsystem (by decide +kernel) (List.forall_mem_nil _)
  have hints : TypeRef.IsLegal (.plain "System" "Int32[,]") := by
    rw [show "Int32[,]" = "Int32" ++ TypeExpr.rankSuffixes [2] by decide +kernel]
    exact .intro hsystem (by decide +kernel) (List.forall_mem_nil _)
  have hclient : TypeRef.IsLegal (.plain "" "@IClient") :=
    .of_parts TypeRef.isDotted_empty (by decide +kernel) (List.forall_mem_nil _)
  have hlists {argument : TypeRef} (h : argument.IsLegal) : (listsOf argument).IsLegal := by
    show TypeRef.IsLegal ⟨"System.Collections", "List[]", [argument]⟩
    rw [show "List[]" = "List" ++ TypeExpr.rankSuffixes [1] by decide +kernel]
    exact .intro hcollections (by decide) (List.forall_mem_singleton.mpr h)
  have hname : TypeExpr.isIdentifier "Send" = true := by decide
  have hsend {type : TypeRef} (h : type.IsLegal) : (send type).IsLegal :=
    ⟨hclient, hname, List.forall_mem_singleton.mpr h⟩
  have hfirst : first.IsLegal := hlists hint
  have hsecond : second.IsLegal := hlists hints
  have hne : first ≠ second := by decide +kernel
  obtain ⟨hglobal, hcref, hkeyword, hmethod, hplain⟩ :=
    fullNames_unambiguous hfirst hsecond (hsend hfirst) (hsend hsecond)
  refine ⟨hfirst, hsecond, hsend hfirst, hsend hsecond, mt hglobal.mp hne, mt hcref.mp hne,
    mt hkeyword.mp hne, fun heq ↦ ?_, hplain _ List.mem_cons_self⟩
  obtain ⟨-, -, htypes⟩ := hmethod.mp heq
  exact hne (List.cons.inj htypes).1

end HubRelay
