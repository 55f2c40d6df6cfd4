import HubRelay.Proofs.Json.Produced
import HubRelay.Snapshot.Json

/-!
# Types that are written in a snapshot

A declaration has types in its base list and in its members (`TypeDecl.written`). In JSON each of
them is a text, so the types of a snapshot that has been read are types that can be read
(`Snapshot.isRead_of_produces`), in whatever way the snapshot is written: with fields left off, or
with records as arrays. The one type that no text stands for is the return type of a method that
leaves it off, and it can be read as well.
-/

set_option autoImplicit false

namespace HubRelay

namespace TypeExpr

/-- There is a text that is read as the type expression. -/
def IsRead (t : TypeExpr) : Prop := ∃ text, parse text = .ok t

/-- A type that the reader of types produces. -/
theorem isRead_of_produces {t : TypeExpr} (h : Json.Produces ofJson t) : t.IsRead := by
  obtain ⟨text, -, h⟩ := h.of_bind
  split at h
  · next found hparse =>
    rw [h.eq_of_pure]
    exact ⟨text, hparse⟩
  · exact absurd h (Json.not_produces_throw _ _)

end TypeExpr

/-! ### What is written in a snapshot -/

/-- The types in the signature of a method: its return type, and those of its parameters. -/
def MethodDecl.signature (m : MethodDecl) : List TypeExpr :=
  m.returns :: m.parameters.map ParameterDecl.type

/-- The types in a member. -/
def MemberDecl.written : MemberDecl → List TypeExpr
  | .method declaration => declaration.signature
  | .property declaration | .event declaration => [declaration.type]

/-- The types in a declaration: its base list, and the types in its members. -/
def TypeDecl.written (d : TypeDecl) : List TypeExpr :=
  d.baseList ++ d.members.flatMap MemberDecl.written

/-! ### What is read -/

/-- The fields of what has a name and a type: a parameter, a property or an event. -/
def typedFields : Json.Fields [String, TypeExpr] :=
  .cons ⟨"name", Json.string, none⟩ (.cons ⟨"type", TypeExpr.ofJson, none⟩ .nil)

/-- The type among the values of such fields can be read. -/
theorem isRead_of_produce_typedFields {values : Json.Values [String, TypeExpr]}
    (h : typedFields.Produce values) : values.2.1.IsRead := by
  obtain ⟨-, htype | hdefault, -⟩ := h
  · exact TypeExpr.isRead_of_produces htype
  · cases hdefault

theorem ParameterDecl.isRead_of_produces {levels : Nat} {p : ParameterDecl}
    (h : Json.Produces (ofJson levels) p) : p.type.IsRead := by
  obtain ⟨⟨name, type, ⟨⟩⟩, hvalues, h⟩ := h.of_bind
  rw [h.eq_of_pure]
  exact isRead_of_produce_typedFields hvalues.of_record

theorem PropertyDecl.isRead_of_produces {levels : Nat} {p : PropertyDecl}
    (h : Json.Produces (ofJson levels) p) : p.type.IsRead := by
  obtain ⟨⟨name, type, ⟨⟩⟩, hvalues, h⟩ := h.of_bind
  rw [h.eq_of_pure]
  exact isRead_of_produce_typedFields hvalues.of_record

/-- The elements of a list that a field produces are produced by the reader of elements. -/
theorem produces_of_listField {α : Type} {name : String} {levels : Nat} {item : Json.Reader α}
    {values : List α} (h : (listField name levels item).Produces values) :
    ∀ value ∈ values, Json.Produces item value := by
  rcases h with h | h
  · exact h.of_list
  · cases h
    exact List.forall_mem_nil _

/-- The types of a method that is read can be read. A return type that is left off is `void`. -/
theorem MethodDecl.isRead_of_produces {levels : Nat} {m : MethodDecl}
    (h : Json.Produces (ofJson levels) m) : ∀ t ∈ m.signature, t.IsRead := by
  obtain ⟨⟨name, returns, parameters, ⟨⟩⟩, hvalues, h⟩ := h.of_bind
  obtain ⟨-, hreturns, hparameters, -⟩ := hvalues.of_record
  rw [h.eq_of_pure, signature, List.forall_mem_cons, List.forall_mem_map]
  constructor
  · rcases hreturns with hreturns | hvoid
    · exact TypeExpr.isRead_of_produces hreturns
    · have hparse : TypeExpr.parse "void" = .ok (.keyword "void") := by decide +kernel
      obtain rfl : TypeExpr.keyword "void" = returns := Option.some.inj hvoid
      exact ⟨"void", hparse⟩
  · exact fun p hp ↦ ParameterDecl.isRead_of_produces (produces_of_listField hparameters p hp)

theorem MemberDecl.isRead_of_produces {levels : Nat} {m : MemberDecl}
    (h : Json.Produces (ofJson levels) m) : ∀ t ∈ m.written, t.IsRead := by
  obtain ⟨choice, hchoice, h⟩ := h.of_variant
  simp only [List.mem_cons, List.not_mem_nil, or_false] at hchoice
  rcases hchoice with rfl | rfl | rfl
  · obtain ⟨declaration, hdeclaration, h⟩ := Json.Produces.of_bind h
    rw [h.eq_of_pure]
    exact MethodDecl.isRead_of_produces hdeclaration
  · obtain ⟨declaration, hdeclaration, h⟩ := Json.Produces.of_bind h
    rw [h.eq_of_pure]
    exact List.forall_mem_singleton.mpr (PropertyDecl.isRead_of_produces hdeclaration)
  · obtain ⟨declaration, hdeclaration, h⟩ := Json.Produces.of_bind h
    rw [h.eq_of_pure]
    exact List.forall_mem_singleton.mpr (PropertyDecl.isRead_of_produces hdeclaration)

theorem TypeDecl.isRead_of_produces {levels : Nat} {d : TypeDecl}
    (h : Json.Produces (ofJson levels) d) : ∀ t ∈ d.written, t.IsRead := by
  obtain ⟨⟨kind, container, name, typeParameters, usings, baseList, members, ⟨⟩⟩, hvalues, h⟩ :=
    h.of_bind
  obtain ⟨-, -, -, -, -, hbases, hmembers, -⟩ := hvalues.of_record
  rw [h.eq_of_pure, written, List.forall_mem_append]
  constructor
  · exact fun t ht ↦ TypeExpr.isRead_of_produces (produces_of_listField hbases t ht)
  · intro t ht
    obtain ⟨m, hm, ht⟩ := List.mem_flatMap.mp ht
    exact MemberDecl.isRead_of_produces (produces_of_listField hmembers m hm) t ht

theorem AssemblyDecl.isRead_of_produces {levels : Nat} {a : AssemblyDecl}
    (h : Json.Produces (ofJson levels) a) : ∀ d ∈ a.types, ∀ t ∈ d.written, t.IsRead := by
  obtain ⟨⟨name, types, ⟨⟩⟩, hvalues, h⟩ := h.of_bind
  obtain ⟨-, htypes, -⟩ := hvalues.of_record
  rw [h.eq_of_pure]
  exact fun d hd ↦ TypeDecl.isRead_of_produces (produces_of_listField htypes d hd)

/-- Every type in a snapshot that is read can be read. -/
theorem Snapshot.isRead_of_produces {levels : Nat} {s : Snapshot}
    (h : Json.Produces (ofJson levels) s) : ∀ d ∈ s.types, ∀ t ∈ d.written, t.IsRead := by
  obtain ⟨⟨assemblies, ⟨⟩⟩, hvalues, h⟩ := h.of_bind
  obtain ⟨hassemblies | hdefault, -⟩ := hvalues.of_record
  · rw [h.eq_of_pure]
    intro d hd
    obtain ⟨a, ha, hd⟩ := List.mem_flatMap.mp hd
    exact AssemblyDecl.isRead_of_produces (hassemblies.of_list a ha) d hd
  · cases hdefault

end HubRelay
