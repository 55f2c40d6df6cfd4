import HubRelay.Snapshot.Basic
import HubRelay.TypeExpr.Json

/-!
# Snapshots in JSON

Every record of a snapshot is closed: a field that it does not have is refused. What may be left out
has a default, and is written nevertheless.
-/

set_option autoImplicit false

namespace HubRelay

/-- A field that is an empty list when left out. -/
def listField {α : Type} (name : String) (levels : Nat) (item : Json.Reader α) :
    Json.Field (List α) :=
  ⟨name, Json.list levels item, some []⟩

namespace DeclarationKind

/-- Reads a kind of declaration. -/
def ofJson (levels : Nat) : Json.Reader DeclarationKind :=
  Json.variant levels [("class", .bare .classType), ("interface", .bare .interfaceType),
    ("struct", .bare .structType), ("record", .bare .recordType)]

/-- The kind by its keyword. -/
def toJson (k : DeclarationKind) : Json.Value := .string k.keyword

end DeclarationKind

namespace ParameterDecl

/-- Reads a parameter. -/
def ofJson (levels : Nat) : Json.Reader ParameterDecl := do
  let (name, type, _) ← Json.record levels "ParameterDecl" true <|
    .cons ⟨"name", Json.string, none⟩ <|
    .cons ⟨"type", TypeExpr.ofJson, none⟩ .nil
  return ⟨name, type⟩

/-- The parameter as a record. -/
def toJson (p : ParameterDecl) : Json.Value :=
  .object [("name", .string p.name), ("type", p.type.toJson)]

end ParameterDecl

namespace MethodDecl

/-- Reads a method. A method without a return type returns nothing. -/
def ofJson (levels : Nat) : Json.Reader MethodDecl := do
  let (name, returns, parameters, _) ← Json.record levels "MethodDecl" true <|
    .cons ⟨"name", Json.string, none⟩ <|
    .cons ⟨"returns", TypeExpr.ofJson, some (.keyword "void")⟩ <|
    .cons (listField "parameters" (levels - 1) (ParameterDecl.ofJson (levels - 2))) .nil
  return ⟨name, returns, parameters⟩

/-- The method as a record. -/
def toJson (m : MethodDecl) : Json.Value :=
  .object [("name", .string m.name), ("returns", m.returns.toJson),
    ("parameters", .array (m.parameters.map ParameterDecl.toJson))]

end MethodDecl

namespace PropertyDecl

/-- Reads a property or an event. -/
def ofJson (levels : Nat) : Json.Reader PropertyDecl := do
  let (name, type, _) ← Json.record levels "PropertyDecl" true <|
    .cons ⟨"name", Json.string, none⟩ <|
    .cons ⟨"type", TypeExpr.ofJson, none⟩ .nil
  return ⟨name, type⟩

/-- The property or event as a record. -/
def toJson (p : PropertyDecl) : Json.Value :=
  .object [("name", .string p.name), ("type", p.type.toJson)]

end PropertyDecl

namespace MemberDecl

/-- Reads a member under the name of what it is. -/
def ofJson (levels : Nat) : Json.Reader MemberDecl :=
  Json.variant levels
    [("method", .inside do return .method (← MethodDecl.ofJson (levels - 1))),
      ("property", .inside do return .property (← PropertyDecl.ofJson (levels - 1))),
      ("event", .inside do return .event (← PropertyDecl.ofJson (levels - 1)))]

/-- The member under the name of what it is. -/
def toJson : MemberDecl → Json.Value
  | method declaration => .object [("method", declaration.toJson)]
  | property declaration => .object [("property", declaration.toJson)]
  | event declaration => .object [("event", declaration.toJson)]

end MemberDecl

namespace TypeDecl

/-- Reads a declared type. -/
def ofJson (levels : Nat) : Json.Reader TypeDecl := do
  let (kind, container, name, typeParameters, usings, baseList, members, _) ←
    Json.record levels "TypeDecl" true <|
      .cons ⟨"kind", DeclarationKind.ofJson (levels - 1), none⟩ <|
      .cons ⟨"namespace", Json.string, some ""⟩ <|
      .cons ⟨"name", Json.string, none⟩ <|
      .cons (listField "type_parameters" (levels - 1) Json.string) <|
      .cons (listField "usings" (levels - 1) Json.string) <|
      .cons (listField "base_list" (levels - 1) TypeExpr.ofJson) <|
      .cons (listField "members" (levels - 1) (MemberDecl.ofJson (levels - 2))) .nil
  return ⟨kind, container, name, typeParameters, usings, baseList, members⟩

/-- Reads a list of declared types. -/
def listOfJson (levels : Nat) : Json.Reader (List TypeDecl) :=
  Json.list levels (ofJson (levels - 1))

/-- The declared type as a record. -/
def toJson (d : TypeDecl) : Json.Value :=
  .object [("kind", d.kind.toJson), ("namespace", .string d.container), ("name", .string d.name),
    ("type_parameters", .array (d.typeParameters.map .string)),
    ("usings", .array (d.usings.map .string)),
    ("base_list", .array (d.baseList.map TypeExpr.toJson)),
    ("members", .array (d.members.map MemberDecl.toJson))]

end TypeDecl

namespace AssemblyDecl

/-- Reads an assembly. -/
def ofJson (levels : Nat) : Json.Reader AssemblyDecl := do
  let (name, types, _) ← Json.record levels "AssemblyDecl" true <|
    .cons ⟨"name", Json.string, none⟩ <|
    .cons (listField "types" (levels - 1) (TypeDecl.ofJson (levels - 2))) .nil
  return ⟨name, types⟩

/-- The assembly as a record. -/
def toJson (a : AssemblyDecl) : Json.Value :=
  .object [("name", .string a.name), ("types", .array (a.types.map TypeDecl.toJson))]

end AssemblyDecl

namespace Snapshot

/-- Reads a snapshot. -/
def ofJson (levels : Nat) : Json.Reader Snapshot := do
  let (assemblies, _) ← Json.record levels "Snapshot" true <|
    .cons ⟨"assemblies", Json.list (levels - 1) (AssemblyDecl.ofJson (levels - 2)), none⟩ .nil
  return ⟨assemblies⟩

/-- The snapshot as a record. -/
def toJson (s : Snapshot) : Json.Value :=
  .object [("assemblies", .array (s.assemblies.map AssemblyDecl.toJson))]

end Snapshot

end HubRelay
