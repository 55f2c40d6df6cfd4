import HubRelay.Hub.Basic
import HubRelay.TypeRef.Json

/-!
# Hubs in JSON

Hubs are written as a list of records, and read back from the same form. Fields with other names are
passed over.
-/

set_option autoImplicit false

namespace HubRelay

namespace Parameter

/-- Reads a parameter. -/
def ofJson (levels : Nat) : Json.Reader Parameter := do
  let (name, type, _) ← Json.record levels "Parameter" false <|
    .cons ⟨"name", Json.string, none⟩ <|
    .cons ⟨"type", TypeRef.ofJson (levels - 1), none⟩ .nil
  return ⟨name, type⟩

/-- The parameter as a record. -/
def toJson (p : Parameter) : Json.Value :=
  .object [("name", .string p.name), ("type", p.type.toJson)]

end Parameter

namespace Method

/-- Reads a method. -/
def ofJson (levels : Nat) : Json.Reader Method := do
  let (name, returnType, declaringType, parameters, _) ← Json.record levels "Method" false <|
    .cons ⟨"name", Json.string, none⟩ <|
    .cons ⟨"return_type", TypeRef.ofJson (levels - 1), none⟩ <|
    .cons ⟨"declaring_type", TypeRef.ofJson (levels - 1), none⟩ <|
    .cons ⟨"parameters", Json.list (levels - 1) (Parameter.ofJson (levels - 2)), none⟩ .nil
  return ⟨name, returnType, declaringType, parameters⟩

/-- The method as a record. -/
def toJson (m : Method) : Json.Value :=
  .object [("name", .string m.name), ("return_type", m.returnType.toJson),
    ("declaring_type", m.declaringType.toJson),
    ("parameters", .array (m.parameters.map Parameter.toJson))]

end Method

namespace Contract

/-- Reads a contract. -/
def ofJson (levels : Nat) : Json.Reader Contract := do
  let (type, methods, _) ← Json.record levels "Interface" false <|
    .cons ⟨"type", TypeRef.ofJson (levels - 1), none⟩ <|
    .cons ⟨"methods", Json.list (levels - 1) (Method.ofJson (levels - 2)), none⟩ .nil
  return ⟨type, methods⟩

/-- The contract as a record. -/
def toJson (c : Contract) : Json.Value :=
  .object [("type", c.type.toJson), ("methods", .array (c.methods.map Method.toJson))]

end Contract

namespace Hub

/-- Reads a hub. -/
def ofJson (levels : Nat) : Json.Reader Hub := do
  let (bridgeType, client, server, _) ← Json.record levels "Hub" false <|
    .cons ⟨"bridge_type", TypeRef.ofJson (levels - 1), none⟩ <|
    .cons ⟨"client", Contract.ofJson (levels - 1), none⟩ <|
    .cons ⟨"server", Contract.ofJson (levels - 1), none⟩ .nil
  return ⟨bridgeType, client, server⟩

/-- Reads a list of hubs. -/
def listOfJson (levels : Nat) : Json.Reader (List Hub) :=
  Json.list levels (ofJson (levels - 1))

/-- The hub as a record. -/
def toJson (h : Hub) : Json.Value :=
  .object [("bridge_type", h.bridgeType.toJson), ("client", h.client.toJson),
    ("server", h.server.toJson)]

/-- The hubs as a list of records. -/
def listToJson (hubs : List Hub) : Json.Value := .array (hubs.map toJson)

end Hub

end HubRelay
