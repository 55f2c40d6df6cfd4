import HubRelay.TypeRef.Rendering

/-!
# Hubs and their contracts

A hub is a class that two contracts meet in: the interface of the calls that are sent to connected
clients, and the interface of the calls that clients make. This is all the document is made from.
-/

set_option autoImplicit false

namespace HubRelay

/-- A parameter of a contract method. -/
structure Parameter where
  name : String
  type : TypeRef
deriving DecidableEq, Repr

/-- A method of a contract. -/
structure Method where
  name : String
  returnType : TypeRef
  /-- The interface that declares the method. -/
  declaringType : TypeRef
  /-- The parameters, in order of declaration. -/
  parameters : List Parameter
deriving DecidableEq, Repr

/-- The documentation reference of a method: its full name with the types of its parameters. -/
def Method.cref (m : Method) : String :=
  m.declaringType.crefName ++ "." ++ m.name ++ "(" ++
    ",".intercalate (m.parameters.map fun p ↦ p.type.crefName) ++ ")"

/-- A contract of a hub: an interface with its methods. -/
structure Contract where
  type : TypeRef
  methods : List Method
deriving DecidableEq, Repr

/-- A hub class with both of its contracts. -/
structure Hub where
  /-- The class itself. -/
  bridgeType : TypeRef
  /-- The calls sent to connected clients. -/
  client : Contract
  /-- The calls received from clients. -/
  server : Contract
deriving DecidableEq, Repr

end HubRelay
