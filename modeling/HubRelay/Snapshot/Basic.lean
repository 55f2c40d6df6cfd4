import HubRelay.TypeExpr.Basic

/-!
# Declaration snapshots

A snapshot describes the types of a program: its assemblies, the types that each declares, and
their members. Base lists and signatures are type expressions as they are written in the source;
nothing is resolved yet.
-/

set_option autoImplicit false

namespace HubRelay

/-- What kind of type is declared. -/
inductive DeclarationKind
  | classType
  | interfaceType
  | structType
  | recordType
deriving DecidableEq, Repr

/-- The keyword of a kind of declaration. -/
def DeclarationKind.keyword : DeclarationKind → String
  | classType => "class"
  | interfaceType => "interface"
  | structType => "struct"
  | recordType => "record"

/-- A parameter as declared. -/
structure ParameterDecl where
  name : String
  type : TypeExpr
deriving DecidableEq

/-- A method as declared. -/
structure MethodDecl where
  name : String
  returns : TypeExpr
  parameters : List ParameterDecl
deriving DecidableEq

/-- A property or an event as declared. -/
structure PropertyDecl where
  name : String
  type : TypeExpr
deriving DecidableEq

/-- A member of a declared type. -/
inductive MemberDecl
  | method (declaration : MethodDecl)
  | property (declaration : PropertyDecl)
  | event (declaration : PropertyDecl)
deriving DecidableEq

/-- A declared type. -/
structure TypeDecl where
  kind : DeclarationKind
  /-- The dotted namespace, empty for the global one. -/
  container : String
  name : String
  typeParameters : List String
  /-- The namespaces imported in the declaring file. -/
  usings : List String
  /-- The base list as written. -/
  baseList : List TypeExpr
  members : List MemberDecl
deriving DecidableEq

namespace TypeDecl

/-- The number of type parameters. -/
def arity (d : TypeDecl) : Nat := d.typeParameters.length

/-- What a declaration is found by: namespace, name and number of type parameters. -/
def key (d : TypeDecl) : String × String × Nat := (d.container, d.name, d.arity)

/-- The namespaces that a declaration names: its own, and those that it imports. -/
def namespaces (d : TypeDecl) : List String := d.container :: d.usings

/-- The full name of a declaration with its type parameters. -/
def fullName (d : TypeDecl) : String :=
  (if d.container.isEmpty then d.name else d.container ++ "." ++ d.name) ++
    (if d.typeParameters.isEmpty then "" else "<" ++ ", ".intercalate d.typeParameters ++ ">")

end TypeDecl

/-- An assembly with the types it declares. -/
structure AssemblyDecl where
  name : String
  types : List TypeDecl
deriving DecidableEq

/-- The declared types of a program. -/
structure Snapshot where
  assemblies : List AssemblyDecl
deriving DecidableEq

namespace Snapshot

/-- The declarations of all assemblies in order, each with the name of its assembly. -/
def declarations (s : Snapshot) : List (String × TypeDecl) :=
  s.assemblies.flatMap fun a ↦ a.types.map fun d ↦ (a.name, d)

/-- The declared types of all assemblies, in order. -/
def types (s : Snapshot) : List TypeDecl := s.assemblies.flatMap (·.types)

end Snapshot

end HubRelay
