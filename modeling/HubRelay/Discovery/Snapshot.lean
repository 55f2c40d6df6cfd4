import HubRelay.Discovery.Host
import HubRelay.Snapshot.Symbol

/-!
# A snapshot as a host

An accepted snapshot answers for its declarations. A declaration need not be one of the snapshot's
own: it stands for the declaration with the same key.
-/

set_option autoImplicit false

namespace HubRelay

namespace Symbol

mutual

/-- The view of a symbol. -/
def view : Symbol → TypeView
  | s@(declared _ declaration arguments) =>
    .named s.display declaration.container declaration.name (viewAll arguments)
  | s@(external container name arguments) =>
    .named s.display container name (viewAll arguments)
  | typeParameter name => .named name "" name []
  | s@(array element rank) => .array s.display (view element) rank

/-- The views of symbols, in order. -/
def viewAll : List Symbol → List TypeView
  | [] => []
  | first :: rest => view first :: viewAll rest

end

end Symbol

namespace Model

/-- A member of a declaration, with the symbols of its types. -/
def memberSymbol (m : Model) (scope : TypeDecl) : MemberDecl → Member Symbol
  | .method declaration =>
    .method
      { name := declaration.name
        returnType := m.resolve scope declaration.returns
        parameters := declaration.parameters.map fun p ↦ ⟨p.name, m.resolve scope p.type⟩ }
  | .property declaration | .event declaration => .other declaration.name

/-- The members of a type. -/
def members (m : Model) (s : Symbol) : List (Member Symbol) :=
  match s.declaration? with
  | some d => d.members.map (m.memberSymbol d)
  | none => []

/-- The snapshot as a host. -/
def host (m : Model) : Host TypeDecl Symbol where
  kind := TypeDecl.kind
  baseList := TypeDecl.baseList
  symbol? := m.declaredSymbol
  view := Symbol.view
  name := Symbol.name
  assembly? := Symbol.assembly?
  isNamed := Symbol.isNamed
  typeParameters := Symbol.typeParameters
  typeArguments := Symbol.typeArguments
  baseType? := m.baseType
  interfaces := m.interfaces
  members := m.members

end Model

end HubRelay
