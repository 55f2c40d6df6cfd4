import HubRelay.Snapshot.Basic

/-!
# Hosts

Discovery asks a host about declarations and about the types that they stand for: a compiler could
answer, or a snapshot. A `Host ν σ` has declarations of type `ν` and symbols of type `σ`.

Each symbol has a finite view: how it is displayed, and either its name with the views of its type
arguments, or the view of its elements if it is an array. References to types are made from views.
-/

set_option autoImplicit false

namespace HubRelay

/-- A parameter of a method, with the symbol of its type. -/
structure ParameterSymbol (σ : Type) where
  name : String
  type : σ

/-- A method, with the symbols of its types. -/
structure MethodSymbol (σ : Type) where
  name : String
  returnType : σ
  parameters : List (ParameterSymbol σ)

/-- A member of a type. -/
inductive Member (σ : Type)
  | method (symbol : MethodSymbol σ)
  /-- Any other member, by its name. -/
  | other (name : String)

/-- The finite view of a symbol. -/
inductive TypeView
  /-- A named type. -/
  | named (display container name : String) (arguments : List TypeView)
  /-- An array with `rank` dimensions. -/
  | array (display : String) (element : TypeView) (rank : Nat)
deriving Inhabited

/-- The name of the viewed symbol for a reader. -/
def TypeView.display : TypeView → String
  | named display _ _ _ => display
  | array display _ _ => display

/-- The answers of a host. -/
structure Host (ν σ : Type) where
  /-- The kind of a declaration. -/
  kind : ν → DeclarationKind
  /-- The base list of a declaration, as written. -/
  baseList : ν → List TypeExpr
  /-- The symbol that a declaration declares. -/
  symbol? : ν → Option σ
  view : σ → TypeView
  /-- The name without namespace and type arguments. -/
  name : σ → String
  /-- The assembly that contains the type, if one does. -/
  assembly? : σ → Option String
  /-- Whether this is a named type, and not a type parameter or an array. -/
  isNamed : σ → Bool
  typeParameters : σ → List String
  typeArguments : σ → List σ
  baseType? : σ → Option σ
  /-- The interfaces that the type itself implements. -/
  interfaces : σ → List σ
  /-- The members of the type, in order of declaration. -/
  members : σ → List (Member σ)

/-- The name of a symbol for a reader. -/
def Host.display {ν σ : Type} (host : Host ν σ) (s : σ) : String := (host.view s).display

end HubRelay
