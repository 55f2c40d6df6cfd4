import HubRelay.Discovery.Host

/-!
# Hosts that are written out

A host can be given by writing down its answers: each declaration with the symbol it stands for,
and each symbol with everything that can be asked about it. The answers need not fit together as
those of a compiler do.
-/

set_option autoImplicit false

namespace HubRelay

/-- A symbol with all answers about it. -/
structure DescribedSymbol where
  name : String
  container : String
  assembly? : Option String
  display : String
  isNamed : Bool
  /-- The symbol of the elements, if this is an array. -/
  element? : Option DescribedSymbol
  /-- The number of dimensions of an array. -/
  rank : Nat
  typeParameters : List String
  typeArguments : List DescribedSymbol
  baseType? : Option DescribedSymbol
  interfaces : List DescribedSymbol
  members : List (Member DescribedSymbol)

/-- A declaration with the symbol it stands for. -/
structure DescribedDeclaration where
  kind : DeclarationKind
  baseList : List TypeExpr
  symbol? : Option DescribedSymbol

namespace DescribedSymbol

mutual

/-- The view of a described symbol. One that has elements is an array. -/
def view : DescribedSymbol → TypeView
  | ⟨name, container, _, display, _, element?, rank, _, typeArguments, _, _, _⟩ =>
    match viewOption element? with
    | some element => .array display element rank
    | none => .named display container name (viewAll typeArguments)

/-- The view of a symbol, if there is one. -/
def viewOption : Option DescribedSymbol → Option TypeView
  | none => none
  | some s => some (view s)

/-- The views of symbols, in order. -/
def viewAll : List DescribedSymbol → List TypeView
  | [] => []
  | first :: rest => view first :: viewAll rest

end

end DescribedSymbol

/-- The host that answers as it is described. -/
def describedHost : Host DescribedDeclaration DescribedSymbol where
  kind := DescribedDeclaration.kind
  baseList := DescribedDeclaration.baseList
  symbol? := DescribedDeclaration.symbol?
  view := DescribedSymbol.view
  name := DescribedSymbol.name
  assembly? := DescribedSymbol.assembly?
  isNamed := DescribedSymbol.isNamed
  typeParameters := DescribedSymbol.typeParameters
  typeArguments := DescribedSymbol.typeArguments
  baseType? := DescribedSymbol.baseType?
  interfaces := DescribedSymbol.interfaces
  members := DescribedSymbol.members

end HubRelay
