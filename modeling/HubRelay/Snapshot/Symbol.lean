import HubRelay.Snapshot.Model
import HubRelay.Text.Pieces
import HubRelay.Text.Uppercase
import HubRelay.TypeExpr.Keyword
import HubRelay.TypeExpr.Path

/-!
# Resolution of names

A type expression written inside a declaration stands for a symbol: a type that the snapshot
declares, a type from elsewhere, a type parameter, or an array. A simple name may be a type
parameter of the declaration. Otherwise the namespace of the declaration is searched, then each
namespace around it from the inside out, then the global one, and last the imported ones in order.
A qualified name is searched below the namespace of the declaration and those around it, and then
as it is written. A name behind an alias is taken as written. What is found nowhere is an external
type.

A nullable value type is `System.Nullable` of it; a nullable reference type is the type itself.
-/

set_option autoImplicit false

namespace HubRelay

/-- A resolved type. -/
inductive Symbol
  /-- A type that the snapshot declares, with its assembly and type arguments. -/
  | declared (assembly : String) (declaration : TypeDecl) (arguments : List Symbol)
  /-- A type that is referred to but not declared. -/
  | external (container name : String) (arguments : List Symbol)
  /-- A type parameter. -/
  | typeParameter (name : String)
  /-- An array with `rank` dimensions. -/
  | array (element : Symbol) (rank : Nat)
deriving Inhabited

namespace Symbol

/-! ### Properties -/

/-- The name without namespace and type arguments. For an array, that of its elements. -/
def name : Symbol → String
  | declared _ declaration _ => declaration.name
  | external _ name _ => name
  | typeParameter name => name
  | array element _ => element.name

/-- The namespace. For an array, that of its elements. -/
def container : Symbol → String
  | declared _ declaration _ => declaration.container
  | external container _ _ => container
  | typeParameter _ => ""
  | array element _ => element.container

/-- The assembly that declares the type. -/
def assembly? : Symbol → Option String
  | declared assembly _ _ => some assembly
  | external _ _ _ | typeParameter _ | array _ _ => none

/-- The type arguments. -/
def typeArguments : Symbol → List Symbol
  | declared _ _ arguments | external _ _ arguments => arguments
  | typeParameter _ | array _ _ => []

/-- Names for the type parameters. Those of an external type are not known, and are numbered. -/
def typeParameters : Symbol → List String
  | declared _ declaration _ => declaration.typeParameters
  | external _ _ arguments => (List.range arguments.length).map fun i ↦ "T" ++ toString (i + 1)
  | typeParameter _ | array _ _ => []

/-- The declaration of the type, if the snapshot has it. -/
def declaration? : Symbol → Option TypeDecl
  | declared _ declaration _ => some declaration
  | external _ _ _ | typeParameter _ | array _ _ => none

/-- Whether the symbol is a named type. -/
def isNamed : Symbol → Bool
  | declared _ _ _ | external _ _ _ => true
  | typeParameter _ | array _ _ => false

/-- Whether the symbol is known to be a value type. -/
def isValueType : Symbol → Bool
  | declared _ declaration _ => declaration.kind == .structType
  | external container name _ => Keyword.isFrameworkStruct container name
  | typeParameter _ | array _ _ => false

/-- Whether a name follows the convention for interfaces: an `I` and another capital. -/
def looksLikeInterface (name : String) : Bool :=
  match name.toList with
  | 'I' :: next :: _ => Text.isUppercase next
  | _ => false

/-- Whether the symbol is an interface. One that is not declared is judged by its name. -/
def isInterface : Symbol → Bool
  | declared _ declaration _ => declaration.kind == .interfaceType
  | external _ name _ => looksLikeInterface name
  | typeParameter _ | array _ _ => false

/-- The name of a type without type arguments, for a reader. -/
def plainDisplay (container name : String) : String :=
  (Keyword.ofType? container name).getD name

mutual

/-- The name of a symbol for a reader. -/
def display : Symbol → String
  | declared _ declaration [] => plainDisplay declaration.container declaration.name
  | declared _ declaration (first :: rest) =>
    declaration.name ++ "<" ++ display first ++ displayMore rest ++ ">"
  | external container name [] => plainDisplay container name
  | external _ name (first :: rest) => name ++ "<" ++ display first ++ displayMore rest ++ ">"
  | typeParameter name => name
  | array element rank => display element ++ TypeExpr.rankSuffix rank

/-- The names of further type arguments, each after a separator. -/
def displayMore : List Symbol → String
  | [] => ""
  | next :: rest => ", " ++ display next ++ displayMore rest

end

end Symbol

namespace Model

/-! ### Names -/

/-- The named type with the given full name, declared or external. -/
def named (m : Model) (container name : String) (arguments : List Symbol) : Symbol :=
  match m.lookup container name arguments.length with
  | some (assembly, declaration) => .declared assembly declaration arguments
  | none => .external container name arguments

/-- A namespace and those around it, from the inside out. The global namespace is not listed. -/
def enclosing (container : String) : List String :=
  if container.isEmpty then []
  else
    let names := (Text.pieces '.' container.toList).map String.ofList
    (List.range names.length).reverse.map fun count ↦ ".".intercalate (names.take (count + 1))

/-- The namespaces that a name written in `scope` is searched in, in order. -/
def searched (scope : TypeDecl) (path : TypeExpr.Path) : List String :=
  if path.label.isSome then [path.qualifier]
  else if path.isQualified then
    (enclosing scope.container).map (· ++ "." ++ path.qualifier) ++ [path.qualifier]
  else enclosing scope.container ++ "" :: scope.usings

/-- The identifier without leading `@`. -/
def withoutAt (identifier : String) : String :=
  String.ofList (identifier.toList.dropWhile (· == '@'))

/-- The symbol of a name with resolved type arguments, written in `scope`. -/
def resolvePath (m : Model) (scope : TypeDecl) (path : TypeExpr.Path) (arguments : List Symbol) :
    Symbol :=
  let name := withoutAt path.identifier
  if arguments.isEmpty && !path.isQualified && scope.typeParameters.contains name then
    .typeParameter name
  else
    match (searched scope path).findSome? fun container ↦
        m.lookup container name arguments.length with
    | some (assembly, declaration) => .declared assembly declaration arguments
    | none => .external path.qualifier name arguments

/-- The symbol of a name. An expression that is no proper name is an external type by its text. -/
def resolveName (m : Model) (scope : TypeDecl) (t : TypeExpr) (arguments : List Symbol) : Symbol :=
  match t.path? with
  | some path => m.resolvePath scope path arguments
  | none => m.named "" t.render []

mutual

/-- The symbol of a type expression written in `scope`. -/
def resolve (m : Model) (scope : TypeDecl) : TypeExpr → Symbol
  | .keyword word => m.named Keyword.systemNamespace ((Keyword.typeName? word).getD word) []
  | .array element rank => .array (resolve m scope element) rank
  | .nullable inner =>
    let symbol := resolve m scope inner
    if symbol.isValueType then m.named Keyword.systemNamespace "Nullable" [symbol] else symbol
  | .simple identifier => m.resolveName scope (.simple identifier) []
  | .generic identifier arguments =>
    m.resolveName scope (.generic identifier arguments) (resolveAll m scope arguments)
  | .qualified left right =>
    m.resolveName scope (.qualified left right) (resolveArguments m scope right)
  | .aliased label name => m.resolveName scope (.aliased label name) (resolveArguments m scope name)

/-- The symbols of the type arguments of a name written in `scope`. -/
def resolveArguments (m : Model) (scope : TypeDecl) : TypeExpr → List Symbol
  | .generic _ arguments => resolveAll m scope arguments
  | _ => []

/-- The symbols of type expressions written in `scope`, in order. -/
def resolveAll (m : Model) (scope : TypeDecl) : List TypeExpr → List Symbol
  | [] => []
  | first :: rest => resolve m scope first :: resolveAll m scope rest

end

/-! ### Bases and members -/

/-- The symbol of a declaration that the snapshot has: the declaration with the same key, without
type arguments. -/
def declaredSymbol (m : Model) (d : TypeDecl) : Option Symbol :=
  (m.lookup d.container d.name d.arity).map fun (assembly, declaration) ↦
    .declared assembly declaration []

/-- The symbols of the base list of a type. -/
def bases (m : Model) (s : Symbol) : List Symbol :=
  match s.declaration? with
  | some d => d.baseList.map (m.resolve d)
  | none => []

/-- The base class of a type: the first entry of its base list, if that is no interface. Interfaces
and structs have none. -/
def baseType (m : Model) (s : Symbol) : Option Symbol :=
  match s.declaration? with
  | some d =>
    if d.kind = .interfaceType ∨ d.kind = .structType then none
    else (m.bases s).head?.filter (!·.isInterface)
  | none => none

/-- The interfaces in the base list of a type. -/
def interfaces (m : Model) (s : Symbol) : List Symbol :=
  ((m.bases s).drop (if (m.baseType s).isSome then 1 else 0)).filter (·.isInterface)

end Model

end HubRelay
