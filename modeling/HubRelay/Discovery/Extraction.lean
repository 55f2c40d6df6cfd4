import HubRelay.Discovery.Host
import HubRelay.Discovery.Trace
import HubRelay.Settings.Basic
import HubRelay.TypeExpr.Path

/-!
# Extraction of hubs

A hub class extends the generic hub base and implements one interface. A first look at the syntax
of a declaration is cheap and rejects most types: `isCandidate`. The second look goes through
symbols. The base type has to be the hub base from the configured assembly, with one type
parameter that stands for a named type, the client contract; and the class has to implement
exactly one interface, the server contract. `contracts` decides this, and `extract` then makes the
hub.

Type arguments may nest ten levels deep. Beyond that a type is refused, so that a type that
contains itself does no harm.
-/

set_option autoImplicit false

namespace HubRelay

namespace TypeView

/-- The greatest depth of type arguments. A type itself is at depth zero. -/
def maxArgumentDepth : Nat := 10

mutual

/-- The reference to the viewed type, at a depth of type arguments. -/
def typeRefAt (depth : Nat) : TypeView → Except ExtractionError TypeRef
  | named display container name arguments =>
    if maxArgumentDepth < depth then .error (.genericRecursion display [])
    else do
      return ⟨container, name, ← argumentsAt (depth + 1) display arguments⟩
  | array display element rank =>
    if maxArgumentDepth < depth then .error (.genericRecursion display [])
    else do
      return (← typeRefAt depth element).arrayOf rank

/-- The references to the type arguments of a type that is displayed as `enclosing`. -/
def argumentsAt (depth : Nat) (enclosing : String) :
    List TypeView → Except ExtractionError (List TypeRef)
  | [] => .ok []
  | first :: rest => do
    let head ← (typeRefAt depth first).mapError (·.within enclosing)
    return head :: (← argumentsAt depth enclosing rest)

end

/-- The reference to the viewed type. -/
def typeRef (view : TypeView) : Except ExtractionError TypeRef := view.typeRefAt 0

end TypeView

namespace Host

variable {ν σ : Type}

/-! ### The syntax of a declaration -/

/-- Whether a declaration may be a hub by its syntax: a class with two entries in its base list, the
first of which is a generic name with the identifier of the hub base. -/
def isCandidate (host : Host ν σ) (settings : Settings) (node : ν) : Bool :=
  match host.kind node, host.baseList node with
  | .classType, [base, _] => base.isGenericNamed settings.hubBaseName
  | _, _ => false

/-- What the first look tells of a declaration. -/
def candidateEvents (host : Host ν σ) (settings : Settings) (node : ν) : List Event :=
  match host.kind node, host.baseList node with
  | .classType, [base, _] =>
    if base.isGenericNamed settings.hubBaseName then []
    else [.otherFirstBase base settings.hubBaseName]
  | _, _ => []

/-! ### The symbols of a hub -/

/-- The client contract and the server contract of a hub class, or why the symbol is none. -/
def contracts (host : Host ν σ) (settings : Settings) (s : σ) : Except Rejection (σ × σ) :=
  match host.baseType? s with
  | none => .error .noBaseType
  | some base =>
    if host.assembly? base ≠ some settings.hubAssembly then .error .otherAssembly
    else if host.name base ≠ settings.hubBaseName then .error .otherBase
    else if (host.typeParameters base).length ≠ 1 then .error .typeParameterCount
    else
      match host.typeArguments base with
      | [client] =>
        if !host.isNamed client then .error .unnamedClient
        else
          match host.interfaces s with
          | [server] => .ok (client, server)
          | _ => .error .interfaceCount
      | _ => .error .typeArgumentCount

/-- The reference to the type of a symbol. -/
def typeRef (host : Host ν σ) (s : σ) : Except ExtractionError TypeRef := (host.view s).typeRef

/-! ### Contracts -/

/-- A parameter of a contract method. -/
def extractParameter (host : Host ν σ) (p : ParameterSymbol σ) :
    Except ExtractionError Parameter := do
  return ⟨p.name, ← host.typeRef p.type⟩

/-- A method of the contract with the given type. Its parameters come before its return type. -/
def extractMethod (host : Host ν σ) (declaringType : TypeRef) (m : MethodSymbol σ) :
    Except ExtractionError Method := do
  let parameters ← m.parameters.mapM host.extractParameter
  return ⟨m.name, ← host.typeRef m.returnType, declaringType, parameters⟩

/-- The methods among the members of a contract. -/
def extractMethods (host : Host ν σ) (declaringType : TypeRef) :
    List (Member σ) → Traced (List Method)
  | [] => pure []
  | .other name :: rest => do
    Traced.emit (.skippedMember declaringType name)
    extractMethods host declaringType rest
  | .method symbol :: rest => do
    let method ← Traced.quiet (host.extractMethod declaringType symbol)
    return method :: (← extractMethods host declaringType rest)

/-- A contract with its methods. -/
def extractContract (host : Host ν σ) (s : σ) : Traced Contract := do
  let type ← Traced.quiet (host.typeRef s)
  return ⟨type, ← host.extractMethods type (host.members s)⟩

/-! ### Hubs -/

/-- The hub that a symbol with two contracts stands for. -/
def extractHub (host : Host ν σ) (s client server : σ) : Traced Hub := do
  let bridgeType ← Traced.quiet (host.typeRef s)
  let client ← host.extractContract client
  let server ← host.extractContract server
  return ⟨bridgeType, client, server⟩

/-- The hub that a declaration stands for, if it is one. -/
def extract (host : Host ν σ) (settings : Settings) (node : ν) : Traced (Option Hub) :=
  match host.symbol? node with
  | none => do
    Traced.emit .noSymbol
    return none
  | some s =>
    match host.contracts settings s with
    | .error reason => do
      Traced.emit (.rejected (host.display s) reason)
      return none
    | .ok (client, server) => do
      return some (← host.extractHub s client server)

end Host

end HubRelay
