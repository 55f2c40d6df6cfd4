import HubRelay.Hub.Basic
import HubRelay.TypeExpr.Basic

/-!
# The record of a discovery

Discovery tells what it does in a list of events, next to its result. `Traced` is a result with the
events that led to it: in a sequence of steps the events follow each other, and the first step that
fails is the last one.
-/

set_option autoImplicit false

namespace HubRelay

/-- Why hubs cannot be extracted. -/
inductive ExtractionError
  /-- Type arguments nest too deep at a type. The chain has the types around it, innermost first. -/
  | genericRecursion (type : String) (chain : List String)
  /-- The discovery was cancelled. -/
  | cancelled
deriving DecidableEq, Repr

namespace ExtractionError

/-- Adds the type around the one that failed. -/
def within (enclosing : String) : ExtractionError → ExtractionError
  | genericRecursion type chain => genericRecursion type (chain ++ [enclosing])
  | cancelled => cancelled

/-- The wording of an error. -/
def message : ExtractionError → String
  | genericRecursion type chain =>
    "generic type arguments nest too deep at `" ++ type ++ "`" ++
      String.join (chain.map fun enclosing ↦ " <- `" ++ enclosing ++ "`")
  | cancelled => "discovery was cancelled"

end ExtractionError

/-- Why a candidate is no hub. -/
inductive Rejection
  | noBaseType
  | otherAssembly
  | otherBase
  | typeParameterCount
  | typeArgumentCount
  | unnamedClient
  | interfaceCount
deriving DecidableEq, Repr

/-- The wording of a rejection. -/
def Rejection.message : Rejection → String
  | noBaseType => "no base type"
  | otherAssembly => "base type is not from the hub assembly"
  | otherBase => "base type is not the hub base"
  | typeParameterCount => "hub base doesn't have exactly one type parameter"
  | typeArgumentCount => "hub base doesn't have exactly one type argument"
  | unnamedClient => "client contract is not a named type"
  | interfaceCount => "doesn't implement exactly one interface"

/-- Something that happens during discovery. -/
inductive Event
  /-- The first base of a class is not a generic name with the wanted identifier. -/
  | otherFirstBase (base : TypeExpr) (wanted : String)
  /-- The host knows no symbol for a candidate. -/
  | noSymbol
  | rejected (candidate : String) (reason : Rejection)
  /-- A member of a contract that is no method is left out. -/
  | skippedMember (contract : TypeRef) (member : String)
  | found (hub : TypeRef)
  | skippedCandidate (candidate : String) (reason : ExtractionError)
  | cancelled (candidates : Nat)
  | finished (hubs failures : Nat)
deriving DecidableEq

namespace Event

/-- How much an event matters. -/
inductive Level
  | trace
  | debug
  | info
  | warn
deriving DecidableEq, Repr

/-- The name of a level. -/
def Level.name : Level → String
  | trace => "TRACE"
  | debug => "DEBUG"
  | info => "INFO"
  | warn => "WARN"

/-- How much the event matters. -/
def level : Event → Level
  | otherFirstBase _ _ | noSymbol | rejected _ _ | skippedMember _ _ => .trace
  | found _ | cancelled _ | finished _ _ => .debug
  | skippedCandidate _ _ => .warn

/-- The wording of an event. -/
def message : Event → String
  | otherFirstBase base wanted =>
    "First base `" ++ base.render ++ "` is not a generic `" ++ wanted ++ "`"
  | noSymbol => "Candidate has no declared symbol"
  | rejected candidate reason => "Rejected " ++ candidate ++ ": " ++ reason.message
  | skippedMember contract member =>
    "Skipping non-method member " ++ contract.shortName ++ "." ++ member
  | found hub => "Found hub " ++ hub.shortName
  | skippedCandidate candidate reason =>
    "Skipping hub candidate " ++ candidate ++ ": " ++ reason.message
  | cancelled candidates => "Discovery cancelled after " ++ toString candidates ++ " candidates"
  | finished hubs failures =>
    "Discovered " ++ toString hubs ++ " hubs, " ++ toString failures ++ " failed candidates"

end Event

/-- A result with the events that led to it. -/
structure Traced (α : Type) where
  events : List Event
  result : Except ExtractionError α

namespace Traced

variable {α β : Type}

/-- A step after another, unless that failed. -/
def andThen (first : Traced α) (next : α → Traced β) : Traced β :=
  match first.result with
  | .ok value => ⟨first.events ++ (next value).events, (next value).result⟩
  | .error reason => ⟨first.events, .error reason⟩

instance : Monad Traced where
  pure value := ⟨[], .ok value⟩
  bind := andThen

/-- A step in which an event happens. -/
def emit (event : Event) : Traced Unit := ⟨[event], .ok ()⟩

/-- A step in which nothing happens. -/
def quiet (result : Except ExtractionError α) : Traced α := ⟨[], result⟩

/-- The result of steps is that of their results. -/
@[simp] theorem result_bind (first : Traced α) (next : α → Traced β) :
    (first >>= next).result = first.result >>= fun value ↦ (next value).result := by
  simp only [bind, andThen, Except.bind]
  cases first.result <;> rfl

@[simp] theorem result_pure (value : α) : (pure value : Traced α).result = .ok value := rfl

@[simp] theorem result_emit (event : Event) : (emit event).result = .ok () := rfl

@[simp] theorem result_quiet (result : Except ExtractionError α) :
    (quiet result).result = result := rfl

end Traced

end HubRelay
