import HubRelay.Hub.Basic
import HubRelay.Text.CaseMap
import Std.Data.HashSet

/-!
# The fields of a message

A message is a record. It begins with fields for the connection, and goes on with one for each
parameter of the contract method. A field is named like its parameter with a capital; a name that
the record has already gets the lowest number from two on that makes it a new one.
-/

set_option autoImplicit false

namespace HubRelay

/-- Which way a message goes. -/
inductive Direction
  | toClient
  | toServer
deriving DecidableEq, Repr

namespace Direction

/-- The class that holds the messages of a direction. -/
def className : Direction → String
  | toClient => "ToClient"
  | toServer => "ToServer"

/-- The fields that tell of the connection, each with its type. -/
def contextFields : Direction → List (String × String)
  | toClient => [("string", "ConnectionId")]
  | toServer =>
    [("string", "ConnectionId"), ("string", "UserIdentifier"),
      ("global::System.Security.Claims.ClaimsPrincipal", "User")]

end Direction

namespace Field

/-- The name that a parameter suggests for its field: without leading `@`, and with a capital. -/
def suggestion (parameter : String) : String :=
  Text.capitalize (String.ofList (parameter.toList.dropWhile (· == '@')))

/-- The first of `base2`, `base3`, … that is not taken, looking at no more than `bound` of them. -/
def numbered (taken : Std.HashSet String) (base : String) (number : Nat) : Nat → String
  | 0 => base ++ toString number
  | bound + 1 =>
    if taken.contains (base ++ toString number) then numbered taken base (number + 1) bound
    else base ++ toString number

/-- A name like `base` that is not taken. Of the numbered ones, one more than there are names taken
are enough to look at. -/
def fresh (taken : Std.HashSet String) (base : String) : String :=
  if taken.contains base then numbered taken base 2 taken.size else base

/-- Fresh names for suggestions, each of which is taken for those after it. -/
def assign (taken : Std.HashSet String) : List String → List String
  | [] => []
  | base :: rest =>
    let name := fresh taken base
    name :: assign (taken.insert name) rest

/-- The names of the fields for the parameters of a method, in order. The record's own name and the
fields of the connection are taken. -/
def names (direction : Direction) (method : Method) : List String :=
  assign (Std.HashSet.ofList (method.name :: direction.contextFields.map (·.2)))
    (method.parameters.map fun p ↦ suggestion p.name)

end Field

end HubRelay
