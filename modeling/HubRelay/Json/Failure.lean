import HubRelay.Text.Quoted

/-!
# Why a JSON text is refused

A text may end too early, it may not be JSON, or it may be JSON of another shape than the one that
is wanted. Only the last kind has more to say, and each of its causes has a wording.
-/

set_option autoImplicit false

namespace HubRelay.Json

/-- What stands where something else is wanted. -/
inductive Found
  | null
  | boolean (value : Bool)
  | integer (value : Int)
  /-- A number that is no integer, by its text. -/
  | decimal (text : String)
  | string (value : String)
  | sequence
  | map
  /-- The name of a variant without its content. -/
  | bareVariant
deriving DecidableEq, Repr

/-- The wording for what was found. -/
def Found.describe : Found → String
  | null => "null"
  | boolean value => "boolean `" ++ toString value ++ "`"
  | integer value => "integer `" ++ toString value ++ "`"
  | decimal text => "floating point `" ++ text ++ "`"
  | string value => "string " ++ Text.quoted value
  | sequence => "sequence"
  | map => "map"
  | bareVariant => "unit variant"

/-- How JSON differs from the wanted shape. -/
inductive Mismatch
  | wrongType (found : Found) (wanted : String)
  /-- A record written as an array that stops before the field at `length`. -/
  | wrongLength (length : Nat) (record : String) (size : Nat)
  | unknownField (name : String) (known : List String)
  | duplicateField (name : String)
  | missingField (name : String)
  | unknownVariant (name : String) (known : List String)
  /-- A string that is not a text of the wanted kind. -/
  | unreadable (kind text reason : String)
deriving DecidableEq, Repr

/-- A choice of names: one by itself, two with `or`, more as a list. -/
def oneOf : List String → String
  | [] => ""
  | [only] => "`" ++ only ++ "`"
  | [first, second] => "`" ++ first ++ "` or `" ++ second ++ "`"
  | names => "one of " ++ ", ".intercalate (names.map fun name ↦ "`" ++ name ++ "`")

/-- The wording of a mismatch. -/
def Mismatch.message : Mismatch → String
  | wrongType found wanted => "invalid type: " ++ found.describe ++ ", expected " ++ wanted
  | wrongLength length record size =>
    "invalid length " ++ toString length ++ ", expected struct " ++ record ++ " with " ++
      toString size ++ (if size = 1 then " element" else " elements")
  | unknownField name known => "unknown field `" ++ name ++ "`, expected " ++ oneOf known
  | duplicateField name => "duplicate field `" ++ name ++ "`"
  | missingField name => "missing field `" ++ name ++ "`"
  | unknownVariant name known => "unknown variant `" ++ name ++ "`, expected " ++ oneOf known
  | unreadable kind text reason => "invalid " ++ kind ++ " `" ++ text ++ "`: " ++ reason

/-- Why a text cannot be read. -/
inductive Failure
  /-- The text ends too early. -/
  | ended
  /-- The text is not JSON. -/
  | malformed
  /-- The text is JSON of another shape, up to the point where that shows. -/
  | mismatch (reason : Mismatch)
deriving DecidableEq, Repr

end HubRelay.Json
