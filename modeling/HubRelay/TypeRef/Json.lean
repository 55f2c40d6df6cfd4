import HubRelay.Json.Shape
import HubRelay.Json.Value
import HubRelay.TypeRef.Basic

/-!
# References to types in JSON

A reference is a record of a namespace, a name and type arguments. The arguments are left out when
there are none, and fields with other names are passed over.
-/

set_option autoImplicit false

namespace HubRelay.TypeRef

/-- The fields of a reference whose arguments are read by `arguments`. -/
def fields (arguments : Json.Reader (List TypeRef)) :
    Json.Fields [String, String, List TypeRef] :=
  .cons ⟨"namespace", Json.string, none⟩ <|
  .cons ⟨"name", Json.string, none⟩ <|
  .cons ⟨"type_arguments", arguments, some []⟩ .nil

/-- Reads a reference with the given reader of arguments. -/
def ofJsonWith (levels : Nat) (arguments : Json.Reader (List TypeRef)) : Json.Reader TypeRef := do
  let (container, name, arguments, _) ←
    Json.record levels "TypeRef" false (fields arguments)
  return ⟨container, name, arguments⟩

mutual

/-- Reads a reference, entering no more than the given number of levels. -/
def ofJson : Nat → Json.Reader TypeRef
  | 0, text => ofJsonWith 0 (pure []) text
  | levels + 1, text => ofJsonWith (levels + 1) (argumentsOfJson levels) text

/-- Reads the type arguments of a reference. -/
def argumentsOfJson : Nat → Json.Reader (List TypeRef)
  | 0, text => Json.list 0 (pure default) text
  | levels + 1, text => Json.list (levels + 1) (ofJson levels) text

end

mutual

/-- The reference as a record. -/
def toJson : TypeRef → Json.Value
  | ⟨container, name, arguments⟩ =>
    .object <| [("namespace", .string container), ("name", .string name)] ++
      (if arguments.isEmpty then [] else [("type_arguments", .array (listToJson arguments))])

/-- References as records, in order. -/
def listToJson : List TypeRef → List Json.Value
  | [] => []
  | first :: rest => toJson first :: listToJson rest

end

end HubRelay.TypeRef
