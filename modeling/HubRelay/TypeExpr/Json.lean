import HubRelay.Json.Shape
import HubRelay.Json.Value
import HubRelay.TypeExpr.Parser

/-!
# Type expressions in JSON

A type expression stands in JSON as a string. It is written in normal form.
-/

set_option autoImplicit false

namespace HubRelay.TypeExpr

/-- Reads a type expression from a string. -/
def ofJson : Json.Reader TypeExpr := do
  let text ← Json.string
  match parse text with
  | .ok t => return t
  | .error e => throw (.mismatch (.unreadable "type syntax" text e.message))

/-- The type expression as a string. -/
def toJson (t : TypeExpr) : Json.Value := .string t.render

end HubRelay.TypeExpr
