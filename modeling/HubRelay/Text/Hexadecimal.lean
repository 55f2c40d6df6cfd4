/-!
# Hexadecimal digits

Escapes write code points in hexadecimal, with letters of either case.
-/

set_option autoImplicit false

namespace HubRelay.Text

/-- The value of a hexadecimal digit. -/
def hexDigit? (c : Char) : Option Nat :=
  if '0' ≤ c ∧ c ≤ '9' then some (c.toNat - '0'.toNat)
  else if 'a' ≤ c ∧ c ≤ 'f' then some (c.toNat - 'a'.toNat + 10)
  else if 'A' ≤ c ∧ c ≤ 'F' then some (c.toNat - 'A'.toNat + 10)
  else none

/-- The value of a run of hexadecimal digits. -/
def hexValue? (digits : List Char) : Option Nat :=
  (digits.mapM hexDigit?).map fun values ↦ values.foldl (16 * · + ·) 0

end HubRelay.Text
