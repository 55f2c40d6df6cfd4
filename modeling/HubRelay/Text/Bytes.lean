/-!
# The length of a text in bytes

Positions in a text are counted in bytes of UTF-8, so a character moves on by as many bytes as it is
encoded in.
-/

set_option autoImplicit false

namespace HubRelay.Text

/-- The number of bytes that the characters take in UTF-8. -/
def byteLength : List Char → Nat
  | [] => 0
  | c :: rest => c.utf8Size + byteLength rest

end HubRelay.Text
