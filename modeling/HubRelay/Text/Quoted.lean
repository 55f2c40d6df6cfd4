import HubRelay.Text.Printable

/-!
# Quoted texts

A text shown to a reader stands between double quotes. Quotes, backslashes and the common control
characters are escaped, and every other character that cannot be seen is shown by its code point in
hexadecimal between braces.
-/

set_option autoImplicit false

namespace HubRelay.Text

/-- The code point of a character in hexadecimal, between `\u\x7b` and a closing brace. -/
def codeEscape (c : Char) : String :=
  "\\u\x7b" ++ String.ofList (Nat.toDigits 16 c.toNat) ++ "\x7d"

/-- A character as a quoted text shows it. -/
def quoteChar (c : Char) : String :=
  match c with
  | '"' => "\\\""
  | '\\' => "\\\\"
  | '\n' => "\\n"
  | '\r' => "\\r"
  | '\t' => "\\t"
  | '\x00' => "\\0"
  | c => if isPrintable c then c.toString else codeEscape c

/-- The quoted form of a text. -/
def quoted (s : String) : String := "\"" ++ String.join (s.toList.map quoteChar) ++ "\""

end HubRelay.Text
