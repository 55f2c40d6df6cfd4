/-!
# Writing JSON

What the program writes as JSON is a tree of values, printed on one line or indented. An object
keeps its fields in order. In a string, quotes, backslashes and control characters are escaped and
nothing else is.
-/

set_option autoImplicit false

namespace HubRelay.Json

/-- A value to be written. -/
inductive Value
  | null
  | boolean (value : Bool)
  | string (value : String)
  | array (items : List Value)
  | object (fields : List (String × Value))
deriving Inhabited

namespace Value

/-! ### Strings -/

/-- The escape of a control character that has no letter of its own. -/
def controlEscape (c : Char) : List Char :=
  let digits := Nat.toDigits 16 c.toNat
  ['\\', 'u'] ++ List.replicate (4 - digits.length) '0' ++ digits

/-- A character as it stands in a string. -/
def escapeChar (c : Char) : List Char :=
  match c with
  | '"' => ['\\', '"']
  | '\\' => ['\\', '\\']
  | '\x08' => ['\\', 'b']
  | '\x0c' => ['\\', 'f']
  | '\n' => ['\\', 'n']
  | '\r' => ['\\', 'r']
  | '\t' => ['\\', 't']
  | c => if c.toNat < 0x20 then controlEscape c else [c]

/-- A text as a JSON string. -/
def quote (s : String) : String := String.ofList ('"' :: s.toList.flatMap escapeChar ++ ['"'])

/-! ### On one line -/

mutual

/-- The value on one line without blanks. -/
def compact : Value → String
  | null => "null"
  | boolean value => toString value
  | string value => quote value
  | array [] => "[]"
  | array (first :: rest) => "[" ++ compact first ++ compactItems rest ++ "]"
  | object [] => "\x7b\x7d"
  | object ((name, first) :: rest) =>
    "\x7b" ++ quote name ++ ":" ++ compact first ++ compactFields rest ++ "\x7d"

/-- Further elements of an array, each after a comma. -/
def compactItems : List Value → String
  | [] => ""
  | next :: rest => "," ++ compact next ++ compactItems rest

/-- Further fields of an object, each after a comma. -/
def compactFields : List (String × Value) → String
  | [] => ""
  | (name, next) :: rest => "," ++ quote name ++ ":" ++ compact next ++ compactFields rest

end

/-! ### Indented -/

/-- The start of a line at a depth: a line break and two spaces for each level. -/
def lineStart (depth : Nat) : String := "\n" ++ "".pushn ' ' (2 * depth)

mutual

/-- The value over several lines, each element and field on a line of its own. Empty arrays and
objects stay on one line. -/
def pretty (depth : Nat) : Value → String
  | null => "null"
  | boolean value => toString value
  | string value => quote value
  | array [] => "[]"
  | array (first :: rest) =>
    "[" ++ lineStart (depth + 1) ++ pretty (depth + 1) first ++ prettyItems (depth + 1) rest ++
      lineStart depth ++ "]"
  | object [] => "\x7b\x7d"
  | object ((name, first) :: rest) =>
    "\x7b" ++ lineStart (depth + 1) ++ quote name ++ ": " ++ pretty (depth + 1) first ++
      prettyFields (depth + 1) rest ++ lineStart depth ++ "\x7d"

/-- Further elements of an array, each after a comma on a line of its own. -/
def prettyItems (depth : Nat) : List Value → String
  | [] => ""
  | next :: rest => "," ++ lineStart depth ++ pretty depth next ++ prettyItems depth rest

/-- Further fields of an object, each after a comma on a line of its own. -/
def prettyFields (depth : Nat) : List (String × Value) → String
  | [] => ""
  | (name, next) :: rest =>
    "," ++ lineStart depth ++ quote name ++ ": " ++ pretty depth next ++ prettyFields depth rest

end

end Value

end HubRelay.Json
