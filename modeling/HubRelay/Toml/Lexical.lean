import HubRelay.Text.Hexadecimal

/-!
# The lexical level of TOML

Blanks, comments, line ends, strings and keys. A reader takes what is left of the text and gives a
value with what is left after it, or nothing if the text is not TOML.

There are four kinds of strings: basic ones with escapes, literal ones without, and a kind of each
that may span several lines. In the latter a line break right after the opening quotes is dropped,
every line break is a single line feed, one or two quotes may stand among the characters, and a
backslash at the end of a line drops the break and the blanks after it.
-/

set_option autoImplicit false

namespace HubRelay.Toml

/-- A reader: from what is left of the text to a value and what is left after it. -/
abbrev Reader := StateT (List Char) Option

/-! ### Lines -/

/-- Whether the character is a blank within a line. -/
def isBlank (c : Char) : Bool := c == ' ' || c == '\t'

/-- Whether the character may stand in a comment: no control character but the tab. -/
def isPlain (c : Char) : Bool := c == '\t' || (0x20 ≤ c.toNat && c.toNat != 0x7F)

/-- Passes over blanks within a line. -/
def blanks : Reader Unit := modify (·.dropWhile isBlank)

/-- Passes over one character. -/
def advance : Reader Unit := modify List.tail

/-- What is left after a line break at the front of a text. -/
def afterBreak? : List Char → Option (List Char)
  | '\n' :: rest => some rest
  | '\r' :: '\n' :: rest => some rest
  | _ => none

/-- Passes over a comment, if there is one. -/
def comment : Reader Unit := do
  if (← get).head? = some '#' then modify (·.dropWhile isPlain)

/-- Passes over the rest of a line that holds nothing more. -/
def lineEnd : Reader Unit := do
  blanks
  comment
  match ← get with
  | [] => pure ()
  | rest => set (← (afterBreak? rest : Option (List Char)))

/-- Passes over one given character. -/
def expect (c : Char) : Reader Unit := do
  if (← get).head? = some c then advance else failure

/-! ### Strings -/

/-- The character with a code point in hexadecimal digits. -/
def codeChar? (digits : List Char) : Option Char := do
  let code ← Text.hexValue? digits
  if code.isValidChar then some (Char.ofNat code) else none

/-- The character that a letter after a backslash stands for. -/
def simpleEscape? (c : Char) : Option Char :=
  match c with
  | '"' => some '"'
  | '\\' => some '\\'
  | 'b' => some '\x08'
  | 'f' => some '\x0c'
  | 'n' => some '\n'
  | 'r' => some '\r'
  | 't' => some '\t'
  | _ => none

/-- The character whose code point begins a text in so many digits, and what is left after it. -/
def codeEscape? (size : Nat) (cs : List Char) : Option (Char × List Char) :=
  if (cs.take size).length = size then (codeChar? (cs.take size)).map (·, cs.drop size) else none

/-- The character that an escape stands for, and what is left after it. The text begins after the
backslash. -/
def escape? : List Char → Option (Char × List Char)
  | [] => none
  | c :: rest =>
    if c = 'u' then codeEscape? 4 rest
    else if c = 'U' then codeEscape? 8 rest
    else (simpleEscape? c).map (·, rest)

/-- The rest of a string on one line, up to its closing quote, and what is left after it. The number
bounds the characters. -/
def lineBody (quote : Char) (escapes : Bool) : Nat → List Char → Option (List Char × List Char)
  | 0, _ | _, [] => none
  | bound + 1, c :: rest =>
    if c = quote then some ([], rest)
    else if c = '\\' ∧ escapes then do
      let (meant, rest) ← escape? rest
      let (more, rest) ← lineBody quote escapes bound rest
      return (meant :: more, rest)
    else if isPlain c then do
      let (more, rest) ← lineBody quote escapes bound rest
      return (c :: more, rest)
    else none

/-- The text without the blanks and line breaks at its front. -/
def dropSpace : List Char → List Char
  | '\n' :: rest => dropSpace rest
  | '\r' :: '\n' :: rest => dropSpace rest
  | ' ' :: rest => dropSpace rest
  | '\t' :: rest => dropSpace rest
  | rest => rest

/-- What is left after an escaped line break: the break, and all blanks and breaks after it. The
text begins after the backslash. -/
def afterEscapedBreak? (cs : List Char) : Option (List Char) :=
  (afterBreak? (cs.dropWhile isBlank)).map dropSpace

/-- The rest of a string over several lines, up to its closing quotes, and what is left after it. Of
five quotes in a row the first two belong to the string. The number bounds the characters. -/
def linesBody (quote : Char) (escapes : Bool) : Nat → List Char → Option (List Char × List Char)
  | 0, _ | _, [] => none
  | bound + 1, c :: rest =>
    let quotes := ((c :: rest).takeWhile (· == quote)).length
    if 3 ≤ quotes then
      let inner := min (quotes - 3) 2
      some (List.replicate inner quote, rest.drop (inner + 2))
    else if c = '\\' ∧ escapes then
      match afterEscapedBreak? rest with
      | some rest => linesBody quote escapes bound rest
      | none => do
        let (meant, rest) ← escape? rest
        let (more, rest) ← linesBody quote escapes bound rest
        return (meant :: more, rest)
    else
      match afterBreak? (c :: rest) with
      | some rest => do
        let (more, rest) ← linesBody quote escapes bound rest
        return ('\n' :: more, rest)
      | none =>
        if isPlain c then do
          let (more, rest) ← linesBody quote escapes bound rest
          return (c :: more, rest)
        else none

/-- Reads a string on one line after its opening quote. -/
def lineString (quote : Char) : Reader String := do
  let (chars, rest) ← (lineBody quote (quote == '"') ((← get).length + 1) (← get) :
    Option (List Char × List Char))
  set rest
  return String.ofList chars

/-- Reads a string over several lines after its opening quotes. -/
def linesString (quote : Char) : Reader String := do
  let start := (afterBreak? (← get)).getD (← get)
  let (chars, rest) ← (linesBody quote (quote == '"') (start.length + 1) start :
    Option (List Char × List Char))
  set rest
  return String.ofList chars

/-- Reads a string of any kind that begins with the given quote. -/
def string (quote : Char) : Reader String := do
  if [quote, quote, quote].isPrefixOf (← get) then
    modify (·.drop 3)
    linesString quote
  else
    advance
    lineString quote

/-! ### Keys -/

/-- Whether the character may stand in a key without quotes. -/
def isBare (c : Char) : Bool := c.isAlphanum || c == '_' || c == '-'

/-- Reads a part of a key. -/
def keyPart : Reader String := do
  match (← get).head? with
  | some '"' => advance; lineString '"'
  | some '\'' => advance; lineString '\''
  | _ =>
    let name := (← get).takeWhile isBare
    if name.isEmpty then failure
    modify (·.drop name.length)
    return String.ofList name

/-- Reads the further parts of a key, each after a dot, with the blanks around them. The number
bounds the parts. -/
def keyRest : Nat → Reader (List String)
  | 0 => failure
  | bound + 1 => do
    blanks
    if (← get).head? = some '.' then
      advance
      blanks
      let part ← keyPart
      return part :: (← keyRest bound)
    else return []

/-- Reads a key and the blanks after it. -/
def key : Reader (List String) := do
  let first ← keyPart
  return first :: (← keyRest ((← get).length + 1))

end HubRelay.Toml
