import HubRelay.Json.Lexical

/-!
# Passing over a value

The value of a field that nobody asks for is only checked to be JSON. It may be nested to any depth,
and an escaped surrogate in it need not have a partner. A number that breaks off at the end of the
text counts as malformed.
-/

set_option autoImplicit false

namespace HubRelay.Json

/-- Passes over the rest of a string, up to and with its closing quote. -/
def skipString (cs : List Char) : Except Failure (List Char) :=
  match cs with
  | [] => .error .ended
  | c :: rest =>
    if c = '"' then .ok rest
    else if c = '\\' then
      match rest with
      | [] => .error .ended
      | kind :: after =>
        if kind = 'u' then
          match h : hexQuad after with
          | .error e => .error e
          | .ok (_, after') =>
            have := length_hexQuad h
            skipString after'
        else if (simpleEscape? kind).isSome then skipString after
        else .error .malformed
    else if c.toNat < 0x20 then .error .malformed
    else skipString rest
termination_by cs.length

/-- Passes over a run of at least one digit. -/
def skipDigits : Reader Unit := do
  let digits := (← get).takeWhile isDigit
  if digits.isEmpty then throw .malformed
  modify (·.drop digits.length)

/-- Passes over a number after its sign. -/
def skipNumber : Reader Unit := do
  match (← get).takeWhile isDigit with
  | '0' :: _ :: _ => throw .malformed
  | _ => skipDigits
  if (← get).head? = some '.' then
    advance
    skipDigits
  if (← get).head?.any (fun c ↦ c == 'e' || c == 'E') then
    advance
    if (← get).head?.any (fun c ↦ c == '+' || c == '-') then advance
    skipDigits

/-- Passes over a string. -/
def skipQuoted : Reader Unit := do
  advance
  set (← (skipString (← get) : Except Failure (List Char)))

/-- Passes over the rest of an array. There are no more elements than characters in the given list,
which is what is left of the text. -/
def skipItems (skip : Reader Unit) : List Char → Bool → Reader Unit
  | [], _ => throw .ended
  | _ :: bound, first => do
    match ← peek with
    | none => throw .ended
    | some ']' => advance
    | some c =>
      if !first then
        if c = ',' then advance else throw .malformed
      skip
      skipItems skip bound false

/-- Passes over the rest of an object. There are no more fields than characters in the given list,
which is what is left of the text. -/
def skipEntries (skip : Reader Unit) : List Char → Bool → Reader Unit
  | [], _ => throw .ended
  | _ :: bound, first => do
    match ← peek with
    | none => throw .ended
    | some '\x7d' => advance
    | some c =>
      if !first then
        if c = ',' then advance else throw .malformed
      match ← peek with
      | none => throw .ended
      | some '"' => skipQuoted
      | some _ => throw .malformed
      match ← peek with
      | none => throw .ended
      | some ':' => advance
      | some _ => throw .malformed
      skip
      skipEntries skip bound false

/-- Passes over a value. Each level that it enters takes a character, so there are no more of them
than characters in the given list, which is what is left of the text. -/
def skipWithin : List Char → Reader Unit
  | [] => throw .ended
  | _ :: bound => do
    match ← peek with
    | none => throw .ended
    | some 'n' => expectChars "null".toList
    | some 't' => expectChars "true".toList
    | some 'f' => expectChars "false".toList
    | some '-' => advance; skipNumber
    | some '"' => skipQuoted
    | some '[' => advance; skipItems (skipWithin bound) (← get) true
    | some '\x7b' => advance; skipEntries (skipWithin bound) (← get) true
    | some c => if isDigit c then skipNumber else throw .malformed

/-- Passes over a value. -/
def skipValue : Reader Unit := do skipWithin (← get)

end HubRelay.Json
