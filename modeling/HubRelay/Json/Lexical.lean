import HubRelay.Decimal.Notation
import HubRelay.Json.Failure
import HubRelay.Text.Bytes
import HubRelay.Text.Hexadecimal

/-!
# The lexical level of JSON

Blanks, literal words, strings and numbers. A reader takes what is left of the text and gives a
value with what is left after it, or the first reason from the left why it cannot.

A string may hold any character but a raw control character. Escaped surrogates have to come in
pairs. A number is an integer if it is written as one and fits in 64 bits; any other is a double,
and one beyond the range of doubles is refused.
-/

set_option autoImplicit false

namespace HubRelay.Json

/-- A reader: from what is left of the text to a value and what is left after it. -/
abbrev Reader := StateT (List Char) (Except Failure)

/-! ### Blanks and words -/

/-- Whether JSON takes the character for a blank between tokens. -/
def isBlank (c : Char) : Bool := c == ' ' || c == '\n' || c == '\t' || c == '\r'

/-- Passes over blanks and gives the character after them. -/
def peek : Reader (Option Char) := do
  modify (·.dropWhile isBlank)
  return (← get).head?

/-- Passes over one character. -/
def advance : Reader Unit := modify List.tail

/-- Reads exactly the given characters. -/
def expectChars : List Char → Reader Unit
  | [] => pure ()
  | wanted :: more => do
    match ← get with
    | [] => throw .ended
    | c :: rest => if c = wanted then set rest; expectChars more else throw .malformed

/-! ### Strings -/

/-- Reads four hexadecimal digits. Where less than four bytes are left, the text has ended early. -/
def hexQuad (cs : List Char) : Except Failure (Nat × List Char) :=
  if Text.byteLength (cs.take 4) < 4 then .error .ended
  else
    match Text.hexValue? (cs.take 4) with
    | some code => .ok (code, cs.drop 4)
    | none => .error .malformed

/-- The character that a letter after a backslash stands for. -/
def simpleEscape? (c : Char) : Option Char :=
  match c with
  | '"' => some '"'
  | '\\' => some '\\'
  | '/' => some '/'
  | 'b' => some '\x08'
  | 'f' => some '\x0c'
  | 'n' => some '\n'
  | 'r' => some '\r'
  | 't' => some '\t'
  | _ => none

/-- Reads the second half of a surrogate pair whose first half is `high`. -/
def lowSurrogate (high : Nat) (cs : List Char) : Except Failure (Char × List Char) :=
  if cs.head?.any (· != '\\') || cs.tail.head?.any (· != 'u') then .error .malformed
  else if cs.tail.isEmpty then .error .ended
  else do
    let (low, rest) ← hexQuad (cs.drop 2)
    if 0xDC00 ≤ low ∧ low ≤ 0xDFFF then
      return (Char.ofNat ((high - 0xD800) * 0x400 + (low - 0xDC00) + 0x10000), rest)
    else throw .malformed

/-- Reads an escape after its backslash. -/
def escape (cs : List Char) : Except Failure (Char × List Char) :=
  match cs with
  | [] => .error .ended
  | c :: rest =>
    if c = 'u' then do
      let (code, rest) ← hexQuad rest
      if 0xDC00 ≤ code ∧ code ≤ 0xDFFF then throw .malformed
      else if 0xD800 ≤ code ∧ code ≤ 0xDBFF then lowSurrogate code rest
      else return (Char.ofNat code, rest)
    else
      match simpleEscape? c with
      | some meant => .ok (meant, rest)
      | none => .error .malformed

/-- Four digits are taken from the front of the text. -/
theorem length_hexQuad {cs rest : List Char} {code : Nat} (h : hexQuad cs = .ok (code, rest)) :
    rest.length ≤ cs.length := by
  unfold hexQuad at h
  split at h
  · cases h
  · split at h
    · cases h
      simp
    · cases h

/-- The second half of a surrogate pair is taken from the front of the text. -/
theorem length_lowSurrogate {high : Nat} {cs rest : List Char} {c : Char}
    (h : lowSurrogate high cs = .ok (c, rest)) : rest.length ≤ cs.length := by
  unfold lowSurrogate at h
  split at h
  · cases h
  split at h
  · cases h
  cases hq : hexQuad (cs.drop 2) with
  | error e => simp [hq, bind, Except.bind] at h
  | ok r =>
    have hle : r.2.length ≤ (cs.drop 2).length := length_hexQuad hq
    simp only [hq, bind, Except.bind] at h
    split at h
    · simp only [pure, Except.pure, Except.ok.injEq, Prod.mk.injEq] at h
      rw [← h.2]
      rw [List.length_drop] at hle
      omega
    · cases h

/-- An escape is taken from the front of the text, and is not empty. -/
theorem length_escape {cs rest : List Char} {c : Char} (h : escape cs = .ok (c, rest)) :
    rest.length < cs.length := by
  cases cs with
  | nil => cases h
  | cons first tail =>
    simp only [escape] at h
    rw [List.length_cons]
    split at h
    · cases hq : hexQuad tail with
      | error e => simp [hq, bind, Except.bind] at h
      | ok r =>
        have hle : r.2.length ≤ tail.length := length_hexQuad hq
        simp only [hq, bind, Except.bind] at h
        split at h
        · cases h
        · split at h
          · have := length_lowSurrogate h
            omega
          · simp only [pure, Except.pure, Except.ok.injEq, Prod.mk.injEq] at h
            rw [← h.2]
            omega
    · split at h
      · cases h
        exact Nat.lt_succ_self _
      · cases h

/-- Reads the rest of a string, up to and with its closing quote. -/
def stringBody (cs : List Char) : Except Failure (List Char × List Char) :=
  match cs with
  | [] => .error .ended
  | c :: rest =>
    if c = '"' then .ok ([], rest)
    else if c = '\\' then
      match h : escape rest with
      | .error e => .error e
      | .ok (meant, after) => do
        have := length_escape h
        let (more, rest) ← stringBody after
        return (meant :: more, rest)
    else if c.toNat < 0x20 then .error .malformed
    else do
      let (more, rest) ← stringBody rest
      return (c :: more, rest)
termination_by cs.length

/-- Reads the rest of a string after its opening quote. -/
def quotedRest : Reader String := do
  let (chars, rest) ← stringBody (← get)
  set rest
  return String.ofList chars

/-! ### Numbers -/

/-- A number: an integer of 64 bits, or a double. -/
inductive Number
  | integer (value : Int)
  | float (value : Float)

/-- The number as a message shows it. -/
def Number.found : Number → Found
  | integer value => .integer value
  | float value => .decimal (Decimal.floatText value)

/-- Whether the character is a decimal digit. -/
def isDigit (c : Char) : Bool := '0' ≤ c && c ≤ '9'

/-- Appends digits to a significand as long as it fits in 64 bits. Gives the significand, how many
digits went into it, and how many were left over. -/
def absorb (significand : Nat) (taken : Nat) : List Char → Nat × Nat × Nat
  | [] => (significand, taken, 0)
  | c :: rest =>
    let next := 10 * significand + (c.toNat - '0'.toNat)
    if next < UInt64.size then absorb next (taken + 1) rest
    else (significand, taken, rest.length + 1)

/-- The double nearest to `value · 10 ^ exponent`, rounding after each step: a power of ten up to
`10 ^ 308` is multiplied or divided by at once. Nothing, if it is beyond the range of doubles. -/
def scale (value : Float) (exponent : Int) : Option Float :=
  if -308 ≤ exponent ∧ exponent < 0 then
    some (value / Float.ofScientific 1 false exponent.natAbs)
  else if 0 ≤ exponent ∧ exponent ≤ 308 then
    let product := value * Float.ofScientific 1 false exponent.natAbs
    if product.isInf then none else some product
  else if value == 0 then some value
  else if 0 ≤ exponent then none
  else scale (value / 1e308) (exponent + 308)
termination_by exponent.natAbs
decreasing_by omega

/-- The double with the given parts. -/
def assemble (negative : Bool) (significand : Nat) (exponent : Int) : Except Failure Number :=
  match scale significand.toUInt64.toFloat exponent with
  | some value => .ok (.float (if negative then -value else value))
  | none => .error .malformed

/-- Reads an exponent after its letter. `base` is the exponent that the digits before it have
already. -/
def exponentPart (negative : Bool) (significand : Nat) (base : Int) : Reader Number := do
  let falls ← match ← get with
    | '+' :: rest => set rest; pure false
    | '-' :: rest => set rest; pure true
    | _ => pure false
  let digits := (← get).takeWhile isDigit
  if digits.isEmpty then
    throw (if (← get).isEmpty then .ended else .malformed)
  modify (·.drop digits.length)
  let size := digits.foldl (fun n c ↦ 10 * n + (c.toNat - '0'.toNat)) 0
  if 0x80000000 ≤ size then
    if significand ≠ 0 ∧ !falls then throw .malformed
    else return .float (if negative then -0.0 else 0.0)
  else assemble negative significand (if falls then base - size else base + size)

/-- Reads what may follow the digits of a double: an exponent. -/
def afterDigits (negative : Bool) (significand : Nat) (exponent : Int) : Reader Number := do
  match (← get).head? with
  | some 'e' | some 'E' => advance; exponentPart negative significand exponent
  | _ => assemble negative significand exponent

/-- Reads a fraction after its point. -/
def fractionPart (negative : Bool) (significand : Nat) (exponent : Int) : Reader Number := do
  let digits := (← get).takeWhile isDigit
  if digits.isEmpty then
    throw (if (← get).isEmpty then .ended else .malformed)
  modify (·.drop digits.length)
  let (significand, taken, _) := absorb significand 0 digits
  afterDigits negative significand (exponent - taken)

/-- The number that digits without point and exponent stand for. A negative integer that does not
fit in 64 bits is a double, and so is negative zero. -/
def wholeNumber (negative : Bool) (significand : Nat) : Number :=
  if !negative then .integer significand
  else if significand = 0 ∨ 0x8000000000000000 < significand then
    .float (-significand.toUInt64.toFloat)
  else .integer (-significand)

/-- Reads a number after its sign. -/
def numberBody (negative : Bool) : Reader Number := do
  let digits := (← get).takeWhile isDigit
  match digits with
  | [] => throw (if (← get).isEmpty then .ended else .malformed)
  | '0' :: _ :: _ => throw .malformed
  | _ =>
    modify (·.drop digits.length)
    let (significand, _, left) := absorb 0 0 digits
    match (← get).head? with
    | some '.' => advance; fractionPart negative significand left
    | some 'e' | some 'E' => advance; exponentPart negative significand left
    | _ => if left = 0 then return wholeNumber negative significand
           else assemble negative significand left

end HubRelay.Json
