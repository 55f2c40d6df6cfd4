import HubRelay.Json.Skip

/-!
# Readers for shapes of JSON

A text is read straight into the value that is wanted, from left to right, and the first thing that
is wrong with it decides the outcome: what follows is not looked at. So a field that the record does
not have is refused when its name is read, while a field that is missing is noticed at the closing
brace.

A reader that enters arrays or objects takes the number of levels that it may still enter. It is a
plain number that goes down on the way in, so that readers of nested types recurse on it.

A record is an object with named fields. It may also be written as the array of its fields in order,
where those at the end that have a default may be left off.
-/

set_option autoImplicit false

namespace HubRelay.Json

/-! ### Single values -/

/-- Refuses the value that comes next because something else is wanted. Numbers, strings and words
are read first, so a malformed one is refused for that. -/
def wrongType {α : Type} (wanted : String) : Reader α := do
  let refuse (found : Found) : Reader α := throw (.mismatch (.wrongType found wanted))
  match ← peek with
  | none => throw .ended
  | some 'n' => expectChars "null".toList; refuse .null
  | some 't' => expectChars "true".toList; refuse (.boolean true)
  | some 'f' => expectChars "false".toList; refuse (.boolean false)
  | some '-' => advance; refuse (← numberBody true).found
  | some '"' => advance; refuse (.string (← quotedRest))
  | some '[' => refuse .sequence
  | some '\x7b' => refuse .map
  | some c => if isDigit c then refuse (← numberBody false).found else throw .malformed

/-- Reads a string. -/
def string : Reader String := do
  if (← peek) = some '"' then
    advance
    quotedRest
  else wrongType "a string"

/-- Reads a truth value. -/
def boolean : Reader Bool := do
  match ← peek with
  | some 't' => expectChars "true".toList; return true
  | some 'f' => expectChars "false".toList; return false
  | _ => wrongType "a boolean"

/-- Reads the value that carries nothing. -/
def unit : Reader Unit := do
  if (← peek) = some 'n' then expectChars "null".toList else wrongType "unit"

/-- Reads a value that may be `null`. -/
def optional {α : Type} (item : Reader α) : Reader (Option α) := do
  if (← peek) = some 'n' then
    expectChars "null".toList
    return none
  else return some (← item)

/-! ### Arrays -/

/-- Whether another element of an array follows. Before all but the first there has to be a comma,
and after a comma an element. -/
def anotherItem (first : Bool) : Reader Bool := do
  match ← peek with
  | none => throw .ended
  | some ']' => return false
  | some c =>
    if first then return true
    if c ≠ ',' then throw .malformed
    advance
    match ← peek with
    | none => throw .ended
    | some ']' => throw .malformed
    | some _ => return true

/-- Reads the end of an array that has been read as far as it is wanted. -/
def endArray : Reader Unit := do
  match ← peek with
  | none => throw .ended
  | some ']' => advance
  | some _ => throw .malformed

/-- Reads the elements of an array. Each takes a character at least, so there are no more of them
than characters in the given list, which is what is left of the text. -/
def items {α : Type} (item : Reader α) : List Char → Bool → Reader (List α)
  | [], _ => throw .ended
  | _ :: bound, first => do
    if ← anotherItem first then
      let head ← item
      let tail ← items item bound false
      return head :: tail
    else return []

/-- Enters a bracket, if another level may be entered. -/
def enter (levels : Nat) : Reader Unit := do
  if levels = 0 then throw .malformed
  advance

/-- Reads an array. -/
def list {α : Type} (levels : Nat) (item : Reader α) : Reader (List α) := do
  if (← peek) = some '[' then
    enter levels
    let found ← items item (← get) true
    endArray
    return found
  else wrongType "a sequence"

/-! ### Records -/

/-- A field of a record: its name, the reader of its value, and what it is when it is left out. -/
structure Field (α : Type) where
  name : String
  read : Reader α
  default? : Option α := none

/-- The fields of a record, in order. -/
inductive Fields : List Type → Type 1
  | nil : Fields []
  | cons {α : Type} {types : List Type} (head : Field α) (tail : Fields types) :
    Fields (α :: types)

/-- The values of fields that have been read so far. -/
def Slots : List Type → Type
  | [] => Unit
  | α :: types => Option α × Slots types

/-- The values of all fields. -/
def Values : List Type → Type
  | [] => Unit
  | α :: types => α × Values types

namespace Fields

/-- The names of the fields. -/
def names {types : List Type} : Fields types → List String
  | nil => []
  | cons head tail => head.name :: tail.names

/-- The slots before anything is read. -/
def noneRead {types : List Type} : Fields types → Slots types
  | nil => ()
  | cons _ tail => (none, tail.noneRead)

/-- What the name of a field calls for. -/
inductive Call (σ : Type)
  /-- There is no such field. -/
  | unknown
  /-- The field has been read already. -/
  | repeated
  /-- The value is to be read into the slots. -/
  | value (read : Reader σ)

/-- What a name calls for. -/
def call {types : List Type} (name : String) : Fields types → Slots types → Call (Slots types)
  | nil, _ => .unknown
  | cons head tail, slots =>
    if head.name = name then
      if slots.1.isSome then .repeated
      else .value do return (some (← head.read), slots.2)
    else
      match tail.call name slots.2 with
      | .unknown => .unknown
      | .repeated => .repeated
      | .value read => .value do return (slots.1, ← read)

/-- The values of the fields, with their defaults for those that were left out. The first field that
has no default is missing. -/
def complete {types : List Type} : Fields types → Slots types → Except Mismatch (Values types)
  | nil, _ => .ok ()
  | cons head tail, slots => do
    let value ← match slots.1.or head.default? with
      | some value => .ok value
      | none => .error (.missingField head.name)
    return (value, ← tail.complete slots.2)

/-- Reads the fields from the elements of an array, the next of which is number `index`. -/
def fromItems {types : List Type} (record : String) (size : Nat) :
    Fields types → Nat → Reader (Values types)
  | nil, _ => return ()
  | cons head tail, index => do
    if ← anotherItem (index == 0) then
      let value ← head.read
      return (value, ← tail.fromItems record size (index + 1))
    else
      match head.default? with
      | some value => return (value, ← tail.fromItems record size (index + 1))
      | none => throw (.mismatch (.wrongLength index record size))

end Fields

/-- Reads the name of a field. Nothing but a string can be one. -/
def fieldName : Reader String := do
  match ← peek with
  | none => throw .ended
  | some '"' =>
    advance
    quotedRest
  | some _ => throw .malformed

/-- Whether another field of an object follows. Before all but the first there has to be a comma. -/
def anotherField (first : Bool) : Reader Bool := do
  match ← peek with
  | none => throw .ended
  | some '\x7d' => return false
  | some c =>
    if !first then
      if c ≠ ',' then throw .malformed
      advance
    return true

/-- Reads the colon between a name and a value. -/
def colon : Reader Unit := do
  match ← peek with
  | none => throw .ended
  | some ':' => advance
  | some _ => throw .malformed

/-- Reads the fields of an object into the slots. There are no more of them than characters in the
given list, which is what is left of the text. -/
def entries {types : List Type} (closed : Bool) (fields : Fields types) :
    List Char → Bool → Slots types → Reader (Slots types)
  | [], _, _ => throw .ended
  | _ :: bound, first, slots => do
    if ← anotherField first then
      let name ← fieldName
      match fields.call name slots with
      | .unknown =>
        if closed then throw (.mismatch (.unknownField name fields.names))
        colon
        skipValue
        entries closed fields bound false slots
      | .repeated => throw (.mismatch (.duplicateField name))
      | .value read =>
        colon
        entries closed fields bound false (← read)
    else return slots

/-- Reads a record from an object or an array. A closed record refuses fields that it does not have;
another passes over them. -/
def record {types : List Type} (levels : Nat) (name : String) (closed : Bool)
    (fields : Fields types) : Reader (Values types) := do
  match ← peek with
  | some '[' =>
    enter levels
    let values ← fields.fromItems name fields.names.length 0
    endArray
    return values
  | some '\x7b' =>
    enter levels
    let slots ← entries closed fields (← get) true fields.noneRead
    match fields.complete slots with
    | .ok values =>
      advance
      return values
    | .error reason => throw (.mismatch reason)
  | _ => wrongType ("struct " ++ name)

/-! ### Variants -/

/-- What a variant carries: nothing, or content of its own. -/
inductive Content (α : Type)
  | bare (value : α)
  | inside (read : Reader α)

/-- The content of the named variant. -/
def Content.find {α : Type} (choices : List (String × Content α)) (name : String) :
    Reader (Content α) :=
  match choices.lookup name with
  | some content => return content
  | none => throw (.mismatch (.unknownVariant name (choices.map (·.1))))

/-- Reads one of several variants: the name alone, if the variant carries nothing, or an object with
the name as its only field. -/
def variant {α : Type} (levels : Nat) (choices : List (String × Content α)) : Reader α := do
  match ← peek with
  | none => throw .ended
  | some '"' =>
    advance
    match ← Content.find choices (← quotedRest) with
    | .bare value => return value
    | .inside _ => throw (.mismatch (.wrongType .bareVariant "newtype variant"))
  | some '\x7b' =>
    enter levels
    let content ← Content.find choices (← fieldName)
    colon
    let value ← match content with
      | .bare value => do unit; pure value
      | .inside read => read
    match ← peek with
    | none => throw .ended
    | some '\x7d' => advance; return value
    | some _ => throw .malformed
  | some _ => throw .malformed

/-! ### Whole texts -/

/-- The number of levels of arrays and objects that a text may have. -/
def maxLevels : Nat := 127

/-- Reads a whole text. Nothing but blanks may follow the value. -/
def read {α : Type} (reader : Reader α) (text : String) : Except Failure α := do
  let (value, rest) ← reader.run text.toList
  if (rest.dropWhile isBlank).isEmpty then return value else throw .malformed

end HubRelay.Json
