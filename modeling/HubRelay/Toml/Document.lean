import HubRelay.Toml.Lexical

/-!
# TOML documents

A document is read into its entries: what each key is set to, with the full path of the key, and
the table headers. Settings are texts and truth values, so these are the only values that are told
apart. An empty array or table counts as an empty value. A document with any other kind of value
is refused.
-/

set_option autoImplicit false

namespace HubRelay.Toml

/-- What a path is set to. -/
inductive Leaf
  | string (value : String)
  | boolean (value : Bool)
  /-- An empty array or table. -/
  | empty
  /-- A table header. -/
  | header
deriving DecidableEq, Repr

/-- A path with what it is set to. -/
structure Entry where
  path : List String
  leaf : Leaf
deriving DecidableEq, Repr

/-- Passes over given characters. -/
def word (w : String) : Reader Unit := do
  if w.toList.isPrefixOf (← get) then modify (·.drop w.length) else failure

/-- Passes over blanks, line breaks and comments. The number bounds the comments. -/
def space : Nat → Reader Unit
  | 0 => pure ()
  | bound + 1 => do
    modify (·.dropWhile isBlank)
    match afterBreak? (← get) with
    | some rest => set rest; space bound
    | none =>
      if (← get).head? = some '#' then
        comment
        space bound

/-- Reads the entries of a table on one line, up to its closing brace, with a reader for what a path
is set to. The number bounds the entries. -/
def inlineEntries (value : List String → Reader (List Entry)) (path : List String) :
    Nat → Reader (List Entry)
  | 0 => failure
  | bound + 1 => do
    blanks
    let name ← key
    expect '='
    blanks
    let first ← value (path ++ name)
    blanks
    match (← get).head? with
    | some ',' =>
      advance
      return first ++ (← inlineEntries value path bound)
    | some '\x7d' =>
      advance
      return first
    | _ => failure

/-- How many tables on one line may stand inside each other. -/
def maxLevels : Nat := 80

/-- Reads what a path is set to. The number is that of the levels of tables that may be entered. -/
def value : Nat → List String → Reader (List Entry)
  | levels, path => do
    match (← get).head?, levels with
    | some '"', _ => return [⟨path, .string (← string '"')⟩]
    | some '\'', _ => return [⟨path, .string (← string '\'')⟩]
    | some 't', _ => word "true"; return [⟨path, .boolean true⟩]
    | some 'f', _ => word "false"; return [⟨path, .boolean false⟩]
    | some '[', _ =>
      advance
      space ((← get).length + 1)
      expect ']'
      return [⟨path, .empty⟩]
    | some '\x7b', levels + 1 =>
      advance
      blanks
      if (← get).head? = some '\x7d' then
        advance
        return [⟨path, .empty⟩]
      else inlineEntries (value levels) path ((← get).length + 1)
    | _, _ => failure

/-- Reads the lines of a document below a table header. The number bounds the lines. -/
def lines (table : List String) : Nat → Reader (List Entry)
  | 0 => failure
  | bound + 1 => do
    blanks
    match (← get).head? with
    | none => return []
    | some '#' | some '\n' | some '\r' =>
      lineEnd
      lines table bound
    | some '[' =>
      advance
      blanks
      let path ← key
      expect ']'
      lineEnd
      return ⟨path, .header⟩ :: (← lines path bound)
    | some _ =>
      let name ← key
      expect '='
      blanks
      let found ← value maxLevels (table ++ name)
      lineEnd
      return found ++ (← lines table bound)

/-- The entries of a document. A byte order mark at its start is passed over. -/
def entries? (text : String) : Option (List Entry) :=
  let cs := match text.toList with
    | '\uFEFF' :: rest => rest
    | cs => cs
  ((lines [] (cs.length + 1)).run cs).map (·.1)

end HubRelay.Toml
