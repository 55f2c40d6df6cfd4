import HubRelay.Writer.Basic

/-!
# Scopes of a writer

A scope changes how lines begin until it ends, and may write something when it is opened and when it
ends. Opening one gives the writer and the `Exit` to take when the scope ends, so scopes may end in
any order; `within` is the usual case of a scope around a part of the output.

A block is indented between braces. A line head replaces the indentation: it either follows what
lines began with, or stands in its place, padded with what is left of that beyond the head's own
width, measured in bytes. Indentation inside starts from zero.
-/

set_option autoImplicit false

namespace HubRelay

/-- A scope that can be opened. -/
inductive Opening
  /-- One level of indentation. -/
  | indent
  /-- A block between braces; the trailer follows the closing brace. -/
  | block (trailer : String)
  /-- A comment between `/*` and `*/`. -/
  | blockComment
  /-- Lines that start with a head. -/
  | lineHead (text : String) (keepsIndent : Bool)
  /-- A line that is written when the scope ends. -/
  | closingLine (text : String)
  /-- A namespace with its block. -/
  | namespaceBlock (name : String)
  /-- A class with its block. -/
  | classBlock (name : String) (modifiers : List String)
  /-- Documentation lines. -/
  | documentation
  /-- The summary of a documentation comment. -/
  | summary
deriving DecidableEq, Repr

/-- What happens when a scope ends. -/
inductive Exit
  /-- One level of indentation less. -/
  | dedent
  /-- One level of indentation less, then a line. -/
  | close (text : String)
  /-- A line. -/
  | line (text : String)
  /-- Lines begin again as they did before. -/
  | restore (lineHead : String) (level : Nat)
deriving DecidableEq, Repr

namespace Writer

/-- How many characters the first bytes of a text are, if they end between two characters. -/
def charsIn? : Nat → List Char → Option Nat
  | 0, _ => some 0
  | _ + 1, [] => none
  | bytes + 1, c :: rest =>
    if c.utf8Size ≤ bytes + 1 then (charsIn? (bytes + 1 - c.utf8Size) rest).map (· + 1) else none

/-- What is left of a text after its first bytes, if they end between two characters. They are no
more characters than bytes, so only so many characters are looked at. -/
def dropBytes (bytes : Nat) (text : String) : Option String :=
  (charsIn? bytes (text.take bytes).copy.toList).map fun count ↦ (text.drop count).copy

/-- Goes one level deeper. -/
def deeper (w : Writer) : Writer := { w with level := w.level + 1 }

/-- Goes one level up. -/
def shallower (w : Writer) : Writer := { w with level := w.level - 1 }

/-- Opens a block after its first line has been written. -/
def openBlock (w : Writer) (first last : String) : Writer × Exit :=
  ((w.writeLine first).deeper, .close last)

/-- Makes lines start with a head. -/
def openLineHead (w : Writer) (text : String) (keepsIndent : Bool) : Writer × Exit :=
  let current := w.lineHead ++ w.indentation
  let head :=
    if keepsIndent then current ++ text
    else text ++ (dropBytes text.utf8ByteSize current).getD ""
  ({ w with lineHead := head, level := 0 }, .restore w.lineHead w.level)

/-- Opens a scope. -/
def enter (w : Writer) : Opening → Writer × Exit
  | .indent => (w.deeper, .dedent)
  | .block trailer => w.openBlock "\x7b" ("\x7d" ++ trailer)
  | .blockComment => w.openBlock "/*" "*/"
  | .lineHead text keepsIndent => w.openLineHead text keepsIndent
  | .closingLine text => (w, .line text)
  | .namespaceBlock name => (w.writeLine ("namespace " ++ name)).openBlock "\x7b" "\x7d"
  | .classBlock name modifiers =>
    let w := modifiers.foldl (fun w modifier ↦ (w.write modifier).write " ") w
    ((w.write "class ").writeLine name).openBlock "\x7b" "\x7d"
  | .documentation => w.openLineHead "/// " true
  | .summary => (w.writeLine "<summary>", .line "</summary>")

/-- Ends a scope. -/
def leave (w : Writer) : Exit → Writer
  | .dedent => w.shallower
  | .close text => w.shallower.writeLine text
  | .line text => w.writeLine text
  | .restore lineHead level => { w with lineHead := lineHead, level := level }

/-- Writes a part of the output inside a scope. -/
def within (w : Writer) (opening : Opening) (body : Writer → Writer) : Writer :=
  let (inside, exit) := w.enter opening
  (body inside).leave exit

/-- Writes a documentation reference. -/
def see (w : Writer) (cref : String) : Writer := w.write ("<see cref=\"" ++ cref ++ "\"/>")

end Writer

end HubRelay
