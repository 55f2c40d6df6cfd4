import HubRelay.Settings.Basic
import HubRelay.Text.Blank
import HubRelay.Text.Pieces

/-!
# A writer of indented text

The writer keeps what it has written, the level of indentation, the head that every line starts
with, and whether it stands at the start of a line. Text is written character by character: the
first character of a line is preceded by the head and the indentation, so an empty line carries no
indentation, only the head without the white space it ends in.

Every line ends in the writer's own terminator. Its last character ends a line of the written text
too, and its other characters are dropped from that text, as is a carriage return: text with
either kind of line ending comes out with the writer's.
-/

set_option autoImplicit false

namespace HubRelay

/-- A writer of indented text. -/
structure Writer where
  /-- One level of indentation. -/
  indentText : String := "    "
  /-- The line terminator. -/
  newline : String := "\n"
  /-- What has been written. -/
  out : String := ""
  level : Nat := 0
  /-- What every line starts with, before the indentation. -/
  lineHead : String := ""
  atLineStart : Bool := true
deriving DecidableEq, Repr

namespace Writer

/-- A writer with the indentation and the line endings of the settings. -/
def ofSettings (settings : Settings) : Writer where
  indentText := settings.indent
  newline := settings.newline.text

/-- The character of written text that ends a line. -/
def breakChar (w : Writer) : Char := w.newline.toList.getLast?.getD '\n'

/-- The characters that are dropped from written text, unless they end a line. -/
def dropped (w : Writer) : List Char := '\r' :: w.newline.toList

/-- The indentation of the current level. -/
def indentation (w : Writer) : String := String.join (List.replicate w.level w.indentText)

/-- Ends the current line. -/
def endLine (w : Writer) : Writer :=
  { w with
    out := (if w.atLineStart then w.out ++ Text.trimEnd w.lineHead else w.out) ++ w.newline
    atLineStart := true }

/-- Writes the start of a line, if nothing is on the line yet. -/
def startLine (w : Writer) : Writer :=
  if w.atLineStart then
    { w with out := w.out ++ w.lineHead ++ w.indentation, atLineStart := false }
  else w

/-- Appends a character to the output. -/
def append (w : Writer) (c : Char) : Writer := { w with out := w.out.push c }

/-- Writes a character of a text, in which one character ends lines and some are dropped. -/
def writeChar (breakChar : Char) (dropped : List Char) (w : Writer) (c : Char) : Writer :=
  if c = breakChar then w.endLine
  else if dropped.contains c then w
  else w.startLine.append c

/-- Writes a text. -/
def write (w : Writer) (text : String) : Writer :=
  text.toList.foldl (writeChar w.breakChar w.dropped) w

/-- Writes a text and ends the line. -/
def writeLine (w : Writer) (text : String) : Writer := (w.write text).endLine

/-- Ends the current line; at the start of a line this writes an empty one. -/
def blankLine (w : Writer) : Writer := w.endLine

/-- Writes a text and a line break, which ends the line if `\n` is the character that does. -/
def writeBreak (w : Writer) (text : String) : Writer := (w.write text).write "\n"

/-- Writes a line comment. A line break in the text continues the comment on the next line. -/
def comment (w : Writer) (text : String) : Writer :=
  (Text.pieces w.breakChar text.toList).foldl
    (fun w line ↦ (w.write "// ").writeLine (String.ofList line)) w

end Writer

end HubRelay
