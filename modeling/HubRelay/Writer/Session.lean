import HubRelay.Writer.Scope

/-!
# Programs of a writer

A program is a list of actions: writing, opening a scope, and ending one. A session keeps the writer
with the scopes that have been opened, in order, and with what to do when each ends. A scope ends at
most once, and scopes may end in any order.
-/

set_option autoImplicit false

namespace HubRelay

namespace Writer

/-- An action on a writer. -/
inductive Action
  | write (text : String)
  | writeLine (text : String)
  /-- Writes a text and a line break. -/
  | writeBreak (text : String)
  | blankLine
  | comment (text : String)
  | see (cref : String)
  /-- Opens a scope. -/
  | enter (opening : Opening)
  /-- Ends the scope with a number, counting from zero in order of opening. -/
  | leave (index : Nat)
deriving DecidableEq, Repr

/-- A writer and the scopes that have been opened. An ended scope is `none`. -/
structure Session where
  writer : Writer
  scopes : List (Option Exit) := []
deriving DecidableEq, Repr

namespace Session

/-- Takes one action. -/
def step (s : Session) : Action → Session
  | .write text => { s with writer := s.writer.write text }
  | .writeLine text => { s with writer := s.writer.writeLine text }
  | .writeBreak text => { s with writer := s.writer.writeBreak text }
  | .blankLine => { s with writer := s.writer.blankLine }
  | .comment text => { s with writer := s.writer.comment text }
  | .see cref => { s with writer := s.writer.see cref }
  | .enter opening =>
    let (writer, exit) := s.writer.enter opening
    ⟨writer, s.scopes ++ [some exit]⟩
  | .leave index =>
    match s.scopes[index]? with
    | some (some exit) => ⟨s.writer.leave exit, s.scopes.set index none⟩
    | _ => s

/-- The session after each action of a program. -/
def trace (s : Session) : List Action → List Session
  | [] => []
  | action :: rest => s.step action :: trace (s.step action) rest

/-- The session after a program. -/
def run (s : Session) (program : List Action) : Session := program.foldl step s

end Session

end Writer

end HubRelay
