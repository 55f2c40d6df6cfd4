import HubRelay.TypeExpr.Keyword
import HubRelay.TypeExpr.Basic
import HubRelay.TypeExpr.Token

/-!
# Reading type expressions

The reader goes over the tokens once, from left to right, and keeps the type argument lists that are
open and what it has read of the innermost type. Each token either extends this state or is refused;
nothing is read twice and no part of the input is skipped. A refusal names the first token that no
type expression can have in that place.

Every node is built together with its height, and a node above `maxNesting` is refused. The list of
open argument lists is held to the same bound, before the arguments are read.
-/

set_option autoImplicit false

namespace HubRelay.TypeExpr

/-! ### Errors -/

/-- The height of the highest type expression that is accepted. -/
def maxNesting : Nat := 128

/-- Why a text is not a type expression. Offsets count bytes. -/
inductive SyntaxError
  /-- The text stops inside a type expression. -/
  | unexpectedEnd
  /-- A character that cannot stand in its place. -/
  | unexpectedChar (found : Char) (offset : Nat)
  /-- A name must stand here. -/
  | expectedIdentifier (offset : Nat)
  /-- A type argument list with nothing in it. -/
  | emptyTypeArguments (offset : Nat)
  /-- A node above the depth limit. -/
  | tooDeep (offset : Nat)
deriving DecidableEq, Repr

/-- The wording of a syntax error. -/
def SyntaxError.message : SyntaxError → String
  | unexpectedEnd => "unexpected end of type expression"
  | unexpectedChar found offset =>
    "unexpected `" ++ found.toString ++ "` at offset " ++ toString offset
  | expectedIdentifier offset => "expected an identifier at offset " ++ toString offset
  | emptyTypeArguments offset => "empty type argument list at offset " ++ toString offset
  | tooDeep offset =>
    "type expression nests deeper than " ++ toString maxNesting ++ " levels at offset " ++
      toString offset

/-! ### The state of the reader -/

/-- A type expression with its height. -/
structure Sized where
  expr : TypeExpr
  height : Nat

/-- The height of a node above a part of the given height. The error names `offset`. -/
def raise (height offset : Nat) : Except SyntaxError Nat :=
  if maxNesting ≤ height then .error (.tooDeep offset) else .ok (height + 1)

/-- What stands to the left of a simple or generic name. -/
inductive Join
  /-- Nothing: the name is the left-most one. -/
  | first
  /-- An alias and `::`. -/
  | label (name : String) (offset : Nat)
  /-- A name and a dot. -/
  | member (left : Sized) (offset : Nat)

/-- Joins a name to what stands to its left. -/
def Join.apply : Join → Sized → Except SyntaxError Sized
  | first, name => .ok name
  | label text offset, name => do
    return ⟨.aliased text name.expr, ← raise name.height offset⟩
  | member left offset, name => do
    return ⟨.qualified left.expr name.expr, ← raise (max left.height name.height) offset⟩

/-- A type argument list that is open: the name it belongs to, and the arguments before the one that
is being read with their greatest height. -/
structure OpenList where
  join : Join
  identifier : String
  /-- The arguments, the last one first. -/
  arguments : List TypeExpr
  height : Nat
  /-- The offset just past the `<`. -/
  offset : Nat

/-- Adds an argument to the list. -/
def OpenList.push (list : OpenList) (argument : Sized) : OpenList :=
  { list with
    arguments := argument.expr :: list.arguments
    height := max list.height argument.height }

/-- Closes the list after its last argument and joins the generic name to what stands to its
left. -/
def OpenList.close (list : OpenList) (last : Sized) : Except SyntaxError Sized := do
  let all := list.push last
  list.join.apply ⟨.generic list.identifier all.arguments.reverse, ← raise all.height list.offset⟩

/-- How far the innermost type has been read. -/
inductive Phase
  /-- A type must begin. -/
  | typeStart
  /-- A simple or generic name must follow. -/
  | nameStart (join : Join)
  /-- An identifier has been read; type arguments may follow. -/
  | identifier (join : Join) (text : String)
  /-- A `<` has been read; `offset` is just past it. -/
  | listStart (join : Join) (text : String) (offset : Nat)
  /-- A name has been read; a dot or a suffix may follow. -/
  | name (node : Sized)
  /-- A keyword or a type with a suffix has been read; a suffix may follow. -/
  | suffixed (node : Sized)
  /-- A `[` has been read, and commas; `offset` is where the suffix began. -/
  | ranks (element : Sized) (rank offset : Nat)

/-- The state of the reader between two tokens. -/
structure State where
  /-- The open type argument lists, innermost first. -/
  lists : List OpenList
  phase : Phase
  /-- The offset just past the last token. -/
  stop : Nat

/-- The state before the first token. -/
def State.start : State := ⟨[], .typeStart, 0⟩

/-! ### One token -/

/-- The error for a token that cannot stand in its place. -/
def Lexeme.refuse {α : Type} (x : Lexeme) : Except SyntaxError α :=
  .error (.unexpectedChar x.lead x.start)

/-- Begins a type with a token. -/
def beginType (lists : List OpenList) (x : Lexeme) : Except SyntaxError State :=
  match x.token with
  | .word text =>
    if Keyword.isKeyword text then .ok ⟨lists, .suffixed ⟨.keyword text, 1⟩, x.stop⟩
    else .ok ⟨lists, .identifier .first text, x.stop⟩
  | _ => .error (.expectedIdentifier x.start)

/-- Reads a token after a type that can take a suffix: a suffix, or what ends a type argument. A
node that the token makes too high is refused at `offset`. -/
def afterSuffixed (lists : List OpenList) (node : Sized) (offset : Nat) (x : Lexeme) :
    Except SyntaxError State :=
  match x.token, lists with
  | .question, _ => do
    return ⟨lists, .suffixed ⟨.nullable node.expr, ← raise node.height offset⟩, x.stop⟩
  | .leftBracket, _ => .ok ⟨lists, .ranks node 1 offset, x.stop⟩
  | .comma, list :: outer => .ok ⟨list.push node :: outer, .typeStart, x.stop⟩
  | .greater, list :: outer => do return ⟨outer, .name (← list.close node), x.stop⟩
  | _, _ => x.refuse

/-- Reads a token after a name: a dot, or what may follow any type. A qualified name that is too
high is refused at `offset`, and a type with a suffix at the suffix. -/
def afterName (lists : List OpenList) (node : Sized) (offset : Nat) (x : Lexeme) :
    Except SyntaxError State :=
  match x.token with
  | .dot => .ok ⟨lists, .nameStart (.member node offset), x.stop⟩
  | _ => afterSuffixed lists node x.start x

/-- Reads one token. -/
def State.step (s : State) (x : Lexeme) : Except SyntaxError State :=
  match s.phase with
  | .typeStart => beginType s.lists x
  | .nameStart join =>
    match x.token with
    | .word text => .ok ⟨s.lists, .identifier join text, x.stop⟩
    | _ => .error (.expectedIdentifier x.start)
  | .identifier join text =>
    match x.token, join with
    | .less, _ => .ok ⟨s.lists, .listStart join text x.stop, x.stop⟩
    | .doubleColon, .first => .ok ⟨s.lists, .nameStart (.label text s.stop), x.stop⟩
    | _, _ => do afterName s.lists (← join.apply ⟨.simple text, 1⟩) x.start x
  | .listStart join text offset =>
    if x.token = .greater then .error (.emptyTypeArguments offset)
    else if maxNesting ≤ s.lists.length then .error (.tooDeep offset)
    else beginType (⟨join, text, [], 0, offset⟩ :: s.lists) x
  | .name node => afterName s.lists node s.stop x
  | .suffixed node => afterSuffixed s.lists node s.stop x
  | .ranks element rank offset =>
    match x.token with
    | .comma => .ok ⟨s.lists, .ranks element (rank + 1) offset, x.stop⟩
    | .rightBracket => do
      return ⟨s.lists, .suffixed ⟨.array element.expr rank, ← raise element.height offset⟩, x.stop⟩
    | _ => x.refuse

/-- The type that has been read when the text ends. -/
def State.finish (s : State) : Except SyntaxError TypeExpr :=
  let whole (node : Sized) : Except SyntaxError TypeExpr :=
    if s.lists.isEmpty then .ok node.expr else .error .unexpectedEnd
  match s.phase with
  | .identifier join text => do whole (← join.apply ⟨.simple text, 1⟩)
  | .listStart _ _ offset =>
    if maxNesting ≤ s.lists.length then .error (.tooDeep offset) else .error .unexpectedEnd
  | .name node | .suffixed node => whole node
  | .typeStart | .nameStart _ | .ranks _ _ _ => .error .unexpectedEnd

/-- Reads a type expression. White space around and between its tokens is ignored. -/
def parse (text : String) : Except SyntaxError TypeExpr :=
  (scan 0 text.toList).foldlM State.step State.start >>= State.finish

end HubRelay.TypeExpr
