import HubRelay.Text.Alphabetic
import HubRelay.Text.Blank
import HubRelay.Text.Bytes
import HubRelay.Text.Numeric

/-!
# Tokens of a type expression

A text is cut into words and punctuation; white space separates tokens and is otherwise dropped. A
word is as long as it can be, and two colons are one token. Each token is kept with its place in
the text, counted in bytes of UTF-8, so that the parser can say where a text goes wrong. A
character that begins no token of the grammar is kept as a stray, for the parser to refuse when it
gets there.
-/

set_option autoImplicit false

namespace HubRelay.TypeExpr

/-- Whether an identifier may begin with the character. A leading `@` keeps a keyword from being
one. -/
def startsIdentifier (c : Char) : Bool := c == '@' || c == '_' || Text.isAlphabetic c

/-- Whether an identifier may go on with the character. -/
def continuesIdentifier (c : Char) : Bool :=
  c == '_' || Text.isAlphabetic c || Text.isNumeric c

/-- A token of a type expression. -/
inductive Token
  | word (text : String)
  | doubleColon
  | dot
  | comma
  | less
  | greater
  | leftBracket
  | rightBracket
  | question
  | stray (c : Char)
deriving DecidableEq, Repr

/-- The token that a character which begins no word stands for by itself. -/
def Token.ofChar (c : Char) : Token :=
  match c with
  | '.' => dot
  | ',' => comma
  | '<' => less
  | '>' => greater
  | '[' => leftBracket
  | ']' => rightBracket
  | '?' => question
  | c => stray c

/-- A token in its place. -/
structure Lexeme where
  token : Token
  /-- The first character of the token. -/
  lead : Char
  /-- The offset of the token's first byte. -/
  start : Nat
  /-- The offset just past the token. -/
  stop : Nat
deriving DecidableEq, Repr

/-- The tokens of a text whose first character is at `offset`. -/
def scan (offset : Nat) : List Char → List Lexeme
  | [] => []
  | c :: rest =>
    if Text.isBlank c then
      scan (offset + c.utf8Size) rest
    else if startsIdentifier c then
      let stop := offset + Text.byteLength (c :: rest.takeWhile continuesIdentifier)
      ⟨.word (String.ofList (c :: rest.takeWhile continuesIdentifier)), c, offset, stop⟩ ::
        scan stop (rest.dropWhile continuesIdentifier)
    else if c = ':' ∧ rest.head? = some ':' then
      ⟨.doubleColon, c, offset, offset + 2⟩ :: scan (offset + 2) rest.tail
    else
      ⟨.ofChar c, c, offset, offset + c.utf8Size⟩ :: scan (offset + c.utf8Size) rest
termination_by cs => cs.length
decreasing_by
  all_goals simp only [List.length_cons, List.length_tail]
  · omega
  · exact Nat.lt_succ_of_le (List.dropWhile_suffix _).length_le
  · omega
  · omega

end HubRelay.TypeExpr
