import HubRelay.TypeExpr.Keyword
import HubRelay.TypeRef.Basic

/-!
# The names of types

A reference is written in four styles. `global` is the fully qualified name, which means the same
type wherever it stands. `cref` is that name with braces around type arguments, as documentation
references have it. `keyword` prefers the C# keyword of a built-in type. `short` leaves namespaces
out, for messages to a reader. `System.Void` cannot be named in C#, so every style writes `void`.

An array suffix follows the arguments: `List<int>[]` refers to arrays of lists.
-/

set_option autoImplicit false

namespace HubRelay

/-- How a type is named. -/
inductive NameStyle
  | global
  | cref
  | keyword
  | short
deriving DecidableEq, Repr

namespace NameStyle

/-- Whether the style prefers keywords. -/
def prefersKeyword : NameStyle → Bool
  | keyword | short => true
  | global | cref => false

/-- The brackets around type arguments and the text between two of them. -/
def brackets : NameStyle → String × String × String
  | cref => ("\x7b", ",", "\x7d")
  | global | keyword | short => ("<", ", ", ">")

end NameStyle

namespace TypeRef

/-- The name without its array suffixes, and the suffixes. -/
def splitSuffix (name : String) : String × String :=
  let stem := name.toList.takeWhile (· != '[')
  (String.ofList stem, String.ofList (name.toList.drop stem.length))

/-- The keyword that a style writes for a type without arguments. `stem` is the name without array
suffixes. -/
def keywordIn? (style : NameStyle) (container name stem : String) : Option String :=
  if container = Keyword.systemNamespace ∧ name = "Void" then some "void"
  else if style.prefersKeyword then Keyword.ofType? container stem
  else none

/-- What stands before the name when no keyword is used. -/
def qualification (style : NameStyle) (container : String) : String :=
  if style = .short then ""
  else if container.isEmpty then "global::"
  else "global::" ++ container ++ "."

mutual

/-- The name of a type in a style. -/
def render (style : NameStyle) : TypeRef → String
  | ⟨container, name, []⟩ =>
    let (stem, suffix) := splitSuffix name
    match keywordIn? style container name stem with
    | some keyword => keyword ++ suffix
    | none => qualification style container ++ stem ++ suffix
  | ⟨container, name, first :: rest⟩ =>
    let (stem, suffix) := splitSuffix name
    qualification style container ++ stem ++ style.brackets.1 ++ render style first ++
      renderMore style rest ++ style.brackets.2.2 ++ suffix

/-- The names of further type arguments, each after a separator. -/
def renderMore (style : NameStyle) : List TypeRef → String
  | [] => ""
  | next :: rest => style.brackets.2.1 ++ render style next ++ renderMore style rest

end

/-- The fully qualified name. -/
def globalName (t : TypeRef) : String := t.render .global

/-- The fully qualified name in a documentation reference. -/
def crefName (t : TypeRef) : String := t.render .cref

/-- The keyword of a built-in type, or else the fully qualified name. -/
def keywordOrGlobalName (t : TypeRef) : String := t.render .keyword

/-- The short name, for messages. -/
def shortName (t : TypeRef) : String := t.render .short

end TypeRef

end HubRelay
