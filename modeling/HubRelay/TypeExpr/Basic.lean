/-!
# Type expressions

A C# type as it is written, before any name in it is resolved. Dotted names nest to the left: the
right side of a qualified name is a simple or generic name, and an alias such as `global::`
qualifies the left-most name only. The type admits other trees too; what is said of them here is
said of all.

`TypeExpr.render` writes a tree in normal form, with one space after each comma of a type argument
list and no other white space. `TypeExpr.height` counts levels the way the depth limit does.
-/

set_option autoImplicit false

namespace HubRelay

/-- A C# type as written. -/
inductive TypeExpr
  /-- A built-in type keyword (`int`). -/
  | keyword (word : String)
  /-- A simple name (`IClient`). -/
  | simple (identifier : String)
  /-- A generic name (`Hub<IClient>`). -/
  | generic (identifier : String) (arguments : List TypeExpr)
  /-- A dotted name (`System.DateTime`). -/
  | qualified (left right : TypeExpr)
  /-- A name behind an alias (`global::System`). -/
  | aliased (label : String) (name : TypeExpr)
  /-- An array with `rank` dimensions (`int[,]`). -/
  | array (element : TypeExpr) (rank : Nat)
  /-- A nullable type (`int?`). -/
  | nullable (inner : TypeExpr)
deriving Repr, Inhabited

namespace TypeExpr

/-! ### Equality -/

mutual

/-- Decides whether two type expressions are equal. -/
def decEq : (first second : TypeExpr) → Decidable (first = second)
  | keyword a, keyword b => decidable_of_iff (a = b) (by simp)
  | simple a, simple b => decidable_of_iff (a = b) (by simp)
  | generic a as, generic b bs =>
    have := decEqList as bs
    decidable_of_iff (a = b ∧ as = bs) (by simp)
  | qualified a b, qualified c d =>
    have := decEq a c
    have := decEq b d
    decidable_of_iff (a = c ∧ b = d) (by simp)
  | aliased a b, aliased c d =>
    have := decEq b d
    decidable_of_iff (a = c ∧ b = d) (by simp)
  | array a m, array b n =>
    have := decEq a b
    decidable_of_iff (a = b ∧ m = n) (by simp)
  | nullable a, nullable b =>
    have := decEq a b
    decidable_of_iff (a = b) (by simp)
  | keyword _, simple _ | keyword _, generic _ _ | keyword _, qualified _ _
  | keyword _, aliased _ _ | keyword _, array _ _ | keyword _, nullable _
  | simple _, keyword _ | simple _, generic _ _ | simple _, qualified _ _
  | simple _, aliased _ _ | simple _, array _ _ | simple _, nullable _
  | generic _ _, keyword _ | generic _ _, simple _ | generic _ _, qualified _ _
  | generic _ _, aliased _ _ | generic _ _, array _ _ | generic _ _, nullable _
  | qualified _ _, keyword _ | qualified _ _, simple _ | qualified _ _, generic _ _
  | qualified _ _, aliased _ _ | qualified _ _, array _ _ | qualified _ _, nullable _
  | aliased _ _, keyword _ | aliased _ _, simple _ | aliased _ _, generic _ _
  | aliased _ _, qualified _ _ | aliased _ _, array _ _ | aliased _ _, nullable _
  | array _ _, keyword _ | array _ _, simple _ | array _ _, generic _ _
  | array _ _, qualified _ _ | array _ _, aliased _ _ | array _ _, nullable _
  | nullable _, keyword _ | nullable _, simple _ | nullable _, generic _ _
  | nullable _, qualified _ _ | nullable _, aliased _ _ | nullable _, array _ _ =>
    isFalse (by simp)

/-- Decides whether two lists of type expressions are equal. -/
def decEqList : (first second : List TypeExpr) → Decidable (first = second)
  | [], [] => isTrue rfl
  | a :: as, b :: bs =>
    have := decEq a b
    have := decEqList as bs
    decidable_of_iff (a = b ∧ as = bs) (by simp)
  | [], _ :: _ | _ :: _, [] => isFalse (by simp)

end

instance : DecidableEq TypeExpr := decEq

/-! ### Normal form -/

/-- The suffix of an array type: `[` and `]` around one comma less than there are dimensions. -/
def rankSuffix (rank : Nat) : String := "[" ++ "".pushn ',' (rank - 1) ++ "]"

mutual

/-- The normal form of a type expression. -/
def render : TypeExpr → String
  | keyword word => word
  | simple identifier => identifier
  | generic identifier arguments => identifier ++ "<" ++ renderArguments arguments ++ ">"
  | qualified left right => render left ++ "." ++ render right
  | aliased label name => label ++ "::" ++ render name
  | array element rank => render element ++ rankSuffix rank
  | nullable inner => render inner ++ "?"

/-- The normal forms of the arguments of a generic name, joined by a comma and a space. -/
def renderArguments : List TypeExpr → String
  | [] => ""
  | [last] => render last
  | first :: rest => render first ++ ", " ++ renderArguments rest

end

/-! ### Height -/

mutual

/-- The height of a type expression. A keyword and a simple name are of height one, and every
argument list, alias, qualifier and suffix adds one to the highest part it joins. -/
def height : TypeExpr → Nat
  | keyword _ | simple _ => 1
  | generic _ arguments => heightOfAll arguments + 1
  | qualified left right => max (height left) (height right) + 1
  | aliased _ name => height name + 1
  | array element _ => height element + 1
  | nullable inner => height inner + 1

/-- The greatest height in a list of type expressions. -/
def heightOfAll : List TypeExpr → Nat
  | [] => 0
  | first :: rest => max (height first) (heightOfAll rest)

end

end TypeExpr

end HubRelay
