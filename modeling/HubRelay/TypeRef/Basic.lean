/-!
# References to types

A resolved reference to a named type: its namespace, its name and the references that are its type
arguments. The dimensions of an array type are kept at the end of the name, so that `String[]` and
`String` are different types. References are ordered by namespace, then by name, then by arguments.
-/

set_option autoImplicit false

namespace HubRelay

/-- A reference to a named type. -/
structure TypeRef where
  /-- The dotted namespace, empty for the global one. -/
  container : String
  /-- The name, with the array suffixes after it. -/
  name : String
  /-- The type arguments, in order. -/
  arguments : List TypeRef
deriving Repr, Inhabited

namespace TypeRef

/-! ### Equality and order -/

mutual

/-- Decides whether two references are equal. -/
def decEq : (first second : TypeRef) → Decidable (first = second)
  | ⟨container, name, arguments⟩, ⟨container', name', arguments'⟩ =>
    have := decEqList arguments arguments'
    decidable_of_iff (container = container' ∧ name = name' ∧ arguments = arguments') (by simp)

/-- Decides whether two lists of references are equal. -/
def decEqList : (first second : List TypeRef) → Decidable (first = second)
  | [], [] => isTrue rfl
  | a :: as, b :: bs =>
    have := decEq a b
    have := decEqList as bs
    decidable_of_iff (a = b ∧ as = bs) (by simp)
  | [], _ :: _ | _ :: _, [] => isFalse (by simp)

end

instance : DecidableEq TypeRef := decEq

mutual

/-- Compares two references. -/
def order : (first second : TypeRef) → Ordering
  | ⟨container, name, arguments⟩, ⟨container', name', arguments'⟩ =>
    ((compare container container').then (compare name name')).then
      (orderLists arguments arguments')

/-- Compares two lists of references, the first difference deciding. -/
def orderLists : (first second : List TypeRef) → Ordering
  | [], [] => .eq
  | [], _ :: _ => .lt
  | _ :: _, [] => .gt
  | a :: as, b :: bs => (order a b).then (orderLists as bs)

end

/-! ### Queries -/

/-- A reference without type arguments. -/
def plain (container name : String) : TypeRef := ⟨container, name, []⟩

/-- Whether the reference has type arguments. -/
def isGeneric (t : TypeRef) : Bool := !t.arguments.isEmpty

/-- Whether this is exactly the named type, without type arguments. -/
def isPlain (t : TypeRef) (container name : String) : Bool :=
  t.container == container && t.name == name && t.arguments.isEmpty

/-- Whether this is the type of methods that return nothing. -/
def isVoid (t : TypeRef) : Bool := t.isPlain "System" "Void"

/-- The array type with elements of type `t` and `rank` dimensions. -/
def arrayOf (t : TypeRef) (rank : Nat) : TypeRef :=
  { t with name := t.name ++ "[" ++ "".pushn ',' (rank - 1) ++ "]" }

end TypeRef

end HubRelay
