import HubRelay.TypeExpr.Basic

/-!
# Name paths

Resolution looks at a dotted name as a path: the alias in front, the identifiers that qualify it,
and the named segment at its right end with its type arguments. `TypeExpr.path?` gives the path of
every name; keywords, arrays and nullable types have none. Type arguments of the qualifying
segments are not part of the path.
-/

set_option autoImplicit false

namespace HubRelay

namespace TypeExpr

/-- The right-most simple or generic name of a qualified name; any other expression itself. -/
def rightmost : TypeExpr → TypeExpr
  | qualified _ right => right
  | aliased _ name => name
  | other => other

/-- Whether the right-most name is generic with the given identifier. -/
def isGenericNamed (identifier : String) (t : TypeExpr) : Bool :=
  match t.rightmost with
  | generic found _ => found == identifier
  | _ => false

/-- The alias in front of a name, and its identifiers from left to right. -/
def segments? : TypeExpr → Option (Option String × List String)
  | simple identifier => some (none, [identifier])
  | generic identifier _ => some (none, [identifier])
  | aliased label name => (segments? name).map fun (_, identifiers) ↦ (some label, identifiers)
  | qualified left right =>
    match segments? left, segments? right with
    | some (label, before), some (_, after) => some (label, before ++ after)
    | _, _ => none
  | keyword _ | array _ _ | nullable _ => none

/-- A name split into its qualifier and the named segment. -/
structure Path where
  /-- The alias qualifier (`global`), if one is written. -/
  label : Option String
  /-- The qualifying identifiers, outermost first. -/
  qualifiers : List String
  /-- The identifier of the named segment. -/
  identifier : String
  /-- The type arguments of the named segment. -/
  arguments : List TypeExpr
deriving DecidableEq

namespace Path

/-- Whether the name was written with any qualifier. -/
def isQualified (p : Path) : Bool := p.label.isSome || !p.qualifiers.isEmpty

/-- The qualifier, joined by dots. -/
def qualifier (p : Path) : String := ".".intercalate p.qualifiers

end Path

/-- The path of a simple, generic or qualified name. -/
def path? (t : TypeExpr) : Option Path :=
  match t.segments?, t.rightmost with
  | some (label, identifiers), simple identifier =>
    some ⟨label, identifiers.dropLast, identifier, []⟩
  | some (label, identifiers), generic identifier arguments =>
    some ⟨label, identifiers.dropLast, identifier, arguments⟩
  | _, _ => none

end TypeExpr

end HubRelay
