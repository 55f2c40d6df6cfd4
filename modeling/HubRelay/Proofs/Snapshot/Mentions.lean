import HubRelay.Proofs.Snapshot.LookupOrder

/-!
# Names that a type mentions

A type is resolved by looking up the names in it, in one namespace after another, and by looking up
types of the namespace `System` for keywords and nullable types. So two models resolve a type to the
same symbol when they find the same for each name and number of type arguments that the type
mentions, whatever the namespace, and the same in the namespace `System`
(`Model.resolve_eq_of_mentions`). The type arguments of qualifying segments are not looked up, so
they are not mentioned.
-/

set_option autoImplicit false

namespace HubRelay

namespace TypeExpr

mutual

/-- The names in a type that are looked up, at any depth: each by its right-most identifier without
leading `@`, and its number of type arguments. -/
def mentions : TypeExpr → List (String × Nat)
  | keyword _ => []
  | simple identifier => [(Model.withoutAt identifier, 0)]
  | generic identifier arguments =>
    (Model.withoutAt identifier, arguments.length) :: mentionsInAll arguments
  | qualified _ right => mentions right
  | aliased _ name => mentions name
  | array element _ => mentions element
  | nullable inner => mentions inner

/-- The names in types that are looked up. -/
def mentionsInAll : List TypeExpr → List (String × Nat)
  | [] => []
  | first :: rest => mentions first ++ mentionsInAll rest

end

/-- What an argument mentions is mentioned in the arguments. -/
theorem mentions_subset_mentionsInAll {arguments : List TypeExpr} {argument : TypeExpr}
    (h : argument ∈ arguments) : argument.mentions ⊆ mentionsInAll arguments := by
  induction arguments with
  | nil => exact absurd h List.not_mem_nil
  | cons first rest ih =>
    rw [mentionsInAll]
    rcases List.mem_cons.mp h with rfl | hrest
    · exact List.subset_append_left _ _
    · exact List.Subset.trans (ih hrest) (List.subset_append_right _ _)

/-- The names in a name are those in its last segment. -/
theorem mentions_rightmost (t : TypeExpr) : t.rightmost.mentions = t.mentions := by
  cases t <;> simp only [rightmost, mentions]

/-- A name mentions itself. -/
theorem HasPath.mem_mentions {t : TypeExpr} {path : Path} (h : HasPath t path) :
    (path.name, path.arguments.length) ∈ t.mentions := by
  rw [← mentions_rightmost, h.rightmost_eq, segmentOf]
  split
  · next hempty =>
    rw [hempty, mentions]
    exact List.mem_singleton_self _
  · rw [mentions]
    exact List.mem_cons_self

end TypeExpr

namespace Model

variable {m m' : Model} {scope : TypeDecl}

open TypeExpr (IsType IsName IsSegment)

/-- Two models find the same type with a name and a number of type parameters, whatever the
namespace. -/
def FindSame (m m' : Model) (name : String) (arity : Nat) : Prop :=
  ∀ container, m'.lookup container name arity = m.lookup container name arity

theorem named_congr {container name : String} {arguments : List Symbol}
    (h : m'.lookup container name arguments.length = m.lookup container name arguments.length) :
    m'.named container name arguments = m.named container name arguments := by
  unfold named
  rw [h]

/-- Assumes: models that find the same for the name of a path. They resolve it to the same symbol.
-/
theorem resolvePath_eq_of_findSame {path : TypeExpr.Path} {arguments : List Symbol}
    (h : FindSame m m' path.name arguments.length) :
    m'.resolvePath scope path arguments = m.resolvePath scope path arguments := by
  have hlookup : (fun container ↦ m'.lookup container path.name arguments.length) =
      fun container ↦ m.lookup container path.name arguments.length := funext h
  unfold resolvePath
  rw [TypeExpr.Path.name] at hlookup
  dsimp only
  rw [hlookup]

section SystemTypes

set_option linter.unusedSectionVars false

variable (hsystem : ∀ name arity, m'.lookup Keyword.systemNamespace name arity =
  m.lookup Keyword.systemNamespace name arity)
include hsystem

mutual

/-- Assumes: models that find the same in the namespace `System`, and for every name that the type
mentions. They resolve it to the same symbol. -/
theorem resolve_eq_of_mentions {t : TypeExpr} :
    IsType t → (∀ mention ∈ t.mentions, FindSame m m' mention.1 mention.2) →
      m'.resolve scope t = m.resolve scope t
  | .keyword hword, _ => by
    rw [resolve, resolve, named_congr (hsystem _ _)]
  | .name ht, h => by
    obtain ⟨path, hpath⟩ := TypeExpr.exists_hasPath ht
    -- The path forgets that its arguments are types of the grammar, so they are compared before.
    have harguments := resolveArguments_rightmost_eq ht h
    rw [hpath.rightmost_eq, resolveArguments_segmentOf, resolveArguments_segmentOf] at harguments
    rw [resolve_of_hasPath hpath, resolve_of_hasPath hpath, harguments]
    refine resolvePath_eq_of_findSame ?_
    rw [List.length_map]
    exact h _ hpath.mem_mentions
  | .array helement hrank, h => by
    rw [resolve, resolve, resolve_eq_of_mentions helement h]
  | .nullable hinner, h => by
    rw [resolve, resolve, resolve_eq_of_mentions hinner h, named_congr (hsystem _ _)]

/-- The type arguments at the right end of a name are resolved to the same symbols. -/
theorem resolveArguments_rightmost_eq {t : TypeExpr} :
    IsName t → (∀ mention ∈ t.mentions, FindSame m m' mention.1 mention.2) →
      m'.resolveArguments scope t.rightmost = m.resolveArguments scope t.rightmost
  | .first hkeyword ht, h => by
    rw [TypeExpr.rightmost_of_isSegment ht]
    exact resolveArguments_eq ht h
  | .aliased hlabel hkeyword hname, h => resolveArguments_eq hname h
  | .qualified hleft hright, h => resolveArguments_eq hright h

/-- The type arguments of a segment are resolved to the same symbols. -/
theorem resolveArguments_eq {identifier : String} {t : TypeExpr} :
    IsSegment identifier t → (∀ mention ∈ t.mentions, FindSame m m' mention.1 mention.2) →
      m'.resolveArguments scope t = m.resolveArguments scope t
  | .simple hidentifier, _ => by simp only [resolveArguments]
  | .generic hidentifier hne harguments, h => by
    rw [resolveArguments, resolveArguments, resolveAll_eq_map, resolveAll_eq_map]
    refine List.map_congr_left fun argument hargument ↦ ?_
    refine resolve_eq_of_mentions (harguments argument hargument) fun mention hmention ↦ ?_
    refine h mention ?_
    rw [TypeExpr.mentions]
    exact List.mem_cons_of_mem _ (TypeExpr.mentions_subset_mentionsInAll hargument hmention)

end

end SystemTypes

end Model

end HubRelay
