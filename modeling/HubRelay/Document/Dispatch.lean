/-!
# Delivery targets

A message can be delivered to nine kinds of targets, and every message record has one method for
each of them. A target is selected by a member of the hub's clients, some of which take arguments.
-/

set_option autoImplicit false

namespace HubRelay

/-- Whom a message is delivered to. -/
inductive Target
  | all
  | allExcept
  | client
  | clients
  | group
  | groups
  | groupExcept
  | user
  | users
deriving DecidableEq, Repr

namespace Target

/-- Every target, in the order of the document. -/
def every : List Target :=
  [all, allExcept, client, clients, group, groups, groupExcept, user, users]

/-- The member of the hub's clients that selects the target. -/
def member : Target → String
  | all => "All"
  | allExcept => "AllExcept"
  | client => "Client"
  | clients => "Clients"
  | group => "Group"
  | groups => "Groups"
  | groupExcept => "GroupExcept"
  | user => "User"
  | users => "Users"

/-- The name of the method that delivers to the target. -/
def methodName (t : Target) : String := "CallOn" ++ t.member

/-- The type of lists of names. -/
def nameList : String := "global::System.Collections.Generic.IReadOnlyList<string>"

/-- The parameters that select the target, each with its type. -/
def parameters : Target → List (String × String)
  | all => []
  | allExcept => [(nameList, "excludedConnectionIds")]
  | client => [("string", "connectionId")]
  | clients => [(nameList, "connectionIds")]
  | group => [("string", "groupName")]
  | groups => [(nameList, "groupNames")]
  | groupExcept => [("string", "groupName"), (nameList, "excludedConnectionIds")]
  | user => [("string", "userId")]
  | users => [(nameList, "userIds")]

/-- The expression that selects the target. -/
def address (t : Target) : String :=
  if t.parameters.isEmpty then t.member
  else t.member ++ "(" ++ ", ".intercalate (t.parameters.map (·.2)) ++ ")"

/-- No target is missing from the list. -/
theorem mem_every (t : Target) : t ∈ every := by cases t <;> decide

end Target

end HubRelay
