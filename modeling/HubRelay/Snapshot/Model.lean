import HubRelay.Snapshot.Index
import HubRelay.TypeExpr.Parser

/-!
# Accepted snapshots

A snapshot is accepted when each namespace that is declared or imported can be read as a type
expression, and no two declarations have the same key. Declarations are examined in order; of each
one first the namespaces and then the key. `checkAll_eq_ok_iff` says that this examination passes
just the snapshots that are `Accepted`, so a `Model` carries that fact. A model answers which
declaration has a key.
-/

set_option autoImplicit false

namespace HubRelay

/-- Why a snapshot is not accepted. -/
inductive SnapshotError
  /-- A namespace that is no type expression. -/
  | invalidNamespace (container : String) (reason : TypeExpr.SyntaxError)
  /-- A second declaration with the same key, by its full name. -/
  | duplicateType (fullName : String)
deriving DecidableEq, Repr

/-- The wording of an error. -/
def SnapshotError.message : SnapshotError → String
  | invalidNamespace container reason =>
    "invalid namespace `" ++ container ++ "`: " ++ reason.message
  | duplicateType fullName => "type `" ++ fullName ++ "` is declared more than once"

/-! ### Acceptance -/

/-- Whether a text can be a namespace: the global one, or a type expression. -/
def IsNamespace (container : String) : Prop :=
  container = "" ∨ ∃ t, TypeExpr.parse container = .ok t

/-- What an accepted snapshot is known to be. -/
structure Snapshot.Accepted (s : Snapshot) : Prop where
  /-- Every declared and every imported namespace can be read. -/
  namespaces : ∀ d ∈ s.types, ∀ container ∈ d.namespaces, IsNamespace container
  /-- No two declarations have the same key. -/
  keys : (s.types.map TypeDecl.key).Nodup

/-- An accepted snapshot. -/
structure Model where
  snapshot : Snapshot
  accepted : snapshot.Accepted
  /-- The declarations by their keys. -/
  index : Index
  index_eq : index = Index.ofList snapshot.declarations

namespace Model

/-- Examines a namespace. The empty one is the global namespace. -/
def checkNamespace (container : String) : Except SnapshotError Unit :=
  if container.isEmpty then .ok ()
  else
    match TypeExpr.parse container with
    | .ok _ => .ok ()
    | .error reason => .error (.invalidNamespace container reason)

/-- Examines namespaces in order. -/
def checkNamespaces : List String → Except SnapshotError Unit
  | [] => .ok ()
  | container :: rest => do
    checkNamespace container
    checkNamespaces rest

/-- Examines declarations in order, after declarations with the given keys. -/
def checkAll (seen : List (String × String × Nat)) : List TypeDecl → Except SnapshotError Unit
  | [] => .ok ()
  | d :: rest => do
    checkNamespaces d.namespaces
    if d.key ∈ seen then .error (.duplicateType d.fullName) else checkAll (d.key :: seen) rest

/-- A namespace passes when it is one. -/
theorem checkNamespace_eq_ok_iff {container : String} :
    checkNamespace container = .ok () ↔ IsNamespace container := by
  unfold checkNamespace IsNamespace
  by_cases h : container = ""
  · simp [h]
  · cases hp : TypeExpr.parse container <;> simp [h]

/-- Namespaces pass when each of them is one. -/
theorem checkNamespaces_eq_ok_iff {containers : List String} :
    checkNamespaces containers = .ok () ↔ ∀ container ∈ containers, IsNamespace container := by
  induction containers with
  | nil => simp [checkNamespaces]
  | cons container rest ih =>
    rw [List.forall_mem_cons, ← ih, ← checkNamespace_eq_ok_iff, checkNamespaces]
    cases hc : checkNamespace container <;> simp [bind, Except.bind]

/-- Declarations pass when their namespaces do, and their keys differ from each other and from those
seen before. -/
theorem checkAll_eq_ok_iff {seen : List (String × String × Nat)} {declarations : List TypeDecl} :
    checkAll seen declarations = .ok () ↔
      (∀ d ∈ declarations, ∀ container ∈ d.namespaces, IsNamespace container) ∧
        (declarations.map TypeDecl.key).Nodup ∧ ∀ d ∈ declarations, d.key ∉ seen := by
  induction declarations generalizing seen with
  | nil => simp [checkAll]
  | cons d rest ih =>
    rw [checkAll, List.forall_mem_cons, List.map_cons, List.nodup_cons, List.forall_mem_cons,
      ← checkNamespaces_eq_ok_iff]
    cases hc : checkNamespaces d.namespaces with
    | error reason => simp [bind, Except.bind]
    | ok checked =>
      by_cases hs : d.key ∈ seen
      · simp [bind, Except.bind, hs]
      · have hd : (∀ e ∈ rest, e.key ∉ d.key :: seen) ↔
            d.key ∉ rest.map TypeDecl.key ∧ ∀ e ∈ rest, e.key ∉ seen := by
          simp only [List.mem_cons, not_or, List.mem_map, not_exists, not_and]
          exact ⟨fun h ↦ ⟨fun e he ↦ (h e he).1, fun e he ↦ (h e he).2⟩,
            fun h e he ↦ ⟨h.1 e he, h.2 e he⟩⟩
        simp only [bind, Except.bind, hs, if_false, ih, hd]
        constructor
        · rintro ⟨hr, hk, hm, ho⟩
          exact ⟨⟨trivial, hr⟩, ⟨hm, hk⟩, id, ho⟩
        · rintro ⟨⟨_, hr⟩, ⟨hm, hk⟩, _, ho⟩
          exact ⟨hr, hk, hm, ho⟩

/-- Accepts a snapshot, or says what is wrong with it. -/
def ofSnapshot (s : Snapshot) : Except SnapshotError Model :=
  match h : checkAll [] s.types with
  | .ok () =>
    .ok
      { snapshot := s
        accepted := ⟨(checkAll_eq_ok_iff.1 h).1, (checkAll_eq_ok_iff.1 h).2.1⟩
        index := Index.ofList s.declarations
        index_eq := rfl }
  | .error reason => .error reason

/-- The declarations of the snapshot, in order. -/
def candidates (m : Model) : List TypeDecl := m.snapshot.types

/-- The declaration with a key, and the assembly that contains it. -/
def lookup (m : Model) (container name : String) (arity : Nat) : Option (String × TypeDecl) :=
  m.index[(container, name, arity)]?

/-- The declaration with a key is the first one of the snapshot that has it. -/
theorem lookup_eq_find? (m : Model) (container name : String) (arity : Nat) :
    m.lookup container name arity =
      m.snapshot.declarations.find? fun entry ↦ entry.2.key == (container, name, arity) := by
  rw [lookup, m.index_eq, Index.getElem?_ofList]

end Model

end HubRelay
