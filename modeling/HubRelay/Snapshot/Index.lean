import HubRelay.Snapshot.Basic
import Std.Data.HashMap

/-!
# An index of declarations

A type is looked up by its key for every name that is resolved. An `Index` answers without going
through all declarations, and `getElem?_ofList` says that its answer is the first declaration that
has the key.
-/

set_option autoImplicit false

namespace HubRelay

/-- Declarations by their keys, each with the name of its assembly. -/
abbrev Index := Std.HashMap (String × String × Nat) (String × TypeDecl)

namespace Index

/-- Adds a declaration, unless there is one with the same key. -/
def add (index : Index) (entry : String × TypeDecl) : Index :=
  index.insertIfNew entry.2.key entry

/-- The index of declarations. -/
def ofList (entries : List (String × TypeDecl)) : Index := entries.foldl add ∅

/-- What an index answers after declarations have been added: what it answered before, or else the
first of them that has the key. -/
theorem getElem?_foldl_add (entries : List (String × TypeDecl)) (index : Index)
    (key : String × String × Nat) :
    (entries.foldl add index)[key]? =
      index[key]?.or (entries.find? fun entry ↦ entry.2.key == key) := by
  induction entries generalizing index with
  | nil => simp
  | cons entry rest ih =>
    rw [List.foldl_cons, ih, add, Std.HashMap.getElem?_insertIfNew, List.find?_cons]
    by_cases hk : entry.2.key = key
    · cases hi : index[key]? with
      | none =>
        have hm : key ∉ index := by rw [Std.HashMap.mem_iff_isSome_getElem?, hi]; simp
        simp [hk, hm]
      | some found =>
        have hm : key ∈ index := by rw [Std.HashMap.mem_iff_isSome_getElem?, hi]; rfl
        simp [hk, hm]
    · have hb : (entry.2.key == key) = false := beq_false_of_ne hk
      simp [hb]

/-- An index answers with the first declaration that has the key. -/
theorem getElem?_ofList (entries : List (String × TypeDecl)) (key : String × String × Nat) :
    (ofList entries)[key]? = entries.find? fun entry ↦ entry.2.key == key := by
  rw [ofList, getElem?_foldl_add]
  simp

end Index

end HubRelay
