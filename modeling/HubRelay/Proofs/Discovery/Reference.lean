import HubRelay.Discovery.Extraction
import HubRelay.Proofs.Steps

/-!
# References of views

The reference to a viewed type is made while counting how deep its type arguments nest. Without the
count it is `TypeView.reference`: a named type gives its name with the references of its arguments,
and an array gives the reference of its elements with a suffix. The count is a property of the
reference as well, `TypeRef.depth`, since an array suffix does not change the arguments. So a view
has a reference just when the nesting of that reference is within the limit (`typeRef_eq_ok_iff`),
and views with the same reference are refused together.
-/

set_option autoImplicit false

namespace HubRelay

/-! ### The nesting of a reference -/

namespace TypeRef

mutual

/-- How deep type arguments nest in a reference. -/
def depth : TypeRef → Nat
  | ⟨_, _, arguments⟩ => depthOfAll arguments

/-- How deep references nest as the type arguments of another. -/
def depthOfAll : List TypeRef → Nat
  | [] => 0
  | first :: rest => max (depth first + 1) (depthOfAll rest)

end

@[simp] theorem depth_arrayOf (r : TypeRef) (rank : Nat) : (r.arrayOf rank).depth = r.depth := by
  obtain ⟨container, name, arguments⟩ := r
  rw [arrayOf, depth, depth]

end TypeRef

/-! ### The reference of a view -/

namespace TypeView

mutual

/-- The reference of a view, however deep it nests. -/
def reference : TypeView → TypeRef
  | named _ container name arguments => ⟨container, name, referenceAll arguments⟩
  | array _ element rank => (reference element).arrayOf rank

/-- The references of views, in order. -/
def referenceAll : List TypeView → List TypeRef
  | [] => []
  | first :: rest => reference first :: referenceAll rest

end

mutual

/-- At a depth, a view has its reference when the nesting of the reference keeps within the limit
from there on. -/
theorem typeRefAt_eq_ok_iff (depth : Nat) : ∀ (view : TypeView) (r : TypeRef),
    view.typeRefAt depth = .ok r ↔ view.reference = r ∧ depth + r.depth ≤ maxArgumentDepth
  | named display container name arguments, r => by
    rw [typeRefAt, reference, guarded_eq_ok_iff, bind_eq_ok_iff, Nat.not_lt]
    constructor
    · rintro ⟨hdepth, references, hreferences, hr⟩
      obtain ⟨rfl, hall⟩ := (argumentsAt_eq_ok_iff hdepth display arguments _).mp hreferences
      obtain rfl := Except.ok.inj hr
      rw [TypeRef.depth]
      exact ⟨rfl, hall⟩
    · rintro ⟨rfl, hall⟩
      rw [TypeRef.depth] at hall
      have hdepth := Nat.le_trans (Nat.le_add_right _ _) hall
      exact ⟨hdepth, _, (argumentsAt_eq_ok_iff hdepth display arguments _).mpr ⟨rfl, hall⟩, rfl⟩
  | array display element rank, r => by
    have helement := typeRefAt_eq_ok_iff depth element
    rw [typeRefAt, reference, guarded_eq_ok_iff, bind_eq_ok_iff, Nat.not_lt]
    constructor
    · rintro ⟨-, inner, hinner, hr⟩
      obtain ⟨rfl, hall⟩ := (helement inner).mp hinner
      obtain rfl := Except.ok.inj hr
      rw [TypeRef.depth_arrayOf]
      exact ⟨rfl, hall⟩
    · rintro ⟨rfl, hall⟩
      rw [TypeRef.depth_arrayOf] at hall
      have hdepth := Nat.le_trans (Nat.le_add_right _ _) hall
      exact ⟨hdepth, _, (helement _).mpr ⟨rfl, hall⟩, rfl⟩

/-- Assumes: a depth within the limit. The type arguments of a type at this depth have their
references when the nesting of these keeps within the limit. -/
theorem argumentsAt_eq_ok_iff {depth : Nat} (hdepth : depth ≤ maxArgumentDepth)
    (enclosing : String) : ∀ (views : List TypeView) (references : List TypeRef),
    argumentsAt (depth + 1) enclosing views = .ok references ↔
      referenceAll views = references ∧ depth + TypeRef.depthOfAll references ≤ maxArgumentDepth
  | [], references => by
    rw [argumentsAt, referenceAll]
    constructor
    · intro h
      obtain rfl := Except.ok.inj h
      exact ⟨rfl, hdepth⟩
    · rintro ⟨rfl, -⟩
      rfl
  | first :: rest, references => by
    have hfirst := typeRefAt_eq_ok_iff (depth + 1) first
    have hrest := argumentsAt_eq_ok_iff hdepth enclosing rest
    have hmax (head : TypeRef) (tail : List TypeRef) :
        depth + TypeRef.depthOfAll (head :: tail) ≤ maxArgumentDepth ↔
          depth + 1 + head.depth ≤ maxArgumentDepth ∧
            depth + TypeRef.depthOfAll tail ≤ maxArgumentDepth := by
      rw [TypeRef.depthOfAll]
      omega
    rw [argumentsAt, referenceAll, bind_eq_ok_iff]
    constructor
    · rintro ⟨head, hhead, hnext⟩
      obtain ⟨tail, htail, hall⟩ := bind_eq_ok_iff.mp hnext
      obtain ⟨rfl, hdeep⟩ := (hfirst head).mp (mapError_eq_ok_iff.mp hhead)
      obtain ⟨rfl, hdeeper⟩ := (hrest tail).mp htail
      obtain rfl := Except.ok.inj hall
      exact ⟨rfl, (hmax _ _).mpr ⟨hdeep, hdeeper⟩⟩
    · rintro ⟨rfl, hall⟩
      obtain ⟨hdeep, hdeeper⟩ := (hmax _ _).mp hall
      refine ⟨first.reference, mapError_eq_ok_iff.mpr ((hfirst _).mpr ⟨rfl, hdeep⟩), ?_⟩
      exact bind_eq_ok_iff.mpr ⟨referenceAll rest, (hrest _).mpr ⟨rfl, hdeeper⟩, rfl⟩

end

/-- A view has a reference when the nesting of its type arguments is within the limit. -/
theorem typeRef_eq_ok_iff {view : TypeView} {r : TypeRef} :
    view.typeRef = .ok r ↔ view.reference = r ∧ r.depth ≤ maxArgumentDepth := by
  rw [typeRef, typeRefAt_eq_ok_iff, Nat.zero_add]

end TypeView

end HubRelay
