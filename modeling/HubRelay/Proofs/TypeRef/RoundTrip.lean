import HubRelay.Proofs.Discovery.Reference
import HubRelay.Proofs.Json.Produced
import HubRelay.Proofs.Json.ReadBack
import HubRelay.TypeRef.Json

/-!
# References read back

In JSON a reference takes one level of nesting for its record and, if it has type arguments, one more
for their array, before those of the arguments begin. So references that nest `d` deep take `2 * d + 1`
levels. A reader that may enter fewer produces no such reference (`TypeRef.depth_lt_of_produces`), and
one that may enter as many reads it back from what it is written as (`TypeRef.decodes`). The arguments
are not written when there are none, and the array that is left out is not counted either way.
-/

set_option autoImplicit false

namespace HubRelay

/-! ### Levels that are used up -/

namespace Json

variable {α : Type}

theorem not_produces_enter_zero : ¬ Produces (enter 0) () := by
  rintro ⟨cs, rest, hrun⟩
  cases hrun

/-- A reader that may enter nothing produces no record. -/
theorem not_produces_record_zero {types : List Type} {name : String} {closed : Bool}
    {fields : Fields types} {values : Values types} :
    ¬ Produces (record 0 name closed fields) values := by
  refine not_produces_bind peek fun next h ↦ ?_
  split at h
  · exact not_produces_enter_zero h.of_bind.choose_spec.1
  · exact not_produces_enter_zero h.of_bind.choose_spec.1
  · exact not_produces_wrongType _ _ h

/-- A reader that may enter nothing produces no list. -/
theorem not_produces_list_zero {item : Reader α} {values : List α} :
    ¬ Produces (list 0 item) values := by
  refine not_produces_bind peek fun next h ↦ ?_
  split at h
  · exact not_produces_enter_zero h.of_bind.choose_spec.1
  · exact not_produces_wrongType _ _ h

end Json

namespace TypeRef

/-- References nest no deeper as type arguments than a bound when each of them nests less deep. -/
theorem depthOfAll_le_iff {references : List TypeRef} {bound : Nat} :
    depthOfAll references ≤ bound ↔ ∀ r ∈ references, r.depth < bound := by
  induction references with
  | nil => exact iff_of_true (Nat.zero_le _) (List.forall_mem_nil _)
  | cons first rest ih => rw [depthOfAll, List.forall_mem_cons, ← ih, Nat.max_le, Nat.succ_le_iff]

/-! ### What is read -/

mutual

/-- What is read nests no deeper than the levels of the reader allow. -/
theorem depth_lt_of_produces : ∀ {levels : Nat} {r : TypeRef},
    Json.Produces (ofJson levels) r → 2 * r.depth < levels
  | 0, r, h => by
    obtain ⟨values, hvalues, -⟩ := Json.Produces.of_bind h
    exact absurd hvalues Json.not_produces_record_zero
  | levels + 1, r, h => by
    obtain ⟨⟨container, name, arguments, ⟨⟩⟩, hvalues, h⟩ := Json.Produces.of_bind h
    obtain ⟨-, -, harguments, -⟩ := hvalues.of_record
    rw [h.eq_of_pure, depth]
    rcases harguments with harguments | hdefault
    · exact depthOfAll_lt_of_produces harguments
    · obtain rfl := Option.some.inj hdefault
      exact Nat.succ_pos levels

/-- The type arguments that are read nest no deeper than the levels of the reader allow. -/
theorem depthOfAll_lt_of_produces : ∀ {levels : Nat} {references : List TypeRef},
    Json.Produces (argumentsOfJson levels) references →
      2 * depthOfAll references < levels + 1
  | 0, references, h => absurd h Json.not_produces_list_zero
  | levels + 1, references, h => by
    have hall : ∀ r ∈ references, 2 * r.depth < levels := fun r hr ↦
      depth_lt_of_produces (Json.Produces.of_list h r hr)
    have hdepth : depthOfAll references ≤ (levels + 1) / 2 :=
      depthOfAll_le_iff.mpr fun r hr ↦ by have := hall r hr; omega
    omega

end

/-! ### What is read back -/

theorem nodup_names_fields (arguments : Json.Reader (List TypeRef)) :
    (fields arguments).names.Nodup := by
  show ["namespace", "name", "type_arguments"].Nodup
  decide

theorem listToJson_eq_map (references : List TypeRef) :
    listToJson references = references.map toJson := by
  induction references with
  | nil => rfl
  | cons first rest ih => rw [listToJson, ih, List.map_cons]

mutual

/-- A reference is read back if the reader may enter the levels that it takes. -/
theorem decodes : ∀ {levels : Nat} {r : TypeRef}, 2 * r.depth < levels →
    Json.Decodes (ofJson levels) r.toJson r
  | 0, _, h => absurd h (Nat.not_lt_zero _)
  | levels + 1, ⟨container, name, arguments⟩, h => by
    rw [depth] at h
    refine .bind (container, name, arguments, ())
      (Json.decodes_record_of_awaits (nodup_names_fields _) (Nat.succ_pos levels) ?_) rfl
    refine .inl ⟨_, _, rfl, Json.decodes_string container, ?_⟩
    refine .inl ⟨_, _, rfl, Json.decodes_string name, ?_⟩
    cases arguments with
    | nil => exact .inr ⟨rfl, rfl⟩
    | cons first rest =>
      exact .inl ⟨_, _, rfl, decodes_arguments (List.cons_ne_nil first rest) h, rfl⟩

/-- Type arguments are read back if there are any and the reader may enter the levels they take. -/
theorem decodes_arguments : ∀ {levels : Nat} {references : List TypeRef}, references ≠ [] →
    2 * depthOfAll references < levels + 1 →
      Json.Decodes (argumentsOfJson levels) (.array (listToJson references)) references
  | 0, references, hne, h => by
    obtain ⟨first, rest, rfl⟩ := List.exists_cons_of_ne_nil hne
    rw [depthOfAll] at h
    omega
  | levels + 1, references, hne, h => by
    have hall : ∀ r ∈ references, r.depth < (levels + 1) / 2 := depthOfAll_le_iff.mp (by omega)
    rw [listToJson_eq_map]
    exact Json.decodes_list (Nat.succ_pos levels) (Json.forall₂_map_decodes fun r hr ↦
      decodes (by have := hall r hr; omega))

end

end TypeRef

end HubRelay
