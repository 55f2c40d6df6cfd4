import HubRelay.Proofs.Document.FieldNames
import HubRelay.Proofs.Document.Forwarding
import HubRelay.Proofs.Text.Cases

/-!
# The members of a record

A record declares fields for the connection and for the parameters of its method, and nine methods that
deliver the call. The fields are named after the parameters, with a capital and perhaps a number, so no
field begins with a small letter of ASCII or with `@` (`Field.head_of_mem_names`). The methods have fixed
names, and nothing keeps the fields or the record itself from having one of these.

A name with a number is none of the methods' (`Field.eq_zero_of_tried_eq_methodName`), and the name that a
parameter suggests is in use as that of a field if the record itself does not have it
(`Field.suggestion_mem_names`). So the members of a record are apart just when neither its method nor a
parameter is called like one of the nine methods, the parameter with a small `c` or with a capital
(`keepsMembersApart_iff`).
-/

set_option autoImplicit false

namespace HubRelay

open Model (withoutAt)

/-- A text that does not begin with `@` is compared as it is. -/
theorem Model.withoutAt_eq_self {text : String} (h : '@' ∉ text.toList.head?) : withoutAt text = text := by
  rw [withoutAt]
  cases hlist : text.toList with
  | nil => rw [List.dropWhile_nil, ← hlist, String.ofList_toList]
  | cons c rest =>
    have hc : ¬ (c == '@') = true := fun heq ↦ h (hlist ▸ beq_iff_eq.mp heq ▸ rfl)
    rw [List.dropWhile_cons, if_neg hc, ← hlist, String.ofList_toList]

/-! ### The names of fields -/

namespace Field

variable {direction : Direction} {method : Method}

/-- What a parameter suggests is its name without `@` in front, with a capital. -/
theorem suggestion_eq (parameter : String) :
    suggestion parameter = Text.capitalize (withoutAt parameter) := rfl

/-- The name of a field is one of those tried for a parameter. -/
theorem exists_tried_of_mem_names {name : String} (h : name ∈ names direction method) :
    ∃ p ∈ method.parameters, ∃ k, name = tried (suggestion p.name) k := by
  obtain ⟨i, hi, rfl⟩ := List.getElem_of_mem h
  obtain ⟨p, hp⟩ : ∃ p, method.parameters[i]? = some p :=
    ⟨_, List.getElem?_eq_getElem (length_names direction method ▸ hi)⟩
  obtain ⟨k, hname, -⟩ := exists_getElem?_names_eq direction method hp
  exact ⟨p, List.mem_of_getElem? hp, k, (List.getElem?_eq_some_iff.mp hname).2⟩

/-- What a parameter suggests begins with no small letter of ASCII and with no `@`. -/
theorem head_suggestion {parameter : String} {c : Char} (h : c ∈ (suggestion parameter).toList.head?) :
    c ∉ Text.smallLetters ∧ c ≠ '@' := by
  rw [suggestion_eq] at h
  refine ⟨Text.notMem_smallLetters_of_mem_head?_capitalize h, ?_⟩
  rintro rfl
  refine Text.at_notMem_head?_capitalize (fun hat ↦ ?_) h
  rw [withoutAt, String.toList_ofList] at hat
  have hnot := List.head?_dropWhile_not (· == '@') parameter.toList
  rw [Option.mem_def.mp hat] at hnot
  simp at hnot

/-- No field begins with a small letter of ASCII or with `@`. -/
theorem head_of_mem_names {name : String} (h : name ∈ names direction method) :
    ∀ c ∈ name.toList.head?, c ∉ Text.smallLetters ∧ c ≠ '@' := by
  obtain ⟨p, -, k, rfl⟩ := exists_tried_of_mem_names h
  intro c hc
  cases k with
  | zero => exact head_suggestion hc
  | succ k =>
    rw [tried, String.toList_append, List.head?_append, Option.mem_def] at hc
    cases hbase : (suggestion p.name).toList.head? with
    | some d =>
      rw [hbase] at hc
      obtain rfl := Option.some.inj hc
      exact head_suggestion hbase
    | none =>
      have hletters : ∀ d ∈ '@' :: Text.smallLetters, d.isDigit = false :=
        List.all_iff_forall_prop.mp (by decide)
      rw [hbase] at hc
      have hdigit := Text.isDigit_of_mem_toString (List.mem_of_mem_head? hc)
      have hnone : c ∉ '@' :: Text.smallLetters := fun hmem ↦
        Bool.noConfusion (hdigit.symm.trans (hletters c hmem))
      exact ⟨fun hmem ↦ hnone (List.mem_cons_of_mem _ hmem), fun hat ↦ hnone (hat ▸ List.mem_cons_self)⟩

/-- The names of the nine methods end in letters, so none of them is a name with a number. -/
theorem eq_zero_of_tried_eq_methodName {base : String} {k : Nat} {target : Target}
    (h : tried base k = target.methodName) : k = 0 := by
  cases k with
  | zero => rfl
  | succ k =>
    have hlast : target.methodName.toList.getLast?.any Char.isDigit = false := by
      cases target <;> decide
    have hne : (toString (k + 2)).toList ≠ [] :=
      fun hempty ↦ Nat.repr_ne_empty (String.toList_eq_nil_iff.mp hempty)
    obtain ⟨c, hc⟩ := Option.isSome_iff_exists.mp (List.getLast?_isSome.mpr hne)
    rw [← h, tried, String.toList_append, List.getLast?_append, hc] at hlast
    have hdigit := Text.isDigit_of_mem_toString (List.mem_of_getLast? hc)
    exact Bool.noConfusion (hdigit.symm.trans hlast)

/-- What a parameter suggests is the name of a field, unless the record or a field of the connection has
it. -/
theorem suggestion_mem_names {p : Parameter} (hp : p ∈ method.parameters)
    (hrecord : suggestion p.name ≠ method.name)
    (hcontext : suggestion p.name ∉ direction.contextFields.map (·.2)) :
    suggestion p.name ∈ names direction method := by
  obtain ⟨i, hi, rfl⟩ := List.getElem_of_mem hp
  obtain ⟨k, hname, hfirst⟩ :=
    exists_getElem?_names_eq direction method (List.getElem?_eq_getElem hi)
  generalize suggestion method.parameters[i].name = base at *
  cases k with
  | zero => exact List.mem_of_getElem? hname
  | succ k =>
    -- A number is only put behind a name that is taken, here by an earlier field.
    have htaken := hfirst.mem_of_lt 0 k.succ_pos
    rw [takenBefore, List.mem_append, List.mem_cons] at htaken
    rcases htaken with (hname | hmem) | hearlier
    · exact absurd hname hrecord
    · exact absurd hmem hcontext
    · exact List.mem_of_mem_take hearlier

end Field

/-! ### Fields and methods of a record -/

namespace Document

/-- No field of a record and not the record itself has the name of one of the methods in it. Identifiers are
compared without leading `@`. -/
def KeepsMembersApart (direction : Direction) (method : Method) : Prop :=
  (∀ name ∈ direction.contextFields.map (·.2) ++ Field.names direction method, ∀ target : Target,
      withoutAt name ≠ target.methodName) ∧
    ∀ target : Target, withoutAt method.name ≠ target.methodName

/-- The texts that suggest the name of a method: the name itself, and the name with a small `c`. -/
theorem suggestion_eq_methodName_iff {parameter : String} {target : Target} :
    Field.suggestion parameter = target.methodName ↔
      withoutAt parameter = "callOn" ++ target.member ∨ withoutAt parameter = target.methodName := by
  have hsmall : "callOn" ++ target.member = String.ofList ('c' :: ("allOn" ++ target.member).toList) := by
    cases target <;> decide
  have hcapital : target.methodName = String.ofList ('C' :: ("allOn" ++ target.member).toList) := by
    cases target <;> decide
  rw [Field.suggestion_eq, hcapital, hsmall, Text.capitalize_eq_iff]

/-- No field of a record begins with a small letter of ASCII or with `@`. -/
theorem head_of_mem_fields {direction : Direction} {method : Method} {name : String}
    (h : name ∈ direction.contextFields.map (·.2) ++ Field.names direction method) :
    ∀ c ∈ name.toList.head?, c ∉ Text.smallLetters ∧ c ≠ '@' := by
  have hcontext : ∀ other ∈ direction.contextFields.map (·.2),
      other.toList.head?.all (fun c ↦ decide (c ∉ Text.smallLetters ∧ c ≠ '@')) = true := by
    cases direction <;> decide
  rcases List.mem_append.mp h with hmem | hmem
  · exact fun c hc ↦ of_decide_eq_true ((Option.all_eq_true _ _).mp (hcontext name hmem) c hc)
  · exact Field.head_of_mem_names hmem

/-- The names of the fields of a record have no `@` to be compared without. -/
theorem withoutAt_of_mem_fields {direction : Direction} {method : Method} {name : String}
    (h : name ∈ direction.contextFields.map (·.2) ++ Field.names direction method) :
    withoutAt name = name :=
  Model.withoutAt_eq_self fun hat ↦ (head_of_mem_fields h '@' hat).2 rfl

/-- No field of the connection has the name of a method. -/
theorem ne_methodName_of_mem_contextFields {direction : Direction} {name : String}
    (h : name ∈ direction.contextFields.map (·.2)) (target : Target) : name ≠ target.methodName := by
  have hall : ∀ other ∈ direction.contextFields.map (·.2), ∀ target ∈ Target.every,
      other ≠ target.methodName := by
    cases direction <;> decide
  exact hall name h target (Target.mem_every target)

/-- The members of a record are apart just when neither its method nor a parameter has the name of one of
the nine methods in it, or a parameter this name with a small `c`. -/
theorem keepsMembersApart_iff (direction : Direction) (method : Method) :
    KeepsMembersApart direction method ↔
      ∀ target : Target, withoutAt method.name ≠ target.methodName ∧
        ∀ p ∈ method.parameters, withoutAt p.name ≠ "callOn" ++ target.member ∧
          withoutAt p.name ≠ target.methodName := by
  constructor
  · rintro ⟨hfields, hrecord⟩ target
    refine ⟨hrecord target, fun p hp ↦ not_or.mp fun hname ↦ ?_⟩
    have hsuggestion := suggestion_eq_methodName_iff.mpr hname
    have hmem : Field.suggestion p.name ∈ Field.names direction method := by
      refine Field.suggestion_mem_names hp (fun hmethod ↦ ?_) fun hcontext ↦ ?_
      · refine hrecord target ?_
        rw [← hmethod, hsuggestion]
        cases target <;> decide
      · exact ne_methodName_of_mem_contextFields hcontext target hsuggestion
    refine hfields _ (List.mem_append_right _ hmem) target ?_
    rw [withoutAt_of_mem_fields (List.mem_append_right _ hmem), hsuggestion]
  · intro h
    refine ⟨fun name hname target hsame ↦ ?_, fun target ↦ (h target).1⟩
    rw [withoutAt_of_mem_fields hname] at hsame
    rcases List.mem_append.mp hname with hmem | hmem
    · exact ne_methodName_of_mem_contextFields hmem target hsame
    · obtain ⟨p, hp, k, rfl⟩ := Field.exists_tried_of_mem_names hmem
      obtain rfl := Field.eq_zero_of_tried_eq_methodName hsame
      exact not_or.mpr ((h target).2 p hp) (suggestion_eq_methodName_iff.mp hsame)

/-- A parameter `callOnAll` gives the record a field with the name of one of its methods. -/
theorem not_forall_keepsMembersApart :
    ¬ ∀ (direction : Direction) (method : Method), KeepsMembersApart direction method := by
  intro h
  have hsuggestion : Field.suggestion "callOnAll" = Target.all.methodName := by decide
  have hmem : Field.suggestion "callOnAll" ∈ Field.names .toServer (sendMethod "callOnAll") :=
    Field.suggestion_mem_names (p := ⟨"callOnAll", .plain "System" "String"⟩)
      (List.mem_singleton_self _) (by decide) (by decide)
  rw [hsuggestion] at hmem
  exact (h .toServer (sendMethod "callOnAll")).1 _ (List.mem_append_right _ hmem) .all (by decide)

end Document

end HubRelay
