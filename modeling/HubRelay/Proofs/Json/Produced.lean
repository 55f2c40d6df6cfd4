import HubRelay.Json.Shape
import HubRelay.Proofs.Steps

/-!
# What readers produce

A reader produces a value when there is a text that it reads the value from. What a reader of a list
or of a record produces is put together from what the readers of the parts produce: every element of
a list is produced by the reader of elements (`Produces.of_list`), every value of a record by the
reader of its field unless it is the default (`Produces.of_record`), and a variant by the reader of
its content (`Produces.of_variant`). So what is known of all that a reader produces carries over to
the readers that are made from it, in whatever way the text is written.
-/

set_option autoImplicit false

namespace HubRelay.Json

variable {α β : Type}

/-! ### One reader after another -/

/-- There is a text that the value is read from, with something left after it. -/
def Produces (reader : Reader α) (value : α) : Prop :=
  ∃ cs rest, reader.run cs = .ok (value, rest)

theorem Produces.of_bind {first : Reader α} {next : α → Reader β} {value : β}
    (h : Produces (first >>= next) value) :
    ∃ found, Produces first found ∧ Produces (next found) value := by
  obtain ⟨cs, rest, hrun⟩ := h
  rw [StateT.run_bind] at hrun
  obtain ⟨⟨found, mid⟩, hfirst, hnext⟩ := bind_eq_ok_iff.mp hrun
  exact ⟨found, ⟨cs, mid, hfirst⟩, ⟨mid, rest, hnext⟩⟩

theorem Produces.eq_of_pure {found value : α} (h : Produces (pure found : Reader α) value) :
    value = found := by
  obtain ⟨cs, rest, hrun⟩ := h
  cases hrun
  rfl

theorem Produces.of_ite {c : Prop} [Decidable c] {first second : Reader α} {value : α}
    (h : Produces (if c then first else second) value) :
    Produces first value ∨ Produces second value := by
  split at h
  · exact .inl h
  · exact .inr h

theorem not_produces_throw (reason : Failure) (value : α) :
    ¬ Produces (throw reason : Reader α) value := by
  rintro ⟨cs, rest, hrun⟩
  cases hrun

theorem not_produces_bind (first : Reader α) {next : α → Reader β} {value : β}
    (h : ∀ found, ¬ Produces (next found) value) : ¬ Produces (first >>= next) value :=
  fun hboth ↦ have ⟨found, _, hnext⟩ := hboth.of_bind; h found hnext

/-- What is read from a whole text is produced. -/
theorem produces_of_read {reader : Reader α} {text : String} {value : α}
    (h : read reader text = .ok value) : Produces reader value := by
  obtain ⟨⟨found, rest⟩, hrun, h⟩ := bind_eq_ok_iff.mp h
  dsimp only at h
  split at h
  · obtain rfl := Except.ok.inj h
    exact ⟨_, _, hrun⟩
  · cases h

/-- What refuses a value of another type produces nothing. -/
theorem not_produces_wrongType (wanted : String) (value : α) :
    ¬ Produces (wrongType wanted) value := by
  refine not_produces_bind peek fun next ↦ ?_
  split
  case h_2 | h_3 | h_4 => exact not_produces_bind _ fun _ ↦ not_produces_throw _ _
  case h_5 | h_6 =>
    exact not_produces_bind _ fun _ ↦ not_produces_bind _ fun _ ↦ not_produces_throw _ _
  case h_9 =>
    split
    · exact not_produces_bind _ fun _ ↦ not_produces_throw _ _
    · exact not_produces_throw _ _
  all_goals exact not_produces_throw _ _

/-! ### Lists -/

theorem Produces.of_items {item : Reader α} {bound : List Char} {first : Bool} {found : List α}
    (h : Produces (items item bound first) found) : ∀ value ∈ found, Produces item value := by
  induction bound generalizing first found with
  | nil => exact absurd h (not_produces_throw _ _)
  | cons c bound ih =>
    obtain ⟨another, -, h⟩ := h.of_bind
    cases another with
    | false =>
      rw [h.eq_of_pure]
      exact List.forall_mem_nil _
    | true =>
      obtain ⟨head, hhead, h⟩ := h.of_bind
      obtain ⟨tail, htail, h⟩ := h.of_bind
      rw [h.eq_of_pure]
      exact List.forall_mem_cons.mpr ⟨hhead, ih htail⟩

/-- The elements of a list are produced by the reader of elements. -/
theorem Produces.of_list {levels : Nat} {item : Reader α} {found : List α}
    (h : Produces (list levels item) found) : ∀ value ∈ found, Produces item value := by
  obtain ⟨next, -, h⟩ := h.of_bind
  split at h
  · obtain ⟨-, -, h⟩ := h.of_bind
    obtain ⟨bound, -, h⟩ := h.of_bind
    obtain ⟨values, hvalues, h⟩ := h.of_bind
    obtain ⟨-, -, h⟩ := h.of_bind
    rw [h.eq_of_pure]
    exact hvalues.of_items
  · exact absurd h (not_produces_wrongType _ _)

/-! ### Records -/

/-- The value is produced by the reader of the field, or is the default. -/
def Field.Produces (field : Field α) (value : α) : Prop :=
  Json.Produces field.read value ∨ field.default? = some value

namespace Fields

/-- The values are those that the fields produce. -/
def Produce {types : List Type} : Fields types → Values types → Prop
  | nil, _ => True
  | cons head tail, values => head.Produces values.1 ∧ tail.Produce values.2

/-- The values in the slots that are filled are produced by the readers of the fields. -/
def Fill {types : List Type} : Fields types → Slots types → Prop
  | nil, _ => True
  | cons head tail, slots =>
    (∀ value, slots.1 = some value → Json.Produces head.read value) ∧ tail.Fill slots.2

theorem fill_noneRead {types : List Type} (fields : Fields types) :
    fields.Fill fields.noneRead := by
  induction fields with
  | nil => trivial
  | cons head tail ih => exact ⟨fun value h ↦ (nomatch h), ih⟩

/-- Reading what a name calls for fills a slot. -/
theorem Fill.of_call {types : List Type} {fields : Fields types} {name : String}
    {slots after : Slots types} {read : Reader (Slots types)} (hslots : fields.Fill slots)
    (hcall : fields.call name slots = .value read) (hread : Json.Produces read after) :
    fields.Fill after := by
  induction fields with
  | nil => cases hcall
  | cons head tail ih =>
    unfold call at hcall
    split at hcall
    · split at hcall
      · cases hcall
      · cases hcall
        obtain ⟨value, hvalue, h⟩ := hread.of_bind
        rw [h.eq_of_pure]
        refine ⟨fun other hother ↦ ?_, hslots.2⟩
        rw [← Option.some.inj hother]
        exact hvalue
    · split at hcall
      · cases hcall
      · cases hcall
      · next inner hinner =>
        cases hcall
        obtain ⟨rest, hrest, h⟩ := hread.of_bind
        rw [h.eq_of_pure]
        exact ⟨hslots.1, ih hslots.2 hinner hrest⟩

/-- Slots that are filled by the fields are completed to what the fields produce. -/
theorem Fill.of_complete {types : List Type} {fields : Fields types} {slots : Slots types}
    {values : Values types} (hslots : fields.Fill slots)
    (h : fields.complete slots = .ok values) : fields.Produce values := by
  induction fields with
  | nil => trivial
  | cons head tail ih =>
    unfold complete at h
    dsimp only at h
    split at h
    · next value hvalue =>
      obtain ⟨rest, hrest, h⟩ := bind_eq_ok_iff.mp (show tail.complete slots.2 >>= _ = _ from h)
      obtain rfl := Except.ok.inj h
      refine ⟨?_, ih hslots.2 hrest⟩
      rcases Option.or_eq_some_iff.mp hvalue with hslot | ⟨-, hdefault⟩
      · exact .inl (hslots.1 _ hslot)
      · exact .inr hdefault
    · cases h

theorem Produce.of_fromItems {types : List Type} {fields : Fields types} {record : String}
    {size index : Nat} {values : Values types}
    (h : Json.Produces (fields.fromItems record size index) values) : fields.Produce values := by
  induction fields generalizing index with
  | nil => trivial
  | cons head tail ih =>
    obtain ⟨another, -, h⟩ := h.of_bind
    rcases Produces.of_ite h with h | h
    · obtain ⟨value, hvalue, h⟩ := h.of_bind
      obtain ⟨rest, hrest, h⟩ := h.of_bind
      rw [h.eq_of_pure]
      exact ⟨.inl hvalue, ih hrest⟩
    · split at h
      · next value hdefault =>
        obtain ⟨rest, hrest, h⟩ := h.of_bind
        rw [h.eq_of_pure]
        exact ⟨.inr hdefault, ih hrest⟩
      · exact absurd h (not_produces_throw _ _)

end Fields

theorem Produces.of_entries {types : List Type} {closed : Bool} {fields : Fields types}
    {bound : List Char} {first : Bool} {slots after : Slots types} (hslots : fields.Fill slots)
    (h : Produces (entries closed fields bound first slots) after) : fields.Fill after := by
  induction bound generalizing first slots with
  | nil => exact absurd h (not_produces_throw _ _)
  | cons c bound ih =>
    obtain ⟨another, -, h⟩ := h.of_bind
    split at h
    · obtain ⟨name, -, h⟩ := h.of_bind
      split at h
      · split at h
        · exact absurd h.of_bind.choose_spec.1 (not_produces_throw _ _)
        · obtain ⟨-, -, h⟩ := h.of_bind
          obtain ⟨-, -, h⟩ := h.of_bind
          exact ih hslots h
      · exact absurd h (not_produces_throw _ _)
      · next read hcall =>
        obtain ⟨-, -, h⟩ := h.of_bind
        obtain ⟨filled, hfilled, h⟩ := h.of_bind
        exact ih (hslots.of_call hcall hfilled) h
    · rw [h.eq_of_pure]
      exact hslots

/-- The values of a record are those that its fields produce, whether it is written as an object or
as an array. -/
theorem Produces.of_record {types : List Type} {levels : Nat} {name : String} {closed : Bool}
    {fields : Fields types} {values : Values types}
    (h : Produces (record levels name closed fields) values) : fields.Produce values := by
  obtain ⟨next, -, h⟩ := h.of_bind
  split at h
  · obtain ⟨-, -, h⟩ := h.of_bind
    obtain ⟨found, hfound, h⟩ := h.of_bind
    obtain ⟨-, -, h⟩ := h.of_bind
    rw [h.eq_of_pure]
    exact .of_fromItems hfound
  · obtain ⟨-, -, h⟩ := h.of_bind
    obtain ⟨bound, -, h⟩ := h.of_bind
    obtain ⟨slots, hslots, h⟩ := h.of_bind
    split at h
    · next found hcomplete =>
      obtain ⟨-, -, h⟩ := h.of_bind
      rw [h.eq_of_pure]
      exact (Produces.of_entries fields.fill_noneRead hslots).of_complete hcomplete
    · exact absurd h (not_produces_throw _ _)
  · exact absurd h (not_produces_wrongType _ _)

/-! ### Variants -/

/-- The value is what the variant stands for, or is produced by the reader of its content. -/
def Content.Produces (content : Content α) (value : α) : Prop :=
  match content with
  | .bare found => value = found
  | .inside read => Json.Produces read value

theorem Produces.of_find {choices : List (String × Content α)} {name : String}
    {content : Content α} (h : Produces (Content.find choices name) content) :
    (name, content) ∈ choices := by
  unfold Content.find at h
  split at h
  · next found hfound =>
    obtain ⟨before, after, rfl, -⟩ := List.lookup_eq_some_iff.mp hfound
    rw [h.eq_of_pure]
    exact List.mem_append_right _ List.mem_cons_self
  · exact absurd h (not_produces_throw _ _)

/-- What stands behind a closing brace is not looked at. -/
theorem Produces.eq_of_close {found value : α} (h : Produces (do
    match ← peek with
    | none => throw .ended
    | some '\x7d' => advance; return found
    | some _ => throw .malformed) value) : value = found := by
  obtain ⟨next, -, h⟩ := h.of_bind
  split at h
  · exact absurd h (not_produces_throw _ _)
  · obtain ⟨-, -, h⟩ := h.of_bind
    exact h.eq_of_pure
  · exact absurd h (not_produces_throw _ _)

/-- What is read as one of several variants is produced by one of them. -/
theorem Produces.of_variant {levels : Nat} {choices : List (String × Content α)} {value : α}
    (h : Produces (variant levels choices) value) :
    ∃ choice ∈ choices, choice.2.Produces value := by
  obtain ⟨next, -, h⟩ := h.of_bind
  split at h
  · exact absurd h (not_produces_throw _ _)
  · obtain ⟨-, -, h⟩ := h.of_bind
    obtain ⟨name, -, h⟩ := h.of_bind
    obtain ⟨content, hcontent, h⟩ := h.of_bind
    refine ⟨_, hcontent.of_find, ?_⟩
    cases content with
    | bare found => exact h.eq_of_pure
    | inside read => exact absurd h (not_produces_throw _ _)
  · obtain ⟨-, -, h⟩ := h.of_bind
    obtain ⟨name, -, h⟩ := h.of_bind
    obtain ⟨content, hcontent, h⟩ := h.of_bind
    obtain ⟨-, -, h⟩ := h.of_bind
    refine ⟨_, hcontent.of_find, ?_⟩
    cases content with
    | bare found =>
      obtain ⟨-, -, h⟩ := h.of_bind
      obtain ⟨other, hother, h⟩ := h.of_bind
      rw [h.eq_of_close]
      exact hother.eq_of_pure
    | inside read =>
      obtain ⟨found, hfound, h⟩ := h.of_bind
      rw [h.eq_of_close]
      exact hfound
  · exact absurd h (not_produces_throw _ _)

end HubRelay.Json
