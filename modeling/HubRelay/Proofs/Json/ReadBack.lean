import HubRelay.Json.Shape
import HubRelay.Proofs.Json.Layout
import HubRelay.Proofs.Steps

/-!
# Reading back what is written

A reader decodes a JSON value when it reads a certain value from the text, in whatever layout the
text is and whatever follows it (`Decodes`). A string is decoded whatever characters it has
(`decodes_string`): each of them stands in the text as itself or as an escape of it. From the
readers of the parts this carries over to lists (`decodes_list`), records (`decodes_record`) and
variants (`decodes_variant_bare`, `decodes_variant_inside`).

A record is read field by field. At each moment some slots are filled, and the fields that are still
to come belong to the others, some of which may be left to their default (`Fields.Awaits`): reading
the next one fills its slot (`Fields.Awaits.exists_call_eq`), and when none is left, the values are
complete (`Fields.Awaits.complete_eq`). A record whose fields are all written is the case without
defaults (`Fields.Pending`).
-/

set_option autoImplicit false

namespace HubRelay.Json

variable {α β : Type}

/-! ### Escapes -/

/-- A control character is escaped by four hexadecimal digits of its code. -/
theorem exists_controlEscape_eq {c : Char} (hc : c.toNat < 0x20) :
    ∃ quad, Value.controlEscape c = '\\' :: 'u' :: quad ∧ quad.length = 4 ∧
      Text.byteLength quad = 4 ∧ Text.hexValue? quad = some c.toNat := by
  have htable : ∀ code ∈ List.range 0x20,
      let escaped := Value.controlEscape (Char.ofNat code)
      escaped.take 2 = ['\\', 'u'] ∧ (escaped.drop 2).length = 4 ∧
        Text.byteLength (escaped.drop 2) = 4 ∧ Text.hexValue? (escaped.drop 2) = some code := by
    decide
  obtain ⟨hstart, hlength, hbytes, hvalue⟩ := htable c.toNat (List.mem_range.mpr hc)
  rw [Char.ofNat_toNat] at hstart hlength hbytes hvalue
  refine ⟨_, ?_, hlength, hbytes, hvalue⟩
  rw [← List.take_append_drop 2 (Value.controlEscape c), hstart]
  rfl

/-- Assumes: four characters of one byte each with a value. They are read as that. -/
theorem hexQuad_append {quad : List Char} {code : Nat} (hlength : quad.length = 4)
    (hbytes : Text.byteLength quad = 4) (hvalue : Text.hexValue? quad = some code)
    (rest : List Char) : hexQuad (quad ++ rest) = .ok (code, rest) := by
  have htake : (quad ++ rest).take 4 = quad := by rw [← hlength, List.take_left]
  have hdrop : (quad ++ rest).drop 4 = rest := by rw [← hlength, List.drop_left]
  rw [hexQuad, htake, hbytes, if_neg (Nat.lt_irrefl 4), hvalue, hdrop]

/-- A character stands in a string as itself, or as a backslash and what is read as the character.
-/
theorem escapeChar_cases (c : Char) :
    (Value.escapeChar c = [c] ∧ c ≠ '"' ∧ c ≠ '\\' ∧ ¬ c.toNat < 0x20) ∨
      ∃ code, Value.escapeChar c = '\\' :: code ∧
        ∀ rest, escape (code ++ rest) = .ok (c, rest) := by
  unfold Value.escapeChar
  split
  case h_8 hquote hbackslash _ _ _ _ _ =>
    split
    · next hcontrol =>
      obtain ⟨quad, hquad, hlength, hbytes, hvalue⟩ := exists_controlEscape_eq hcontrol
      have hlow : ¬ (0xDC00 ≤ c.toNat ∧ c.toNat ≤ 0xDFFF) := by omega
      have hhigh : ¬ (0xD800 ≤ c.toNat ∧ c.toNat ≤ 0xDBFF) := by omega
      refine .inr ⟨_, hquad, fun rest ↦ ?_⟩
      rw [List.cons_append, escape, if_pos rfl, hexQuad_append hlength hbytes hvalue]
      show (if _ then _ else if _ then _ else _) = _
      rw [if_neg hlow, if_neg hhigh, Char.ofNat_toNat]
      rfl
    · next hplain => exact .inl ⟨rfl, hquote, hbackslash, hplain⟩
  all_goals exact .inr ⟨_, rfl, fun _ ↦ rfl⟩

/-- A character at the start of a string is read back. -/
theorem stringBody_escapeChar (c : Char) (rest : List Char) :
    stringBody (Value.escapeChar c ++ rest) =
      (stringBody rest).map fun found ↦ (c :: found.1, found.2) := by
  obtain ⟨hescape, hquote, hbackslash, hcontrol⟩ | ⟨code, hescape, hcode⟩ := escapeChar_cases c
  · rw [hescape, List.singleton_append, stringBody, if_neg hquote, if_neg hbackslash,
      if_neg hcontrol]
    cases stringBody rest <;> rfl
  · rw [hescape, List.cons_append, stringBody, if_neg (by decide), if_pos rfl]
    split
    · next reason h =>
      rw [hcode] at h
      cases h
    · next meant after h =>
      rw [hcode] at h
      cases h
      cases stringBody rest <;> rfl

/-- The characters of a string are read back, up to the closing quote. -/
theorem stringBody_flatMap_escapeChar (cs rest : List Char) :
    stringBody (cs.flatMap Value.escapeChar ++ '"' :: rest) = .ok (cs, rest) := by
  induction cs with
  | nil => rw [List.flatMap_nil, List.nil_append, stringBody, if_pos rfl]
  | cons c more ih =>
    rw [List.flatMap_cons, List.append_assoc, stringBody_escapeChar, ih]
    rfl

/-! ### Steps of a reader -/

theorem run_bind_of_ok {first : Reader α} {next : α → Reader β} {cs mid : List Char} {found : α}
    (h : first.run cs = .ok (found, mid)) : (first >>= next).run cs = (next found).run mid := by
  rw [StateT.run_bind, h]
  rfl

/-- A text that is spelled out is read by its characters. -/
theorem read_of_run {reader : Reader α} {text : String} {cs : List Char} {value : α}
    (htext : text = String.ofList cs) (hrun : reader.run cs = .ok (value, [])) :
    read reader text = .ok value := by
  rw [read, htext, String.toList_ofList, hrun]
  rfl

/-- A reader that looks at the next character passes over blanks. -/
theorem run_peek_bind {next : Option Char → Reader α} {gap rest : List Char} {c : Char}
    (hgap : gap.all isBlank = true) (hc : isBlank c = false) :
    (peek >>= next).run (gap ++ c :: rest) = (next (some c)).run (c :: rest) := by
  have hdrop : (gap ++ c :: rest).dropWhile isBlank = c :: rest := by
    rw [List.dropWhile_append_of_pos (List.all_eq_true.mp hgap), List.dropWhile_cons, hc]
    rfl
  have hpeek : peek.run (gap ++ c :: rest) = .ok (some c, c :: rest) := by
    show Except.ok (((gap ++ c :: rest).dropWhile isBlank).head?,
      (gap ++ c :: rest).dropWhile isBlank) = _
    rw [hdrop, List.head?_cons]
  exact run_bind_of_ok hpeek

theorem run_peek_bind_cons {next : Option Char → Reader α} {c : Char} {rest : List Char}
    (hc : isBlank c = false) : (peek >>= next).run (c :: rest) = (next (some c)).run (c :: rest) :=
  run_peek_bind (List.all_nil) hc

theorem run_advance_bind (next : Unit → Reader α) (c : Char) (rest : List Char) :
    (advance >>= next).run (c :: rest) = (next ()).run rest := rfl

theorem run_get_bind (next : List Char → Reader α) (cs : List Char) :
    (get >>= next : Reader α).run cs = (next cs).run cs := rfl

theorem run_enter_bind {levels : Nat} (hlevels : 0 < levels) (next : Unit → Reader α) (c : Char)
    (rest : List Char) : (enter levels >>= next).run (c :: rest) = (next ()).run rest := by
  obtain ⟨n, rfl⟩ := Nat.exists_eq_add_one.mpr hlevels
  rfl

theorem run_colon (rest : List Char) : colon.run (':' :: rest) = .ok ((), rest) := rfl

theorem run_quotedRest (s : String) (rest : List Char) :
    quotedRest.run (s.toList.flatMap Value.escapeChar ++ '"' :: rest) = .ok (s, rest) := by
  unfold quotedRest
  rw [run_get_bind, stringBody_flatMap_escapeChar]
  show Except.ok (String.ofList s.toList, rest) = _
  rw [String.ofList_toList]

/-! ### Decoding -/

/-- The reader gives the value for the text, whatever follows it, and passes over blanks in front.
-/
def Reads (reader : Reader α) (text : List Char) (value : α) : Prop :=
  ∀ gap rest, gap.all isBlank = true → reader.run (gap ++ (text ++ rest)) = .ok (value, rest)

/-- The reader gives the value for the text of the JSON value, however this is laid out. -/
def Decodes (reader : Reader α) (json : Value) (value : α) : Prop :=
  ∀ layout : Layout, Reads reader (layout.text json) value

theorem Reads.run {reader : Reader α} {text : List Char} {value : α} (h : Reads reader text value)
    (rest : List Char) : reader.run (text ++ rest) = .ok (value, rest) :=
  h [] rest rfl

/-- A value that is decoded is passed on to the next step. -/
theorem Decodes.bind {reader : Reader α} {json : Value} (value : α)
    (h : Decodes reader json value) {next : α → Reader β} {result : β}
    (hnext : next value = pure result) :
    Decodes (reader >>= next) json result := by
  intro layout gap rest hgap
  rw [run_bind_of_ok (h layout gap rest hgap), hnext]
  rfl

/-- Assumes: a decoded value. The whole text of it is read, and blanks may follow. -/
theorem Decodes.read_append_eq {reader : Reader α} {json : Value} {value : α}
    (h : Decodes reader json value) (layout : Layout) {blanks : List Char}
    (hblanks : blanks.all isBlank = true) :
    read reader (String.ofList (layout.text json ++ blanks)) = .ok value := by
  have hnone : (blanks ++ []).dropWhile isBlank = [] :=
    List.dropWhile_append_of_pos (List.all_eq_true.mp hblanks)
  rw [List.append_nil] at hnone
  rw [read, String.toList_ofList, (h layout).run blanks]
  exact if_pos (List.isEmpty_iff.mpr hnone)

/-- Assumes: a decoded value. The whole text of it is read. -/
theorem Decodes.read_eq {reader : Reader α} {json : Value} {value : α}
    (h : Decodes reader json value) (layout : Layout) :
    read reader (String.ofList (layout.text json)) = .ok value := by
  have hread := h.read_append_eq layout List.all_nil
  rwa [List.append_nil] at hread

/-- A string is read back. -/
theorem decodes_string (s : String) : Decodes string (.string s) s := by
  intro layout gap rest hgap
  rw [layout.text_string, List.cons_append, List.append_assoc, string,
    run_peek_bind hgap (by decide), if_pos rfl, run_advance_bind]
  exact run_quotedRest s rest

/-! ### Arrays -/

/-- Before an element of an array stands a comma, unless it is the first. -/
theorem run_anotherItem (layout : Layout) (first : Bool) (v : Value) (rest : List Char) :
    (anotherItem first).run ((if first then layout.item v else ',' :: layout.item v) ++ rest) =
      .ok (true, layout.deeper.text v ++ rest) := by
  obtain ⟨c, more, htext, hblank, hclose⟩ := layout.deeper.exists_text_eq_cons v
  unfold anotherItem
  cases first with
  | true =>
    rw [if_pos rfl, Layout.item, htext, List.append_assoc, List.cons_append,
      run_peek_bind layout.isBlank_gap hblank]
    split
    · next h => cases h
    · next h => exact absurd (Option.some.inj h) hclose
    · rfl
  | false =>
    rw [if_neg Bool.false_ne_true, Layout.item, htext, List.cons_append, List.append_assoc,
      List.cons_append]
    rw [run_peek_bind_cons (by decide)]
    split
    · next h => cases h
    · next h => exact absurd (Option.some.inj h) (by decide)
    · next _ _ h =>
      obtain rfl := Option.some.inj h
      rw [if_neg Bool.false_ne_true, if_neg (not_not_intro rfl), run_advance_bind,
        run_peek_bind layout.isBlank_gap hblank]
      split
      · next h => cases h
      · next h => exact absurd (Option.some.inj h) hclose
      · rfl

/-- After the last element of an array no other follows. -/
theorem run_anotherItem_close (first : Bool) {closing : List Char}
    (hclosing : closing.all isBlank = true) (rest : List Char) :
    (anotherItem first).run (closing ++ ']' :: rest) = .ok (false, ']' :: rest) := by
  rw [anotherItem, run_peek_bind hclosing (by decide)]
  rfl

/-- The elements of an array are read, if the bound allows one more than there are. -/
theorem run_items {item : Reader α} (layout : Layout) {closing : List Char}
    (hclosing : closing.all isBlank = true) {jsons : List Value} {values : List α}
    (h : List.Forall₂ (Decodes item) jsons values) (rest : List Char) (first : Bool)
    {bound : List Char} (hbound : jsons.length < bound.length) :
    (items item bound first).run
        (separated first (jsons.map layout.item) ++ (closing ++ ']' :: rest)) =
      .ok (values, ']' :: rest) := by
  induction h generalizing first bound with
  | nil =>
    cases bound with
    | nil => cases hbound
    | cons c bound =>
      rw [items, List.map_nil, separated, List.nil_append,
        run_bind_of_ok (run_anotherItem_close first hclosing rest)]
      rfl
  | @cons json value jsons values hjson _ ih =>
    cases bound with
    | nil => cases hbound
    | cons c bound =>
      rw [List.length_cons, List.length_cons, Nat.add_lt_add_iff_right] at hbound
      rw [items, List.map_cons, separated, List.append_assoc,
        run_bind_of_ok (run_anotherItem layout first json _), if_pos rfl,
        run_bind_of_ok ((hjson layout.deeper).run _), run_bind_of_ok (ih false hbound)]
      rfl

/-- A list is read from the array of its elements. -/
theorem decodes_list {item : Reader α} {jsons : List Value} {values : List α} {levels : Nat}
    (hlevels : 0 < levels) (h : List.Forall₂ (Decodes item) jsons values) :
    Decodes (list levels item) (.array jsons) values := by
  intro layout gap rest hgap
  obtain ⟨closing, hclosing, htext⟩ := layout.exists_text_array jsons
  have hlength := length_le_length_separated
    (List.forall_mem_map.mpr fun v (_ : v ∈ jsons) ↦ layout.item_ne_nil v) true
  rw [List.length_map] at hlength
  have hbound : jsons.length <
      (separated true (jsons.map layout.item) ++ (closing ++ ']' :: rest)).length := by
    rw [List.length_append, List.length_append, List.length_cons]
    omega
  rw [htext, List.cons_append, List.append_assoc, List.append_assoc, List.singleton_append, list,
    run_peek_bind hgap (by decide), if_pos rfl, run_enter_bind hlevels, run_get_bind,
    run_bind_of_ok (run_items layout hclosing h rest true hbound)]
  rfl

/-- Entries that are decoded from what they are written as, each with what it is written as. -/
theorem forall₂_map_decodes {item : Reader α} {toJson : α → Value} {xs : List α}
    (h : ∀ x ∈ xs, Decodes item (toJson x) x) : List.Forall₂ (Decodes item) (xs.map toJson) xs := by
  rw [List.forall₂_map_left_iff]
  exact List.forall₂_same.mpr h

/-! ### Fields -/

/-- Before the name of a field stands a comma, unless it is the first. -/
theorem exists_run_anotherField (layout : Layout) (first : Bool) (name : String) (v : Value)
    (rest : List Char) :
    ∃ gap : List Char, gap.all isBlank = true ∧
      (anotherField first).run
          ((if first then layout.field (name, v) else ',' :: layout.field (name, v)) ++ rest) =
        .ok (true, gap ++ '"' :: (name.toList.flatMap Value.escapeChar ++
          '"' :: ':' :: (layout.space ++ (layout.deeper.text v ++ rest)))) := by
  unfold anotherField
  rw [Layout.field, toList_quote]
  simp only [List.append_assoc, List.cons_append]
  cases first with
  | true =>
    refine ⟨[], rfl, ?_⟩
    rw [if_pos rfl, List.append_assoc, List.cons_append,
      run_peek_bind layout.isBlank_gap (by decide)]
    simp only [List.append_assoc, List.cons_append]
    rfl
  | false =>
    refine ⟨layout.gap, layout.isBlank_gap, ?_⟩
    rw [if_neg Bool.false_ne_true, List.cons_append]
    rw [run_peek_bind_cons (by decide)]
    split
    · next h => cases h
    · next h => exact absurd (Option.some.inj h) (by decide)
    · next _ _ h =>
      obtain rfl := Option.some.inj h
      simp only [Bool.not_false, if_true, ne_eq, not_true_eq_false, if_false, List.append_assoc,
        List.cons_append]
      rfl

/-- After the last field of an object no other follows. -/
theorem run_anotherField_close (first : Bool) {closing : List Char}
    (hclosing : closing.all isBlank = true) (rest : List Char) :
    (anotherField first).run (closing ++ '\x7d' :: rest) = .ok (false, '\x7d' :: rest) := by
  rw [anotherField, run_peek_bind hclosing (by decide)]
  rfl

theorem run_fieldName {gap : List Char} (hgap : gap.all isBlank = true) (name : String)
    (rest : List Char) :
    fieldName.run (gap ++ '"' :: (name.toList.flatMap Value.escapeChar ++ '"' :: rest)) =
      .ok (name, rest) := by
  rw [fieldName, run_peek_bind hgap (by decide)]
  exact run_quotedRest name rest

/-! ### Records -/

namespace Fields

/-- The slots that are filled have the given values, and the entries are those of the other fields,
in order. -/
def Pending {types : List Type} :
    Fields types → Slots types → Values types → List (String × Value) → Prop
  | nil, _, _, entries => entries = []
  | cons head tail, slots, values, entries =>
    match slots.1 with
    | some found => found = values.1 ∧ tail.Pending slots.2 values.2 entries
    | none => ∃ json rest, entries = (head.name, json) :: rest ∧
        Decodes head.read json values.1 ∧ tail.Pending slots.2 values.2 rest

/-- The slots that are filled have the given values, and the entries are those of the other fields,
in order, but some of these fields may be left to their default. -/
def Awaits {types : List Type} :
    Fields types → Slots types → Values types → List (String × Value) → Prop
  | nil, _, _, entries => entries = []
  | cons head tail, slots, values, entries =>
    match slots.1 with
    | some found => found = values.1 ∧ tail.Awaits slots.2 values.2 entries
    | none =>
      (∃ json rest, entries = (head.name, json) :: rest ∧
        Decodes head.read json values.1 ∧ tail.Awaits slots.2 values.2 rest) ∨
      head.default? = some values.1 ∧ tail.Awaits slots.2 values.2 entries

/-- No field need be left to its default. -/
theorem Pending.awaits {types : List Type} {fields : Fields types} {slots : Slots types}
    {values : Values types} {entries : List (String × Value)}
    (h : fields.Pending slots values entries) : fields.Awaits slots values entries := by
  induction fields generalizing entries with
  | nil => exact h
  | cons head tail ih =>
    unfold Pending at h
    unfold Awaits
    split at h
    · exact ⟨h.1, ih h.2⟩
    · obtain ⟨json, rest, hentries, hread, h⟩ := h
      exact .inl ⟨json, rest, hentries, hread, ih h⟩

theorem Awaits.mem_names {types : List Type} {fields : Fields types} {slots : Slots types}
    {values : Values types} {name : String} {json : Value} {rest : List (String × Value)}
    (h : fields.Awaits slots values ((name, json) :: rest)) : name ∈ fields.names := by
  induction fields with
  | nil => cases h
  | cons head tail ih =>
    unfold Awaits at h
    split at h
    · exact List.mem_cons_of_mem _ (ih h.2)
    · obtain ⟨other, more, hentries, -⟩ | ⟨-, h⟩ := h
      · cases hentries
        exact List.mem_cons_self
      · exact List.mem_cons_of_mem _ (ih h)

/-- The name of the next entry calls for its value, which fills a slot. -/
theorem Awaits.exists_call_eq {types : List Type} {fields : Fields types} {slots : Slots types}
    {values : Values types} {name : String} {json : Value} {rest : List (String × Value)}
    (hnames : fields.names.Nodup) (h : fields.Awaits slots values ((name, json) :: rest)) :
    ∃ read after, fields.call name slots = .value read ∧ Decodes read json after ∧
      fields.Awaits after values rest := by
  induction fields with
  | nil => cases h
  | cons head tail ih =>
    obtain ⟨hhead, htail⟩ := List.nodup_cons.mp hnames
    -- An entry of a later field leaves the slot of this one as it is.
    have hlater {first : Option _}
        (h : tail.Awaits slots.2 values.2 ((name, json) :: rest)) (hslot : slots.1 = first) :
        ∃ read after, (cons head tail).call name slots = .value read ∧
          Decodes read json (first, after) ∧ tail.Awaits after values.2 rest := by
      obtain ⟨read, after, hcall, hread, hafter⟩ := ih htail h
      have hne : head.name ≠ name := fun heq ↦ hhead (heq ▸ h.mem_names)
      refine ⟨do return (first, ← read), after, ?_, hread.bind _ rfl, hafter⟩
      rw [call, if_neg hne, hcall, hslot]
    unfold Awaits at h
    split at h
    · next found hslot =>
      obtain ⟨read, after, hcall, hread, hafter⟩ := hlater h.2 hslot
      exact ⟨read, (some found, after), hcall, hread, h.1, hafter⟩
    · next hslot =>
      obtain ⟨other, more, hentries, hread, h⟩ | ⟨hdefault, h⟩ := h
      · cases hentries
        refine ⟨do return (some (← head.read), slots.2), (some values.1, slots.2), ?_,
          hread.bind _ rfl, rfl, h⟩
        rw [call, if_pos rfl, hslot]
        rfl
      · obtain ⟨read, after, hcall, hread, hafter⟩ := hlater h hslot
        exact ⟨read, (none, after), hcall, hread, .inr ⟨hdefault, hafter⟩⟩

/-- When no entry is left, the fields are complete. -/
theorem Awaits.complete_eq {types : List Type} {fields : Fields types} {slots : Slots types}
    {values : Values types} (h : fields.Awaits slots values []) :
    fields.complete slots = .ok values := by
  induction fields with
  | nil => rfl
  | cons head tail ih =>
    unfold Awaits at h
    split at h
    · next found hslot =>
      obtain ⟨rfl, h⟩ := h
      rw [complete, hslot, Option.some_or, ih h]
      rfl
    · next hslot =>
      obtain ⟨_, _, hentries, -⟩ | ⟨hdefault, h⟩ := h
      · cases hentries
      · rw [complete, hslot, Option.none_or, hdefault, ih h]
        rfl

end Fields

/-- The fields of an object are read, if the bound allows one more than there are. -/
theorem exists_run_entries {types : List Type} {fields : Fields types}
    (hnames : fields.names.Nodup) (closed : Bool) (layout : Layout) {closing : List Char}
    (hclosing : closing.all isBlank = true) (rest : List Char) {values : Values types}
    {pending : List (String × Value)} {slots : Slots types}
    (h : fields.Awaits slots values pending) (first : Bool) {bound : List Char}
    (hbound : pending.length < bound.length) :
    ∃ after, fields.complete after = .ok values ∧
      (entries closed fields bound first slots).run
          (separated first (pending.map layout.field) ++ (closing ++ '\x7d' :: rest)) =
        .ok (after, '\x7d' :: rest) := by
  induction pending generalizing slots first bound with
  | nil =>
    cases bound with
    | nil => cases hbound
    | cons c bound =>
      refine ⟨slots, h.complete_eq, ?_⟩
      rw [entries, List.map_nil, separated, List.nil_append,
        run_bind_of_ok (run_anotherField_close first hclosing rest)]
      rfl
  | cons entry pending ih =>
    obtain ⟨name, json⟩ := entry
    cases bound with
    | nil => cases hbound
    | cons c bound =>
      rw [List.length_cons, List.length_cons, Nat.add_lt_add_iff_right] at hbound
      obtain ⟨read, filled, hcall, hread, hfilled⟩ := h.exists_call_eq hnames
      obtain ⟨after, hafter, hrun⟩ := ih hfilled false hbound
      obtain ⟨gap, hgap, hanother⟩ := exists_run_anotherField layout first name json
        (separated false (pending.map layout.field) ++ (closing ++ '\x7d' :: rest))
      refine ⟨after, hafter, ?_⟩
      rw [entries, List.map_cons, separated, List.append_assoc, run_bind_of_ok hanother,
        if_pos rfl, run_bind_of_ok (run_fieldName hgap name _), hcall]
      dsimp only
      rw [run_bind_of_ok (run_colon _),
        run_bind_of_ok (hread layout.deeper layout.space _ layout.isBlank_space), hrun]

/-- Assumes: fields with different names. A record is read from an object of its fields, where those
that have their default may be left out. -/
theorem decodes_record_of_awaits {types : List Type} {fields : Fields types} {values : Values types}
    {pending : List (String × Value)} {levels : Nat} {name : String} {closed : Bool}
    (hnames : fields.names.Nodup) (hlevels : 0 < levels)
    (h : fields.Awaits fields.noneRead values pending) :
    Decodes (record levels name closed fields) (.object pending) values := by
  intro layout gap rest hgap
  obtain ⟨closing, hclosing, htext⟩ := layout.exists_text_object pending
  have hlength := length_le_length_separated
    (List.forall_mem_map.mpr fun entry (_ : entry ∈ pending) ↦ layout.field_ne_nil entry) true
  rw [List.length_map] at hlength
  have hbound : pending.length <
      (separated true (pending.map layout.field) ++ (closing ++ '\x7d' :: rest)).length := by
    rw [List.length_append, List.length_append, List.length_cons]
    omega
  obtain ⟨after, hafter, hentries⟩ :=
    exists_run_entries hnames closed layout hclosing rest h true hbound
  rw [htext, List.cons_append, List.append_assoc, List.append_assoc, List.singleton_append, record,
    run_peek_bind hgap (by decide)]
  split
  · next h => exact absurd (Option.some.inj h) (by decide)
  · rw [run_enter_bind hlevels, run_get_bind, run_bind_of_ok hentries, hafter]
    rfl
  · next h => exact absurd rfl h

/-- Assumes: fields with different names. A record is read from the object of its fields. -/
theorem decodes_record {types : List Type} {fields : Fields types} {values : Values types}
    {pending : List (String × Value)} {levels : Nat} {name : String} {closed : Bool}
    (hnames : fields.names.Nodup) (hlevels : 0 < levels)
    (h : fields.Pending fields.noneRead values pending) :
    Decodes (record levels name closed fields) (.object pending) values :=
  decodes_record_of_awaits hnames hlevels h.awaits

/-! ### Variants -/

theorem run_find {choices : List (String × Content α)} {name : String} {content : Content α}
    (h : choices.lookup name = some content) (cs : List Char) :
    (Content.find choices name).run cs = .ok (content, cs) := by
  rw [Content.find, h]
  rfl

/-- A variant that carries nothing is read from its name. -/
theorem decodes_variant_bare {choices : List (String × Content α)} {name : String} {value : α}
    (h : choices.lookup name = some (.bare value)) (levels : Nat) :
    Decodes (variant levels choices) (.string name) value := by
  intro layout gap rest hgap
  rw [layout.text_string, List.cons_append, List.append_assoc, List.singleton_append, variant,
    run_peek_bind hgap (by decide)]
  split
  · next h => cases h
  · rw [run_advance_bind, run_bind_of_ok (run_quotedRest name rest),
      run_bind_of_ok (run_find h rest)]
    rfl
  · next h => exact absurd (Option.some.inj h) (by decide)
  · next hquote _ h => exact (hquote (Option.some.inj h).symm).elim

/-- A variant with content is read from an object with its name as the only field. -/
theorem decodes_variant_inside {choices : List (String × Content α)} {name : String}
    {read : Reader α} {json : Value} {value : α} {levels : Nat} (hlevels : 0 < levels)
    (h : choices.lookup name = some (.inside read)) (hread : Decodes read json value) :
    Decodes (variant levels choices) (.object [(name, json)]) value := by
  intro layout gap rest hgap
  obtain ⟨closing, hclosing, htext⟩ := layout.exists_text_object [(name, json)]
  rw [htext, variant]
  simp only [List.map_cons, List.map_nil, separated, List.append_nil, if_true, Layout.field,
    toList_quote, List.cons_append, List.append_assoc, List.nil_append]
  rw [run_peek_bind hgap (by decide)]
  split
  · next h => cases h
  · next h => exact absurd (Option.some.inj h) (by decide)
  · rw [run_enter_bind hlevels, run_bind_of_ok (run_fieldName layout.isBlank_gap name _),
      run_bind_of_ok (run_find h _), run_bind_of_ok (run_colon _)]
    dsimp only
    rw [run_bind_of_ok (hread layout.deeper layout.space _ layout.isBlank_space),
      run_peek_bind hclosing (by decide)]
    rfl
  · next hbrace h => exact (hbrace (Option.some.inj h).symm).elim

end HubRelay.Json
