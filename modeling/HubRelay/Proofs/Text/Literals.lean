import HubRelay.Text.Hexadecimal

/-!
# String literals

A string literal of C# stands between quotation marks. Its value is a sequence of code units of UTF-16:
those of the characters between the marks, except that a backslash and what belongs to it stand for the
units they name. `value?` reads a literal, which has to end where its closing mark stands.

Text is often put between quotation marks as it is. This makes a literal whose value is the text if all of
its characters stand for themselves (not `signs`), and in no other case: another mark or the end of a line
breaks the literal off, and whatever is named with a backslash is shorter than its name, so that the value
is shorter than the text (`length_le_of_body?_eq_some`, `value?_eq_utf16_iff`).
-/

set_option autoImplicit false

namespace HubRelay.Text.Literal

/-! ### Code units -/

/-- The code units of a code point in UTF-16. -/
def units (code : Nat) : List Nat :=
  if code < 0x10000 then [code]
  else [0xD800 + (code - 0x10000) / 0x400, 0xDC00 + (code - 0x10000) % 0x400]

/-- The code units of a text. -/
def utf16 (cs : List Char) : List Nat := cs.flatMap fun c ↦ units c.toNat

theorem one_le_length_units (code : Nat) : 1 ≤ (units code).length := by
  unfold units
  split <;> simp

theorem length_units_le (code : Nat) : (units code).length ≤ 2 := by
  unfold units
  split <;> simp

@[simp] theorem utf16_cons (c : Char) (rest : List Char) :
    utf16 (c :: rest) = units c.toNat ++ utf16 rest := List.flatMap_cons

@[simp] theorem utf16_append (first second : List Char) :
    utf16 (first ++ second) = utf16 first ++ utf16 second := List.flatMap_append

/-- A character has a code unit. -/
theorem length_le_length_utf16 (cs : List Char) : cs.length ≤ (utf16 cs).length := by
  induction cs with
  | nil => exact Nat.le_refl 0
  | cons c rest ih =>
    have hunits := one_le_length_units c.toNat
    rw [utf16_cons, List.length_append, List.length_cons]
    omega

/-- Characters that are left off have a code unit each. -/
theorem add_length_utf16_drop_le {cs : List Char} {count : Nat} (h : count ≤ cs.length) :
    count + (utf16 (cs.drop count)).length ≤ (utf16 cs).length := by
  have hsplit : (utf16 cs).length = (utf16 (cs.take count)).length + (utf16 (cs.drop count)).length := by
    rw [← List.length_append, ← utf16_append, List.take_append_drop]
  have htake := length_le_length_utf16 (cs.take count)
  rw [List.length_take_of_le h] at htake
  omega

/-! ### Literals -/

/-- The characters that do not stand for themselves in a literal: the quotation mark, the backslash and
those at which lines end in C#. -/
def signs : List Char := ['"', '\\', '\n', '\r', '\u0085', '\u2028', '\u2029']

/-- What the escapes with one character stand for, by the code point of this character. -/
def simpleEscapes : List (Nat × Nat) :=
  [(0x27, 0x27), (0x22, 0x22), (0x5C, 0x5C), (0x30, 0), (0x61, 0x07), (0x62, 0x08), (0x66, 0x0C),
    (0x6E, 0x0A), (0x72, 0x0D), (0x74, 0x09), (0x76, 0x0B)]

/-- Reads the characters of an escape behind its backslash: the code units that it stands for, and the
number of characters. -/
def escape? : List Char → Option (List Nat × Nat)
  | [] => none
  | 'x' :: rest =>
    let digits := (rest.take 4).takeWhile fun c ↦ (hexDigit? c).isSome
    if digits = [] then none
    else (hexValue? digits).map fun code ↦ ([code], digits.length + 1)
  | 'u' :: rest =>
    if rest.length < 4 then none else (hexValue? (rest.take 4)).map fun code ↦ ([code], 5)
  | 'U' :: rest =>
    if rest.length < 8 then none
    else (hexValue? (rest.take 8)).bind fun code ↦
      if code ≤ 0x10FFFF then some (units code, 9) else none
  | c :: _ => (simpleEscapes.lookup c.toNat).map fun code ↦ ([code], 1)

/-- Reads what stands behind the opening quotation mark of a literal. The closing one must be the last
character. -/
def body? : List Char → Option (List Nat)
  | [] => none
  | c :: rest =>
    if c = '"' then if rest = [] then some [] else none
    else if c = '\\' then
      match escape? rest with
      | none => none
      | some (codes, length) => (body? (rest.drop length)).map (codes ++ ·)
    else if c ∈ signs then none
    else (body? rest).map (units c.toNat ++ ·)
termination_by cs => cs.length

/-- The value of a string literal. -/
def value? : List Char → Option (List Nat)
  | '"' :: rest => body? rest
  | _ => none

/-! ### Text between quotation marks -/

/-- An escape stands for at most as many code units as it has characters behind the backslash. -/
theorem length_le_of_escape?_eq_some {cs : List Char} {codes : List Nat} {length : Nat}
    (h : escape? cs = some (codes, length)) : codes.length ≤ length := by
  unfold escape? at h
  split at h
  · cases h
  · dsimp only at h
    split at h
    · cases h
    · obtain ⟨code, -, hpair⟩ := Option.map_eq_some_iff.mp h
      obtain ⟨rfl, rfl⟩ := Prod.mk.inj hpair
      exact Nat.le_add_left 1 _
  · split at h
    · cases h
    · obtain ⟨code, -, hpair⟩ := Option.map_eq_some_iff.mp h
      obtain ⟨rfl, rfl⟩ := Prod.mk.inj hpair
      exact Nat.le_add_left 1 4
  · split at h
    · cases h
    · obtain ⟨code, -, hcode⟩ := Option.bind_eq_some_iff.mp h
      split at hcode
      · obtain ⟨rfl, rfl⟩ := Prod.mk.inj (Option.some.inj hcode)
        exact Nat.le_trans (length_units_le code) (by decide)
      · cases hcode
  · obtain ⟨code, -, hpair⟩ := Option.map_eq_some_iff.mp h
    obtain ⟨rfl, rfl⟩ := Prod.mk.inj hpair
    exact Nat.le_refl 1

/-- Characters that stand for themselves. -/
theorem body?_of_forall_notMem {cs : List Char} (h : ∀ c ∈ cs, c ∉ signs) :
    body? (cs ++ ['"']) = some (utf16 cs) := by
  induction cs with
  | nil => rw [List.nil_append, body?, if_pos rfl, if_pos rfl]; rfl
  | cons c rest ih =>
    obtain ⟨hc, hrest⟩ := List.forall_mem_cons.mp h
    have hquote : c ≠ '"' := fun heq ↦ hc (heq ▸ by decide)
    have hbackslash : c ≠ '\\' := fun heq ↦ hc (heq ▸ by decide)
    rw [List.cons_append, body?, if_neg hquote, if_neg hbackslash, if_neg hc, ih hrest, utf16_cons]
    rfl

/-- What is closed ends before the closing mark, or nothing would be left to close the literal. -/
theorem le_length_of_body?_drop_eq_some {cs : List Char} {count : Nat} {value : List Nat}
    (h : body? ((cs ++ ['"']).drop count) = some value) : count ≤ cs.length := by
  refine Nat.le_of_not_lt fun hbehind ↦ ?_
  have hall : (cs ++ ['"']).length ≤ count := by
    rw [List.length_append, List.length_singleton]
    exact hbehind
  rw [List.drop_eq_nil_of_le hall, body?] at h
  cases h

/-- Text between quotation marks has no value with more code units than its own, and one with as many only
if each character stands for itself. The induction is on the number of characters, since an escape has
several. -/
theorem length_le_of_body?_eq_some {cs : List Char} {value : List Nat}
    (h : body? (cs ++ ['"']) = some value) :
    value.length ≤ (utf16 cs).length ∧
      (value.length = (utf16 cs).length → ∀ c ∈ cs, c ∉ signs) := by
  induction hlength : cs.length using Nat.strongRecOn generalizing cs value with
  | ind n ih =>
    cases cs with
    | nil =>
      rw [List.nil_append, body?, if_pos rfl, if_pos rfl] at h
      obtain rfl := Option.some.inj h
      exact ⟨Nat.le_refl 0, fun _ ↦ List.forall_mem_nil _⟩
    | cons c rest =>
      rw [List.length_cons] at hlength
      rw [List.cons_append, body?] at h
      rw [utf16_cons, List.length_append]
      split at h
      · rw [if_neg (List.append_ne_nil_of_right_ne_nil _ (List.cons_ne_nil _ _))] at h
        cases h
      next hquote =>
      split at h
      · split at h
        · cases h
        next codes length hescape =>
        obtain ⟨inner, hinner, rfl⟩ := Option.map_eq_some_iff.mp h
        have hends := le_length_of_body?_drop_eq_some hinner
        rw [List.drop_append_of_le_length hends] at hinner
        obtain ⟨hle, -⟩ := ih _ (by rw [List.length_drop]; omega) hinner rfl
        -- The backslash is a unit more than the escape can stand for.
        have hcodes := length_le_of_escape?_eq_some hescape
        have hescaped := add_length_utf16_drop_le hends
        have hunits := one_le_length_units c.toNat
        rw [List.length_append]
        exact ⟨by omega, fun heq ↦ by omega⟩
      next hbackslash =>
      split at h
      · cases h
      next hc =>
      obtain ⟨inner, hinner, rfl⟩ := Option.map_eq_some_iff.mp h
      obtain ⟨hle, hplain⟩ := ih _ (by omega) hinner rfl
      rw [List.length_append]
      exact ⟨by omega, fun heq ↦ List.forall_mem_cons.mpr ⟨hc, hplain (by omega)⟩⟩

/-- Text between quotation marks is a literal with the text as its value just when each of its characters
stands for itself. -/
theorem value?_eq_utf16_iff (cs : List Char) :
    value? ('"' :: (cs ++ ['"'])) = some (utf16 cs) ↔ ∀ c ∈ cs, c ∉ signs :=
  ⟨fun h ↦ (length_le_of_body?_eq_some h).2 rfl, body?_of_forall_notMem⟩

/-- A mark with a backslash before it stands for itself, and without one it ends the literal. -/
example : value? "\"a\\\"\\u00e9\"".toList = some [0x61, 0x22, 0xE9] ∧
    value? "\"a\"\"".toList = none := by cbv

end HubRelay.Text.Literal
