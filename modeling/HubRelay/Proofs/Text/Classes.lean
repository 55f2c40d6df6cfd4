import HubRelay.Text.Alphabetic
import HubRelay.Text.Blank
import HubRelay.Text.Numeric

/-!
# Character classes that lie apart

White space, letters and numbers are given by tables of ranges. `apart` computes whether no range of
the one table meets a range of the other; characters of such classes differ. White space is apart
from letters (`isBlank_eq_false_of_isAlphabetic`) and from numbers
(`isBlank_eq_false_of_isNumeric`), so the white space around a word never belongs to it. In ASCII there are
few ranges of letters and numbers, and a character of it need not be looked for in others.

`withoutBlanks` is what is left of a text when its white space is taken out. `toList_pushn`
writes out a repeated character.
-/

set_option autoImplicit false

namespace HubRelay.Text

/-! ### Tables apart -/

/-- Whether no range of the first table meets a range of the second. -/
def apart (first second : List (Nat × Nat)) : Bool :=
  first.all fun a ↦ second.all fun b ↦ Nat.blt a.2 b.1 || Nat.blt b.2 a.1

/-- Assumes: two tables apart. A code point in the second is not in the first. -/
theorem inRanges_eq_false_of_apart {first second : List (Nat × Nat)}
    (h : apart first second = true) {code : Nat} (hcode : inRanges second code = true) :
    inRanges first code = false := by
  obtain ⟨b, hb, hlow, hhigh⟩ := inRanges_iff.mp hcode
  rw [← Bool.not_eq_true, inRanges_iff]
  rintro ⟨a, ha, hbelow, habove⟩
  have hapart := List.all_eq_true.mp (List.all_eq_true.mp h a ha) b hb
  simp only [Bool.or_eq_true, Nat.blt_eq] at hapart
  omega

set_option maxRecDepth 4000 in
/-- No white space is a letter. -/
theorem apart_blankRanges_alphabeticRanges : apart blankRanges alphabeticRanges = true := by
  decide

/-- No white space is a number. -/
theorem apart_blankRanges_numericRanges : apart blankRanges numericRanges = true := by
  decide

/-- A letter is not white space. -/
theorem isBlank_eq_false_of_isAlphabetic {c : Char} (h : isAlphabetic c = true) :
    isBlank c = false :=
  inRanges_eq_false_of_apart apart_blankRanges_alphabeticRanges h

/-- A number is not white space. -/
theorem isBlank_eq_false_of_isNumeric {c : Char} (h : isNumeric c = true) : isBlank c = false :=
  inRanges_eq_false_of_apart apart_blankRanges_numericRanges h

/-! ### Letters and numbers of ASCII -/

/-- Assumes: a table whose ranges after the first ones begin at or behind a bound. A code point below the
bound is only looked for in the first ones. -/
theorem inRanges_eq_of_lt {ranges : List (Nat × Nat)} {bound : Nat} (count : Nat)
    (hrest : (ranges.drop count).all (fun range ↦ Nat.ble bound range.1) = true) {code : Nat}
    (hcode : code < bound) : inRanges ranges code = inRanges (ranges.take count) code := by
  have hnone : inRanges (ranges.drop count) code = false := by
    rw [← Bool.not_eq_true, inRanges_iff]
    rintro ⟨range, hrange, hlow, -⟩
    have hbound := Nat.le_of_ble_eq_true (List.all_eq_true.mp hrest range hrange)
    omega
  calc inRanges ranges code
      = inRanges (ranges.take count ++ ranges.drop count) code := by rw [List.take_append_drop]
    _ = (inRanges (ranges.take count) code || inRanges (ranges.drop count) code) := List.any_append
    _ = inRanges (ranges.take count) code := by rw [hnone, Bool.or_false]

set_option maxRecDepth 4000 in
/-- The letters of ASCII. -/
theorem isAlphabetic_eq_of_lt {c : Char} (h : c.toNat < 0x80) :
    isAlphabetic c = inRanges [(0x41, 0x5A), (0x61, 0x7A)] c.toNat :=
  inRanges_eq_of_lt 2 (by decide) h

/-- The numbers of ASCII. -/
theorem isNumeric_eq_of_lt {c : Char} (h : c.toNat < 0x80) :
    isNumeric c = inRanges [(0x30, 0x39)] c.toNat :=
  inRanges_eq_of_lt 1 (by decide) h

/-! ### Texts without white space -/

/-- The characters of a text that are not white space. -/
def withoutBlanks (cs : List Char) : List Char := cs.filter fun c ↦ !isBlank c

@[simp] theorem withoutBlanks_append (first second : List Char) :
    withoutBlanks (first ++ second) = withoutBlanks first ++ withoutBlanks second :=
  List.filter_append ..

/-- Of white space nothing is left. -/
theorem withoutBlanks_eq_nil {cs : List Char} (h : ∀ c ∈ cs, isBlank c = true) :
    withoutBlanks cs = [] := by
  rw [withoutBlanks, List.filter_eq_nil_iff]
  intro c hc
  rw [h c hc]
  decide

/-- A text is free of white space when each of its characters is found not to be any. -/
theorem isBlank_eq_false_of_all {cs : List Char} (h : cs.all (!isBlank ·) = true) :
    ∀ c ∈ cs, isBlank c = false := by
  intro c hc
  have hthis := List.all_eq_true.mp h c hc
  rwa [Bool.not_eq_true'] at hthis

/-- A text that has no white space is left as it is. -/
theorem withoutBlanks_eq_self {cs : List Char} (h : ∀ c ∈ cs, isBlank c = false) :
    withoutBlanks cs = cs := by
  rw [withoutBlanks, List.filter_eq_self]
  intro c hc
  rw [h c hc]
  decide

/-! ### Texts that are spelled out -/

/-- Two texts that are spelled out, put together. -/
theorem append_eq_ofList {first second : String} {cs ds : List Char} (hfirst : first = String.ofList cs)
    (hsecond : second = String.ofList ds) : first ++ second = String.ofList (cs ++ ds) := by
  rw [hfirst, hsecond, String.ofList_append]

/-! ### Repeated characters -/

/-- The text of a repeated character. -/
theorem toList_pushn (c : Char) (n : Nat) : ("".pushn c n).toList = List.replicate n c := by
  rw [String.pushn_eq_repeat_push]
  induction n with
  | zero => rfl
  | succ n ih => rw [Nat.repeat, String.toList_push, ih, List.replicate_succ']

end HubRelay.Text
