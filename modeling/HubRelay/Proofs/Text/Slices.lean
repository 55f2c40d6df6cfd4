import HubRelay.Text.Bytes

/-!
# Slices of a text

A text can be cut at a byte only where a character begins or the text ends. `from?` and `upTo?` give the
part of a text from a byte on and the part before it, and nothing where the text cannot be cut. A
reader that counts the bytes of the characters it has passed is where they end (`isBoundary_iff`), and the
two parts are the characters that it has passed and the others (`upTo?_byteLength`, `from?_byteLength`).
-/

set_option autoImplicit false

namespace HubRelay.Text

theorem byteLength_append (front rest : List Char) :
    byteLength (front ++ rest) = byteLength front + byteLength rest := by
  induction front with
  | nil => rw [List.nil_append, byteLength, Nat.zero_add]
  | cons c more ih => rw [List.cons_append, byteLength, byteLength, ih, Nat.add_assoc]

/-- The bytes of a text are those of its characters. -/
theorem utf8ByteSize_ofList (cs : List Char) : (String.ofList cs).utf8ByteSize = byteLength cs := by
  induction cs with
  | nil => rfl
  | cons c rest ih =>
    rw [String.ofList_cons, String.utf8ByteSize_append, String.utf8ByteSize_singleton, byteLength, ih]

/-- A text can be cut at a byte: no character goes over it. -/
def IsBoundary (text : String) (offset : Nat) : Prop := String.Pos.Raw.IsValid text ⟨offset⟩

instance (text : String) (offset : Nat) : Decidable (IsBoundary text offset) :=
  inferInstanceAs (Decidable (String.Pos.Raw.IsValid text ⟨offset⟩))

/-- The part of a text from a byte on. -/
def from? (text : String) (offset : Nat) : Option String :=
  if h : IsBoundary text offset then some (text.sliceFrom ⟨⟨offset⟩, h⟩).copy else none

/-- The part of a text before a byte. -/
def upTo? (text : String) (offset : Nat) : Option String :=
  if h : IsBoundary text offset then some (text.sliceTo ⟨⟨offset⟩, h⟩).copy else none

/-- A text can be cut at a byte when the bytes before it are those of characters. -/
theorem isBoundary_iff {text : String} {offset : Nat} :
    IsBoundary text offset ↔ ∃ front rest, text.toList = front ++ rest ∧ byteLength front = offset := by
  rw [IsBoundary, String.Pos.Raw.isValid_iff_exists_append]
  constructor
  · rintro ⟨front, rest, rfl, hoffset⟩
    refine ⟨front.toList, rest.toList, String.toList_append, ?_⟩
    rw [← utf8ByteSize_ofList, String.ofList_toList]
    exact (congrArg String.Pos.Raw.byteIdx hoffset).symm
  · rintro ⟨front, rest, htext, rfl⟩
    refine ⟨String.ofList front, String.ofList rest, ?_, ?_⟩
    · rw [← String.ofList_append, ← htext, String.ofList_toList]
    · rw [String.rawEndPos, utf8ByteSize_ofList]

section Parts

variable {text : String} {front rest : List Char}

/-- The byte behind some of the characters of a text divides it into these and the others. -/
theorem exists_pos_splits (h : text.toList = front ++ rest) :
    ∃ hcut : IsBoundary text (byteLength front),
      String.Pos.Splits ⟨⟨byteLength front⟩, hcut⟩ (String.ofList front) (String.ofList rest) := by
  refine ⟨isBoundary_iff.mpr ⟨front, rest, h, rfl⟩, ?_, ?_⟩
  · rw [← String.ofList_append, ← h, String.ofList_toList]
  · rw [String.rawEndPos, utf8ByteSize_ofList]

/-- From the byte behind some of the characters of a text on, it consists of the others. -/
theorem from?_byteLength (h : text.toList = front ++ rest) :
    from? text (byteLength front) = some (String.ofList rest) := by
  obtain ⟨hcut, hsplits⟩ := exists_pos_splits h
  rw [from?, dif_pos hcut, (String.Pos.splits _).eq_right hsplits]

/-- Up to the byte behind some of the characters of a text, it consists of them. -/
theorem upTo?_byteLength (h : text.toList = front ++ rest) :
    upTo? text (byteLength front) = some (String.ofList front) := by
  obtain ⟨hcut, hsplits⟩ := exists_pos_splits h
  rw [upTo?, dif_pos hcut, (String.Pos.splits _).eq_left hsplits]

end Parts

/-- A part of a text from a byte on, with characters in it, begins before the text ends. -/
theorem lt_utf8ByteSize_of_from? {text slice : String} {offset : Nat} (h : from? text offset = some slice)
    (hslice : slice.toList ≠ []) : offset < text.utf8ByteSize := by
  have hcut : IsBoundary text offset := Decidable.byContradiction fun hnot ↦ by
    rw [from?, dif_neg hnot] at h
    cases h
  obtain ⟨front, rest, htext, rfl⟩ := isBoundary_iff.mp hcut
  obtain rfl := Option.some.inj ((from?_byteLength htext).symm.trans h)
  rw [String.toList_ofList] at hslice
  obtain ⟨c, more, rfl⟩ := List.exists_cons_of_ne_nil hslice
  have hpos := Char.utf8Size_pos c
  rw [← String.ofList_toList (s := text), htext, utf8ByteSize_ofList, byteLength_append, byteLength]
  omega

end HubRelay.Text
