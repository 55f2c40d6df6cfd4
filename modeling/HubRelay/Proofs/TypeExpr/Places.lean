import HubRelay.Proofs.Text.Slices
import HubRelay.Proofs.TypeExpr.Spelling

/-!
# Tokens in their places

A text that begins with a character other than white space begins with one token (`lexemeAt`), and the
rest of it is cut from behind this token (`scan_cons_eq`). What the token is depends on the text up to its
last character, and on nothing behind that but whether the token goes on (`exists_eq_append_restAt`). So
each token of a text has a place in it: the text before the place is cut into the tokens before, whatever
the rest of the text is, as long as it begins with the same character or there is none
(`exists_of_scan_eq_append`).

The tokens can also be read with nothing but the number of the byte where the next one is looked for, by
cutting the text there and looking at the slice (`scanSlices?`). The text can always be cut there, and the
tokens are the same (`scanSlices?_eq`).
-/

set_option autoImplicit false

namespace HubRelay.TypeExpr

/-! ### The first token -/

/-- The first token of a text that begins with a character, other than white space. -/
def lexemeAt (offset : Nat) (c : Char) (rest : List Char) : Lexeme :=
  if startsIdentifier c then
    ⟨.word (String.ofList (c :: rest.takeWhile continuesIdentifier)), c, offset,
      offset + Text.byteLength (c :: rest.takeWhile continuesIdentifier)⟩
  else if c = ':' ∧ rest.head? = some ':' then ⟨.doubleColon, c, offset, offset + 2⟩
  else ⟨.ofChar c, c, offset, offset + c.utf8Size⟩

/-- What is behind the first token of a text that begins with a character, other than white space. -/
def restAt (c : Char) (rest : List Char) : List Char :=
  if startsIdentifier c then rest.dropWhile continuesIdentifier
  else if c = ':' ∧ rest.head? = some ':' then rest.tail
  else rest

section First

variable {c : Char} {rest other : List Char}

@[simp] theorem lead_lexemeAt (offset : Nat) (c : Char) (rest : List Char) :
    (lexemeAt offset c rest).lead = c := by
  unfold lexemeAt
  split_ifs <;> rfl

@[simp] theorem start_lexemeAt (offset : Nat) (c : Char) (rest : List Char) :
    (lexemeAt offset c rest).start = offset := by
  unfold lexemeAt
  split_ifs <;> rfl

theorem Token.isWord_ofChar (c : Char) : (Token.ofChar c).isWord = false := by
  unfold Token.ofChar
  split <;> rfl

/-- The token is a word when an identifier can begin with the character. -/
@[simp] theorem isWord_token_lexemeAt (offset : Nat) (c : Char) (rest : List Char) :
    (lexemeAt offset c rest).token.isWord = startsIdentifier c := by
  unfold lexemeAt
  split_ifs with hstart
  · exact hstart.symm
  · exact (Bool.eq_false_iff.mpr hstart).symm
  · exact (Token.isWord_ofChar c).trans (Bool.eq_false_iff.mpr hstart).symm

theorem Token.ofChar_eq_greater_iff : Token.ofChar c = .greater ↔ c = '>' := by
  constructor
  · intro h
    have htext := Token.text_ofChar c
    rw [h] at htext
    exact (List.cons.inj htext).1.symm
  · rintro rfl
    rfl

/-- The token closes a type argument list when the character does. -/
theorem token_lexemeAt_eq_greater_iff {offset : Nat} :
    (lexemeAt offset c rest).token = .greater ↔ c = '>' := by
  obtain ⟨-, hgreater, -⟩ := not_word_of_mem_punctuation '>' (by decide)
  unfold lexemeAt
  split_ifs with hstart hcolon
  · refine iff_of_false (fun h ↦ nomatch h) ?_
    rintro rfl
    exact Bool.false_ne_true (hgreater.symm.trans hstart)
  · refine iff_of_false (fun h ↦ nomatch h) ?_
    rw [hcolon.1]
    decide
  · exact Token.ofChar_eq_greater_iff

/-- Behind a character that begins no word, the text matters only if it can go on with a second colon. -/
theorem lexemeAt_eq_of_head? {offset : Nat} (hstart : startsIdentifier c = false)
    (hcolon : c = ':' → (rest.head? = some ':' ↔ other.head? = some ':')) :
    lexemeAt offset c rest = lexemeAt offset c other := by
  have hnot : ¬ startsIdentifier c = true := Bool.eq_false_iff.mp hstart
  have hsame : c = ':' ∧ rest.head? = some ':' ↔ c = ':' ∧ other.head? = some ':' :=
    and_congr_right hcolon
  unfold lexemeAt
  rw [if_neg hnot, if_neg hnot]
  simp only [hsame]

/-- A text that begins with a character, other than white space, is cut behind the token. -/
theorem scan_cons_eq (hblank : Text.isBlank c = false) (offset : Nat) (rest : List Char) :
    scan offset (c :: rest) =
      lexemeAt offset c rest :: scan (lexemeAt offset c rest).stop (restAt c rest) := by
  rw [scan, if_neg (Bool.eq_false_iff.mp hblank), lexemeAt, restAt]
  split_ifs <;> rfl

/-- The first token is the same whatever is behind it, as long as this begins with the same character or
not at all. -/
theorem exists_eq_append_restAt (offset : Nat) (c : Char) (rest : List Char) :
    ∃ front, rest = front ++ restAt c rest ∧
      (lexemeAt offset c rest).stop = offset + Text.byteLength (c :: front) ∧
      ∀ text : List Char, (∀ d ∈ text.head?, d ∈ (restAt c rest).head?) →
        lexemeAt offset c (front ++ text) = lexemeAt offset c rest ∧
          restAt c (front ++ text) = text := by
  unfold lexemeAt restAt
  split_ifs with hstart hcolon
  · refine ⟨rest.takeWhile continuesIdentifier, List.takeWhile_append_dropWhile.symm, rfl,
      fun text htext ↦ ?_⟩
    have hends : EndsWord text := fun d hd ↦ by
      have hnot := List.head?_dropWhile_not continuesIdentifier rest
      rw [Option.mem_def.mp (htext d hd)] at hnot
      simpa using hnot
    have hall : ∀ d ∈ rest.takeWhile continuesIdentifier, continuesIdentifier d = true :=
      List.all_eq_true.mp List.all_takeWhile
    rw [List.takeWhile_append_of_pos hall, List.dropWhile_append_of_pos hall, hends.takeWhile_eq.1,
      hends.takeWhile_eq.2, List.append_nil]
    exact ⟨rfl, rfl⟩
  · obtain ⟨rfl, hhead⟩ := hcolon
    obtain ⟨more, rfl⟩ := List.head?_eq_some_iff.mp hhead
    exact ⟨[':'], rfl, rfl, fun text _ ↦ ⟨rfl, rfl⟩⟩
  · refine ⟨[], rfl, rfl, fun text htext ↦ ?_⟩
    rw [List.nil_append, if_neg fun h ↦ hcolon ⟨h.1, htext ':' h.2⟩,
      if_neg fun h ↦ hcolon ⟨h.1, htext ':' h.2⟩]
    exact ⟨rfl, rfl⟩

theorem length_restAt_le (c : Char) (rest : List Char) : (restAt c rest).length ≤ rest.length := by
  obtain ⟨front, hfront, -, -⟩ := exists_eq_append_restAt 0 c rest
  rw [congrArg List.length hfront, List.length_append]
  exact Nat.le_add_left _ _

end First

/-! ### Any token -/

/-- A text that may go on with a character begins as one that does, if there is a text in front. -/
theorem mem_head?_append {front rest after : List Char} {c : Char} (hrest : ∀ d ∈ rest.head?, d = c) :
    ∀ d ∈ (front ++ rest).head?, d ∈ (front ++ c :: after).head? := by
  intro d hd
  cases front with
  | nil =>
    rw [hrest d hd]
    rfl
  | cons first more => exact hd

/-- Each token has a place in the text. The tokens before it are those of every text that is the same up to
there and goes on with the same character or not at all. -/
theorem exists_of_scan_eq_append {offset : Nat} {text : List Char} {xs ys : List Lexeme} {x : Lexeme}
    (h : scan offset text = xs ++ x :: ys) :
    ∃ before c after, text = before ++ c :: after ∧ Text.isBlank c = false ∧
      x = lexemeAt (offset + Text.byteLength before) c after ∧
      ∀ rest : List Char, (∀ d ∈ rest.head?, d = c) →
        scan offset (before ++ rest) = xs ++ scan (offset + Text.byteLength before) rest := by
  match text with
  | [] =>
    rw [scan] at h
    exact absurd h.symm (List.append_ne_nil_of_right_ne_nil _ (List.cons_ne_nil _ _))
  | c :: rest =>
    by_cases hblank : Text.isBlank c = true
    · rw [scan, if_pos hblank] at h
      obtain ⟨before, d, after, rfl, hd, hx, hscan⟩ := exists_of_scan_eq_append h
      refine ⟨c :: before, d, after, rfl, hd, ?_, fun other hother ↦ ?_⟩
      · rw [Text.byteLength, ← Nat.add_assoc]
        exact hx
      · rw [List.cons_append, scan, if_pos hblank, hscan other hother, Text.byteLength, Nat.add_assoc]
    · have hblank := Bool.eq_false_iff.mpr hblank
      rw [scan_cons_eq hblank] at h
      cases xs with
      | nil =>
        obtain ⟨rfl, -⟩ := List.cons.inj h
        exact ⟨[], c, rest, rfl, hblank, rfl, fun other _ ↦ rfl⟩
      | cons first xs =>
        obtain ⟨rfl, hmore⟩ := List.cons.inj h
        obtain ⟨front, hfront, hstop, hsame⟩ := exists_eq_append_restAt offset c rest
        have hshorter := length_restAt_le c rest
        obtain ⟨before, d, after, hrest, hd, hx, hscan⟩ := exists_of_scan_eq_append hmore
        have hbytes : (lexemeAt offset c rest).stop + Text.byteLength before =
            offset + Text.byteLength (c :: (front ++ before)) := by
          rw [hstop, ← List.cons_append, Text.byteLength_append, Nat.add_assoc]
        rw [hbytes] at hx hscan
        refine ⟨c :: (front ++ before), d, after, ?_, hd, hx, fun other hother ↦ ?_⟩
        · rw [List.cons_append, List.append_assoc, ← hrest, ← hfront]
        · obtain ⟨hlexeme, htail⟩ := hsame (before ++ other) (hrest ▸ mem_head?_append hother)
          rw [List.cons_append, List.append_assoc, scan_cons_eq hblank, hlexeme, htail,
            hscan other hother]
          rfl
termination_by text.length
decreasing_by
  · simp
  · simp only [List.length_cons]
    omega

/-! ### Tokens read from slices -/

/-- The tokens of a text from a byte on, read with the number of the byte alone: the text is cut there,
and the slice is looked at. There are none if it cannot be cut. -/
def scanSlices? (text : String) (offset : Nat) : Option (List Lexeme) :=
  match hslice : Text.from? text offset with
  | none => none
  | some slice =>
    match hchars : slice.toList with
    | [] => some []
    | c :: rest =>
      have _ := Text.lt_utf8ByteSize_of_from? hslice (hchars ▸ List.cons_ne_nil c rest)
      have _ := Char.utf8Size_pos c
      if Text.isBlank c then scanSlices? text (offset + c.utf8Size)
      else if startsIdentifier c then
        let length := Text.byteLength (c :: rest.takeWhile continuesIdentifier)
        (Text.upTo? slice length).bind fun word ↦
          (scanSlices? text (offset + length)).map (⟨.word word, c, offset, offset + length⟩ :: ·)
      else if c = ':' ∧ rest.head? = some ':' then
        (scanSlices? text (offset + 2)).map (⟨.doubleColon, c, offset, offset + 2⟩ :: ·)
      else
        (scanSlices? text (offset + c.utf8Size)).map
          (⟨.ofChar c, c, offset, offset + c.utf8Size⟩ :: ·)
termination_by text.utf8ByteSize - offset
decreasing_by
  · omega
  · rw [Text.byteLength]
    omega
  · omega
  · omega

section Slices

variable {text : String} {front rest : List Char} {c : Char}

/-- At the end of a text there are no more tokens. -/
theorem scanSlices?_of_eq (h : text.toList = front) :
    scanSlices? text (Text.byteLength front) = some [] := by
  have hslice := Text.from?_byteLength (h.trans (List.append_nil front).symm)
  rw [scanSlices?]
  split
  · next hnone => cases hslice.symm.trans hnone
  · next slice hsome =>
    obtain rfl := Option.some.inj (hslice.symm.trans hsome)
    rfl

/-- Behind some of the characters of a text, the next one is passed over or begins a token. -/
theorem scanSlices?_of_eq_append_cons (h : text.toList = front ++ c :: rest) :
    scanSlices? text (Text.byteLength front) =
      if Text.isBlank c then scanSlices? text (Text.byteLength front + c.utf8Size)
      else (scanSlices? text (lexemeAt (Text.byteLength front) c rest).stop).map
        (lexemeAt (Text.byteLength front) c rest :: ·) := by
  have hslice := Text.from?_byteLength h
  have hword : (String.ofList (c :: rest)).toList =
      (c :: rest.takeWhile continuesIdentifier) ++ rest.dropWhile continuesIdentifier := by
    rw [String.toList_ofList, List.cons_append, List.takeWhile_append_dropWhile]
  rw [scanSlices?]
  split
  · next hnone => cases hslice.symm.trans hnone
  · next slice hsome =>
    obtain rfl := Option.some.inj (hslice.symm.trans hsome)
    split
    · next hchars => cases String.toList_ofList.symm.trans hchars
    · next d more hchars =>
      obtain ⟨rfl, rfl⟩ := List.cons.inj (String.toList_ofList.symm.trans hchars)
      unfold lexemeAt
      split_ifs
      · rfl
      · dsimp only
        rw [Text.upTo?_byteLength hword, Option.bind_some]
      · rfl
      · rfl

/-- Behind any of its characters a text can be cut, and the tokens of the rest are read from there. -/
theorem scanSlices?_byteLength {front rest : List Char} (h : text.toList = front ++ rest) :
    scanSlices? text (Text.byteLength front) = some (scan (Text.byteLength front) rest) := by
  match rest, h with
  | [], h => rw [scanSlices?_of_eq (h.trans (List.append_nil front)), scan]
  | c :: rest, h =>
    rw [scanSlices?_of_eq_append_cons h]
    by_cases hblank : Text.isBlank c = true
    · have hmore := scanSlices?_byteLength (h.trans (List.append_cons front c rest))
      rw [Text.byteLength_append] at hmore
      rw [if_pos hblank, scan, if_pos hblank]
      exact hmore
    · obtain ⟨word, hword, hstop, -⟩ := exists_eq_append_restAt (Text.byteLength front) c rest
      have htext : text.toList = (front ++ c :: word) ++ restAt c rest := by
        rw [List.append_assoc, List.cons_append, ← hword, h]
      have hmore := scanSlices?_byteLength htext
      rw [Text.byteLength_append, ← hstop] at hmore
      rw [if_neg hblank, scan_cons_eq (Bool.eq_false_iff.mpr hblank), hmore]
      rfl
termination_by rest.length
decreasing_by
  · exact Nat.lt_succ_self _
  · exact Nat.lt_succ_of_le (length_restAt_le c _)

end Slices

/-- The tokens of a text are read from slices of it, none of which cuts through a character. -/
theorem scanSlices?_eq (text : String) : scanSlices? text 0 = some (scan 0 text.toList) :=
  scanSlices?_byteLength (List.nil_append text.toList).symm

end HubRelay.TypeExpr
