import HubRelay.Proofs.TypeExpr.Grammar
import Mathlib.Data.List.Chain
import Mathlib.Data.List.TakeWhile

/-!
# Texts that spell tokens

A text spells a list of tokens when it consists of their characters, in order, with any white space
before, between and after them (`Spells`). Every text spells the tokens it is cut into
(`spells_map_token_scan`). Conversely a text that spells legal tokens, no two words of which are
neighbours, is cut into just these (`map_token_scan_of_spells`): a word ends where the next token or
white space begins, so it is read whole and nothing is added to it.

Two texts, the second of which does not go on with the last token of the first, have the tokens of the
one and then those of the other (`map_token_scan_append`).

The tokens of a type expression never have two words next to each other
(`isChain_tokens`), and its normal form spells them (`spells_render`).
-/

set_option autoImplicit false

namespace HubRelay.TypeExpr

/-! ### The relation -/

/-- The characters that a token is written with. -/
def Token.text : Token → List Char
  | word text => text.toList
  | doubleColon => [':', ':']
  | dot => ['.']
  | comma => [',']
  | less => ['<']
  | greater => ['>']
  | leftBracket => ['[']
  | rightBracket => [']']
  | question => ['?']
  | stray c => [c]

/-- The text consists of the characters of the tokens and of white space around them. -/
inductive Spells : List Token → List Char → Prop
  | nil {blanks : List Char} (hblanks : ∀ c ∈ blanks, Text.isBlank c = true) : Spells [] blanks
  | cons {blanks rest : List Char} {token : Token} {more : List Token}
      (hblanks : ∀ c ∈ blanks, Text.isBlank c = true) (hrest : Spells more rest) :
      Spells (token :: more) (blanks ++ (token.text ++ rest))

namespace Spells

variable {tokens more : List Token} {text rest : List Char}

/-- White space may be put in front. -/
theorem blanks_append {blanks : List Char} (hblanks : ∀ c ∈ blanks, Text.isBlank c = true)
    (h : Spells tokens text) : Spells tokens (blanks ++ text) := by
  cases h with
  | nil hmore => exact .nil fun c hc ↦ (List.mem_append.mp hc).elim (hblanks c) (hmore c)
  | cons hmore hrest =>
    rw [← List.append_assoc]
    exact .cons (fun c hc ↦ (List.mem_append.mp hc).elim (hblanks c) (hmore c)) hrest

/-- A token may be put in front. -/
theorem text_append (token : Token) (h : Spells tokens text) :
    Spells (token :: tokens) (token.text ++ text) := by
  have hblanks : ∀ c ∈ ([] : List Char), Text.isBlank c = true :=
    List.forall_mem_nil _
  exact .cons hblanks h

/-- Two texts one after the other spell their tokens one after the other. -/
theorem append (h : Spells tokens text) (hmore : Spells more rest) :
    Spells (tokens ++ more) (text ++ rest) := by
  induction h with
  | nil hblanks => exact hmore.blanks_append hblanks
  | cons hblanks _ ih =>
    rw [List.append_assoc, List.append_assoc, List.cons_append]
    exact .cons hblanks ih

/-- Without its white space the text is the characters of the tokens. Assumes: legal tokens. -/
theorem withoutBlanks_eq (h : Spells tokens text) (hlegal : ∀ token ∈ tokens, token.IsLegal) :
    Text.withoutBlanks text = tokens.flatMap Token.text := by
  induction h with
  | nil hblanks => exact Text.withoutBlanks_eq_nil hblanks
  | @cons blanks rest token more hblanks _ ih =>
    have htoken : Text.withoutBlanks token.text = token.text := by
      refine Text.withoutBlanks_eq_self ?_
      have hthis := hlegal token List.mem_cons_self
      cases token with
      | word word => exact fun c hc ↦ isBlank_eq_false_of_mem_identifier hthis hc
      | stray c => exact hthis.elim
      | _ => exact Text.isBlank_eq_false_of_all (by decide)
    rw [Text.withoutBlanks_append, Text.withoutBlanks_append, Text.withoutBlanks_eq_nil hblanks,
      htoken, ih fun other hother ↦ hlegal other (List.mem_cons_of_mem _ hother), List.nil_append,
      List.flatMap_cons]

end Spells

/-! ### Every text spells its tokens -/

@[simp] theorem Token.text_ofChar (c : Char) : (Token.ofChar c).text = [c] := by
  unfold Token.ofChar
  split <;> rfl

/-- A text spells the tokens that it is cut into. -/
theorem spells_map_token_scan (offset : Nat) (text : List Char) :
    Spells ((scan offset text).map Lexeme.token) text := by
  induction offset, text using scan.induct with
  | case1 offset =>
    rw [scan]
    exact .nil (List.forall_mem_nil _)
  | case2 offset c rest hblank ih =>
    rw [scan, if_pos hblank]
    have hblanks : ∀ d ∈ [c], Text.isBlank d = true := fun d hd ↦ by
      rwa [List.mem_singleton.mp hd]
    exact ih.blanks_append hblanks
  | case3 offset c rest hblank hstart stop ih =>
    rw [scan, if_neg hblank, if_pos hstart, List.map_cons]
    have hword := ih.text_append (.word (String.ofList (c :: rest.takeWhile continuesIdentifier)))
    rwa [Token.text, String.toList_ofList, List.cons_append,
      List.takeWhile_append_dropWhile] at hword
  | case4 offset c rest hblank hstart hcolon ih =>
    rw [scan, if_neg hblank, if_neg hstart, if_pos hcolon, List.map_cons]
    obtain ⟨rfl, hhead⟩ := hcolon
    obtain ⟨more, rfl⟩ := List.head?_eq_some_iff.mp hhead
    exact ih.text_append .doubleColon
  | case5 offset c rest hblank hstart hcolon ih =>
    rw [scan, if_neg hblank, if_neg hstart, if_neg hcolon, List.map_cons]
    have hchar := ih.text_append (.ofChar c)
    rwa [Token.text_ofChar] at hchar

/-- The words that a text is cut into are identifiers. -/
theorem isIdentifier_of_mem_scan {offset : Nat} {text : List Char} :
    ∀ x ∈ scan offset text, ∀ word, x.token = .word word → isIdentifier word = true := by
  induction offset, text using scan.induct with
  | case1 offset => simp [scan]
  | case2 offset c rest hblank ih => rwa [scan, if_pos hblank]
  | case3 offset c rest hblank hstart stop ih =>
    rw [scan, if_neg hblank, if_pos hstart, List.forall_mem_cons]
    refine ⟨fun word hword ↦ ?_, ih⟩
    rw [← Token.word.inj hword, isIdentifier_iff]
    exact ⟨c, _, String.toList_ofList, hstart, List.all_eq_true.mp List.all_takeWhile⟩
  | case4 offset c rest hblank hstart hcolon ih =>
    rw [scan, if_neg hblank, if_neg hstart, if_pos hcolon, List.forall_mem_cons]
    exact ⟨fun word hword ↦ Token.noConfusion hword, ih⟩
  | case5 offset c rest hblank hstart hcolon ih =>
    rw [scan, if_neg hblank, if_neg hstart, if_neg hcolon, List.forall_mem_cons]
    refine ⟨fun word hword ↦ ?_, ih⟩
    unfold Token.ofChar at hword
    split at hword <;> exact Token.noConfusion hword

/-! ### Texts cut into the tokens they spell -/

/-- Whether a token is a word. -/
def Token.isWord : Token → Bool
  | word _ => true
  | _ => false

/-- Two tokens that can follow each other without white space between them: not both are words. -/
def Token.Parted (first second : Token) : Prop := ¬ (first.isWord ∧ second.isWord)

/-- White space is passed over. -/
theorem scan_blanks_append {blanks : List Char} (hblanks : ∀ c ∈ blanks, Text.isBlank c = true)
    (offset : Nat) (text : List Char) :
    scan offset (blanks ++ text) = scan (offset + Text.byteLength blanks) text := by
  induction blanks generalizing offset with
  | nil => rfl
  | cons c rest ih =>
    rw [List.cons_append, scan, if_pos (hblanks c List.mem_cons_self),
      ih fun d hd ↦ hblanks d (List.mem_cons_of_mem _ hd), Text.byteLength, Nat.add_assoc]

/-- The characters that a token other than a word can begin with. -/
def punctuation : List Char := [':', '.', ',', '<', '>', '[', ']', '?']

/-- Punctuation is neither white space nor part of a word. -/
theorem not_word_of_mem_punctuation : ∀ c ∈ punctuation,
    Text.isBlank c = false ∧ startsIdentifier c = false ∧ continuesIdentifier c = false := by
  have hall : punctuation.all (fun c ↦ !Text.isBlank c && Nat.blt c.toNat 0x80 && c != '@' && c != '_' &&
      !Text.inRanges [(0x30, 0x39), (0x41, 0x5A), (0x61, 0x7A)] c.toNat) = true := by decide
  intro c hc
  have hthis := List.all_eq_true.mp hall c hc
  simp only [Bool.and_eq_true, Bool.not_eq_true', bne_iff_ne, Nat.blt_eq] at hthis
  obtain ⟨⟨⟨⟨hblank, hlt⟩, hat⟩, hlow⟩, hranges⟩ := hthis
  exact ⟨hblank, not_word_of_lt hlt hat hlow hranges⟩

/-- A text does not begin with a character of a word. -/
def EndsWord (text : List Char) : Prop := ∀ c ∈ text.head?, continuesIdentifier c = false

/-- Assumes: legal tokens. A text that spells them and does not begin with a word ends the word in
front of it. -/
theorem endsWord_of_spells {tokens : List Token} {text : List Char} (h : Spells tokens text)
    (hlegal : ∀ token ∈ tokens, token.IsLegal) (hhead : ∀ token ∈ tokens.head?, ¬ token.isWord) :
    EndsWord text := by
  cases h with
  | nil hblanks =>
    intro c hc
    rw [← Bool.not_eq_true]
    intro hcontinues
    have hblank := hblanks c (List.mem_of_mem_head? hc)
    rw [isBlank_eq_false_of_continuesIdentifier hcontinues] at hblank
    exact Bool.noConfusion hblank
  | @cons blanks rest token more hblanks _ =>
    intro c hc
    cases blanks with
    | cons b others =>
      obtain rfl : b = c := Option.some.inj hc
      rw [← Bool.not_eq_true]
      intro hcontinues
      have hblank := hblanks b List.mem_cons_self
      rw [isBlank_eq_false_of_continuesIdentifier hcontinues] at hblank
      exact Bool.noConfusion hblank
    | nil =>
      have hthis := hlegal token List.mem_cons_self
      have hword := hhead token rfl
      refine (not_word_of_mem_punctuation c ?_).2.2
      cases token with
      | word word => exact absurd rfl hword
      | stray d => exact hthis.elim
      | _ =>
        obtain rfl := Option.some.inj hc
        decide

/-- Nothing is taken as more of a word from a text that ends it. -/
theorem EndsWord.takeWhile_eq {text : List Char} (h : EndsWord text) :
    text.takeWhile continuesIdentifier = [] ∧ text.dropWhile continuesIdentifier = text := by
  cases text with
  | nil => exact ⟨rfl, rfl⟩
  | cons c rest =>
    rw [List.takeWhile_cons, List.dropWhile_cons, h c rfl]
    exact ⟨rfl, rfl⟩

/-- A word in front of a text that ends it is cut off whole. -/
theorem map_token_scan_word {word : String} (hword : isIdentifier word = true) {text : List Char}
    (htext : EndsWord text) (offset : Nat) :
    (scan offset (word.toList ++ text)).map Lexeme.token =
      .word word :: (scan (offset + Text.byteLength word.toList) text).map Lexeme.token := by
  obtain ⟨c, rest, hsplit, hstart, hrest⟩ := isIdentifier_iff.mp hword
  have hstop := htext.takeWhile_eq
  rw [hsplit, List.cons_append, scan,
    if_neg (Bool.not_eq_true _ ▸ isBlank_eq_false_of_startsIdentifier hstart), if_pos hstart,
    List.takeWhile_append_of_pos hrest, List.dropWhile_append_of_pos hrest, hstop.1, hstop.2,
    List.append_nil, List.map_cons, ← hsplit, String.ofList_toList]

/-- A single mark in front of a text is cut off. -/
theorem map_token_scan_mark {c : Char} (hc : c ∈ punctuation) (hcolon : c ≠ ':') (offset : Nat)
    (text : List Char) :
    (scan offset (c :: text)).map Lexeme.token =
      .ofChar c :: (scan (offset + c.utf8Size) text).map Lexeme.token := by
  obtain ⟨hblank, hstart, -⟩ := not_word_of_mem_punctuation c hc
  rw [scan, if_neg (Bool.not_eq_true _ ▸ hblank), if_neg (Bool.not_eq_true _ ▸ hstart),
    if_neg fun h ↦ hcolon h.1, List.map_cons]

/-- Two colons in front of a text are cut off together. -/
theorem map_token_scan_doubleColon (offset : Nat) (text : List Char) :
    (scan offset (':' :: ':' :: text)).map Lexeme.token =
      .doubleColon :: (scan (offset + 2) text).map Lexeme.token := by
  obtain ⟨hblank, hstart, -⟩ := not_word_of_mem_punctuation ':' (by decide)
  rw [scan, if_neg (Bool.not_eq_true _ ▸ hblank), if_neg (Bool.not_eq_true _ ▸ hstart),
    if_pos ⟨rfl, rfl⟩, List.map_cons, List.tail_cons]

/-- Assumes: legal tokens, no two words of which are neighbours. A text that spells them is cut into
them. -/
theorem map_token_scan_of_spells {tokens : List Token} {text : List Char} (h : Spells tokens text)
    (hlegal : ∀ token ∈ tokens, token.IsLegal) (hchain : tokens.IsChain Token.Parted)
    (offset : Nat) : (scan offset text).map Lexeme.token = tokens := by
  induction h generalizing offset with
  | @nil blanks hblanks =>
    rw [← List.append_nil blanks, scan_blanks_append hblanks, scan, List.map_nil]
  | @cons blanks rest token more hblanks hrest ih =>
    have hmore := fun other hother ↦ hlegal other (List.mem_cons_of_mem token hother)
    have ih := ih hmore hchain.tail
    have hthis := hlegal token List.mem_cons_self
    rw [scan_blanks_append hblanks]
    cases token with
    | word word =>
      have hends : EndsWord rest := endsWord_of_spells hrest hmore fun next hnext hword ↦
        (List.isChain_cons.mp hchain).1 next hnext ⟨rfl, hword⟩
      rw [Token.text, map_token_scan_word hthis hends, ih]
    | doubleColon => rw [Token.text, List.cons_append, List.cons_append, List.nil_append,
        map_token_scan_doubleColon, ih]
    | stray c => exact hthis.elim
    | _ =>
      rw [Token.text, List.cons_append, List.nil_append,
        map_token_scan_mark (by decide) (by decide), ih]
      rfl

/-! ### Texts one after the other -/

/-- The tokens of a text do not depend on where it stands. -/
theorem map_token_scan_eq (offset other : Nat) (text : List Char) :
    (scan offset text).map Lexeme.token = (scan other text).map Lexeme.token := by
  induction offset, text using scan.induct generalizing other with
  | case1 offset => rw [scan, scan]
  | case2 offset c rest hblank ih =>
    rw [scan, if_pos hblank, scan, if_pos hblank]
    exact ih _
  | case3 offset c rest hblank hstart stop ih =>
    rw [scan, if_neg hblank, if_pos hstart, scan, if_neg hblank, if_pos hstart, List.map_cons,
      List.map_cons]
    exact congrArg _ (ih _)
  | case4 offset c rest hblank hstart hcolon ih =>
    rw [scan, if_neg hblank, if_neg hstart, if_pos hcolon, scan, if_neg hblank, if_neg hstart,
      if_pos hcolon, List.map_cons, List.map_cons]
    exact congrArg _ (ih _)
  | case5 offset c rest hblank hstart hcolon ih =>
    rw [scan, if_neg hblank, if_neg hstart, if_neg hcolon, scan, if_neg hblank, if_neg hstart,
      if_neg hcolon, List.map_cons, List.map_cons]
    exact congrArg _ (ih _)

/-- Two characters that stand next to each other can belong to one token. -/
def Joins (last next : Char) : Prop :=
  (startsIdentifier last ∨ continuesIdentifier last) ∧ continuesIdentifier next ∨
    last = ':' ∧ next = ':'

/-- A text does not go on with the last token of another one. -/
def PartsFrom (front text : List Char) : Prop :=
  ∀ last ∈ front.getLast?, ∀ next ∈ text.head?, ¬ Joins last next

theorem PartsFrom.of_suffix {front rest text : List Char} (h : PartsFrom front text)
    (hrest : rest <:+ front) : PartsFrom rest text := by
  obtain ⟨before, rfl⟩ := hrest
  intro last hlast
  refine h last ?_
  rw [List.getLast?_append, Option.mem_def.mp hlast]
  rfl

/-- Assumes: a text that consists of a word. Another one that does not go on with its last token ends
the word. -/
theorem PartsFrom.endsWord {c : Char} {rest text : List Char} (h : PartsFrom (c :: rest) text)
    (hstart : startsIdentifier c = true) (hrest : ∀ d ∈ rest, continuesIdentifier d = true) :
    EndsWord text := by
  have hlast := List.getLast?_eq_some_getLast (List.cons_ne_nil c rest)
  have hword : ∀ d ∈ c :: rest, startsIdentifier d ∨ continuesIdentifier d :=
    List.forall_mem_cons.mpr ⟨.inl hstart, fun d hd ↦ .inr (hrest d hd)⟩
  exact fun next hnext ↦ Bool.eq_false_iff.mpr fun hcontinues ↦
    h _ hlast next hnext (.inl ⟨hword _ (List.getLast_mem _), hcontinues⟩)

/-- Assumes: a text that does not go on with the last token of another one. The tokens of both together
are those of the one and those of the other. -/
theorem map_token_scan_append {front text : List Char} (h : PartsFrom front text)
    (offset other : Nat) :
    (scan offset (front ++ text)).map Lexeme.token =
      (scan offset front).map Lexeme.token ++ (scan other text).map Lexeme.token := by
  induction offset, front using scan.induct with
  | case1 offset => rw [scan, List.nil_append, List.map_nil, List.nil_append, map_token_scan_eq]
  | case2 offset c rest hblank ih =>
    rw [List.cons_append, scan, if_pos hblank, scan, if_pos hblank]
    exact ih (h.of_suffix (List.suffix_cons c rest))
  | case3 offset c rest hblank hstart stop ih =>
    rw [List.cons_append, scan, if_neg hblank, if_pos hstart, scan, if_neg hblank, if_pos hstart,
      List.map_cons, List.map_cons, List.cons_append]
    -- Either the word is all of the first text, or it ends in there.
    by_cases hall : ∀ d ∈ rest, continuesIdentifier d = true
    · obtain ⟨hnone, htext⟩ := (h.endsWord hstart hall).takeWhile_eq
      rw [List.takeWhile_append_of_pos hall, List.dropWhile_append_of_pos hall, hnone, htext,
        List.append_nil, List.takeWhile_eq_self_iff.mpr hall, List.dropWhile_eq_nil_iff.mpr hall,
        scan]
      exact congrArg _ (map_token_scan_eq _ _ text)
    · have hword : (rest ++ text).takeWhile continuesIdentifier =
          rest.takeWhile continuesIdentifier := by
        rw [List.takeWhile_append, if_neg]
        exact fun hlength ↦ hall (List.takeWhile_eq_self_iff.mp
          ((List.takeWhile_prefix _).eq_of_length hlength))
      have hmore : (rest ++ text).dropWhile continuesIdentifier =
          rest.dropWhile continuesIdentifier ++ text := by
        rw [List.dropWhile_append, if_neg]
        exact fun hempty ↦ hall (List.dropWhile_eq_nil_iff.mp (List.isEmpty_iff.mp hempty))
      rw [hword, hmore]
      exact congrArg _ (ih (h.of_suffix
        ((List.dropWhile_suffix _).trans (List.suffix_cons c rest))))
  | case4 offset c rest hblank hstart hcolon ih =>
    obtain ⟨rfl, hhead⟩ := hcolon
    obtain ⟨more, rfl⟩ := List.head?_eq_some_iff.mp hhead
    rw [List.cons_append, scan, if_neg hblank, if_neg hstart, if_pos ⟨rfl, rfl⟩, scan,
      if_neg hblank, if_neg hstart, if_pos ⟨rfl, rfl⟩, List.map_cons, List.map_cons,
      List.cons_append]
    exact congrArg _ (ih (h.of_suffix ((List.suffix_cons _ _).trans (List.suffix_cons _ _))))
  | case5 offset c rest hblank hstart hcolon ih =>
    have hcolons : ¬ (c = ':' ∧ (rest ++ text).head? = some ':') := by
      rintro ⟨rfl, hhead⟩
      cases rest with
      | nil => exact h ':' rfl ':' hhead (.inr ⟨rfl, rfl⟩)
      | cons d more => exact hcolon ⟨rfl, hhead⟩
    rw [List.cons_append, scan, if_neg hblank, if_neg hstart, if_neg hcolons, scan, if_neg hblank,
      if_neg hstart, if_neg hcolon, List.map_cons, List.map_cons, List.cons_append]
    exact congrArg _ (ih (h.of_suffix (List.suffix_cons c rest)))

/-! ### The tokens of a type expression -/

/-- Two lists of tokens with a mark between them have no two words as neighbours when neither list
has. -/
theorem isChain_append_mark {before after : List Token} (mark : Token)
    (hmark : mark.isWord = false) (hbefore : before.IsChain Token.Parted)
    (hafter : after.IsChain Token.Parted) :
    (before ++ mark :: after).IsChain Token.Parted := by
  have hleft : (before ++ [mark]).IsChain Token.Parted := by
    refine hbefore.append (List.isChain_singleton _) fun x _ y hy ↦ ?_
    obtain rfl := Option.some.inj hy
    rw [Token.Parted, hmark]
    exact fun h ↦ Bool.noConfusion h.2
  have hright : (mark :: after).IsChain Token.Parted := by
    refine List.isChain_cons.mpr ⟨fun y _ ↦ ?_, hafter⟩
    rw [Token.Parted, hmark]
    exact fun h ↦ Bool.noConfusion h.1
  exact List.isChain_split.mpr ⟨hleft, hright⟩

mutual

/-- No two words among the tokens of a type expression are neighbours. -/
theorem isChain_tokens : ∀ t : TypeExpr, t.tokens.IsChain Token.Parted
  | keyword _ => List.isChain_singleton _
  | simple _ => List.isChain_singleton _
  | generic identifier arguments => by
    rw [tokens]
    have hlist := isChain_append_mark .greater rfl (isChain_tokensOfAll arguments) .nil
    exact isChain_append_mark .less rfl (List.isChain_singleton (.word identifier)) hlist
  | qualified left right => by
    rw [tokens]
    exact isChain_append_mark .dot rfl (isChain_tokens left) (isChain_tokens right)
  | aliased label name => by
    rw [tokens]
    exact isChain_append_mark .doubleColon rfl (List.isChain_singleton (.word label))
      (isChain_tokens name)
  | array element rank => by
    have hcommas : (List.replicate (rank - 1) Token.comma).IsChain Token.Parted :=
      List.isChain_replicate_of_rel _ fun h ↦ Bool.noConfusion h.1
    have hsuffix := isChain_append_mark .rightBracket rfl hcommas .nil
    rw [tokens]
    exact isChain_append_mark .leftBracket rfl (isChain_tokens element) hsuffix
  | nullable inner => by
    rw [tokens]
    exact isChain_append_mark .question rfl (isChain_tokens inner) .nil

/-- No two words among the tokens of type arguments are neighbours. -/
theorem isChain_tokensOfAll : ∀ ts : List TypeExpr, (tokensOfAll ts).IsChain Token.Parted
  | [] => .nil
  | [last] => isChain_tokens last
  | first :: next :: rest => by
    rw [tokensOfAll_cons_cons]
    exact isChain_append_mark .comma rfl (isChain_tokens first) (isChain_tokensOfAll (next :: rest))

end

/-- A text that is written as one token spells it. -/
theorem spells_singleton (token : Token) {text : String} (h : text.toList = token.text) :
    Spells [token] text.toList := by
  have hend : Spells [] [] := .nil (List.forall_mem_nil _)
  rw [h, ← List.append_nil token.text]
  exact hend.text_append token

/-- The characters of an array suffix. -/
theorem toList_rankSuffix (rank : Nat) :
    (rankSuffix rank).toList = '[' :: (List.replicate (rank - 1) ',' ++ [']']) := by
  rw [rankSuffix, String.toList_append, String.toList_append, Text.toList_pushn]
  rfl

/-- An array suffix spells its brackets and commas. -/
theorem spells_rankSuffix (rank : Nat) :
    Spells (.leftBracket :: (List.replicate (rank - 1) .comma ++ [.rightBracket]))
      (rankSuffix rank).toList := by
  have hclose : Spells [.rightBracket] "]".toList := spells_singleton .rightBracket rfl
  have hcommas : ∀ n, Spells (List.replicate n .comma ++ [.rightBracket])
      (List.replicate n ',' ++ [']']) := by
    intro n
    induction n with
    | zero => exact hclose
    | succ n ih => exact ih.text_append .comma
  rw [toList_rankSuffix]
  exact (hcommas (rank - 1)).text_append .leftBracket

mutual

/-- The normal form of a type expression spells its tokens. -/
theorem spells_render : ∀ t : TypeExpr, Spells t.tokens t.render.toList
  | keyword word => spells_singleton (.word word) rfl
  | simple identifier => spells_singleton (.word identifier) rfl
  | generic identifier arguments => by
    have hopen := (spells_singleton (.word identifier) rfl).append
      (spells_singleton .less (rfl : "<".toList = _))
    have hclose := (spells_renderArguments arguments).append
      (spells_singleton .greater (rfl : ">".toList = _))
    rw [tokens, render, String.toList_append, String.toList_append, String.toList_append,
      List.append_assoc]
    exact hopen.append hclose
  | qualified left right => by
    have hdot := (spells_singleton .dot (rfl : ".".toList = _)).append (spells_render right)
    rw [tokens, render, String.toList_append, String.toList_append, List.append_assoc]
    exact (spells_render left).append hdot
  | aliased label name => by
    have hcolon := (spells_singleton .doubleColon (rfl : "::".toList = _)).append
      (spells_render name)
    rw [tokens, render, String.toList_append, String.toList_append, List.append_assoc]
    exact (spells_singleton (.word label) rfl).append hcolon
  | array element rank => by
    rw [tokens, render, String.toList_append]
    exact (spells_render element).append (spells_rankSuffix rank)
  | nullable inner => by
    rw [tokens, render, String.toList_append]
    exact (spells_render inner).append (spells_singleton .question rfl)

/-- The normal forms of type arguments, joined, spell the tokens of the arguments. -/
theorem spells_renderArguments :
    ∀ ts : List TypeExpr, Spells (tokensOfAll ts) (renderArguments ts).toList
  | [] => .nil (List.forall_mem_nil _)
  | [last] => spells_render last
  | first :: next :: rest => by
    have hspace : Spells [] [' '] := .nil fun c hc ↦ by
      rw [List.mem_singleton.mp hc]
      decide
    have hcomma : Spells [.comma] ", ".toList := hspace.text_append .comma
    have hmore := hcomma.append (spells_renderArguments (next :: rest))
    rw [tokensOfAll_cons_cons, renderArguments, String.toList_append, String.toList_append,
      List.append_assoc]
    · exact (spells_render first).append hmore
    · simp

end

end HubRelay.TypeExpr
