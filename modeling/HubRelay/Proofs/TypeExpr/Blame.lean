import HubRelay.Proofs.TypeExpr.Completeness
import HubRelay.Proofs.TypeExpr.Places

/-!
# The character that a text is refused for

A refusal names the first character that cannot stand where it does. Whatever has been read when a token
is refused for its first character is a type or the beginning of one (`CanEnd`), and every other token
that begins with this character is refused like it (`Blames`, `step_blames`). One token alone begins like
another one and is not a longer word: a colon, which is followed by a second one or not.

The tokens before the refused one are those of the text before it (`exists_of_scan_eq_append`), so all
this is true of the texts as well (`parse_blames`).
-/

set_option autoImplicit false

namespace HubRelay.TypeExpr

/-! ### Where a text may end -/

/-- What has been read is a type or, as far as it goes, the beginning of one. -/
def CanEnd (result : Except SyntaxError TypeExpr) : Prop :=
  (∃ t, result = .ok t) ∨ result = .error .unexpectedEnd

/-- An error where all but the errors of the depth limit are excluded. -/
theorem Reads.exists_eq_tooDeep {α : Type} {fits : Prop} {P : α → Prop} {result : Except SyntaxError α}
    {reason : SyntaxError} (h : Reads fits P result) (hresult : result = .error reason) :
    ∃ offset, reason = .tooDeep offset := by
  subst hresult
  match reason, h with
  | .tooDeep offset, _ => exact ⟨offset, rfl⟩

/-- A type that has been read can end, inside open lists or outside. -/
theorem canEnd_whole (lists : List OpenList) (node : Sized) :
    CanEnd (if lists.isEmpty then .ok node.expr else .error .unexpectedEnd) := by
  split_ifs
  · exact .inl ⟨node.expr, rfl⟩
  · exact .inr rfl

/-- The end of a text is refused because there is more to come, or for the depth. -/
theorem finish_eq_error {s : State} {reason : SyntaxError} (h : s.finish = .error reason) :
    reason = .unexpectedEnd ∨ ∃ offset, reason = .tooDeep offset := by
  obtain ⟨lists, phase, stop⟩ := s
  have hwhole {node : Sized} (hend : (if lists.isEmpty then .ok node.expr else .error .unexpectedEnd :
      Except SyntaxError TypeExpr) = .error reason) : reason = .unexpectedEnd := by
    split_ifs at hend
    exact (Except.error.inj hend).symm
  cases phase with
  | identifier join text =>
    rcases bind_eq_error_iff.mp h with happly | ⟨node, -, hend⟩
    · exact .inr ((reads_apply join _).exists_eq_tooDeep happly)
    · exact .inl (hwhole hend)
  | listStart join text offset =>
    unfold State.finish at h
    dsimp only at h
    split_ifs at h
    · exact .inr ⟨offset, (Except.error.inj h).symm⟩
    · exact .inl (Except.error.inj h).symm
  | name node | suffixed node => exact .inl (hwhole h)
  | typeStart | nameStart join | ranks element rank offset => exact .inl (Except.error.inj h).symm

/-! ### Tokens that are refused -/

theorem Token.exists_eq_word {token : Token} (h : token.isWord = true) : ∃ text, token = .word text := by
  cases token with
  | word text => exact ⟨text, rfl⟩
  | _ => cases h

/-- A type begins with a word. -/
theorem beginType_eq_error {lists : List OpenList} {x : Lexeme} {reason : SyntaxError}
    (h : beginType lists x = .error reason) :
    x.token.isWord = false ∧ reason = .expectedIdentifier x.start := by
  unfold beginType at h
  split at h
  · split at h <;> cases h
  · next hother =>
    refine ⟨Bool.eq_false_iff.mpr fun hx ↦ ?_, (Except.error.inj h).symm⟩
    obtain ⟨text, htoken⟩ := Token.exists_eq_word hx
    exact hother text htoken

theorem beginType_of_isWord_eq_false {lists : List OpenList} {x : Lexeme} (hx : x.token.isWord = false) :
    beginType lists x = .error (.expectedIdentifier x.start) := by
  unfold beginType
  split
  · next text htoken =>
    rw [htoken] at hx
    cases hx
  · rfl

/-- Closing a list fails for the depth alone. -/
theorem close_eq_error {list : OpenList} {node : Sized} {reason : SyntaxError}
    (h : list.close node = .error reason) : ∃ offset, reason = .tooDeep offset := by
  rcases bind_eq_error_iff.mp h with hraise | ⟨height, -, happly⟩
  · exact (reads_raise _ _).exists_eq_tooDeep hraise
  · exact (reads_apply _ _).exists_eq_tooDeep happly

section Refused

variable {lists : List OpenList} {node : Sized} {offset : Nat} {x : Lexeme} {reason : SyntaxError}

/-- After a type no word can stand. -/
theorem afterSuffixed_of_isWord (hx : x.token.isWord = true) :
    afterSuffixed lists node offset x = x.refuse := by
  unfold afterSuffixed
  split
  case h_5 => rfl
  all_goals
    next htoken =>
      rw [htoken] at hx
      cases hx

/-- A token after a type is refused for its first character, or for the depth. -/
theorem afterSuffixed_eq_error (h : afterSuffixed lists node offset x = .error reason) :
    reason = .unexpectedChar x.lead x.start ∨ ∃ offset, reason = .tooDeep offset := by
  unfold afterSuffixed at h
  split at h
  · rcases bind_eq_error_iff.mp h with hraise | ⟨height, -, hnext⟩
    · exact .inr ((reads_raise _ _).exists_eq_tooDeep hraise)
    · cases hnext
  · cases h
  · cases h
  · rcases bind_eq_error_iff.mp h with hclose | ⟨whole, -, hnext⟩
    · exact .inr (close_eq_error hclose)
    · cases hnext
  · exact .inl (Except.error.inj h).symm

/-- After a name no word can stand. -/
theorem afterName_of_isWord (hx : x.token.isWord = true) :
    afterName lists node offset x = x.refuse := by
  unfold afterName
  split
  · next htoken =>
    rw [htoken] at hx
    cases hx
  · exact afterSuffixed_of_isWord hx

/-- A token after a name is refused for its first character, or for the depth. -/
theorem afterName_eq_error (h : afterName lists node offset x = .error reason) :
    reason = .unexpectedChar x.lead x.start ∨ ∃ offset, reason = .tooDeep offset := by
  unfold afterName at h
  split at h
  · cases h
  · exact afterSuffixed_eq_error h

/-- A word after an identifier stands after the name that this ends. -/
theorem step_identifier_of_isWord {join : Join} {text : String} {stop : Nat} (hx : x.token.isWord = true) :
    State.step ⟨lists, .identifier join text, stop⟩ x =
      join.apply ⟨.simple text, 1⟩ >>= fun node ↦ afterName lists node x.start x := by
  obtain ⟨word, htoken⟩ := Token.exists_eq_word hx
  unfold State.step
  dsimp only
  rw [htoken]

/-- A token after an identifier that is refused stands after the name that this ends. -/
theorem step_identifier_eq_error {join : Join} {text : String} {stop : Nat}
    (h : State.step ⟨lists, .identifier join text, stop⟩ x = .error reason) :
    (join.apply ⟨.simple text, 1⟩ >>= fun node ↦ afterName lists node x.start x) = .error reason := by
  unfold State.step at h
  dsimp only at h
  split at h
  · cases h
  · cases h
  · exact h

end Refused

/-- A token is refused for its first character, and with it all that begin with the same one: every word if
it is a word, and where an identifier must stand everything else, the end of a list apart. -/
inductive Blames (s : State) (x : Lexeme) : SyntaxError → Prop
  | unexpectedChar (hword : x.token.isWord = true → ∀ y : Lexeme, y.token.isWord = true →
      s.step y = y.refuse) : Blames s x (.unexpectedChar x.lead x.start)
  | expectedIdentifier (hx : x.token.isWord = false)
      (hother : ∀ y : Lexeme, y.token.isWord = false → (y.token = .greater → x.token = .greater) →
        s.step y = .error (.expectedIdentifier y.start)) :
      Blames s x (.expectedIdentifier x.start)

/-- A token is refused for its first character, where what has been read can end, or else for the depth
or for an empty list. -/
theorem step_blames {s : State} {x : Lexeme} {reason : SyntaxError} (h : s.step x = .error reason) :
    Blames s x reason ∧ CanEnd s.finish ∨
      ∃ offset, reason = .tooDeep offset ∨ reason = .emptyTypeArguments offset := by
  obtain ⟨lists, phase, stop⟩ := s
  have hafter {finish : Except SyntaxError TypeExpr}
      (hreason : reason = .unexpectedChar x.lead x.start ∨ ∃ offset, reason = .tooDeep offset)
      (hword : x.token.isWord = true → ∀ y : Lexeme, y.token.isWord = true →
        State.step ⟨lists, phase, stop⟩ y = y.refuse)
      (hend : CanEnd finish) :
      Blames ⟨lists, phase, stop⟩ x reason ∧ CanEnd finish ∨
        ∃ offset, reason = .tooDeep offset ∨ reason = .emptyTypeArguments offset := by
    obtain rfl | ⟨offset, hdeep⟩ := hreason
    · exact .inl ⟨.unexpectedChar hword, hend⟩
    · exact .inr ⟨offset, .inl hdeep⟩
  cases phase with
  | typeStart =>
    obtain ⟨hx, rfl⟩ := beginType_eq_error h
    exact .inl ⟨.expectedIdentifier hx fun y hy _ ↦ beginType_of_isWord_eq_false hy, .inr rfl⟩
  | nameStart join =>
    unfold State.step at h
    dsimp only at h
    split at h
    · cases h
    · next hother =>
      obtain rfl := Except.error.inj h
      have hx : x.token.isWord = false := Bool.eq_false_iff.mpr fun hx ↦ by
        obtain ⟨text, htoken⟩ := Token.exists_eq_word hx
        exact hother text htoken
      refine .inl ⟨.expectedIdentifier hx fun y hy _ ↦ ?_, .inr rfl⟩
      unfold State.step
      dsimp only
      split
      · next text htoken =>
        rw [htoken] at hy
        cases hy
      · rfl
  | identifier join text =>
    rcases bind_eq_error_iff.mp (step_identifier_eq_error h) with happly | ⟨node, happly, hnext⟩
    · obtain ⟨offset, hdeep⟩ := (reads_apply join _).exists_eq_tooDeep happly
      exact .inr ⟨offset, .inl hdeep⟩
    · refine hafter (afterName_eq_error hnext) (fun _ y hy ↦ ?_) ?_
      · rw [step_identifier_of_isWord hy, happly]
        exact afterName_of_isWord hy
      · unfold State.finish
        dsimp only
        rw [happly]
        exact canEnd_whole lists node
  | listStart join text offset =>
    unfold State.step at h
    dsimp only at h
    split_ifs at h with hgreater hlimit
    · exact .inr ⟨offset, .inr (Except.error.inj h).symm⟩
    · exact .inr ⟨offset, .inl (Except.error.inj h).symm⟩
    · obtain ⟨hx, rfl⟩ := beginType_eq_error h
      refine .inl ⟨.expectedIdentifier hx fun y hy hsame ↦ ?_, ?_⟩
      · unfold State.step
        dsimp only
        rw [if_neg fun hy ↦ hgreater (hsame hy), if_neg hlimit]
        exact beginType_of_isWord_eq_false hy
      · unfold State.finish
        dsimp only
        rw [if_neg hlimit]
        exact .inr rfl
  | name node =>
    exact hafter (afterName_eq_error h) (fun _ y hy ↦ afterName_of_isWord hy) (canEnd_whole lists node)
  | suffixed node =>
    exact hafter (afterSuffixed_eq_error h) (fun _ y hy ↦ afterSuffixed_of_isWord hy)
      (canEnd_whole lists node)
  | ranks element rank offset =>
    unfold State.step at h
    dsimp only at h
    split at h
    · cases h
    · rcases bind_eq_error_iff.mp h with hraise | ⟨height, -, hnext⟩
      · obtain ⟨other, hdeep⟩ := (reads_raise _ _).exists_eq_tooDeep hraise
        exact .inr ⟨other, .inl hdeep⟩
      · cases hnext
    · refine hafter (.inl (Except.error.inj h).symm) (fun _ y hy ↦ ?_) (.inr rfl)
      obtain ⟨word, htoken⟩ := Token.exists_eq_word hy
      unfold State.step
      dsimp only
      rw [htoken]

/-! ### Whole texts -/

/-- What a text is read as, or why it is refused, when its tokens are read from slices. -/
def parseSlices? (text : String) : Option (Except SyntaxError TypeExpr) :=
  (scanSlices? text 0).map fun xs ↦ xs.foldlM State.step State.start >>= State.finish

/-- The character of a text at a byte is not white space, and what is before it is a type or the beginning
of one. -/
structure EndsBefore (text : String) (offset : Nat) (before : List Char) (c : Char) (after : List Char) :
    Prop where
  text_eq : text.toList = before ++ c :: after
  isBoundary : Text.IsBoundary text offset
  upTo_eq : Text.upTo? text offset = some (String.ofList before)
  isBlank_eq_false : Text.isBlank c = false
  canEnd : CanEnd (parse (String.ofList before))

/-- A text is read up to its end, or it is refused where a token is: at the first character of the token,
and with the texts that begin like it. -/
theorem exists_blames {text : String} {reason : SyntaxError} (h : parse text = .error reason) :
    (reason = .unexpectedEnd ∨ ∃ offset, reason = .tooDeep offset ∨ reason = .emptyTypeArguments offset) ∨
      ∃ s before c after, EndsBefore text (Text.byteLength before) before c after ∧
        Blames s (lexemeAt (Text.byteLength before) c after) reason ∧
        s.step (lexemeAt (Text.byteLength before) c after) = .error reason ∧
        ∀ other refused, s.step (lexemeAt (Text.byteLength before) c other) = .error refused →
          parse (String.ofList (before ++ c :: other)) = .error refused := by
  rcases bind_eq_error_iff.mp h with hrun | ⟨last, -, hfinish⟩
  · obtain ⟨xs, x, ys, s, hscan, hxs, hstep⟩ := exists_of_foldlM_eq_error hrun
    rcases step_blames hstep with ⟨hblames, hend⟩ | hother
    · obtain ⟨before, c, after, htext, hblank, rfl, hsame⟩ := exists_of_scan_eq_append hscan
      rw [Nat.zero_add] at hblames hstep hsame
      have hbefore : scan 0 before = xs := by
        have hnone := hsame [] fun d hd ↦ nomatch hd
        rwa [List.append_nil, scan, List.append_nil] at hnone
      have hparse : parse (String.ofList before) = s.finish := by
        rw [parse, String.toList_ofList, hbefore, hxs]
        rfl
      refine .inr ⟨s, before, c, after, ⟨htext, Text.isBoundary_iff.mpr ⟨before, _, htext, rfl⟩,
        Text.upTo?_byteLength htext, hblank, hparse ▸ hend⟩, hblames, hstep, fun other refused hrefused ↦ ?_⟩
      have hrest := hsame (c :: other) fun d hd ↦ (Option.some.inj hd).symm
      rw [parse, String.toList_ofList, hrest, scan_cons_eq hblank, List.foldlM_append, hxs]
      refine bind_eq_error_iff.mpr (.inl (bind_eq_error_iff.mpr (.inr ⟨s, rfl, ?_⟩)))
      rw [List.foldlM_cons, hrefused]
      rfl
    · exact .inl (.inr hother)
  · rcases finish_eq_error hfinish with hend | ⟨offset, hdeep⟩
    · exact .inl (.inl hend)
    · exact .inl (.inr ⟨offset, .inl hdeep⟩)

/-- A character that is blamed is the first that cannot stand where it does. What follows it matters only
behind a colon, and there only whether a second one follows. -/
theorem exists_of_parse_eq_unexpectedChar {text : String} {found : Char} {offset : Nat}
    (h : parse text = .error (.unexpectedChar found offset)) :
    ∃ before after, EndsBefore text offset before found after ∧
      ∀ other : List Char, (found = ':' → (other.head? = some ':' ↔ after.head? = some ':')) →
        parse (String.ofList (before ++ found :: other)) = .error (.unexpectedChar found offset) := by
  rcases exists_blames h with (hend | ⟨_, hother | hother⟩) |
    ⟨s, before, c, after, hplace, hblames, hstep, hall⟩
  · cases hend
  · cases hother
  · cases hother
  · generalize hreason : SyntaxError.unexpectedChar found offset = reason at hblames hstep
    cases hblames with
    | expectedIdentifier hx hsame => cases hreason
    | unexpectedChar hword =>
      rw [lead_lexemeAt, start_lexemeAt] at hreason hstep ⊢
      obtain ⟨rfl, rfl⟩ := SyntaxError.unexpectedChar.inj hreason
      refine ⟨before, after, hplace, fun other hcolon ↦ hall other _ ?_⟩
      cases hstart : startsIdentifier found with
      | true =>
        have hx : (lexemeAt (Text.byteLength before) found after).token.isWord = true := by
          rw [isWord_token_lexemeAt, hstart]
        have hy : (lexemeAt (Text.byteLength before) found other).token.isWord = true := by
          rw [isWord_token_lexemeAt, hstart]
        rw [hword hx _ hy, Lexeme.refuse, lead_lexemeAt, start_lexemeAt]
      | false => rw [lexemeAt_eq_of_head? hstart hcolon, hstep]

/-- A character where an identifier is missed is the first that cannot stand where it does, whatever
follows it. -/
theorem exists_of_parse_eq_expectedIdentifier {text : String} {offset : Nat}
    (h : parse text = .error (.expectedIdentifier offset)) :
    ∃ before c after, EndsBefore text offset before c after ∧ startsIdentifier c = false ∧
      ∀ other : List Char,
        parse (String.ofList (before ++ c :: other)) = .error (.expectedIdentifier offset) := by
  rcases exists_blames h with (hend | ⟨_, hother | hother⟩) |
    ⟨s, before, c, after, hplace, hblames, hstep, hall⟩
  · cases hend
  · cases hother
  · cases hother
  · generalize hreason : SyntaxError.expectedIdentifier offset = reason at hblames hstep
    cases hblames with
    | unexpectedChar hword => cases hreason
    | expectedIdentifier hx hsame =>
      rw [start_lexemeAt] at hreason ⊢
      rw [isWord_token_lexemeAt] at hx
      obtain rfl := SyntaxError.expectedIdentifier.inj hreason
      refine ⟨before, c, after, hplace, hx, fun other ↦ hall other _ ?_⟩
      have hy : (lexemeAt (Text.byteLength before) c other).token.isWord = false := by
        rw [isWord_token_lexemeAt, hx]
      rw [hsame _ hy, start_lexemeAt]
      rw [token_lexemeAt_eq_greater_iff, token_lexemeAt_eq_greater_iff]
      exact id

/-- A text can be read from slices that cut through no character. If it is refused for a character or for
want of an identifier, the error names the first character that cannot stand where it does: the byte is
where this character begins, it is not white space and, in the second case, begins no identifier; the
text before it is a type or the beginning of one; and every text that is the same up to and with it is
refused with the same error. Of a colon that is blamed it matters whether a second one follows. -/
theorem parse_blames (text : String) :
    parseSlices? text = some (parse text) ∧
    (∀ found offset, parse text = .error (.unexpectedChar found offset) →
      ∃ before after, EndsBefore text offset before found after ∧
        ∀ other : List Char, (found = ':' → (other.head? = some ':' ↔ after.head? = some ':')) →
          parse (String.ofList (before ++ found :: other)) = .error (.unexpectedChar found offset)) ∧
    ∀ offset, parse text = .error (.expectedIdentifier offset) →
      ∃ before c after, EndsBefore text offset before c after ∧ startsIdentifier c = false ∧
        ∀ other : List Char,
          parse (String.ofList (before ++ c :: other)) = .error (.expectedIdentifier offset) := by
  refine ⟨?_, fun found offset h ↦ exists_of_parse_eq_unexpectedChar h,
    fun offset h ↦ exists_of_parse_eq_expectedIdentifier h⟩
  rw [parseSlices?, scanSlices?_eq]
  rfl

/-- A second name behind a name and an em space, and a list that is closed where an argument must stand. -/
theorem parse_blames_outside_ascii :
    (parse "Größe\u2003größer" = .error (.unexpectedChar 'g' 10) ∧
      ∃ before after, EndsBefore "Größe\u2003größer" 10 before 'g' after ∧
        ∀ other : List Char,
          parse (String.ofList (before ++ 'g' :: other)) = .error (.unexpectedChar 'g' 10)) ∧
    (parse "List<été,\u2003>>" = .error (.expectedIdentifier 14) ∧
      ∃ before c after, EndsBefore "List<été,\u2003>>" 14 before c after ∧ startsIdentifier c = false ∧
        ∀ other : List Char,
          parse (String.ofList (before ++ c :: other)) = .error (.expectedIdentifier 14)) := by
  have hname : parse "Größe\u2003größer" = .error (.unexpectedChar 'g' 10) := by decide +kernel
  have hlist : parse "List<été,\u2003>>" = .error (.expectedIdentifier 14) := by decide +kernel
  obtain ⟨before, after, hplace, hall⟩ := (parse_blames _).2.1 _ _ hname
  exact ⟨⟨hname, before, after, hplace, fun other ↦ hall other fun h ↦ nomatch h⟩,
    hlist, (parse_blames _).2.2 _ hlist⟩

end HubRelay.TypeExpr
