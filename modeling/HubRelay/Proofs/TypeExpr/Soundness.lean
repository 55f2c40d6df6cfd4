import HubRelay.Proofs.Steps
import HubRelay.Proofs.TypeExpr.Spelling
import HubRelay.TypeExpr.Parser

/-!
# What is read is a type

The state of the reader stands for the tokens it has read: `State.tokens` writes them down from the
open argument lists and the phase. A state is `Sound` when every node in it is a type or a name of
the grammar, of the recorded height and within the limit, and when the words that wait to become
names can. A step keeps a state sound and adds the token that it reads to the tokens of the state
(`step_sound`), so after a whole text the result is a type whose tokens are those of the text
(`parse_sound`).
-/

set_option autoImplicit false

namespace HubRelay.TypeExpr

/-! ### The tokens of a state -/

/-- The tokens to the left of a name. -/
def Join.tokens : Join → List Token
  | first => []
  | label name _ => [.word name, .doubleColon]
  | member left _ => left.expr.tokens ++ [.dot]

/-- The tokens of an open list, up to the argument that is being read. -/
def OpenList.tokens (list : OpenList) : List Token :=
  list.join.tokens ++ .word list.identifier :: .less ::
    list.arguments.reverse.flatMap fun argument ↦ argument.tokens ++ [.comma]

/-- The tokens of open lists, the innermost of which is the first. -/
def listTokens : List OpenList → List Token
  | [] => []
  | list :: outer => listTokens outer ++ list.tokens

/-- The tokens of the innermost type, as far as it has been read. -/
def Phase.tokens : Phase → List Token
  | typeStart => []
  | nameStart join => join.tokens
  | identifier join text => join.tokens ++ [.word text]
  | listStart join text _ => join.tokens ++ [.word text, .less]
  | name node | suffixed node => node.expr.tokens
  | ranks element rank _ =>
    element.expr.tokens ++ .leftBracket :: List.replicate (rank - 1) .comma

/-- The tokens that have been read. -/
def State.tokens (s : State) : List Token := listTokens s.lists ++ s.phase.tokens

/-- The tokens of arguments, and of one more after them. -/
theorem tokensOfAll_append_singleton (arguments : List TypeExpr) (last : TypeExpr) :
    tokensOfAll (arguments ++ [last]) =
      (arguments.flatMap fun argument ↦ argument.tokens ++ [.comma]) ++ last.tokens := by
  induction arguments with
  | nil => rfl
  | cons first rest ih =>
    have hcons : tokensOfAll (first :: (rest ++ [last])) =
        first.tokens ++ .comma :: tokensOfAll (rest ++ [last]) := by
      cases rest with
      | nil => exact tokensOfAll_cons_cons first last []
      | cons next more => exact tokensOfAll_cons_cons first next (more ++ [last])
    rw [List.cons_append, hcons, ih, List.flatMap_cons, List.append_assoc, List.append_assoc]
    rfl

/-- Adding an argument adds its tokens and a comma. -/
theorem OpenList.tokens_push (list : OpenList) (node : Sized) :
    (list.push node).tokens = list.tokens ++ (node.expr.tokens ++ [.comma]) := by
  simp [OpenList.tokens, OpenList.push]

/-! ### Sound states -/

/-- The recorded height is that of the tree and within the limit. -/
structure Sized.Fits (node : Sized) : Prop where
  height_eq : node.height = node.expr.height
  height_le : node.height ≤ maxNesting

/-- What is to the left of a name is an alias or a name. -/
def Join.Sound : Join → Prop
  | first => False
  | label name _ => isIdentifier name = true ∧ Keyword.isKeyword name = false
  | member left _ => IsName left.expr ∧ left.Fits

/-- The word can begin a segment to the right of the join. At the left end of a name it is no
keyword. -/
def Join.Takes (join : Join) (text : String) : Prop :=
  isIdentifier text = true ∧ (join = .first ∧ Keyword.isKeyword text = false ∨ join.Sound)

/-- An open list has a name that can be one, and types as arguments. -/
structure OpenList.Sound (list : OpenList) : Prop where
  takes : list.join.Takes list.identifier
  arguments : ∀ argument ∈ list.arguments, IsType argument
  height_eq : list.height = heightOfAll list.arguments.reverse

/-- What has been read of the innermost type is as the grammar has it. -/
def Phase.Sound : Phase → Prop
  | typeStart => True
  | nameStart join => join.Sound
  | identifier join text | listStart join text _ => join.Takes text
  | name node => IsName node.expr ∧ node.Fits
  | suffixed node => IsType node.expr ∧ node.Fits
  | ranks element rank _ => IsType element.expr ∧ element.Fits ∧ 1 ≤ rank

/-- What has been read is as the grammar has it. -/
structure State.Sound (s : State) : Prop where
  lists : ∀ list ∈ s.lists, list.Sound
  phase : s.phase.Sound

theorem sound_start : State.start.Sound := ⟨List.forall_mem_nil _, trivial⟩

/-! ### Building nodes -/

/-- A node goes above a part that is below the limit. -/
theorem raise_eq_ok_iff {height offset result : Nat} :
    raise height offset = .ok result ↔ height < maxNesting ∧ result = height + 1 := by
  rw [raise, guarded_eq_ok_iff, Nat.not_le, Except.ok.injEq, @eq_comm _ result]

/-- Assumes: a segment within the limit that can stand to the right of the join. What the two are
joined to is a name within the limit, and has the tokens of both. -/
theorem Join.apply_sound {join : Join} {identifier : String} {node whole : Sized}
    (hjoin : join.Takes identifier) (hnode : IsSegment identifier node.expr) (hfits : node.Fits)
    (h : join.apply node = .ok whole) :
    (IsName whole.expr ∧ whole.Fits) ∧ whole.expr.tokens = join.tokens ++ node.expr.tokens := by
  cases join with
  | first =>
    obtain ⟨-, hkeyword⟩ | hsound := hjoin.2
    · obtain rfl := Except.ok.inj h
      exact ⟨⟨.first hkeyword hnode, hfits⟩, rfl⟩
    · exact hsound.elim
  | label name offset =>
    obtain ⟨hname, -⟩ | hsound := hjoin.2
    · exact Join.noConfusion hname
    · obtain ⟨height, hraise, hwhole⟩ := bind_eq_ok_iff.mp h
      obtain ⟨hlimit, rfl⟩ := raise_eq_ok_iff.mp hraise
      obtain rfl := Except.ok.inj hwhole
      refine ⟨⟨.aliased hsound.1 hsound.2 hnode, ⟨?_, hlimit⟩⟩, rfl⟩
      rw [height, ← hfits.height_eq]
  | member left offset =>
    obtain ⟨hname, -⟩ | hsound := hjoin.2
    · exact Join.noConfusion hname
    · obtain ⟨height, hraise, hwhole⟩ := bind_eq_ok_iff.mp h
      obtain ⟨hlimit, rfl⟩ := raise_eq_ok_iff.mp hraise
      obtain rfl := Except.ok.inj hwhole
      refine ⟨⟨.qualified hsound.1 hnode, ⟨?_, hlimit⟩⟩, ?_⟩
      · rw [height, ← hfits.height_eq, ← hsound.2.height_eq]
      · rw [TypeExpr.tokens, Join.tokens, List.append_assoc]
        rfl

/-- A simple name within the limit. -/
theorem fits_simple (text : String) : (⟨.simple text, 1⟩ : Sized).Fits := by
  refine ⟨by rw [height], ?_⟩
  show 1 ≤ maxNesting
  decide

/-- A list with one more argument is sound. -/
theorem OpenList.Sound.push {list : OpenList} (hlist : list.Sound) {node : Sized}
    (hnode : IsType node.expr) (hfits : node.Fits) : (list.push node).Sound := by
  refine ⟨hlist.takes, fun argument hargument ↦ ?_, ?_⟩
  · rcases List.mem_cons.mp hargument with rfl | hmem
    · exact hnode
    · exact hlist.arguments argument hmem
  · rw [OpenList.push, List.reverse_cons, heightOfAll_append, ← hlist.height_eq, heightOfAll,
      heightOfAll, ← hfits.height_eq, Nat.max_zero]

/-- Closing a list gives a name within the limit, with the tokens of the list, of its last argument
and of the closing mark. -/
theorem OpenList.Sound.close {list : OpenList} (hlist : list.Sound) {node whole : Sized}
    (hnode : IsType node.expr) (hfits : node.Fits) (h : list.close node = .ok whole) :
    (IsName whole.expr ∧ whole.Fits) ∧
      whole.expr.tokens = list.tokens ++ (node.expr.tokens ++ [.greater]) := by
  have hall := hlist.push hnode hfits
  obtain ⟨height, hraise, happly⟩ := bind_eq_ok_iff.mp h
  obtain ⟨hlimit, rfl⟩ := raise_eq_ok_iff.mp hraise
  have hsegment : IsSegment list.identifier
      (.generic list.identifier (list.push node).arguments.reverse) := by
    refine .generic hlist.takes.1 ?_ fun argument hargument ↦
      hall.arguments argument (List.mem_reverse.mp hargument)
    rw [OpenList.push, List.reverse_cons]
    exact List.append_ne_nil_of_right_ne_nil _ (List.cons_ne_nil _ _)
  have hsegmentFits : Sized.Fits ⟨.generic list.identifier (list.push node).arguments.reverse,
      (list.push node).height + 1⟩ :=
    ⟨by rw [TypeExpr.height, ← hall.height_eq], hlimit⟩
  obtain ⟨hname, htokens⟩ := Join.apply_sound hlist.takes hsegment hsegmentFits happly
  refine ⟨hname, ?_⟩
  rw [htokens, OpenList.tokens, TypeExpr.tokens, OpenList.push, List.reverse_cons,
    tokensOfAll_append_singleton]
  simp

/-! ### One token -/

/-- The first token of a type. -/
theorem beginType_sound {lists : List OpenList} (hlists : ∀ list ∈ lists, list.Sound) {x : Lexeme}
    (hx : ∀ word, x.token = .word word → isIdentifier word = true) {s : State}
    (h : beginType lists x = .ok s) :
    s.Sound ∧ s.tokens = listTokens lists ++ [x.token] := by
  unfold beginType at h
  split at h
  · next text htoken =>
    split at h
    · next hkeyword =>
      obtain rfl := Except.ok.inj h
      refine ⟨⟨hlists, .keyword hkeyword, ⟨by rw [height], ?_⟩⟩, by rw [htoken]; rfl⟩
      show 1 ≤ maxNesting
      decide
    · next hkeyword =>
      obtain rfl := Except.ok.inj h
      refine ⟨⟨hlists, hx text htoken, .inl ⟨rfl, ?_⟩⟩, by rw [htoken]; rfl⟩
      exact Bool.eq_false_iff.mpr hkeyword
  · cases h

/-- A token after a type that can take a suffix. -/
theorem afterSuffixed_sound {lists : List OpenList} (hlists : ∀ list ∈ lists, list.Sound)
    {node : Sized} (hnode : IsType node.expr) (hfits : node.Fits) {offset : Nat} {x : Lexeme}
    {s : State} (h : afterSuffixed lists node offset x = .ok s) :
    s.Sound ∧ s.tokens = listTokens lists ++ node.expr.tokens ++ [x.token] := by
  unfold afterSuffixed at h
  split at h
  · next htoken =>
    obtain ⟨height, hraise, hs⟩ := bind_eq_ok_iff.mp h
    obtain ⟨hlimit, rfl⟩ := raise_eq_ok_iff.mp hraise
    obtain rfl := Except.ok.inj hs
    refine ⟨⟨hlists, .nullable hnode, ⟨by rw [TypeExpr.height, ← hfits.height_eq], hlimit⟩⟩, ?_⟩
    rw [htoken, List.append_assoc]
    rfl
  · next htoken =>
    obtain rfl := Except.ok.inj h
    refine ⟨⟨hlists, hnode, hfits, Nat.le_refl 1⟩, ?_⟩
    rw [htoken, List.append_assoc]
    rfl
  · next list outer htoken =>
    obtain rfl := Except.ok.inj h
    obtain ⟨hlist, houter⟩ := List.forall_mem_cons.mp hlists
    refine ⟨⟨List.forall_mem_cons.mpr ⟨hlist.push hnode hfits, houter⟩, trivial⟩, ?_⟩
    rw [htoken, State.tokens, listTokens, OpenList.tokens_push, listTokens, Phase.tokens]
    simp
  · next list outer htoken =>
    obtain ⟨hlist, houter⟩ := List.forall_mem_cons.mp hlists
    obtain ⟨whole, hclose, hs⟩ := bind_eq_ok_iff.mp h
    obtain ⟨hname, htokens⟩ := hlist.close hnode hfits hclose
    obtain rfl := Except.ok.inj hs
    refine ⟨⟨houter, hname⟩, ?_⟩
    rw [htoken, State.tokens, Phase.tokens, htokens, listTokens]
    simp
  · cases h

/-- A token after a name. -/
theorem afterName_sound {lists : List OpenList} (hlists : ∀ list ∈ lists, list.Sound)
    {node : Sized} (hnode : IsName node.expr) (hfits : node.Fits) {offset : Nat} {x : Lexeme}
    {s : State} (h : afterName lists node offset x = .ok s) :
    s.Sound ∧ s.tokens = listTokens lists ++ node.expr.tokens ++ [x.token] := by
  unfold afterName at h
  split at h
  · next htoken =>
    obtain rfl := Except.ok.inj h
    refine ⟨⟨hlists, hnode, hfits⟩, ?_⟩
    rw [htoken, List.append_assoc]
    rfl
  · exact afterSuffixed_sound hlists (.name hnode) hfits h

/-- A step keeps a state sound and adds the token to it. -/
theorem step_sound {s next : State} (hs : s.Sound) {x : Lexeme}
    (hx : ∀ word, x.token = .word word → isIdentifier word = true) (h : s.step x = .ok next) :
    next.Sound ∧ next.tokens = s.tokens ++ [x.token] := by
  obtain ⟨lists, phase, stop⟩ := s
  obtain ⟨hlists, hphase⟩ := hs
  unfold State.step at h
  cases phase with
  | typeStart =>
    obtain ⟨hnext, htokens⟩ := beginType_sound hlists hx h
    exact ⟨hnext, by rw [htokens, State.tokens, Phase.tokens, List.append_nil]⟩
  | nameStart join =>
    dsimp only at h
    split at h
    · next text htoken =>
      obtain rfl := Except.ok.inj h
      refine ⟨⟨hlists, hx text htoken, .inr hphase⟩, ?_⟩
      rw [htoken, State.tokens, State.tokens, List.append_assoc]
      rfl
    · cases h
  | identifier join text =>
    dsimp only at h
    split at h
    · next htoken =>
      obtain rfl := Except.ok.inj h
      refine ⟨⟨hlists, hphase⟩, ?_⟩
      rw [htoken, State.tokens, State.tokens, List.append_assoc, Phase.tokens, Phase.tokens,
        List.append_assoc]
      rfl
    · next htoken =>
      obtain rfl := Except.ok.inj h
      obtain ⟨hword, ⟨-, hkeyword⟩ | hsound⟩ := hphase
      · refine ⟨⟨hlists, hword, hkeyword⟩, ?_⟩
        rw [htoken, State.tokens, State.tokens, List.append_assoc]
        rfl
      · exact hsound.elim
    · obtain ⟨node, happly, hafter⟩ := bind_eq_ok_iff.mp h
      obtain ⟨⟨hname, hfits⟩, htokens⟩ :=
        Join.apply_sound hphase (.simple hphase.1) (fits_simple text) happly
      obtain ⟨hnext, hnextTokens⟩ := afterName_sound hlists hname hfits hafter
      refine ⟨hnext, ?_⟩
      rw [hnextTokens, htokens, State.tokens, Phase.tokens]
      rfl
  | listStart join text offset =>
    dsimp only at h
    split at h
    · cases h
    · split at h
      · cases h
      · have hlist : OpenList.Sound ⟨join, text, [], 0, offset⟩ :=
          ⟨hphase, List.forall_mem_nil _, rfl⟩
        obtain ⟨hnext, htokens⟩ :=
          beginType_sound (List.forall_mem_cons.mpr ⟨hlist, hlists⟩) hx h
        exact ⟨hnext, htokens⟩
  | name node => exact afterName_sound hlists hphase.1 hphase.2 h
  | suffixed node => exact afterSuffixed_sound hlists hphase.1 hphase.2 h
  | ranks element rank offset =>
    obtain ⟨htype, hfits, hrank⟩ := hphase
    dsimp only at h
    split at h
    · next htoken =>
      obtain rfl := Except.ok.inj h
      refine ⟨⟨hlists, htype, hfits, Nat.le_succ_of_le hrank⟩, ?_⟩
      obtain ⟨count, rfl⟩ : ∃ count, rank = count + 1 := ⟨rank - 1, by omega⟩
      rw [htoken, State.tokens, State.tokens, List.append_assoc, Phase.tokens, Phase.tokens,
        Nat.add_sub_cancel, Nat.add_sub_cancel, List.replicate_succ', List.append_assoc]
      rfl
    · next htoken =>
      obtain ⟨height, hraise, hnext⟩ := bind_eq_ok_iff.mp h
      obtain ⟨hlimit, rfl⟩ := raise_eq_ok_iff.mp hraise
      obtain rfl := Except.ok.inj hnext
      refine ⟨⟨hlists, .array htype hrank,
        ⟨by rw [TypeExpr.height, ← hfits.height_eq], hlimit⟩⟩, ?_⟩
      rw [htoken, State.tokens, State.tokens, List.append_assoc, Phase.tokens, Phase.tokens,
        List.append_assoc]
      rfl
    · cases h

/-! ### A whole text -/

/-- Steps keep a state sound and add their tokens to it. -/
theorem foldlM_step_sound {xs : List Lexeme}
    (hxs : ∀ x ∈ xs, ∀ word, x.token = .word word → isIdentifier word = true) {s last : State}
    (hs : s.Sound) (h : xs.foldlM State.step s = .ok last) :
    last.Sound ∧ last.tokens = s.tokens ++ xs.map Lexeme.token := by
  induction xs generalizing s with
  | nil =>
    obtain rfl := Except.ok.inj h
    exact ⟨hs, (List.append_nil _).symm⟩
  | cons x rest ih =>
    obtain ⟨next, hstep, hrest⟩ := bind_eq_ok_iff.mp h
    obtain ⟨hx, hmore⟩ := List.forall_mem_cons.mp hxs
    obtain ⟨hnext, htokens⟩ := step_sound hs hx hstep
    obtain ⟨hlast, hlastTokens⟩ := ih hmore hnext hrest
    refine ⟨hlast, ?_⟩
    rw [hlastTokens, htokens, List.append_assoc, List.map_cons, List.singleton_append]

/-- A sound state that can end has read a type within the limit, and nothing else. -/
theorem finish_sound {s : State} (hs : s.Sound) {t : TypeExpr} (h : s.finish = .ok t) :
    (IsType t ∧ t.height ≤ maxNesting) ∧ t.tokens = s.tokens := by
  obtain ⟨lists, phase, stop⟩ := s
  obtain ⟨-, hphase⟩ := hs
  -- The end of the text closes no list, so none can be open.
  have hwhole {node : Sized} (hnode : IsType node.expr) (hfits : node.Fits)
      (hend : (if lists.isEmpty then .ok node.expr else .error .unexpectedEnd :
        Except SyntaxError TypeExpr) = .ok t) :
      (IsType t ∧ t.height ≤ maxNesting) ∧ t.tokens = listTokens lists ++ node.expr.tokens := by
    split at hend
    · next hempty =>
      obtain rfl := List.isEmpty_iff.mp hempty
      obtain rfl := Except.ok.inj hend
      exact ⟨⟨hnode, hfits.height_eq ▸ hfits.height_le⟩, rfl⟩
    · cases hend
  cases phase with
  | identifier join text =>
    obtain ⟨node, happly, hend⟩ := bind_eq_ok_iff.mp h
    obtain ⟨⟨hname, hfits⟩, htokens⟩ :=
      Join.apply_sound hphase (.simple hphase.1) (fits_simple text) happly
    obtain ⟨ht, hend⟩ := hwhole (.name hname) hfits hend
    exact ⟨ht, by rw [hend, htokens]; rfl⟩
  | listStart join text offset =>
    unfold State.finish at h
    dsimp only at h
    split at h <;> cases h
  | name node => exact hwhole (.name hphase.1) hphase.2 h
  | suffixed node => exact hwhole hphase.1 hphase.2 h
  | typeStart | nameStart join | ranks element rank offset => cases h

/-- What a text is read as is a type within the limit, and its tokens are those of the text. -/
theorem parse_sound {text : String} {t : TypeExpr} (h : parse text = .ok t) :
    (IsType t ∧ t.height ≤ maxNesting) ∧ t.tokens = (scan 0 text.toList).map Lexeme.token := by
  obtain ⟨last, hrun, hfinish⟩ := bind_eq_ok_iff.mp h
  obtain ⟨hlast, htokens⟩ := foldlM_step_sound isIdentifier_of_mem_scan sound_start hrun
  obtain ⟨ht, hfinished⟩ := finish_sound hlast hfinish
  exact ⟨ht, by rw [hfinished, htokens]; rfl⟩

/-- Assumes: a text that is read. What it is read as is a type of the grammar and within the depth
limit, and nothing is lost or added: without white space, the text is the normal form of the
type. -/
theorem isType_of_parse {text : String} {t : TypeExpr} (h : parse text = .ok t) :
    IsType t ∧ t.height ≤ maxNesting ∧
      Text.withoutBlanks text.toList = Text.withoutBlanks t.render.toList := by
  obtain ⟨⟨ht, hlimit⟩, htokens⟩ := parse_sound h
  have htext : Spells t.tokens text.toList := htokens ▸ spells_map_token_scan 0 text.toList
  have hlegal := isLegal_of_mem_tokens ht
  refine ⟨ht, hlimit, ?_⟩
  rw [htext.withoutBlanks_eq hlegal, (spells_render t).withoutBlanks_eq hlegal]

/-- An alias, a keyword that is an identifier after a dot, and suffixes with white space in them. -/
theorem isType_of_parse_global :
    let t : TypeExpr := .nullable (.array (.qualified (.aliased "global" (.simple "A"))
      (.generic "int" [.keyword "int"])) 2)
    parse " global:: A . int<int>[ , ]?" = .ok t ∧ IsType t ∧ t.height ≤ maxNesting ∧
      Text.withoutBlanks " global:: A . int<int>[ , ]?".toList =
        Text.withoutBlanks "global::A.int<int>[,]?".toList := by
  intro t
  have hparse : parse " global:: A . int<int>[ , ]?" = .ok t := by decide +kernel
  have hrender : t.render = "global::A.int<int>[,]?" := by decide
  obtain ⟨ht, hlimit, htext⟩ := isType_of_parse hparse
  exact ⟨hparse, ht, hlimit, hrender ▸ htext⟩

end HubRelay.TypeExpr
