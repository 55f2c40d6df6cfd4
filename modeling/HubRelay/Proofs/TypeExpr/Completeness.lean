import HubRelay.Proofs.TypeExpr.Soundness

/-!
# Every type is read

The reader accepts each type of the grammar however it is spelled, up to the depth limit, and
refuses the higher ones for their depth alone.

`Reads fits P result` says that a result is a value with the property `P`, or else an error of the
depth limit, which can only be where `fits` is false. `Runs` says this of all runs over given
tokens. A run over the tokens of a type comes to a state that ends the type (`runs_type`). It goes
beyond the limit only if the open lists around the type and its own height do so together; this
bound passes from a type to its parts, so neither the height of a node nor the number of open lists
stops a type that is within the limit. Since an accepted type is within the limit, the others are
refused.
-/

set_option autoImplicit false

namespace HubRelay.TypeExpr

/-! ### Results up to the depth limit -/

/-- The result has the property `P`, or is an error of the depth limit and `fits` is false. -/
def Reads {α : Type} (fits : Prop) (P : α → Prop) : Except SyntaxError α → Prop
  | .ok value => P value
  | .error (.tooDeep _) => ¬ fits
  | .error _ => False

section Reads

variable {α β : Type} {fits fits' : Prop} {P Q : α → Prop} {result : Except SyntaxError α}

/-- A result has every weaker property, and fits where less fits. -/
theorem Reads.mono (h : Reads fits P result) (hfits : fits' → fits)
    (hP : ∀ value, P value → Q value) :
    Reads fits' Q result :=
  match result, h with
  | .ok value, h => hP value h
  | .error (.tooDeep _), h => fun hfits' ↦ h (hfits hfits')

/-- A result fits where less fits. -/
theorem Reads.within (h : Reads fits P result) (hfits : fits' → fits) : Reads fits' P result :=
  h.mono hfits fun _ hvalue ↦ hvalue

/-- A step after another. -/
theorem Reads.bind {R : β → Prop} {next : α → Except SyntaxError β} (h : Reads fits P result)
    (hnext : ∀ value, P value → Reads fits R (next value)) : Reads fits R (result >>= next) :=
  match result, h with
  | .ok value, h => hnext value h
  | .error (.tooDeep _), h => h

/-- A result that fits is a value. -/
theorem Reads.eq_ok {value : α} (h : Reads fits (· = value) result) (hfits : fits) :
    result = .ok value :=
  match result, h with
  | .ok _, h => congrArg Except.ok h
  | .error (.tooDeep _), h => absurd hfits h

end Reads

/-- A node above a part fits when it is within the limit. -/
theorem reads_raise (height offset : Nat) :
    Reads (height + 1 ≤ maxNesting) (· = height + 1) (raise height offset) := by
  unfold raise
  split
  · next hlimit => exact Nat.not_le.mpr (Nat.lt_succ_of_le hlimit)
  · rfl

/-- What a name is joined to, whatever its height. -/
def Join.above : Join → Sized → Sized
  | first, node => node
  | label name _, node => ⟨.aliased name node.expr, node.height + 1⟩
  | member left _, node => ⟨.qualified left.expr node.expr, max left.height node.height + 1⟩

/-- Joining does not lower a name. -/
theorem Join.le_height_above (join : Join) (node : Sized) :
    node.height ≤ (join.above node).height := by
  cases join with
  | first => exact Nat.le_refl _
  | label name offset => exact Nat.le_succ _
  | member left offset => exact Nat.le_succ_of_le (Nat.le_max_right ..)

/-- Joining a name fits when the whole is within the limit. -/
theorem reads_apply (join : Join) (node : Sized) :
    Reads ((join.above node).height ≤ maxNesting) (· = join.above node) (join.apply node) := by
  cases join with
  | first => rfl
  | label name offset =>
    refine (reads_raise node.height offset).bind ?_
    rintro height rfl
    rfl
  | member left offset =>
    refine (reads_raise (max left.height node.height) offset).bind ?_
    rintro height rfl
    rfl

/-! ### Runs -/

/-- All runs over tokens from a state come to states with the property `P`, up to the limit. -/
def Runs (s : State) (tokens : List Token) (fits : Prop) (P : State → Prop) : Prop :=
  ∀ xs : List Lexeme, xs.map Lexeme.token = tokens → Reads fits P (xs.foldlM State.step s)

namespace Runs

variable {s : State} {tokens more : List Token} {token : Token} {fits fits' : Prop}
  {P Q : State → Prop}

/-- A run has every weaker property, and fits where less fits. -/
theorem mono (h : Runs s tokens fits P) (hfits : fits' → fits) (hP : ∀ next, P next → Q next) :
    Runs s tokens fits' Q :=
  fun xs hxs ↦ (h xs hxs).mono hfits hP

/-- No token is read from a state with the property. -/
theorem nil (h : P s) : Runs s [] fits P := by
  intro xs hxs
  obtain rfl := List.map_eq_nil_iff.mp hxs
  exact h

/-- A run begins with a step. -/
theorem cons (hstep : ∀ x : Lexeme, x.token = token → Reads fits P (s.step x))
    (hmore : ∀ next, P next → Runs next more fits Q) : Runs s (token :: more) fits Q := by
  intro xs hxs
  obtain ⟨x, rest, rfl, hx, hrest⟩ := List.map_eq_cons_iff.mp hxs
  rw [List.foldlM_cons]
  exact (hstep x hx).bind fun next hnext ↦ hmore next hnext rest hrest

/-- A run after another. -/
theorem append (h : Runs s tokens fits P) (hmore : ∀ next, P next → Runs next more fits Q) :
    Runs s (tokens ++ more) fits Q := by
  intro xs hxs
  obtain ⟨before, after, rfl, hbefore, hafter⟩ := List.map_eq_append_iff.mp hxs
  rw [List.foldlM_append]
  exact (h before hbefore).bind fun next hnext ↦ hmore next hnext after hafter

/-- A run begins with a step that succeeds for every token of the given kind. -/
theorem cons_ok {after : Lexeme → State}
    (hstep : ∀ x : Lexeme, x.token = token → s.step x = .ok (after x))
    (hmore : ∀ x : Lexeme, Runs (after x) more fits Q) : Runs s (token :: more) fits Q := by
  intro xs hxs
  obtain ⟨x, rest, rfl, hx, hrest⟩ := List.map_eq_cons_iff.mp hxs
  rw [List.foldlM_cons, hstep x hx]
  exact hmore x rest hrest

/-- A run over one token. -/
theorem single (hstep : ∀ x : Lexeme, x.token = token → Reads fits P (s.step x)) :
    Runs s [token] fits P :=
  cons hstep fun _ hnext ↦ nil hnext

end Runs

/-! ### States in which a type may end -/

/-- The type that has been read, if it may end here. -/
def Phase.ending : Phase → Except SyntaxError Sized
  | identifier join text => join.apply ⟨.simple text, 1⟩
  | name node | suffixed node => .ok node
  | typeStart | nameStart _ | listStart _ _ _ | ranks _ _ _ => .error .unexpectedEnd

/-- A dot may follow. -/
def Phase.EndsName : Phase → Prop
  | identifier _ _ | name _ => True
  | _ => False

/-- The state is inside the given lists and has read a node, up to the limit. -/
def Ends (lists : List OpenList) (node : Sized) (fits : Prop) (s : State) : Prop :=
  s.lists = lists ∧ Reads fits (· = node) s.phase.ending

/-- The state is inside the given lists and has read a name, up to the limit. -/
def EndsName (lists : List OpenList) (node : Sized) (fits : Prop) (s : State) : Prop :=
  Ends lists node fits s ∧ s.phase.EndsName

/-- What ends within a bound ends within every stronger one. -/
theorem Ends.mono {lists : List OpenList} {node : Sized} {fits fits' : Prop} {s : State}
    (h : Ends lists node fits s) (hfits : fits' → fits) : Ends lists node fits' s :=
  ⟨h.1, h.2.within hfits⟩

/-- A token that does not go on with a name is read after the type that may end. -/
theorem step_eq_afterSuffixed {lists : List OpenList} {node : Sized} {fits : Prop} {s : State}
    (hs : Ends lists node fits s) {x : Lexeme}
    (hx : x.token ≠ .less ∧ x.token ≠ .doubleColon ∧ x.token ≠ .dot) :
    ∃ offset, s.step x = s.phase.ending >>= fun node ↦ afterSuffixed lists node offset x := by
  have hname (node : Sized) (offset : Nat) :
      afterName lists node offset x = afterSuffixed lists node x.start x := by
    unfold afterName
    split
    · next htoken => exact absurd htoken hx.2.2
    · rfl
  obtain ⟨current, phase, stop⟩ := s
  obtain ⟨rfl, hending⟩ := hs
  cases phase with
  | identifier join text =>
    refine ⟨x.start, ?_⟩
    unfold State.step
    dsimp only
    split
    · next htoken => exact absurd htoken hx.1
    · next htoken => exact absurd htoken hx.2.1
    · exact congrArg _ (funext fun node ↦ hname node x.start)
  | name node => exact ⟨x.start, hname node stop⟩
  | suffixed node => exact ⟨stop, rfl⟩
  | typeStart | nameStart join | listStart join text offset | ranks element rank offset =>
    exact hending.elim

/-- A suffix, a comma or a closing mark is read after the type that may end. -/
theorem reads_step_of_ends {lists : List OpenList} {node : Sized} {fits : Prop} {s : State}
    {P : State → Prop} (hs : Ends lists node fits s) {x : Lexeme}
    (hx : x.token ≠ .less ∧ x.token ≠ .doubleColon ∧ x.token ≠ .dot)
    (hafter : ∀ offset, Reads fits P (afterSuffixed lists node offset x)) :
    Reads fits P (s.step x) := by
  obtain ⟨offset, hstep⟩ := step_eq_afterSuffixed hs hx
  rw [hstep]
  refine hs.2.bind ?_
  rintro ending rfl
  exact hafter offset

/-- A dot is read after the name that may end. -/
theorem reads_step_dot {lists : List OpenList} {node : Sized} {fits : Prop} {s : State}
    (hs : EndsName lists node fits s) {x : Lexeme} (hx : x.token = .dot) :
    Reads fits (fun next ↦ ∃ offset stop, next = ⟨lists, .nameStart (.member node offset), stop⟩)
      (s.step x) := by
  have hname (left : Sized) (offset : Nat) : afterName lists left offset x =
      .ok ⟨lists, .nameStart (.member left offset), x.stop⟩ := by
    unfold afterName
    rw [hx]
  obtain ⟨current, phase, stop⟩ := s
  obtain ⟨⟨rfl, hending⟩, hphase⟩ := hs
  cases phase with
  | identifier join text =>
    unfold State.step
    dsimp only
    rw [hx]
    refine hending.bind ?_
    rintro ending rfl
    rw [hname]
    exact ⟨x.start, x.stop, rfl⟩
  | name left =>
    obtain rfl : left = node := hending
    show Reads fits _ (afterName current left stop x)
    rw [hname]
    exact ⟨stop, x.stop, rfl⟩
  | _ => exact hphase.elim

/-! ### Runs over type arguments -/

/-- A type expression begins with a word. -/
theorem exists_tokens_eq_cons (t : TypeExpr) : ∃ word rest, t.tokens = .word word :: rest := by
  cases t with
  | keyword word => exact ⟨word, [], rfl⟩
  | simple identifier => exact ⟨identifier, [], rfl⟩
  | generic identifier arguments => exact ⟨identifier, _, rfl⟩
  | qualified left right =>
    obtain ⟨word, rest, hleft⟩ := exists_tokens_eq_cons left
    exact ⟨word, _, by rw [tokens, hleft, List.cons_append]⟩
  | aliased label name => exact ⟨label, _, rfl⟩
  | array element rank =>
    obtain ⟨word, rest, helement⟩ := exists_tokens_eq_cons element
    exact ⟨word, _, by rw [tokens, helement, List.cons_append]⟩
  | nullable inner =>
    obtain ⟨word, rest, hinner⟩ := exists_tokens_eq_cons inner
    exact ⟨word, _, by rw [tokens, hinner, List.cons_append]⟩

/-- Type arguments, if there are any, begin with a word. -/
theorem exists_tokensOfAll_eq_cons {arguments : List TypeExpr} (hne : arguments ≠ []) :
    ∃ word rest, tokensOfAll arguments = .word word :: rest := by
  match arguments, hne with
  | [last], _ => exact exists_tokens_eq_cons last
  | first :: next :: more, _ =>
    obtain ⟨word, rest, hfirst⟩ := exists_tokens_eq_cons first
    exact ⟨word, _, by rw [tokensOfAll_cons_cons, hfirst, List.cons_append]⟩

/-- The generic name of an open list with the arguments that it has. -/
def OpenList.node (list : OpenList) : Sized :=
  ⟨.generic list.identifier list.arguments.reverse, list.height + 1⟩

/-- The name that an open list becomes with further arguments. -/
def OpenList.closed (list : OpenList) (arguments : List TypeExpr) : Sized :=
  list.join.above ⟨.generic list.identifier (list.arguments.reverse ++ arguments),
    max list.height (heightOfAll arguments) + 1⟩

/-- An argument may be added before the rest. -/
theorem OpenList.closed_push (list : OpenList) (first : TypeExpr) (rest : List TypeExpr) :
    (list.push ⟨first, first.height⟩).closed rest = list.closed (first :: rest) := by
  simp [closed, push, heightOfAll, Nat.max_assoc]

/-- Closing a list fits when the name is within the limit. -/
theorem reads_close (list : OpenList) (last : TypeExpr) :
    Reads ((list.closed [last]).height ≤ maxNesting) (· = list.closed [last])
      (list.close ⟨last, last.height⟩) := by
  have hclosed : list.closed [last] =
      list.join.above (list.push ⟨last, last.height⟩).node := by
    simp [OpenList.closed, OpenList.push, OpenList.node, heightOfAll]
  rw [hclosed]
  have hle := Join.le_height_above list.join (list.push ⟨last, last.height⟩).node
  refine ((reads_raise _ list.offset).within (Nat.le_trans hle)).bind ?_
  rintro height rfl
  exact reads_apply _ _

/-- The bound that a type meets inside open lists: it fits with them into the limit. -/
def FitsIn (lists : List OpenList) (t : TypeExpr) : Prop :=
  lists.length + t.height ≤ maxNesting

/-- The run over a type, wherever it begins. -/
def TypeRuns (t : TypeExpr) : Prop :=
  ∀ lists stop, Runs ⟨lists, .typeStart, stop⟩ t.tokens (FitsIn lists t)
    (Ends lists ⟨t, t.height⟩ (FitsIn lists t))

/-- The run over a type under a bound within which it fits. -/
theorem TypeRuns.within {t : TypeExpr} (h : TypeRuns t) {lists : List OpenList} {fits : Prop}
    (hfits : fits → FitsIn lists t) (stop : Nat) :
    Runs ⟨lists, .typeStart, stop⟩ t.tokens fits (Ends lists ⟨t, t.height⟩ fits) :=
  (h lists stop).mono hfits fun _ hnext ↦ hnext.mono hfits

/-- Assumes: a run over each of some arguments, that there is one, and a bound under which they fit
and the closed name is within the limit. The run over the arguments and the closing mark ends in the
name. -/
theorem runs_arguments {arguments : List TypeExpr}
    (hruns : ∀ argument ∈ arguments, TypeRuns argument)
    (hne : arguments ≠ []) {outer : List OpenList} {fits : Prop}
    (hinside : fits → outer.length + 1 + heightOfAll arguments ≤ maxNesting) :
    ∀ (list : OpenList) (stop : Nat), (fits → (list.closed arguments).height ≤ maxNesting) →
      Runs ⟨list :: outer, .typeStart, stop⟩ (tokensOfAll arguments ++ [.greater]) fits
        (EndsName outer (list.closed arguments) fits) := by
  induction arguments with
  | nil => exact absurd rfl hne
  | cons first rest ih =>
    intro list stop hclosed
    have hfirst : fits → FitsIn (list :: outer) first := fun hfits ↦ by
      have hbound := hinside hfits
      have hle := Nat.le_max_left first.height (heightOfAll rest)
      rw [heightOfAll] at hbound
      rw [FitsIn, List.length_cons]
      omega
    have hrun := (hruns first List.mem_cons_self).within hfirst stop
    cases rest with
    | nil =>
      refine hrun.append fun next hnext ↦ .single fun x hx ↦ ?_
      refine reads_step_of_ends hnext (by simp [hx]) fun offset ↦ ?_
      unfold afterSuffixed
      rw [hx]
      refine ((reads_close list first).within hclosed).bind ?_
      rintro whole rfl
      exact ⟨⟨rfl, rfl⟩, trivial⟩
    | cons second more =>
      rw [tokensOfAll_cons_cons, List.append_assoc, List.cons_append]
      refine hrun.append fun next hnext ↦ .cons (P := fun after ↦ ∃ stop, after =
        ⟨list.push ⟨first, first.height⟩ :: outer, .typeStart, stop⟩) (fun x hx ↦ ?_) ?_
      · refine reads_step_of_ends hnext (by simp [hx]) fun offset ↦ ?_
        unfold afterSuffixed
        rw [hx]
        exact ⟨x.stop, rfl⟩
      · rintro after ⟨stop, rfl⟩
        rw [← OpenList.closed_push]
        refine ih (fun argument hargument ↦ hruns argument (List.mem_cons_of_mem _ hargument))
          (List.cons_ne_nil _ _) (fun hfits ↦ ?_) _ stop fun hfits ↦ ?_
        · have hbound := hinside hfits
          have hle := Nat.le_max_right first.height (heightOfAll (second :: more))
          rw [heightOfAll] at hbound
          omega
        · rw [OpenList.closed_push]
          exact hclosed hfits

/-- A type argument list is entered as a type is begun inside it, if the limit allows one more. -/
theorem runs_listStart {lists : List OpenList} {join : Join} {text : String} {offset : Nat}
    {word : String} {more : List Token} {fits : Prop} {P : State → Prop}
    (hfits : fits → lists.length < maxNesting) {stop : Nat}
    (h : Runs ⟨⟨join, text, [], 0, offset⟩ :: lists, .typeStart, stop⟩ (.word word :: more)
      fits P) :
    Runs ⟨lists, .listStart join text offset, stop⟩ (.word word :: more) fits P := by
  intro xs hxs
  have hrun := h xs hxs
  obtain ⟨x, rest, rfl, hx, -⟩ := List.map_eq_cons_iff.mp hxs
  have hstep : State.step ⟨lists, .listStart join text offset, stop⟩ x =
      if maxNesting ≤ lists.length then .error (.tooDeep offset)
      else beginType (⟨join, text, [], 0, offset⟩ :: lists) x := by
    unfold State.step
    dsimp only
    rw [if_neg (by simp [hx])]
  rw [List.foldlM_cons] at hrun ⊢
  rw [hstep]
  split
  · next hlimit => exact fun h ↦ absurd (hfits h) (Nat.not_lt.mpr hlimit)
  · exact hrun

/-! ### Runs over segments, names and types -/

/-- A word that begins a type and is no keyword begins a name. -/
theorem step_typeStart {lists : List OpenList} {stop : Nat} {word : String}
    (hword : Keyword.isKeyword word = false) {x : Lexeme} (hx : x.token = .word word) :
    State.step ⟨lists, .typeStart, stop⟩ x = .ok ⟨lists, .identifier .first word, x.stop⟩ := by
  show beginType lists x = _
  unfold beginType
  rw [hx]
  dsimp only
  rw [hword]
  rfl

/-- A word after a dot or an alias is an identifier. -/
theorem step_nameStart {lists : List OpenList} {join : Join} {stop : Nat} {word : String}
    {x : Lexeme} (hx : x.token = .word word) :
    State.step ⟨lists, .nameStart join, stop⟩ x = .ok ⟨lists, .identifier join word, x.stop⟩ := by
  unfold State.step
  dsimp only
  rw [hx]

/-- An identifier at the left end of a name is an alias when two colons follow it. -/
theorem step_doubleColon {lists : List OpenList} {stop : Nat} {label : String} {x : Lexeme}
    (hx : x.token = .doubleColon) :
    State.step ⟨lists, .identifier .first label, stop⟩ x =
      .ok ⟨lists, .nameStart (.label label stop), x.stop⟩ := by
  unfold State.step
  dsimp only
  rw [hx]

/-- After an identifier type arguments may begin. -/
theorem step_less {lists : List OpenList} {join : Join} {stop : Nat} {text : String} {x : Lexeme}
    (hx : x.token = .less) :
    State.step ⟨lists, .identifier join text, stop⟩ x =
      .ok ⟨lists, .listStart join text x.stop, x.stop⟩ := by
  unfold State.step
  dsimp only
  rw [hx]

/-- Commas between the brackets of an array suffix are counted. -/
theorem runs_commas (lists : List OpenList) (element : Sized) (offset : Nat) (fits : Prop)
    (count rank stop : Nat) :
    Runs ⟨lists, .ranks element rank offset, stop⟩ (List.replicate count .comma) fits
      fun next ↦ ∃ stop, next = ⟨lists, .ranks element (rank + count) offset, stop⟩ := by
  induction count generalizing rank stop with
  | zero => exact .nil ⟨stop, rfl⟩
  | succ count ih =>
    have hstep (x : Lexeme) (hx : x.token = .comma) :
        State.step ⟨lists, .ranks element rank offset, stop⟩ x =
          .ok ⟨lists, .ranks element (rank + 1) offset, x.stop⟩ := by
      unfold State.step
      dsimp only
      rw [hx]
    rw [List.replicate_succ, Nat.add_comm count 1, ← Nat.add_assoc]
    exact .cons_ok hstep fun x ↦ ih (rank + 1) x.stop

/-- A node that is built above the one that ends fits when it is within the limit. -/
theorem FitsIn.of_height_le {lists : List OpenList} {part whole : TypeExpr}
    (h : part.height ≤ whole.height) (hwhole : FitsIn lists whole) : FitsIn lists part :=
  Nat.le_trans (Nat.add_le_add_left h _) hwhole

/-- A type with a suffix is within the limit only if the type without it is below the limit. -/
theorem FitsIn.of_height_eq {lists : List OpenList} {part whole : TypeExpr}
    (h : whole.height = part.height + 1) (hwhole : FitsIn lists whole) :
    FitsIn lists part ∧ part.height + 1 ≤ maxNesting := by
  rw [FitsIn, h] at hwhole
  exact ⟨Nat.le_of_succ_le hwhole, Nat.le_trans (Nat.le_add_left ..) hwhole⟩

mutual

/-- Assumes: a segment, and a bound under which what it is joined to fits into the limit with the
open lists. The run over what follows the identifier of the segment ends in the joined name. -/
theorem runs_segment {identifier : String} {t : TypeExpr} : IsSegment identifier t →
    ∃ rest, t.tokens = .word identifier :: rest ∧
      ∀ (lists : List OpenList) (join : Join) (stop : Nat) (fits : Prop),
        (fits → lists.length + (join.above ⟨t, t.height⟩).height ≤ maxNesting) →
          Runs ⟨lists, .identifier join identifier, stop⟩ rest fits
            (EndsName lists (join.above ⟨t, t.height⟩) fits)
  | .simple hidentifier => by
    refine ⟨[], rfl, fun lists join stop fits hfits ↦ .nil ⟨⟨rfl, ?_⟩, trivial⟩⟩
    rw [height] at hfits ⊢
    exact (reads_apply join _).within fun h ↦ Nat.le_trans (Nat.le_add_left ..) (hfits h)
  | @IsSegment.generic identifier arguments hidentifier hne harguments => by
    refine ⟨.less :: (tokensOfAll arguments ++ [.greater]), rfl, ?_⟩
    intro lists join stop fits hfits
    have hclosed (offset : Nat) : OpenList.closed ⟨join, identifier, [], 0, offset⟩ arguments =
        join.above ⟨.generic identifier arguments, height (.generic identifier arguments)⟩ := by
      simp [OpenList.closed, height]
    have hle : heightOfAll arguments + 1 ≤ (join.above
        ⟨.generic identifier arguments, height (.generic identifier arguments)⟩).height := by
      refine Nat.le_trans (Nat.le_of_eq ?_) (Join.le_height_above join _)
      rw [height]
    obtain ⟨word, rest, hword⟩ := exists_tokensOfAll_eq_cons hne
    refine .cons_ok (fun x hx ↦ step_less hx) fun x ↦ ?_
    rw [hword, List.cons_append]
    refine runs_listStart (fun h ↦ ?_) ?_
    · have hbound := hfits h
      omega
    · rw [← List.cons_append, ← hword, ← hclosed x.stop]
      refine runs_arguments (fun argument hargument ↦ runs_type (harguments argument hargument))
        hne (fun h ↦ ?_) _ x.stop fun h ↦ ?_
      · have hbound := hfits h
        omega
      · rw [hclosed]
        exact Nat.le_trans (Nat.le_add_left ..) (hfits h)

/-- The run over a name ends in the name. -/
theorem runs_name {t : TypeExpr} : IsName t → ∀ lists stop,
    Runs ⟨lists, .typeStart, stop⟩ t.tokens (FitsIn lists t)
      (EndsName lists ⟨t, t.height⟩ (FitsIn lists t))
  | .first hkeyword ht => by
    obtain ⟨rest, htokens, hruns⟩ := runs_segment ht
    intro lists stop
    rw [htokens]
    exact .cons_ok (fun x hx ↦ step_typeStart hkeyword hx) fun x ↦
      hruns lists .first x.stop _ fun h ↦ h
  | @IsName.aliased label identifier name hlabel hkeyword hname => by
    obtain ⟨rest, htokens, hruns⟩ := runs_segment hname
    intro lists stop
    rw [tokens, htokens]
    refine .cons_ok (fun x hx ↦ step_typeStart hkeyword hx) fun x ↦ ?_
    refine .cons_ok (fun y hy ↦ step_doubleColon hy) fun y ↦ ?_
    refine .cons_ok (fun z hz ↦ step_nameStart hz) fun z ↦ ?_
    have habove : (Join.label label x.stop).above ⟨name, name.height⟩ =
        ⟨.aliased label name, height (.aliased label name)⟩ := by
      rw [Join.above, height]
    rw [← habove]
    refine hruns lists (.label label x.stop) z.stop _ fun h ↦ ?_
    rw [habove]
    exact h
  | @IsName.qualified identifier left right hleft hright => by
    obtain ⟨rest, htokens, hruns⟩ := runs_segment hright
    intro lists stop
    have hfits : FitsIn lists (.qualified left right) → FitsIn lists left :=
      FitsIn.of_height_le (by rw [height]; exact Nat.le_succ_of_le (Nat.le_max_left ..))
    have hrun := (runs_name hleft lists stop).mono hfits fun _ hnext ↦
      And.intro (hnext.1.mono hfits) hnext.2
    rw [tokens, htokens]
    refine hrun.append fun next hnext ↦ .cons (fun x hx ↦ reads_step_dot hnext hx) ?_
    rintro after ⟨offset, stop, rfl⟩
    refine .cons_ok (fun x hx ↦ step_nameStart hx) fun x ↦ ?_
    have habove : (Join.member ⟨left, left.height⟩ offset).above ⟨right, right.height⟩ =
        ⟨.qualified left right, height (.qualified left right)⟩ := by
      rw [Join.above, height]
    rw [← habove]
    refine hruns lists (.member ⟨left, left.height⟩ offset) x.stop _ fun h ↦ ?_
    rw [habove]
    exact h

/-- The run over a type ends in the type. -/
theorem runs_type {t : TypeExpr} : IsType t → TypeRuns t
  | .keyword hword => by
    intro lists stop
    refine .single fun x hx ↦ ?_
    show Reads _ _ (beginType lists x)
    unfold beginType
    rw [hx]
    dsimp only
    rw [if_pos hword]
    exact ⟨rfl, by rw [height]; rfl⟩
  | .name ht => fun lists stop ↦ (runs_name ht lists stop).mono (fun h ↦ h) fun _ h ↦ h.1
  | @IsType.array element rank helement hrank => by
    intro lists stop
    have hfits : FitsIn lists (.array element rank) → FitsIn lists element ∧
        element.height + 1 ≤ maxNesting := FitsIn.of_height_eq (by rw [height])
    have hrun := (runs_type helement).within (fun h ↦ (hfits h).1) stop
    rw [tokens]
    refine hrun.append fun next hnext ↦ .cons (P := fun after ↦ ∃ offset stop,
      after = ⟨lists, .ranks ⟨element, element.height⟩ 1 offset, stop⟩) (fun x hx ↦ ?_) ?_
    · refine reads_step_of_ends hnext (by simp [hx]) fun offset ↦ ?_
      unfold afterSuffixed
      rw [hx]
      exact ⟨offset, x.stop, rfl⟩
    rintro after ⟨offset, stop, rfl⟩
    refine (runs_commas lists _ offset _ (rank - 1) 1 stop).append ?_
    rintro after ⟨stop, rfl⟩
    refine .single fun x hx ↦ ?_
    unfold State.step
    dsimp only
    rw [hx]
    refine ((reads_raise element.height offset).within fun h ↦ (hfits h).2).bind ?_
    rintro height rfl
    refine ⟨rfl, ?_⟩
    rw [Nat.add_sub_cancel' hrank, TypeExpr.height]
    rfl
  | @IsType.nullable inner hinner => by
    intro lists stop
    have hfits : FitsIn lists (.nullable inner) → FitsIn lists inner ∧
        inner.height + 1 ≤ maxNesting := FitsIn.of_height_eq (by rw [height])
    have hrun := (runs_type hinner).within (fun h ↦ (hfits h).1) stop
    rw [tokens]
    refine hrun.append fun next hnext ↦ .single fun x hx ↦ ?_
    refine reads_step_of_ends hnext (by simp [hx]) fun offset ↦ ?_
    unfold afterSuffixed
    rw [hx]
    refine ((reads_raise inner.height offset).within fun h ↦ (hfits h).2).bind ?_
    rintro height rfl
    refine ⟨rfl, ?_⟩
    rw [TypeExpr.height]
    rfl

end

/-! ### Whole texts -/

/-- A text that ends outside all lists is the type that may end there. -/
theorem reads_finish {node : Sized} {fits : Prop} {s : State} (hs : Ends [] node fits s) :
    Reads fits (· = node.expr) s.finish := by
  obtain ⟨lists, phase, stop⟩ := s
  obtain ⟨rfl, hending⟩ := hs
  cases phase with
  | identifier join text =>
    refine hending.bind ?_
    rintro ending rfl
    rfl
  | name ending | suffixed ending => exact congrArg Sized.expr hending
  | typeStart | nameStart join | listStart join text offset | ranks element rank offset =>
    exact hending.elim

/-- A text that spells a type is read as the type, up to the limit. -/
theorem reads_parse {t : TypeExpr} (ht : IsType t) {text : String}
    (htext : Spells t.tokens text.toList) :
    Reads (t.height ≤ maxNesting) (· = t) (parse text) := by
  have hscan := map_token_scan_of_spells htext (isLegal_of_mem_tokens ht) (isChain_tokens t) 0
  have hfits : t.height ≤ maxNesting → FitsIn [] t := fun h ↦ by
    rw [FitsIn, List.length_nil, Nat.zero_add]
    exact h
  exact ((runs_type ht).within hfits 0 _ hscan).bind
    fun _ hnext ↦ reads_finish hnext

/-- A text is read as a type when the type is of the grammar, within the limit, and spelled by the
text. -/
theorem parse_eq_ok_iff {text : String} {t : TypeExpr} :
    parse text = .ok t ↔ (IsType t ∧ t.height ≤ maxNesting) ∧ Spells t.tokens text.toList := by
  constructor
  · intro h
    obtain ⟨ht, htokens⟩ := parse_sound h
    exact ⟨ht, htokens ▸ spells_map_token_scan 0 text.toList⟩
  · rintro ⟨⟨ht, hlimit⟩, htext⟩
    exact (reads_parse ht htext).eq_ok hlimit

/-- A text that spells a type above the limit is refused for that. -/
theorem exists_parse_eq_tooDeep {t : TypeExpr} (ht : IsType t) {text : String}
    (htext : Spells t.tokens text.toList) (hlimit : maxNesting < t.height) :
    ∃ offset, parse text = .error (.tooDeep offset) := by
  have hreads := reads_parse ht htext
  match hparse : parse text with
  | .ok other =>
    rw [hparse] at hreads
    obtain rfl : other = t := hreads
    exact absurd (parse_sound hparse).1.2 (Nat.not_le.mpr hlimit)
  | .error (.tooDeep offset) => exact ⟨offset, rfl⟩
  | .error .unexpectedEnd | .error (.unexpectedChar ..) | .error (.expectedIdentifier ..)
  | .error (.emptyTypeArguments ..) =>
    rw [hparse] at hreads
    exact hreads.elim

/-- Assumes: a type of the grammar. Every text that spells it, with white space wherever it likes,
is read as the type if that is within the limit, and is otherwise refused for its depth. In
particular the normal form of a type within the limit is read as the type. -/
theorem parse_of_isType {t : TypeExpr} (ht : IsType t) :
    (∀ text : String, Spells t.tokens text.toList →
      (t.height ≤ maxNesting → parse text = .ok t) ∧
      (maxNesting < t.height → ∃ offset, parse text = .error (.tooDeep offset))) ∧
    (t.height ≤ maxNesting → parse t.render = .ok t) := by
  refine ⟨fun text htext ↦ ⟨fun hlimit ↦ ?_, exists_parse_eq_tooDeep ht htext⟩, fun hlimit ↦ ?_⟩
  · exact parse_eq_ok_iff.mpr ⟨⟨ht, hlimit⟩, htext⟩
  · exact parse_eq_ok_iff.mpr ⟨⟨ht, hlimit⟩, spells_render t⟩

/-- `global::A.List<int?>[,]`, once spelled with white space and once in normal form, and
`int` with 128 question marks, which is a level too high. -/
theorem parse_of_isType_global :
    let list : TypeExpr := .array (.qualified (.aliased "global" (.simple "A"))
      (.generic "List" [.nullable (.keyword "int")])) 2
    let deep : TypeExpr := Nat.repeat .nullable 128 (.keyword "int")
    IsType list ∧ IsType deep ∧
      parse " global ::A.\tList< int ?>[ ,]" = .ok list ∧ parse list.render = .ok list ∧
      ∃ offset, parse deep.render = .error (.tooDeep offset) := by
  intro list deep
  have hlist : IsType list := by
    refine .array (.name (.qualified (.aliased (by decide) (by decide) (.simple (by decide)))
      (.generic (by decide) (List.cons_ne_nil _ _) fun argument hargument ↦ ?_))) (by decide)
    rw [List.mem_singleton.mp hargument]
    exact .nullable (.keyword (by decide))
  have hdeep (count : Nat) : IsType (Nat.repeat .nullable count (.keyword "int")) := by
    induction count with
    | zero => exact .keyword (by decide)
    | succ count ih => exact .nullable ih
  have htext : Spells list.tokens " global ::A.\tList< int ?>[ ,]".toList := by
    have hscan : (scan 0 " global ::A.\tList< int ?>[ ,]".toList).map Lexeme.token =
        list.tokens := by
      decide +kernel
    exact hscan ▸ spells_map_token_scan 0 _
  have hlimit : list.height ≤ maxNesting := by decide
  have hheight : maxNesting < deep.height := by decide +kernel
  exact ⟨hlist, hdeep 128, ((parse_of_isType hlist).1 _ htext).1 hlimit,
    (parse_of_isType hlist).2 hlimit,
    ((parse_of_isType (hdeep 128)).1 _ (spells_render _)).2 hheight⟩

end HubRelay.TypeExpr
