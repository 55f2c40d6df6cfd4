import HubRelay.Proofs.Steps
import HubRelay.TypeExpr.Parser

/-!
# Reading by descent

The grammar can also be read by a function for each of its rules, where the type arguments of a name are
read by the function for types. Here these functions have a budget: the one for types stops when it is
called inside more calls of itself than the budget allows (`typeWithin`). It also stops when the count of
open lists that the reader keeps is not the number of lists it is called in, and a loop stops when it goes
round and reads nothing.

None of this ever happens. The rules read a text as the stack of open lists does (`Follows`): where a
function returns, the run goes on from there, and where it stops, the run is refused for the same reason.
There is one lemma for each rule, under the assumption that the types inside are read in this way, and
the budget is enough for them since a list is refused where `maxNesting` lists are open
(`readsTypes_typeWithin`). The run itself never has more lists open (`step_counts`).
-/

set_option autoImplicit false

namespace HubRelay.TypeExpr

namespace Descent

/-! ### Readers -/

/-- Why a reader stops without a result. -/
inductive Halt
  /-- The text is not a type expression. -/
  | refused (reason : SyntaxError)
  /-- A type begins inside more types than the budget allows. -/
  | exhausted
  /-- The count of open lists is not the number of lists around the place. -/
  | miscounted
  /-- A loop has gone round and read nothing. -/
  | stalled
deriving DecidableEq

/-- A place in the text. -/
structure Cursor where
  /-- The tokens that have not been read. -/
  rest : List Lexeme
  /-- The offset of the place. Looking for a token moves it past white space. -/
  place : Nat
  /-- How many type argument lists are open, as the reader counts them. -/
  openLists : Nat

/-- Reads on from a place. -/
abbrev Reader := StateT Cursor (Except Halt)

/-- Stops at something that cannot stand in its place. -/
def refuse {α : Type} (reason : SyntaxError) : Reader α := fun _ ↦ .error (.refused reason)

/-- Goes on with a value, unless there is an error. -/
def check {α : Type} : Except SyntaxError α → Reader α
  | .ok value => pure value
  | .error reason => refuse reason

/-- Reads a token if it is the next one. -/
def eat (token : Token) : Reader Bool := fun c ↦
  match c.rest with
  | [] => .ok (false, c)
  | x :: rest =>
    if x.token = token then .ok (true, ⟨rest, x.stop, c.openLists⟩)
    else .ok (false, { c with place := x.start })

/-- Refuses what stands at the place. -/
def unexpected {α : Type} : Reader α := fun c ↦
  match c.rest with
  | [] => refuse .unexpectedEnd c
  | x :: _ => refuse (.unexpectedChar x.lead x.start) c

/-- Reads a token that must be the next one. -/
def expect (token : Token) : Reader Unit := do
  if ← eat token then return () else unexpected

/-- Reads an identifier. -/
def identifier : Reader String := fun c ↦
  match c.rest with
  | [] => refuse .unexpectedEnd c
  | x :: rest =>
    match x.token with
    | .word text => .ok (text, ⟨rest, x.stop, c.openLists⟩)
    | _ => refuse (.expectedIdentifier x.start) c

/-- Goes round from a place until there is a result. Each round has to read something. -/
def loopFrom {σ β : Type} (round : σ → Reader (σ ⊕ β)) (s : σ) (c : Cursor) :
    Except Halt (β × Cursor) :=
  match round s c with
  | .error reason => .error reason
  | .ok (.inr result, after) => .ok (result, after)
  | .ok (.inl next, after) =>
    if after.rest.length < c.rest.length then loopFrom round next after else .error .stalled
termination_by c.rest.length

/-- Goes round until there is a result. -/
def loop {σ β : Type} (round : σ → Reader (σ ⊕ β)) (s : σ) : Reader β := loopFrom round s

/-! ### Suffixes -/

/-- Reads a comma between the brackets of an array suffix. -/
def rankRound (rank : Nat) : Reader (Nat ⊕ Nat) := do
  if ← eat .comma then return .inl (rank + 1) else return .inr rank

/-- Reads a suffix. -/
def suffixRound (node : Sized) : Reader (Sized ⊕ Sized) := do
  let offset := (← get).place
  if ← eat .question then
    return .inl ⟨.nullable node.expr, ← check (raise node.height offset)⟩
  else if ← eat .leftBracket then
    let rank ← loop rankRound 1
    expect .rightBracket
    return .inl ⟨.array node.expr rank, ← check (raise node.height offset)⟩
  else return .inr node

/-! ### Names -/

section Names

variable (inner : Reader Sized)

/-- Reads a type argument, and a comma if one follows it. The arguments before it are kept last one
first, with their greatest height. -/
def argumentRound (before : List TypeExpr × Nat) :
    Reader ((List TypeExpr × Nat) ⊕ (List TypeExpr × Nat)) := do
  let argument ← inner
  let all := (argument.expr :: before.1, max before.2 argument.height)
  if ← eat .comma then return .inl all else return .inr all

/-- Reads the type arguments of a name, if it has any. -/
def typeArguments (identifier : String) : Reader Sized := do
  if ← eat .less then
    let offset := (← get).place
    if ← eat .greater then refuse (.emptyTypeArguments offset)
    else if maxNesting ≤ (← get).openLists then refuse (.tooDeep offset)
    else
      modify fun c ↦ { c with openLists := c.openLists + 1 }
      let arguments ← loop (argumentRound inner) ([], 0)
      expect .greater
      modify fun c ↦ { c with openLists := c.openLists - 1 }
      return ⟨.generic identifier arguments.1.reverse, ← check (raise arguments.2 offset)⟩
  else return ⟨.simple identifier, 1⟩

/-- Reads a simple or generic name. -/
def simpleName : Reader Sized := do
  typeArguments inner (← identifier)

/-- Reads a dot and the name behind it. -/
def memberRound (node : Sized) : Reader (Sized ⊕ Sized) := do
  let offset := (← get).place
  if ← eat .dot then
    let right ← simpleName inner
    let height ← check (raise (max node.height right.height) offset)
    return .inl ⟨.qualified node.expr right.expr, height⟩
  else return .inr node

/-- Reads a keyword or a name. -/
def name : Reader Sized := do
  let word ← identifier
  if Keyword.isKeyword word then return ⟨.keyword word, 1⟩
  else
    let offset := (← get).place
    if ← eat .doubleColon then
      let first ← simpleName inner
      let height ← check (raise first.height offset)
      loop (memberRound inner) ⟨.aliased word first.expr, height⟩
    else
      let first ← typeArguments inner word
      loop (memberRound inner) first

/-- Reads a type: a keyword or a name, and suffixes. -/
def type : Reader Sized := do
  loop suffixRound (← name inner)

end Names

/-! ### Type expressions -/

/-- Stops unless the count of open lists is the number of lists around the place. -/
def checkCount (entered : Nat) : Reader Unit := fun c ↦
  if c.openLists = entered then .ok ((), c) else .error .miscounted

/-- Reads a type inside `entered` type argument lists, with at most `budget` types inside each
other. -/
def typeWithin : (budget entered : Nat) → Reader Sized
  | 0, _ => fun _ ↦ .error .exhausted
  | budget + 1, entered => do
    checkCount entered
    let node ← type (typeWithin budget (entered + 1))
    checkCount entered
    return node

/-- Reads all that is left as a type. -/
def whole (budget : Nat) : Reader TypeExpr := do
  let node ← typeWithin budget 0
  if (← get).rest.isEmpty then return node.expr else unexpected

/-- Reads a type expression by descent. -/
def read (budget : Nat) (text : String) : Except Halt TypeExpr :=
  (whole budget ⟨scan 0 text.toList, 0, 0⟩).map (·.1)

/-! ### Following a run -/

/-- What the stack of open lists makes of the tokens that are left. -/
def run (s : State) (rest : List Lexeme) : Except SyntaxError TypeExpr :=
  rest.foldlM State.step s >>= State.finish

theorem run_cons (s : State) (x : Lexeme) (rest : List Lexeme) :
    run s (x :: rest) = s.step x >>= fun next ↦ run next rest := by
  rw [run, List.foldlM_cons, bind_assoc]
  rfl

/-- A token that is taken. -/
theorem run_of_step_eq_ok {s next : State} {x : Lexeme} {tokens rest : List Lexeme}
    (htokens : tokens = x :: rest) (hstep : s.step x = .ok next) : run s tokens = run next rest := by
  rw [htokens, run_cons, hstep]
  rfl

/-- Goes on behind a token that must be the next one. -/
def closing (token : Token) (rest : List Lexeme)
    (further : Lexeme → List Lexeme → Except SyntaxError TypeExpr) : Except SyntaxError TypeExpr :=
  match rest with
  | [] => .error .unexpectedEnd
  | x :: rest => if x.token = token then further x rest else x.refuse

/-- Nothing is read twice, and the count of open lists is as before. -/
structure Keeps (c after : Cursor) : Prop where
  openLists : after.openLists = c.openLists
  length_le : after.rest.length ≤ c.rest.length

/-- White space is passed over. -/
theorem keeps_at (c : Cursor) (place : Nat) : Keeps c ⟨c.rest, place, c.openLists⟩ :=
  ⟨rfl, Nat.le_refl _⟩

theorem Keeps.trans {c middle after : Cursor} (hfirst : Keeps c middle) (hlast : Keeps middle after) :
    Keeps c after :=
  ⟨hlast.openLists.trans hfirst.openLists, Nat.le_trans hlast.length_le hfirst.length_le⟩

/-- Something is read, and the count of open lists is as before. -/
structure Shortens (c after : Cursor) : Prop where
  openLists : after.openLists = c.openLists
  length_lt : after.rest.length < c.rest.length

theorem Shortens.keeps {c after : Cursor} (h : Shortens c after) : Keeps c after :=
  ⟨h.openLists, Nat.le_of_lt h.length_lt⟩

theorem Shortens.trans {c middle after : Cursor} (hfirst : Shortens c middle)
    (hlast : Keeps middle after) : Shortens c after :=
  ⟨hlast.openLists.trans hfirst.openLists, Nat.lt_of_le_of_lt hlast.length_le hfirst.length_lt⟩

/-- A token is read. -/
theorem shortens_of_eq_cons {c : Cursor} {x : Lexeme} {rest : List Lexeme} (h : c.rest = x :: rest)
    (place : Nat) : Shortens c ⟨rest, place, c.openLists⟩ :=
  ⟨rfl, by rw [h]; exact Nat.lt_succ_self _⟩

/-- A reading comes to the same as a run: where it has a value the run goes on as `next` has it from
there, and where it stops the run is refused for the same reason. It stops for no other reason. -/
def Follows {α : Type} (expected : Except SyntaxError TypeExpr)
    (next : α → Cursor → Except SyntaxError TypeExpr) (post : α → Cursor → Prop) :
    Except Halt (α × Cursor) → Prop
  | .ok (value, after) => expected = next value after ∧ post value after
  | .error (.refused reason) => expected = .error reason
  | .error _ => False

section Follows

variable {α β : Type} {expected : Except SyntaxError TypeExpr}
  {next : α → Cursor → Except SyntaxError TypeExpr} {post : α → Cursor → Prop}
  {more : β → Cursor → Except SyntaxError TypeExpr} {last : β → Cursor → Prop} {c : Cursor}

/-- A reader after another. -/
theorem Follows.bind {first : Reader α} {later : α → Reader β}
    (h : Follows expected next post (first c))
    (hthen : ∀ value after, post value after →
      Follows (next value after) more last (later value after)) :
    Follows expected more last ((first >>= later) c) := by
  show Follows _ _ _ (first c >>= fun result ↦ later result.1 result.2)
  cases hfirst : first c with
  | ok result =>
    rw [hfirst] at h
    obtain ⟨rfl, hpost⟩ := h
    exact hthen _ _ hpost
  | error halt =>
    rw [hfirst] at h
    cases halt with
    | refused reason => exact h
    | exhausted | miscounted | stalled => exact h.elim

/-- A weaker statement on what is kept. -/
theorem Follows.mono {result : Except Halt (α × Cursor)} {post' : α → Cursor → Prop}
    (h : Follows expected next post result)
    (hpost : ∀ value after, post value after → post' value after) :
    Follows expected next post' result := by
  match result, h with
  | .ok _, h => exact ⟨h.1, hpost _ _ h.2⟩
  | .error (.refused _), h => exact h

/-- A reader that goes on when there is no error. -/
theorem Follows.check {result : Except SyntaxError α} {later : α → Reader β}
    {further : α → Except SyntaxError TypeExpr} (h : expected = result >>= further)
    (hthen : ∀ value, Follows (further value) more last (later value c)) :
    Follows expected more last ((check result >>= later) c) := by
  subst h
  cases result with
  | ok value => exact hthen value
  | error reason => exact rfl

/-- A reader that looks at its place. -/
theorem Follows.get {later : Cursor → Reader β} (h : Follows expected more last (later c c)) :
    Follows expected more last (((get : Reader Cursor) >>= later) c) :=
  h

/-- A reader that looks for a token. -/
theorem Follows.eat {token : Token} {later : Bool → Reader β}
    (hread : ∀ x rest, c.rest = x :: rest → x.token = token →
      Follows expected more last (later true ⟨rest, x.stop, c.openLists⟩))
    (hother : ∀ place, (∀ x ∈ c.rest.head?, x.token ≠ token ∧ place = x.start) →
      Follows expected more last (later false ⟨c.rest, place, c.openLists⟩)) :
    Follows expected more last ((eat token >>= later) c) := by
  show Follows _ _ _ (Descent.eat token c >>= fun result ↦ later result.1 result.2)
  obtain ⟨rest, place, openLists⟩ := c
  cases rest with
  | nil => exact hother place fun x hx ↦ nomatch hx
  | cons x rest =>
    by_cases htoken : x.token = token
    · have heat : Descent.eat token ⟨x :: rest, place, openLists⟩ =
          .ok (true, ⟨rest, x.stop, openLists⟩) := if_pos htoken
      rw [heat]
      exact hread x rest rfl htoken
    · have heat : Descent.eat token ⟨x :: rest, place, openLists⟩ =
          .ok (false, ⟨x :: rest, x.start, openLists⟩) := if_neg htoken
      rw [heat]
      refine hother x.start fun y hy ↦ ?_
      obtain rfl := Option.some.inj hy
      exact ⟨htoken, rfl⟩

/-- A reader that changes its count of open lists. -/
theorem Follows.modify {change : Cursor → Cursor} {later : Unit → Reader β}
    (h : Follows expected more last (later () (change c))) :
    Follows expected more last (((modify change : Reader Unit) >>= later) c) :=
  h

/-- A reader that needs an identifier. -/
theorem Follows.identifier {later : String → Reader β}
    (hend : c.rest = [] → expected = .error .unexpectedEnd)
    (hother : ∀ x rest, c.rest = x :: rest → (∀ text, x.token ≠ .word text) →
      expected = .error (.expectedIdentifier x.start))
    (hword : ∀ x rest text, c.rest = x :: rest → x.token = .word text →
      Follows expected more last (later text ⟨rest, x.stop, c.openLists⟩)) :
    Follows expected more last ((identifier >>= later) c) := by
  show Follows _ _ _ (Descent.identifier c >>= fun result ↦ later result.1 result.2)
  unfold Descent.identifier
  cases hrest : c.rest with
  | nil => exact hend hrest
  | cons x rest =>
    dsimp only
    split
    · next text htoken => exact hword x rest text hrest htoken
    · next hnone => exact hother x rest hrest hnone

/-- A reader that needs a token. -/
theorem Follows.expect {token : Token} {later : Unit → Reader β}
    {further : Lexeme → List Lexeme → Except SyntaxError TypeExpr}
    (h : expected = closing token c.rest further)
    (hthen : ∀ x rest, c.rest = x :: rest →
      Follows (further x rest) more last (later () ⟨rest, x.stop, c.openLists⟩)) :
    Follows expected more last ((expect token >>= later) c) := by
  rw [Descent.expect, bind_assoc]
  refine .eat (fun x rest hrest htoken ↦ ?_) fun place hplace ↦ ?_
  · rw [h, hrest, closing, if_pos htoken]
    exact hthen x rest hrest
  · rw [h]
    cases hrest : c.rest with
    | nil => exact rfl
    | cons x rest =>
      rw [hrest] at hplace
      rw [closing, if_neg (hplace x rfl).1]
      exact rfl

/-- A reader that goes round. Assumes: with a number of open lists each round that is not the last one
reads something. What a round follows and keeps, all rounds together do. -/
theorem Follows.loop {σ : Type} {round : σ → Reader (σ ⊕ β)} {openLists : Nat}
    (runs : σ → Cursor → Except SyntaxError TypeExpr)
    (hround : ∀ s c, c.openLists = openLists →
      Follows (runs s c) (fun out after ↦ out.elim (runs · after) (more · after))
        (fun out after ↦ out.elim (fun _ ↦ Shortens c after) fun _ ↦ Keeps c after) (round s c))
    (s : σ) (c : Cursor) (hopen : c.openLists = openLists) :
    Follows (runs s c) more (fun _ after ↦ Keeps c after) (loop round s c) := by
  rw [Descent.loop]
  fun_induction loopFrom round s c with
  | case1 s c reason hstop =>
    have h := hround s c hopen
    rw [hstop] at h
    cases reason with
    | refused reason => exact h
    | exhausted | miscounted | stalled => exact h.elim
  | case2 s c result after hdone =>
    have h := hround s c hopen
    rw [hdone] at h
    exact h
  | case3 s c again after hround' hlength ih =>
    have h := hround s c hopen
    rw [hround'] at h
    have hagain := ih (h.2.openLists.trans hopen)
    rw [h.1]
    exact hagain.mono fun _ _ hafter ↦ (h.2.trans hafter).keeps
  | case4 s c again after hround' hlength =>
    have h := hround s c hopen
    rw [hround'] at h
    exact absurd h.2.length_lt hlength

end Follows

/-! ### Suffixes -/

section Suffixes

variable (lists : List OpenList)

/-- What becomes of a type that no suffix follows. -/
def afterType (node : Sized) : List Lexeme → Except SyntaxError TypeExpr
  | [] => if lists.isEmpty then .ok node.expr else .error .unexpectedEnd
  | x :: rest =>
    match x.token, lists with
    | .comma, list :: outer => run ⟨list.push node :: outer, .typeStart, x.stop⟩ rest
    | .greater, list :: outer => do run ⟨outer, .name (← list.close node), x.stop⟩ rest
    | _, _ => x.refuse

/-- What becomes of the commas in an array suffix. -/
def afterRanks (element : Sized) (offset rank : Nat) (rest : List Lexeme) :
    Except SyntaxError TypeExpr :=
  closing .rightBracket rest fun x rest ↦ do
    run ⟨lists, .suffixed ⟨.array element.expr rank, ← raise element.height offset⟩, x.stop⟩ rest

theorem follows_ranks (element : Sized) (offset rank : Nat) (c : Cursor) :
    Follows (run ⟨lists, .ranks element rank offset, c.place⟩ c.rest)
      (fun rank after ↦ afterRanks lists element offset rank after.rest)
      (fun _ after ↦ Keeps c after) (loop rankRound rank c) := by
  refine Follows.loop (fun rank c ↦ run ⟨lists, .ranks element rank offset, c.place⟩ c.rest)
    (fun rank c _ ↦ ?_) rank c rfl
  refine .eat (fun x rest hrest htoken ↦ ⟨?_, shortens_of_eq_cons hrest _⟩) fun place hplace ↦
    ⟨?_, keeps_at c _⟩
  · exact run_of_step_eq_ok hrest (by simp only [State.step, htoken])
  · show _ = afterRanks lists element offset rank c.rest
    cases hrest : c.rest with
    | nil => rfl
    | cons x rest =>
      rw [hrest] at hplace
      obtain ⟨hcomma, -⟩ := hplace x rfl
      rw [run_cons, afterRanks, closing]
      simp only [State.step]
      split
      · next h => exact absurd h hcomma
      · next h => rw [if_pos h, bind_assoc]; rfl
      · next h => rw [if_neg h]; rfl

/-- A token that begins no suffix. -/
theorem run_suffixed_eq_afterType (node : Sized) (stop : Nat) {x : Lexeme} (rest : List Lexeme)
    (hquestion : x.token ≠ .question) (hbracket : x.token ≠ .leftBracket) :
    run ⟨lists, .suffixed node, stop⟩ (x :: rest) = afterType lists node (x :: rest) := by
  rw [run_cons]
  unfold afterType
  simp only [State.step, afterSuffixed]
  cases htoken : x.token with
  | question => exact absurd htoken hquestion
  | leftBracket => exact absurd htoken hbracket
  | comma => cases lists <;> rfl
  | greater =>
    cases lists with
    | nil => rfl
    | cons list outer => exact bind_assoc ..
  | word | doubleColon | dot | less | rightBracket | stray => rfl

theorem follows_suffixes (node : Sized) (c : Cursor) :
    Follows (run ⟨lists, .suffixed node, c.place⟩ c.rest)
      (fun node after ↦ afterType lists node after.rest) (fun _ after ↦ Keeps c after)
      (loop suffixRound node c) := by
  refine Follows.loop (fun node c ↦ run ⟨lists, .suffixed node, c.place⟩ c.rest)
    (fun node c _ ↦ .get ?_) node c rfl
  refine .eat (fun x rest hrest htoken ↦ ?_) fun place hquestion ↦
    .eat (fun x rest hrest htoken ↦ ?_) fun place hbracket ↦ ⟨?_, keeps_at c _⟩
  · have hrun : run ⟨lists, .suffixed node, c.place⟩ c.rest = raise node.height c.place >>=
        fun height ↦ run ⟨lists, .suffixed ⟨.nullable node.expr, height⟩, x.stop⟩ rest := by
      rw [hrest, run_cons]
      simp only [State.step, afterSuffixed, htoken, bind_assoc]
      rfl
    exact .check hrun fun height ↦ ⟨rfl, shortens_of_eq_cons hrest _⟩
  · have hrun : run ⟨lists, .suffixed node, c.place⟩ c.rest =
        run ⟨lists, .ranks node 1 c.place, x.stop⟩ rest :=
      run_of_step_eq_ok hrest (by simp only [State.step, afterSuffixed, htoken])
    rw [hrun]
    refine (follows_ranks lists node c.place 1 ⟨rest, x.stop, c.openLists⟩).bind
      fun rank after hafter ↦ .expect rfl fun y more hmore ↦ .check rfl fun height ↦ ⟨rfl, ?_⟩
    have hclosed := hafter.trans (shortens_of_eq_cons hmore y.stop).keeps
    exact (shortens_of_eq_cons (c := c) hrest x.stop).trans hclosed
  · show _ = afterType lists node c.rest
    cases hrest : c.rest with
    | nil => rfl
    | cons x rest =>
      rw [hrest] at hquestion
      simp only [hrest] at hbracket
      exact run_suffixed_eq_afterType lists node c.place rest (hquestion x rfl).1 (hbracket x rfl).1

end Suffixes

/-! ### Names -/

/-- The reader reads types inside lists as the stack does. -/
def ReadsTypes (lists : List OpenList) (inner : Reader Sized) : Prop :=
  ∀ c : Cursor, c.openLists = lists.length →
    Follows (run ⟨lists, .typeStart, c.place⟩ c.rest)
      (fun node after ↦ afterType lists node after.rest) (fun _ after ↦ Keeps c after) (inner c)

section Names

variable {lists : List OpenList} {inner : Reader Sized}

/-- What becomes of the arguments of a name when no comma follows. -/
def afterArguments (lists : List OpenList) (join : Join) (identifier : String) (offset : Nat)
    (arguments : List TypeExpr × Nat) (rest : List Lexeme) : Except SyntaxError TypeExpr :=
  closing .greater rest fun x rest ↦ do
    let height ← raise arguments.2 offset
    run ⟨lists, .name (← join.apply ⟨.generic identifier arguments.1.reverse, height⟩), x.stop⟩ rest

/-- Where a type begins does not depend on what is in front. -/
theorem run_typeStart (stop other : Nat) (rest : List Lexeme) :
    run ⟨lists, .typeStart, stop⟩ rest = run ⟨lists, .typeStart, other⟩ rest := by
  cases rest <;> rfl

/-- What becomes of an argument that no comma follows. -/
theorem afterType_eq_afterArguments (list : OpenList) (argument : Sized) {rest : List Lexeme}
    (hcomma : ∀ x ∈ rest.head?, x.token ≠ .comma) :
    afterType (list :: lists) argument rest = afterArguments lists list.join list.identifier list.offset
      ((list.push argument).arguments, (list.push argument).height) rest := by
  cases rest with
  | nil => rfl
  | cons x rest =>
    have hx := hcomma x rfl
    unfold afterType afterArguments closing
    dsimp only
    cases htoken : x.token with
    | comma => exact absurd htoken hx
    | greater =>
      rw [if_pos rfl]
      exact bind_assoc ..
    | word | doubleColon | dot | less | leftBracket | rightBracket | question | stray => rfl

theorem follows_arguments (hinner : ∀ list, ReadsTypes (list :: lists) inner) (join : Join)
    (identifier : String) (offset : Nat) (arguments : List TypeExpr × Nat) (c : Cursor)
    (hopen : c.openLists = lists.length + 1) :
    Follows (run ⟨⟨join, identifier, arguments.1, arguments.2, offset⟩ :: lists, .typeStart, c.place⟩
        c.rest)
      (fun arguments after ↦ afterArguments lists join identifier offset arguments after.rest)
      (fun _ after ↦ Keeps c after) (loop (argumentRound inner) arguments c) := by
  refine Follows.loop (fun arguments c ↦
    run ⟨⟨join, identifier, arguments.1, arguments.2, offset⟩ :: lists, .typeStart, c.place⟩ c.rest)
      (fun arguments c hc ↦ ?_) arguments c hopen
  refine (hinner _ c hc).bind fun argument middle hmiddle ↦
    .eat (fun x rest hrest htoken ↦ ⟨?_, ?_⟩) fun place hcomma ↦
      ⟨?_, hmiddle.trans (keeps_at middle place)⟩
  · rw [hrest]
    unfold afterType
    simp only [htoken]
    rfl
  · exact ⟨hmiddle.openLists,
      Nat.lt_of_lt_of_le (shortens_of_eq_cons hrest x.stop).length_lt hmiddle.length_le⟩
  · exact afterType_eq_afterArguments _ argument fun x hx ↦ (hcomma x hx).1

/-- What becomes of a simple or generic name. -/
def afterPart (lists : List OpenList) (join : Join) (node : Sized) (after : Cursor) :
    Except SyntaxError TypeExpr := do
  run ⟨lists, .name (← join.apply node), after.place⟩ after.rest

/-- A list that may open, and that something else than its end follows. -/
theorem run_listStart (join : Join) (text : String) (offset stop : Nat) {rest : List Lexeme}
    (hgreater : ∀ x ∈ rest.head?, x.token ≠ .greater) :
    run ⟨lists, .listStart join text offset, stop⟩ rest =
      if maxNesting ≤ lists.length then .error (.tooDeep offset)
      else run ⟨⟨join, text, [], 0, offset⟩ :: lists, .typeStart, stop⟩ rest := by
  cases rest with
  | nil => rfl
  | cons x rest =>
    rw [run_cons, run_cons]
    simp only [State.step]
    rw [if_neg (hgreater x rfl)]
    split <;> rfl

/-- An identifier that no type arguments follow, and no second colon after an alias. -/
theorem run_identifier_eq_afterPart (join : Join) (text : String) (stop : Nat) {c : Cursor}
    (hless : ∀ x ∈ c.rest.head?, x.token ≠ .less ∧ c.place = x.start)
    (halias : ∀ x ∈ c.rest.head?, join = .first → x.token ≠ .doubleColon) :
    run ⟨lists, .identifier join text, stop⟩ c.rest = afterPart lists join ⟨.simple text, 1⟩ c := by
  obtain ⟨rest, place, openLists⟩ := c
  unfold afterPart
  cases rest with
  | nil => rfl
  | cons x rest =>
    obtain ⟨hx, rfl⟩ := hless x rfl
    simp only [run_cons]
    rw [State.step]
    dsimp only
    split
    · next h => exact absurd h hx
    · next h => exact absurd h (halias x rfl rfl)
    · exact bind_assoc ..

theorem follows_typeArguments
    (hinner : lists.length < maxNesting → ∀ list, ReadsTypes (list :: lists) inner) (join : Join)
    (text : String) (stop : Nat) (c : Cursor) (hopen : c.openLists = lists.length)
    (halias : ∀ x ∈ c.rest.head?, join = .first → x.token ≠ .doubleColon) :
    Follows (run ⟨lists, .identifier join text, stop⟩ c.rest) (afterPart lists join)
      (fun _ after ↦ Keeps c after) (typeArguments inner text c) := by
  refine .eat (fun x rest hrest htoken ↦ .get ?_) fun place hless ↦ ⟨?_, keeps_at c place⟩
  · have hrun : run ⟨lists, .identifier join text, stop⟩ c.rest =
        run ⟨lists, .listStart join text x.stop, x.stop⟩ rest :=
      run_of_step_eq_ok hrest (by simp only [State.step, htoken])
    rw [hrun]
    refine .eat (fun y more hmore hgreater ↦ ?_) fun place hgreater ↦ .get ?_
    · show run _ rest = _
      rw [show rest = y :: more from hmore, run_cons]
      simp only [State.step, hgreater]
      rfl
    · rw [run_listStart join text x.stop x.stop fun y hy ↦ (hgreater y hy).1, ← hopen]
      split
      · exact rfl
      · next hdeep =>
        rw [run_typeStart x.stop place]
        refine .modify <| (follows_arguments (hinner (by omega)) join text x.stop ([], 0)
          ⟨rest, place, c.openLists + 1⟩ (congrArg (· + 1) hopen)).bind fun arguments after hafter ↦
            .expect rfl fun y more hmore ↦ .modify <| .check rfl fun height ↦ ⟨rfl, ?_⟩
        have hread := (shortens_of_eq_cons (c := c) hrest x.stop).keeps
        have hclosed := hafter.trans (shortens_of_eq_cons hmore y.stop).keeps
        exact ⟨Nat.sub_eq_of_eq_add hclosed.openLists,
          Nat.le_trans hclosed.length_le hread.length_le⟩
  · exact run_identifier_eq_afterPart (c := ⟨c.rest, place, c.openLists⟩) join text stop hless halias

/-- Behind an alias or a dot. -/
theorem follows_simpleName
    (hinner : lists.length < maxNesting → ∀ list, ReadsTypes (list :: lists) inner) (join : Join)
    (hjoin : join ≠ .first) (c : Cursor) (hopen : c.openLists = lists.length) :
    Follows (run ⟨lists, .nameStart join, c.place⟩ c.rest) (afterPart lists join)
      (fun _ after ↦ Shortens c after) (simpleName inner c) := by
  refine .identifier (fun hrest ↦ ?_) (fun x rest hrest hnone ↦ ?_) fun x rest text hrest htoken ↦ ?_
  · rw [hrest]
    rfl
  · rw [hrest, run_cons]
    simp only [State.step]
    rfl
  · have hrun : run ⟨lists, .nameStart join, c.place⟩ c.rest =
        run ⟨lists, .identifier join text, x.stop⟩ rest :=
      run_of_step_eq_ok hrest (by simp only [State.step, htoken])
    rw [hrun]
    exact (follows_typeArguments hinner join text x.stop ⟨rest, x.stop, c.openLists⟩ hopen
      fun _ _ hfirst ↦ absurd hfirst hjoin).mono fun _ _ hafter ↦
        (shortens_of_eq_cons hrest x.stop).trans hafter

/-- A name that no dot follows. -/
theorem run_name_eq_suffixed (node : Sized) (stop : Nat) {c : Cursor}
    (hdot : ∀ x ∈ c.rest.head?, x.token ≠ .dot ∧ c.place = x.start) :
    run ⟨lists, .name node, stop⟩ c.rest = run ⟨lists, .suffixed node, c.place⟩ c.rest := by
  obtain ⟨rest, place, openLists⟩ := c
  cases rest with
  | nil => rfl
  | cons x rest =>
    obtain ⟨hx, rfl⟩ := hdot x rfl
    rw [run_cons, run_cons]
    simp only [State.step, afterName]

theorem follows_members
    (hinner : lists.length < maxNesting → ∀ list, ReadsTypes (list :: lists) inner) (node : Sized)
    (c : Cursor) (hopen : c.openLists = lists.length) :
    Follows (run ⟨lists, .name node, c.place⟩ c.rest)
      (fun node after ↦ run ⟨lists, .suffixed node, after.place⟩ after.rest)
      (fun _ after ↦ Keeps c after) (loop (memberRound inner) node c) := by
  refine Follows.loop (fun node c ↦ run ⟨lists, .name node, c.place⟩ c.rest)
    (fun node c hc ↦ .get ?_) node c hopen
  refine .eat (fun x rest hrest htoken ↦ ?_) fun place hdot ↦ ⟨?_, keeps_at c _⟩
  · have hrun : run ⟨lists, .name node, c.place⟩ c.rest =
        run ⟨lists, .nameStart (.member node c.place), x.stop⟩ rest :=
      run_of_step_eq_ok hrest (by simp only [State.step, afterName, htoken])
    rw [hrun]
    have hread := shortens_of_eq_cons (c := c) hrest x.stop
    refine (follows_simpleName hinner (.member node c.place) nofun ⟨rest, x.stop, c.openLists⟩
      hc).bind
      fun right after hafter ↦ .check (bind_assoc ..) fun height ↦ ⟨rfl, hread.trans hafter.keeps⟩
  · exact run_name_eq_suffixed (c := ⟨c.rest, place, c.openLists⟩) node c.place hdot

theorem follows_name
    (hinner : lists.length < maxNesting → ∀ list, ReadsTypes (list :: lists) inner) (c : Cursor)
    (hopen : c.openLists = lists.length) :
    Follows (run ⟨lists, .typeStart, c.place⟩ c.rest)
      (fun node after ↦ run ⟨lists, .suffixed node, after.place⟩ after.rest)
      (fun _ after ↦ Keeps c after) (name inner c) := by
  refine .identifier (fun hrest ↦ ?_) (fun x rest hrest hnone ↦ ?_) fun x rest word hrest htoken ↦ ?_
  · rw [hrest]
    rfl
  · rw [hrest, run_cons]
    simp only [State.step, beginType]
    rfl
  have hrun : run ⟨lists, .typeStart, c.place⟩ c.rest =
      if Keyword.isKeyword word then run ⟨lists, .suffixed ⟨.keyword word, 1⟩, x.stop⟩ rest
      else run ⟨lists, .identifier .first word, x.stop⟩ rest := by
    rw [hrest, run_cons]
    simp only [State.step, beginType, htoken]
    split <;> rfl
  rw [hrun]
  have hword (place : Nat) := (shortens_of_eq_cons hrest place).keeps
  split
  · exact ⟨rfl, hword x.stop⟩
  refine .get <| .eat (fun y more hmore hcolons ↦ ?_) fun place hcolons ↦ ?_
  · have hlabel : run ⟨lists, .identifier .first word, x.stop⟩ rest =
        run ⟨lists, .nameStart (.label word x.stop), y.stop⟩ more :=
      run_of_step_eq_ok hmore (by simp only [State.step, hcolons])
    rw [hlabel]
    have hread := (hword x.stop).trans (shortens_of_eq_cons hmore y.stop).keeps
    refine (follows_simpleName hinner (.label word x.stop) nofun ⟨more, y.stop, c.openLists⟩
      hopen).bind
      fun first after hafter ↦ .check (bind_assoc ..) fun height ↦
        (follows_members hinner _ after (hafter.openLists.trans hopen)).mono fun _ _ hlast ↦
          (hread.trans hafter.keeps).trans hlast
  · exact (follows_typeArguments hinner .first word x.stop ⟨rest, place, c.openLists⟩ hopen
      fun y hy _ ↦ (hcolons y hy).1).bind fun first after hafter ↦
        (follows_members hinner first after (hafter.openLists.trans hopen)).mono fun _ _ hlast ↦
          ((hword place).trans hafter).trans hlast

theorem readsTypes_type
    (hinner : lists.length < maxNesting → ∀ list, ReadsTypes (list :: lists) inner) :
    ReadsTypes lists (type inner) := fun c hopen ↦
  (follows_name hinner c hopen).bind fun node after hafter ↦
    (follows_suffixes lists node after).mono fun _ _ hlast ↦ hafter.trans hlast

end Names

/-! ### The budget -/

/-- The count is asked for where it is right. -/
theorem Follows.checkCount {β : Type} {expected : Except SyntaxError TypeExpr}
    {more : β → Cursor → Except SyntaxError TypeExpr} {last : β → Cursor → Prop} {c : Cursor}
    {entered : Nat} {later : Unit → Reader β} (hopen : c.openLists = entered)
    (h : Follows expected more last (later () c)) :
    Follows expected more last ((checkCount entered >>= later) c) := by
  have hcheck : Descent.checkCount entered c = .ok ((), c) := if_pos hopen
  show Follows _ _ _ (Descent.checkCount entered c >>= fun result ↦ later result.1 result.2)
  rw [hcheck]
  exact h

/-- Assumes: no more lists around the place than can be open, and a budget for a type there and for one
in each list that can still be opened. A list is opened only where fewer than `maxNesting` are, so one
type less is left inside it and one list more is around it. -/
theorem readsTypes_typeWithin (budget : Nat) (lists : List OpenList)
    (hopen : lists.length ≤ maxNesting) (hbudget : maxNesting < budget + lists.length) :
    ReadsTypes lists (typeWithin budget lists.length) := by
  induction budget generalizing lists with
  | zero => omega
  | succ budget ih =>
    intro c hcount
    have hinner (hdeep : lists.length < maxNesting) (list : OpenList) :
        ReadsTypes (list :: lists) (typeWithin budget (lists.length + 1)) :=
      ih (list :: lists) hdeep (by rw [List.length_cons]; omega)
    refine .checkCount hcount <| (readsTypes_type hinner c hcount).bind fun node after hafter ↦ ?_
    exact .checkCount (hafter.openLists.trans hcount) ⟨rfl, hafter⟩

/-- Assumes: a budget of one type more than lists can be open. A text is read by descent as by the stack
of open lists, or refused for the same reason. -/
theorem read_eq_parse (budget : Nat) (hbudget : maxNesting < budget) (text : String) :
    read budget text = (parse text).mapError .refused := by
  have hwhole : Follows (parse text) (fun t _ ↦ .ok t) (fun _ _ ↦ True)
      (whole budget ⟨scan 0 text.toList, 0, 0⟩) := by
    refine (readsTypes_typeWithin budget [] (Nat.zero_le _) hbudget ⟨_, 0, 0⟩ rfl).bind
      fun node after _ ↦ .get ?_
    obtain ⟨rest, place, openLists⟩ := after
    cases rest with
    | nil => exact ⟨rfl, trivial⟩
    | cons x rest =>
      show afterType [] node (x :: rest) = x.refuse
      unfold afterType
      dsimp only
      cases x.token <;> rfl
  unfold read
  generalize whole budget ⟨scan 0 text.toList, 0, 0⟩ = result at hwhole
  match result, hwhole with
  | .ok (t, after), h => exact h.1 ▸ rfl
  | .error (.refused reason), h =>
    rw [show parse text = .error reason from h]
    rfl

/-! ### The number of open lists -/

/-- How many lists have begun and not ended: the open ones, and one whose first argument must follow. -/
def begun (s : State) : Nat :=
  match s.phase with
  | .listStart _ _ _ => s.lists.length + 1
  | _ => s.lists.length

/-- A token is counted: no more lists are open than can be, and a list begins with the token, ends with
it, or neither. -/
structure Counts (lists : Nat) (x : Lexeme) (next : State) : Prop where
  length_le : next.lists.length ≤ maxNesting
  begun_add : begun next + [x].countP (·.token = .greater) = lists + [x].countP (·.token = .less)

theorem beginType_counts {lists : List OpenList} (hlists : lists.length ≤ maxNesting) {x : Lexeme}
    {next : State} (h : beginType lists x = .ok next) : Counts lists.length x next := by
  unfold beginType at h
  split at h
  · next text htoken =>
    split at h <;> obtain rfl := Except.ok.inj h <;> exact ⟨hlists, by simp [begun, htoken]⟩
  · cases h

theorem afterSuffixed_counts {lists : List OpenList} (hlists : lists.length ≤ maxNesting) {node : Sized}
    {offset : Nat} {x : Lexeme} {next : State} (h : afterSuffixed lists node offset x = .ok next) :
    Counts lists.length x next := by
  unfold afterSuffixed at h
  split at h
  · next htoken =>
    obtain ⟨height, -, hnext⟩ := bind_eq_ok_iff.mp h
    obtain rfl := Except.ok.inj hnext
    exact ⟨hlists, by simp [begun, htoken]⟩
  · next htoken =>
    obtain rfl := Except.ok.inj h
    exact ⟨hlists, by simp [begun, htoken]⟩
  · next list outer htoken =>
    obtain rfl := Except.ok.inj h
    exact ⟨hlists, by simp [begun, htoken]⟩
  · next list outer htoken =>
    obtain ⟨whole, -, hnext⟩ := bind_eq_ok_iff.mp h
    obtain rfl := Except.ok.inj hnext
    exact ⟨Nat.le_of_succ_le hlists, by simp [begun, htoken]⟩
  · cases h

theorem afterName_counts {lists : List OpenList} (hlists : lists.length ≤ maxNesting) {node : Sized}
    {offset : Nat} {x : Lexeme} {next : State} (h : afterName lists node offset x = .ok next) :
    Counts lists.length x next := by
  unfold afterName at h
  split at h
  · next htoken =>
    obtain rfl := Except.ok.inj h
    exact ⟨hlists, by simp [begun, htoken]⟩
  · exact afterSuffixed_counts hlists h

/-- A list is opened where fewer than `maxNesting` are. -/
theorem step_counts {s next : State} (hs : s.lists.length ≤ maxNesting) {x : Lexeme}
    (h : s.step x = .ok next) : Counts (begun s) x next := by
  obtain ⟨lists, phase, stop⟩ := s
  unfold State.step at h
  cases phase with
  | typeStart => exact beginType_counts hs h
  | nameStart join =>
    dsimp only at h
    split at h
    · next text htoken =>
      obtain rfl := Except.ok.inj h
      exact ⟨hs, by simp [begun, htoken]⟩
    · cases h
  | identifier join text =>
    dsimp only at h
    split at h
    · next htoken =>
      obtain rfl := Except.ok.inj h
      exact ⟨hs, by simp [begun, htoken]⟩
    · next htoken =>
      obtain rfl := Except.ok.inj h
      exact ⟨hs, by simp [begun, htoken]⟩
    · obtain ⟨node, -, hafter⟩ := bind_eq_ok_iff.mp h
      exact afterName_counts hs hafter
  | listStart join text offset =>
    obtain ⟨-, h⟩ := guarded_eq_ok_iff.mp h
    obtain ⟨hdeep, h⟩ := guarded_eq_ok_iff.mp h
    have hpushed : (⟨join, text, [], 0, offset⟩ :: lists : List OpenList).length ≤ maxNesting :=
      Nat.lt_of_not_le hdeep
    exact beginType_counts hpushed h
  | name node => exact afterName_counts hs h
  | suffixed node => exact afterSuffixed_counts hs h
  | ranks element rank offset =>
    dsimp only at h
    split at h
    · next htoken =>
      obtain rfl := Except.ok.inj h
      exact ⟨hs, by simp [begun, htoken]⟩
    · next htoken =>
      obtain ⟨height, -, hnext⟩ := bind_eq_ok_iff.mp h
      obtain rfl := Except.ok.inj hnext
      exact ⟨hs, by simp [begun, htoken]⟩
    · cases h

/-- All tokens of a part of the text are counted, by the steps for them in order. -/
theorem foldlM_step_counts {xs : List Lexeme} {s last : State} (hs : s.lists.length ≤ maxNesting)
    (h : xs.foldlM State.step s = .ok last) :
    last.lists.length ≤ maxNesting ∧
      begun last + xs.countP (·.token = .greater) = begun s + xs.countP (·.token = .less) := by
  induction xs generalizing s with
  | nil =>
    obtain rfl := Except.ok.inj h
    exact ⟨hs, rfl⟩
  | cons x rest ih =>
    obtain ⟨next, hstep, hrest⟩ := bind_eq_ok_iff.mp h
    obtain ⟨hnext, hbegun⟩ := step_counts hs hstep
    obtain ⟨hlast, hcount⟩ := ih hnext hrest
    refine ⟨hlast, ?_⟩
    rw [← List.singleton_append, List.countP_append, List.countP_append]
    omega

/-- Read by descent, with at most one type more inside each other than lists can be open, every text
gives what it is read as: the budget is never exhausted, the count of open lists is never wrong where a
type begins or ends, and no loop goes round without reading something. At each point of a text, the open
lists are those that have begun and not ended, and there are never more than `maxNesting`. -/
theorem read_and_openLists (text : String) :
    read (maxNesting + 1) text = (parse text).mapError .refused ∧
      ∀ (before after : List Lexeme) (s : State), scan 0 text.toList = before ++ after →
        before.foldlM State.step State.start = .ok s →
          s.lists.length ≤ maxNesting ∧
            begun s + before.countP (·.token = .greater) = before.countP (·.token = .less) := by
  refine ⟨read_eq_parse _ (Nat.lt_succ_self _) text, fun before after s _ hbefore ↦ ?_⟩
  obtain ⟨hdeep, hcount⟩ := foldlM_step_counts (Nat.zero_le _) hbefore
  exact ⟨hdeep, hcount.trans (Nat.zero_add _)⟩

/-- In the middle of the inner one of two lists. -/
theorem read_and_openLists_nested :
    read (maxNesting + 1) "A<B<int?>>" = (parse "A<B<int?>>").mapError .refused ∧
      ∃ s, ((scan 0 "A<B<int?>>".toList).take 5).foldlM State.step State.start = .ok s ∧
        s.lists.length = 2 ∧ begun s = 2 := by
  have hlength : ((((scan 0 "A<B<int?>>".toList).take 5).foldlM State.step State.start).toOption.map
      fun s ↦ s.lists.length) = some 2 := by decide +kernel
  obtain ⟨hread, hopen⟩ := read_and_openLists "A<B<int?>>"
  obtain ⟨s, hs, hlists⟩ := Option.map_eq_some_iff.mp hlength
  cases hrun : ((scan 0 "A<B<int?>>".toList).take 5).foldlM State.step State.start with
  | error reason => rw [hrun] at hs; cases hs
  | ok last =>
    rw [hrun] at hs
    obtain rfl := Option.some.inj hs
    obtain ⟨-, hcount⟩ := hopen _ _ last (List.take_append_drop 5 _).symm hrun
    refine ⟨hread, last, rfl, hlists, ?_⟩
    have hgreater : ((scan 0 "A<B<int?>>".toList).take 5).countP (·.token = .greater) = 0 := by
      decide +kernel
    have hless : ((scan 0 "A<B<int?>>".toList).take 5).countP (·.token = .less) = 2 := by
      decide +kernel
    rw [hgreater, hless] at hcount
    exact hcount

end Descent

end HubRelay.TypeExpr
