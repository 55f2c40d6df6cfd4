import HubRelay.Proofs.Document.Records
import HubRelay.Proofs.TypeExpr.Spelling
import HubRelay.Snapshot.Symbol

/-!
# The names in a forwarding method

A forwarding method declares a local variable for the message, and refers to members of its class by
their names alone. All these names are fixed, and its parameters are named as the contract names them.
The lines that make the message and post it are cut into tokens here (`tokensOf_postingLine`), and their
names are found among the tokens: those that are declared (`locals`), and those that stand by themselves
(`references`).

Nothing keeps the two kinds of names apart. A method whose names are identifiers is hygienic just when
no parameter has a fixed name (`isHygienic_iff`), and a contract can well have a parameter `msg`.
-/

set_option autoImplicit false

namespace HubRelay

namespace TypeExpr

/-! ### Tokens of a line -/

/-- The tokens of a text. -/
def tokensOf (text : String) : List Token := (scan 0 text.toList).map Lexeme.token

/-- A character that belongs to no longer token. -/
def isApart (c : Char) : Bool := !startsIdentifier c && !continuesIdentifier c && c != ':'

theorem not_joins_of_isApart {last next : Char} (h : isApart last = true ∨ isApart next = true) :
    ¬ Joins last next := by
  simp only [isApart, Bool.and_eq_true, Bool.not_eq_true', bne_iff_ne] at h
  rintro (⟨hlast, hnext⟩ | ⟨rfl, rfl⟩)
  · obtain ⟨⟨hstarts, hcontinues⟩, -⟩ | ⟨⟨-, hcontinues⟩, -⟩ := h
    · rw [hstarts, hcontinues] at hlast
      simp at hlast
    · rw [hcontinues] at hnext
      exact Bool.noConfusion hnext
  · exact h.elim (fun h ↦ h.2 rfl) fun h ↦ h.2 rfl

/-- Assumes: two texts, the first of which ends, or the second of which begins, with a character that
belongs to no longer token. Both together have the tokens of the one and those of the other. -/
theorem tokensOf_append {front text : String}
    (h : front.toList.getLast?.all isApart = true ∨ text.toList.head?.all isApart = true) :
    tokensOf (front ++ text) = tokensOf front ++ tokensOf text := by
  have hparts : PartsFrom front.toList text.toList := by
    intro last hlast next hnext
    rw [Option.mem_def] at hlast hnext
    rw [hlast, hnext] at h
    exact not_joins_of_isApart h
  rw [tokensOf, String.toList_append]
  exact map_token_scan_append hparts 0 0

theorem all_isApart_head?_append {front text : String} {c : Char}
    (h : front.toList.head? = some c) (hc : isApart c = true) :
    (front ++ text).toList.head?.all isApart = true := by
  rw [String.toList_append, List.head?_append, h]
  exact hc

theorem tokensOf_identifier {name : String} (h : isIdentifier name = true) :
    tokensOf name = [.word name] := by
  have hend : EndsWord [] := fun _ hc ↦ nomatch hc
  have hscan := map_token_scan_word h hend 0
  rw [List.append_nil] at hscan
  rw [tokensOf, hscan, scan]
  rfl

/-- The tokens of texts with commas between them. -/
theorem tokensOf_intercalate (first : String) (rest : List String) :
    tokensOf (", ".intercalate (first :: rest)) =
      tokensOf first ++ rest.flatMap fun next ↦ .comma :: tokensOf next := by
  have hcomma : tokensOf ", " = [.comma] := by decide +kernel
  have hlast : ", ".toList.getLast?.all isApart = true := by decide +kernel
  have hhead (text : String) : (", " ++ text).toList.head?.all isApart = true :=
    all_isApart_head?_append (by decide +kernel : _ = some ',') (by decide +kernel)
  induction rest generalizing first with
  | nil => rw [String.intercalate_singleton, List.flatMap_nil, List.append_nil]
  | cons next more ih =>
    rw [String.intercalate_cons_cons, String.append_assoc, tokensOf_append (.inr (hhead _)),
      tokensOf_append (.inl hlast), hcomma, ih, List.flatMap_cons]
    rfl

end TypeExpr

namespace Document

open Paragraph TypeExpr

/-! ### Names among tokens -/

/-- The local variables that tokens declare: the words behind `var`. `previous` is the token in front. -/
def locals (previous : Option Token) : List Token → List String
  | [] => []
  | .word name :: rest =>
    if previous = some (.word "var") then name :: locals (some (.word name)) rest
    else locals (some (.word name)) rest
  | token :: rest => locals (some token) rest

/-- The names by which tokens refer to variables and members: the words that stand by themselves, with
no word on either side and no dot in front. `previous` is the token in front. -/
def references (previous : Option Token) : List Token → List String
  | [] => []
  | .word name :: rest =>
    if previous = some .dot ∨ previous.any Token.isWord ∨ rest.head?.any Token.isWord then
      references (some (.word name)) rest
    else name :: references (some (.word name)) rest
  | token :: rest => references (some token) rest

/-- The tokens of further arguments. -/
def argumentTokens (names : List String) : List Token :=
  names.flatMap fun name ↦ [.comma, .word name]

section Arguments

variable (names : List String) (c : Char) (more : List Token) (previous : Option Token)

/-- Arguments declare nothing. -/
theorem locals_argumentTokens_append :
    locals previous (argumentTokens names ++ .stray c :: more) = locals (some (.stray c)) more := by
  induction names generalizing previous with
  | nil => rfl
  | cons name rest ih =>
    show locals (some .comma) (.word name :: (argumentTokens rest ++ .stray c :: more)) = _
    rw [locals, if_neg (by simp), ih]

/-- Arguments refer to just what they name. -/
theorem references_argumentTokens_append :
    references previous (argumentTokens names ++ .stray c :: more) =
      names ++ references (some (.stray c)) more := by
  induction names generalizing previous with
  | nil => rfl
  | cons name rest ih =>
    have hhead : (argumentTokens rest ++ .stray c :: more).head?.any Token.isWord = false := by
      cases rest <;> rfl
    show references (some .comma) (.word name :: (argumentTokens rest ++ .stray c :: more)) = _
    rw [references, if_neg, ih, List.cons_append]
    rw [hhead]
    simp [Token.isWord]

end Arguments

/-! ### The lines that post the message -/

section Posting

variable (settings : Settings) (method : Method)

/-- The lines of a forwarding method that make the message and post it: the first two of its block. -/
def postingLines : List String :=
  (((forwardingParagraphs settings method).map body).drop 2).take 2

theorem postingLines_eq : postingLines settings method =
    [postingLine method,
      "_actorSystem.ActorSelection(HubDispatcherActorSelection).Tell(msg);"] := by
  unfold postingLines forwardingParagraphs
  rw [List.map_cons, map_body_within rfl, List.map_cons, List.map_cons, body_line, body_line,
    body_line]
  rfl

/-- The tokens of these lines. -/
def postingTokens : List Token := (postingLines settings method).flatMap tokensOf

/-- The names that are the same in every forwarding method: the local variable, and the members of the
class. -/
def fixedNames : List String :=
  ["msg", "Context", "_actorSystem", "HubDispatcherActorSelection"]

/-- No parameter of a method is declared again by the lines that post its message, and only the arguments
there refer to it. Identifiers are compared without leading `@`. -/
def IsHygienic : Prop :=
  ∀ p ∈ method.parameters,
    Model.withoutAt p.name ∉ (locals none (postingTokens settings method)).map Model.withoutAt ∧
      ((references none (postingTokens settings method)).map Model.withoutAt).count
          (Model.withoutAt p.name) =
        ((method.parameters.map (·.name)).map Model.withoutAt).count (Model.withoutAt p.name)

end Posting

section Names

variable (settings : Settings) {method : Method}

theorem tokensOf_postingLine (hname : isIdentifier method.name = true)
    (hparameters : ∀ p ∈ method.parameters, isIdentifier p.name = true) :
    tokensOf (postingLine method) =
      [.word "var", .word "msg", .stray '=', .word "new", .word "ToServer", .dot,
        .word method.name, .stray '('] ++
      ([.word "Context", .dot, .word "ConnectionId", .comma, .word "Context", .dot,
        .word "UserIdentifier", .comma, .word "Context", .dot, .word "User"] ++
      (argumentTokens (method.parameters.map (·.name)) ++ [.stray ')', .stray ';'])) := by
  have hline : postingLine method = "var msg = new ToServer." ++ (method.name ++ ("(" ++
      (", ".intercalate ("Context.ConnectionId" :: (["Context.UserIdentifier", "Context.User"] ++
        method.parameters.map (·.name))) ++ ");"))) := by
    unfold postingLine
    simp only [String.append_assoc]
    rfl
  have hmake : tokensOf "var msg = new ToServer." = [.word "var", .word "msg", .stray '=',
      .word "new", .word "ToServer", .dot] := by decide +kernel
  have hopen : tokensOf "(" = [.stray '('] := by decide +kernel
  have hconnection : tokensOf "Context.ConnectionId" =
      [.word "Context", .dot, .word "ConnectionId"] := by decide +kernel
  have huser : ["Context.UserIdentifier", "Context.User"].flatMap (.comma :: tokensOf ·) =
      [.comma, .word "Context", .dot, .word "UserIdentifier", .comma, .word "Context", .dot,
        .word "User"] := by decide +kernel
  have hclose : tokensOf ");" = [.stray ')', .stray ';'] := by decide +kernel
  have harguments : (method.parameters.map (·.name)).flatMap (.comma :: tokensOf ·) =
      argumentTokens (method.parameters.map (·.name)) := by
    refine List.flatMap_congr fun name hmem ↦ ?_
    obtain ⟨p, hp, rfl⟩ := List.mem_map.mp hmem
    rw [tokensOf_identifier (hparameters p hp)]
  have hhead (text : String) : ("(" ++ text).toList.head?.all isApart = true :=
    all_isApart_head?_append (by decide +kernel : _ = some '(') (by decide +kernel)
  rw [hline, tokensOf_append (.inl (by decide +kernel)), tokensOf_append (.inr (hhead _)),
    tokensOf_append (.inl (by decide +kernel)), tokensOf_append (.inr (by decide +kernel)),
    tokensOf_intercalate, List.flatMap_append, hmake, tokensOf_identifier hname, hopen, hconnection,
    huser, harguments, hclose]
  simp only [List.cons_append, List.nil_append]

/-- The names in the lines that make the message and post it. Assumes: a method whose name and whose
parameters' names are identifiers. -/
theorem names_postingTokens (hname : isIdentifier method.name = true)
    (hparameters : ∀ p ∈ method.parameters, isIdentifier p.name = true) :
    locals none (postingTokens settings method) = ["msg"] ∧
      references none (postingTokens settings method) = ["Context", "Context", "Context"] ++
        (method.parameters.map (·.name) ++ ["_actorSystem", "HubDispatcherActorSelection", "msg"]) := by
  have htell : tokensOf "_actorSystem.ActorSelection(HubDispatcherActorSelection).Tell(msg);" =
      [.word "_actorSystem", .dot, .word "ActorSelection", .stray '(',
        .word "HubDispatcherActorSelection", .stray ')', .dot, .word "Tell", .stray '(',
        .word "msg", .stray ')', .stray ';'] := by decide +kernel
  have htokens : postingTokens settings method = tokensOf (postingLine method) ++
      tokensOf "_actorSystem.ActorSelection(HubDispatcherActorSelection).Tell(msg);" := by
    rw [postingTokens, postingLines_eq, List.flatMap_cons, List.flatMap_singleton]
  rw [htokens, tokensOf_postingLine hname hparameters, htell]
  simp only [List.append_assoc, List.cons_append, List.nil_append]
  constructor
  · simp [locals, locals_argumentTokens_append]
  · simp [references, references_argumentTokens_append, Token.isWord]

/-- A forwarding method is hygienic just when no parameter has the name of its local variable, or of a
member that it refers to. Assumes: a method whose name and whose parameters' names are identifiers. -/
theorem isHygienic_iff (hname : isIdentifier method.name = true)
    (hparameters : ∀ p ∈ method.parameters, isIdentifier p.name = true) :
    IsHygienic settings method ↔
      ∀ p ∈ method.parameters, Model.withoutAt p.name ∉ fixedNames := by
  obtain ⟨hlocals, hreferences⟩ := names_postingTokens settings hname hparameters
  have hmsg : ["msg"].map Model.withoutAt = ["msg"] := by decide +kernel
  have hfront : ["Context", "Context", "Context"].map Model.withoutAt =
      ["Context", "Context", "Context"] := by decide +kernel
  have hback : ["_actorSystem", "HubDispatcherActorSelection", "msg"].map Model.withoutAt =
      ["_actorSystem", "HubDispatcherActorSelection", "msg"] := by decide +kernel
  -- A parameter has as many references as arguments when no other word is its name.
  have hcount (name : String) (front middle back : List String) :
      (front ++ (middle ++ back)).count name = middle.count name ↔ name ∉ front ∧ name ∉ back := by
    rw [List.count_append, List.count_append, ← List.count_eq_zero, ← List.count_eq_zero]
    omega
  have hfixed (name : String) : name ∉ ["msg"] ∧ name ∉ ["Context", "Context", "Context"] ∧
      name ∉ ["_actorSystem", "HubDispatcherActorSelection", "msg"] ↔ name ∉ fixedNames := by
    simp only [fixedNames, List.mem_cons, List.not_mem_nil, or_false, not_or]
    tauto
  unfold IsHygienic
  rw [hlocals, hreferences, List.map_append, List.map_append, hmsg, hfront, hback]
  exact forall₂_congr fun p _ ↦ by rw [hcount, hfixed]

/-- A method `void Send(string name)` of a contract, with any name for its parameter. -/
def sendMethod (name : String) : Method :=
  ⟨"Send", .plain "System" "Void", .plain "Chat" "IChatServer", [⟨name, .plain "System" "String"⟩]⟩

/-- A method with a parameter `text` is hygienic. -/
theorem isHygienic_iff_text : IsHygienic {} (sendMethod "text") := by
  have hparameters : ∀ p ∈ (sendMethod "text").parameters, isIdentifier p.name = true := by
    decide +kernel
  exact (isHygienic_iff {} (by decide +kernel) hparameters).mpr (by decide +kernel)

/-- A method with a parameter `msg` is not hygienic: its forwarding method declares the name again. -/
theorem not_forall_isHygienic :
    ¬ ∀ (settings : Settings) (method : Method), isIdentifier method.name = true →
      (∀ p ∈ method.parameters, isIdentifier p.name = true) →
        (method.parameters.map (·.name)).Nodup → IsHygienic settings method := by
  intro h
  have hname : isIdentifier (sendMethod "msg").name = true := by decide +kernel
  have hparameters : ∀ p ∈ (sendMethod "msg").parameters, isIdentifier p.name = true := by
    decide +kernel
  have hhygienic := h {} _ hname hparameters (by decide) _ List.mem_cons_self
  obtain ⟨hlocals, -⟩ := names_postingTokens {} hname hparameters
  rw [hlocals] at hhygienic
  exact hhygienic.1 List.mem_cons_self

end Names

end Document

end HubRelay
