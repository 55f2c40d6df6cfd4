import HubRelay.Proofs.Document.Names
import HubRelay.Proofs.Text.Depth

/-!
# Brackets and indentation of the document

A paragraph that becomes one line has a depth, the number of scopes that indent it, and a body, which is
what its line has past the indentation (`IsRow.lineTexts_eq`). Paragraphs are bracketed when the braces
among their bodies give them the depths that they have, and every brace that opens is closed
(`IsBracketed`). Paragraphs one after the other are bracketed, and so are those of a block around
bracketed ones; the parts of the document are made in these ways, and the lines of the document are
therefore bracketed too (`depths_lines_text_ofHubs`).
-/

set_option autoImplicit false

namespace HubRelay

open Writer

namespace Paragraph

/-! ### Paragraphs on one line -/

/-- The number of scopes that indent the paragraph. -/
def depth (p : Paragraph) : Nat := p.scopes.countP (·.indents)

/-- What the line of the paragraph has past its indentation. -/
def body (p : Paragraph) : String := if p.text = "" then "" else headOf "" p.scopes ++ p.text

/-- A paragraph that becomes one line, on which the indentation comes first: inside indenting scopes a
text that begins with no white space, or a text in documentation. -/
inductive IsRow : Paragraph → Prop
  | line {text : String} (h : Text.IsFlush text) : IsRow (line text)
  | documented {p : Paragraph} (h : Text.IsOneLine p.text) (hne : p.text ≠ "")
      (hscopes : p.scopes = [.documentation] ∨ p.scopes = [.summary, .documentation]) : IsRow p
  | inside {o : Opening} {p : Paragraph} (ho : o.indents = true) (h : IsRow p) : IsRow (p.inside o)

section Rows

variable {o : Opening} {p : Paragraph}

@[simp] theorem depth_line (text : String) : (line text).depth = 0 := rfl

@[simp] theorem body_line (text : String) : (line text).body = text := by
  rw [body, line]
  dsimp only
  split
  · next h => exact h.symm
  · exact String.empty_append

/-- A text in documentation comes after what documentation begins lines with. -/
theorem body_documented (hne : p.text ≠ "")
    (hscopes : p.scopes = [.documentation] ∨ p.scopes = [.summary, .documentation]) :
    p.body = "/// " ++ p.text := by
  rw [body, if_neg hne]
  obtain hscopes | hscopes := hscopes <;> rw [hscopes] <;> rfl

theorem depth_inside (ho : o.indents = true) : (p.inside o).depth = p.depth + 1 := by
  rw [depth, inside, List.countP_append, List.countP_singleton, if_pos ho, depth]

/-- A scope around the others that indents comes before what they begin lines with. -/
theorem headOf_concat (ho : o.indents = true) (indent : String) (scopes : List Opening) :
    headOf indent (scopes ++ [o]) = scopes.foldr (fun o around ↦ o.head indent around) indent := by
  rw [headOf, List.foldr_append, List.foldr_cons, List.foldr_nil, Opening.head_of_indents ho,
    String.empty_append]

theorem body_inside (ho : o.indents = true) : (p.inside o).body = p.body := by
  rw [body, inside, headOf_concat ho]
  rfl

namespace IsRow

theorem isOneLine_text (h : p.IsRow) : Text.IsOneLine p.text := by
  induction h with
  | line h => exact h.1
  | documented h => exact h
  | inside _ _ ih => exact ih

/-- What lines begin with is the indentation, and then what the scopes add to it. -/
theorem foldr_head_eq (h : p.IsRow) (indent around : String) :
    p.scopes.foldr (fun o around ↦ o.head indent around) around =
      around ++ String.join (List.replicate p.depth indent) ++ headOf "" p.scopes := by
  induction h generalizing around with
  | line => exact (String.append_empty.trans String.append_empty).symm
  | documented _ _ hscopes =>
    rw [depth]
    obtain hscopes | hscopes := hscopes <;> rw [hscopes] <;>
      exact congrArg (· ++ "/// ") String.append_empty.symm
  | @inside o p ho h ih =>
    have hhead : (p.inside o).scopes.foldr (fun o around ↦ o.head indent around) around =
        p.scopes.foldr (fun o around ↦ o.head indent around) (around ++ indent) := by
      rw [Paragraph.inside, List.foldr_append, List.foldr_cons, List.foldr_nil,
        Opening.head_of_indents ho]
    rw [hhead, ih, depth_inside ho, List.replicate_succ, String.join_cons, ← String.append_assoc,
      Paragraph.inside, headOf_concat ho]
    rfl

/-- An empty paragraph has nothing on its line. -/
theorem fixedHead_eq (h : p.IsRow) (hempty : p.text = "") (indent : String) :
    fixedHead indent p.scopes = "" := by
  have hscopes : ∀ o ∈ p.scopes, o.setsHead = false := by
    induction h with
    | line => exact List.forall_mem_nil _
    | documented _ hne => exact absurd hempty hne
    | inside ho _ ih =>
      exact List.forall_mem_append.mpr ⟨ih hempty,
        List.forall_mem_singleton.mpr (Opening.setsHead_eq_false_of_indents ho)⟩
  clear h hempty
  generalize p.scopes = scopes at hscopes
  induction scopes with
  | nil => rfl
  | cons o around ih =>
    obtain ⟨ho, haround⟩ := List.forall_mem_cons.mp hscopes
    rw [fixedHead_of_not_setsHead ho, ih haround]

/-- The paragraph becomes its body, indented as deep as it stands. -/
theorem lineTexts_eq (h : p.IsRow) (indent : String) :
    p.lineTexts indent = [Text.indented indent p.depth p.body] := by
  rw [lineTexts_of_isOneLine h.isOneLine_text, lineText, pieceText, Text.indented, body]
  by_cases hempty : p.text = ""
  · have hnil : p.text.toList = [] := String.toList_eq_nil_iff.mpr hempty
    rw [if_pos hnil, if_pos hempty, if_pos rfl, h.fixedHead_eq hempty]
    rfl
  · have hcons : ¬ p.text.toList = [] := fun hnil ↦ hempty (String.toList_eq_nil_iff.mp hnil)
    have hbody : ¬ headOf "" p.scopes ++ p.text = "" := fun hnil ↦
      hempty (String.append_eq_empty_iff.mp hnil).2
    rw [if_neg hcons, if_neg hempty, if_neg hbody, String.ofList_toList, headOf,
      h.foldr_head_eq indent "", String.empty_append, String.append_assoc]

/-- The body is on one line and begins with no white space. -/
theorem isFlush_body (h : p.IsRow) : Text.IsFlush p.body := by
  induction h with
  | line h => rwa [body_line]
  | @documented p h hne hscopes =>
    rw [body_documented hne hscopes]
    exact ⟨Text.isOneLine_append.mpr ⟨by decide, h⟩, by simp; decide⟩
  | inside ho _ ih => rwa [body_inside ho]

end IsRow

end Rows

end Paragraph

/-! ### Bracketed paragraphs -/

namespace Document

open Paragraph

/-- A text on one line that is empty or begins with a character other than white space, a brace and
`=`. -/
def IsPlain (text : String) : Prop :=
  Text.IsFlush text ∧ ∀ c ∈ text.toList.head?, c ∉ ['\x7b', '\x7d', '=']

instance (text : String) : Decidable (IsPlain text) :=
  @instDecidableAnd _ _ _ (Option.decidableForallMem text.toList.head?)

/-- A text on one line is plain when its first character is. -/
theorem isPlain_of_head? {text : String} {c : Char} (h : Text.IsOneLine text)
    (hhead : text.toList.head? = some c)
    (hc : Text.isBlank c = false ∧ c ∉ ['\x7b', '\x7d', '=']) : IsPlain text := by
  have hplain : ∀ d ∈ text.toList.head?, Text.isBlank d = false ∧ d ∉ ['\x7b', '\x7d', '='] := by
    intro d hd
    rw [hhead] at hd
    obtain rfl := Option.some.inj hd
    exact hc
  exact ⟨⟨h, fun d hd ↦ (hplain d hd).1⟩, fun d hd ↦ (hplain d hd).2⟩

/-- How many levels deeper a line stands than the braces before it say: one, if it is the expression of
the method above it. -/
def hanging (body : String) : Nat := if Text.hasPrefix "=> hubClients" body then 1 else 0

/-- A plain line neither turns nor hangs. -/
theorem turn_eq_zero_of_isPlain {text : String} (h : IsPlain text) : Text.turn text = 0 := by
  rw [Text.turn, if_neg, if_neg]
  · rintro rfl
    exact absurd (h.2 '\x7d' rfl) (by decide)
  · rintro rfl
    exact absurd (h.2 '\x7b' rfl) (by decide)

theorem hanging_eq_zero_of_isPlain {text : String} (h : IsPlain text) : hanging text = 0 := by
  rw [hanging, if_neg]
  intro hprefix
  obtain ⟨rest, hrest⟩ := Text.hasPrefix_iff.mp hprefix
  have hhead : text.toList.head? = some '=' := by rw [← hrest]; rfl
  exact absurd (h.2 '=' hhead) (by decide)

/-- Paragraphs that become lines as deep as the braces among them say, which close all that they
open. -/
structure IsBracketed (ps : List Paragraph) : Prop where
  isRow : ∀ p ∈ ps, p.IsRow
  rise_eq : Text.rise body ps = 0
  depth_eq : ∀ entry ∈ Text.depths body 0 ps,
    0 ≤ entry.1 ∧ (entry.2.depth : Int) = entry.1 + hanging entry.2.body

namespace IsBracketed

theorem nil : IsBracketed [] := ⟨List.forall_mem_nil _, rfl, List.forall_mem_nil _⟩

/-- A paragraph that stands as deep as it hangs. -/
theorem singleton {p : Paragraph} (h : p.IsRow) (hturn : Text.turn p.body = 0)
    (hdepth : p.depth = hanging p.body) : IsBracketed [p] := by
  have hclosing : p.body ≠ "\x7d" := by
    intro hbody
    rw [hbody] at hturn
    exact absurd hturn (by decide)
  refine ⟨List.forall_mem_singleton.mpr h, ?_, ?_⟩
  · rw [Text.rise, hturn, Text.rise, Int.add_zero]
  · rw [Text.depths, if_neg hclosing, Text.depths]
    refine List.forall_mem_singleton.mpr ⟨Int.le_refl 0, ?_⟩
    rw [hdepth, Int.zero_add]

/-- A plain line. -/
theorem line {text : String} (h : IsPlain text) : IsBracketed [line text] := by
  refine singleton (.line h.1) ?_ ?_
  · rw [body_line, turn_eq_zero_of_isPlain h]
  · rw [body_line, depth_line, hanging_eq_zero_of_isPlain h]

section Parts

variable {ps first second : List Paragraph}

theorem append (hfirst : IsBracketed first) (hsecond : IsBracketed second) :
    IsBracketed (first ++ second) := by
  refine ⟨List.forall_mem_append.mpr ⟨hfirst.isRow, hsecond.isRow⟩, ?_, ?_⟩
  · rw [Text.rise_append, hfirst.rise_eq, hsecond.rise_eq, Int.add_zero]
  · rw [Text.depths_append, hfirst.rise_eq, Int.add_zero]
    exact List.forall_mem_append.mpr ⟨hfirst.depth_eq, hsecond.depth_eq⟩

/-- A plain line before bracketed paragraphs. -/
theorem afterLine {text : String} (htext : IsPlain text) (h : IsBracketed ps) :
    IsBracketed (Paragraph.line text :: ps) := (line htext).append h

theorem flatMap {α : Type} {parts : α → List Paragraph} {xs : List α}
    (h : ∀ x ∈ xs, IsBracketed (parts x)) : IsBracketed (xs.flatMap parts) := by
  induction xs with
  | nil => exact nil
  | cons x rest ih =>
    obtain ⟨hx, hrest⟩ := List.forall_mem_cons.mp h
    rw [List.flatMap_cons]
    exact hx.append (ih hrest)

/-- Bracketed parts with empty lines between them. -/
theorem spaced {parts : List (List Paragraph)} (h : ∀ part ∈ parts, IsBracketed part) :
    IsBracketed (spaced parts) := by
  have hblank : IsBracketed [Paragraph.line ""] := line (by decide)
  induction parts with
  | nil => exact nil
  | cons first rest ih =>
    obtain ⟨hfirst, hrest⟩ := List.forall_mem_cons.mp h
    cases rest with
    | nil => rwa [Document.spaced, List.intercalate_singleton]
    | cons next more =>
      rw [Document.spaced, List.intercalate_cons_cons]
      exact (hfirst.append hblank).append (ih hrest)

/-- Bracketed paragraphs one level deeper, between braces. -/
theorem braces {o : Opening} (ho : o.indents = true) (h : IsBracketed ps) :
    IsBracketed (Paragraph.line "\x7b" :: (ps.map (inside o) ++ [Paragraph.line "\x7d"])) := by
  have hbody : (fun p ↦ (inside o p).body) = body := funext fun p ↦ body_inside ho
  have hrise : Text.rise body (ps.map (inside o)) = 0 := by rw [Text.rise_map, hbody, h.rise_eq]
  have hdepths : Text.depths body 1 (ps.map (inside o)) =
      (Text.depths body 0 ps).map fun entry ↦ (entry.1 + 1, inside o entry.2) := by
    rw [Text.depths_map, hbody, show (1 : Int) = 0 + 1 from rfl, Text.depths_add, List.map_map]
    rfl
  have hopen : Text.turn "\x7b" = 1 := by decide
  have hclose : Text.turn "\x7d" = -1 := by decide
  refine ⟨?_, ?_, ?_⟩
  · refine List.forall_mem_cons.mpr ⟨.line (by decide), List.forall_mem_append.mpr
      ⟨fun p hp ↦ ?_, List.forall_mem_singleton.mpr (.line (by decide))⟩⟩
    obtain ⟨q, hq, rfl⟩ := List.mem_map.mp hp
    exact .inside ho (h.isRow q hq)
  · rw [Text.rise, Text.rise_append, hrise, Text.rise, Text.rise, body_line, body_line, hopen, hclose]
    rfl
  · rw [Text.depths, Text.depths_append, body_line, hopen, Int.zero_add, hrise, hdepths, Text.depths,
      Text.depths, body_line]
    refine List.forall_mem_cons.mpr ⟨by decide, List.forall_mem_append.mpr
      ⟨fun entry hentry ↦ ?_, List.forall_mem_singleton.mpr (by decide)⟩⟩
    obtain ⟨⟨depth, p⟩, hmem, rfl⟩ := List.mem_map.mp hentry
    obtain ⟨hnonneg, hdepth⟩ := h.depth_eq _ hmem
    dsimp only at hnonneg hdepth ⊢
    rw [depth_inside ho, body_inside ho]
    omega

/-- A block around bracketed paragraphs, after plain lines. -/
theorem within {o : Opening} (ho : o.indents = true) {before : List String}
    (hbefore : ∀ text ∈ before, IsPlain text) (hfirst : o.firstLines = before ++ ["\x7b"])
    (hlast : o.lastLines = ["\x7d"]) (h : IsBracketed ps) : IsBracketed (Paragraph.within o ps) := by
  have hlines : IsBracketed (before.map Paragraph.line) := by
    rw [← List.flatMap_singleton' (before.map _), List.flatMap_map]
    exact flatMap fun text htext ↦ line (hbefore text htext)
  rw [Paragraph.within, hfirst, hlast, List.map_append, List.append_assoc, List.append_assoc]
  exact hlines.append (braces ho h)

end Parts

end IsBracketed

/-! ### First characters of lines -/

section Heads

variable (settings : Settings) (direction : Direction) (method : Method) (target : Target) (hub : Hub)

theorem head?_forwardingLine : (forwardingLine settings method).toList.head? = some 'p' := by
  unfold forwardingLine
  simp

theorem head?_postingLine : (postingLine method).toList.head? = some 'v' := by
  unfold postingLine
  simp

theorem head?_recordLine : (recordLine settings direction method).toList.head? = some 'p' := by
  unfold recordLine
  simp

theorem head?_signatureLine : (signatureLine settings method target).toList.head? = some 'p' := by
  unfold signatureLine
  simp

theorem head?_deliveryLine : (deliveryLine direction method target).toList.head? = some '=' := by
  unfold deliveryLine
  simp

theorem head?_constructorLine : (constructorLine hub).toList.head? = some 'p' := by
  unfold constructorLine
  simp

theorem head?_constantLine : (constantLine settings hub).toList.head? = some 'p' := by
  unfold constantLine
  simp only [String.append_assoc]
  exact (Text.head?_toList_literal rfl _).2

theorem head?_countLine (count : Nat) : (countLine count).toList.head? = some '/' := by
  unfold countLine
  simp

theorem referenceLine_ne_empty : referenceLine method ≠ "" := by
  unfold referenceLine
  simp

end Heads

/-! ### Parts of the document -/

section Methods

variable (settings : Settings) {method : Method} (h : method.IsOneLine)

include h

theorem isBracketed_forwardingParagraphs :
    IsBracketed (forwardingParagraphs settings method) := by
  have hreturn : IsBracketed ((completion? settings method.returnType).toList.map fun value ↦
      line ("return " ++ value ++ ";")) := by
    cases hvalue : completion? settings method.returnType with
    | none => exact .nil
    | some value =>
      have hone : Text.IsOneLine ("return " ++ value ++ ";") := by
        simp only [Text.isOneLine_append, isOneLine_of_completion?_eq_some settings h hvalue,
          and_true]
        decide
      exact .line (isPlain_of_head? (c := 'r') hone (by simp) (by decide))
  have hforwarding : IsPlain (forwardingLine settings method) :=
    isPlain_of_head? (isOneLine_forwardingLine settings h) (head?_forwardingLine settings method)
      (by decide)
  have hposting : IsPlain (postingLine method) :=
    isPlain_of_head? (isOneLine_postingLine h) (head?_postingLine method) (by decide)
  have htell : IsPlain "_actorSystem.ActorSelection(HubDispatcherActorSelection).Tell(msg);" :=
    isPlain_of_head? (.literal rfl (by decide)) (Text.head?_toList_literal rfl "").1 (by decide)
  exact ((hreturn.afterLine htell).afterLine hposting).within rfl (List.forall_mem_nil _) rfl rfl
    |>.afterLine hforwarding

/-- The expression of a method hangs. -/
theorem isBracketed_delivery (direction : Direction) (target : Target) :
    IsBracketed (within .indent [line (deliveryLine direction method target)]) := by
  have hstart : Text.hasPrefix "=> hubClients" (deliveryLine direction method target) := by
    unfold deliveryLine
    simp [Text.hasPrefix, List.isPrefixOf]
  have hhead := head?_deliveryLine direction method target
  have hflush : Text.IsFlush (deliveryLine direction method target) := by
    refine ⟨isOneLine_deliveryLine h direction target, fun c hc ↦ ?_⟩
    rw [hhead] at hc
    obtain rfl := Option.some.inj hc
    decide
  have hturn : Text.turn (deliveryLine direction method target) = 0 := by
    rw [Text.turn, if_neg, if_neg]
    · intro hclosing
      rw [hclosing] at hhead
      exact absurd hhead (by decide)
    · intro hopening
      rw [hopening] at hhead
      exact absurd hhead (by decide)
  refine IsBracketed.singleton (.inside rfl (.line hflush)) ?_ ?_
  · rwa [body_inside rfl, body_line]
  · rw [body_inside rfl, body_line, depth_inside rfl, depth_line, hanging, if_pos hstart]

theorem isBracketed_dispatchParagraphs (direction : Direction) (target : Target) :
    IsBracketed (dispatchParagraphs settings direction method target) :=
  (isBracketed_delivery h direction target).afterLine
    (isPlain_of_head? (isOneLine_signatureLine settings h target)
      (head?_signatureLine settings method target) (by decide))

omit h in
/-- A text in documentation. -/
theorem isBracketed_documented {p : Paragraph} (hone : Text.IsOneLine p.text) (hne : p.text ≠ "")
    (hscopes : p.scopes = [.documentation] ∨ p.scopes = [.summary, .documentation]) :
    IsBracketed [p] := by
  have hdepth : p.depth = 0 := by
    rw [depth]
    obtain hscopes | hscopes := hscopes <;> rw [hscopes] <;> rfl
  have hplain : IsPlain p.body := by
    rw [body_documented hne hscopes]
    exact isPlain_of_head? (c := '/') (Text.isOneLine_append.mpr ⟨by decide, hone⟩) (by simp)
      (by decide)
  exact .singleton (.documented hone hne hscopes) (turn_eq_zero_of_isPlain hplain)
    (hdepth.trans (hanging_eq_zero_of_isPlain hplain).symm)

theorem isBracketed_referenceParagraphs : IsBracketed (referenceParagraphs method) := by
  have hfirst := isBracketed_documented (p := inside .documentation (line "<summary>"))
    (by decide) (by decide) (.inl rfl)
  have hsecond := isBracketed_documented
    (p := inside .documentation (inside .summary (line (referenceLine method))))
    (isOneLine_referenceLine h) (referenceLine_ne_empty method) (.inr rfl)
  have hthird := isBracketed_documented (p := inside .documentation (line "</summary>"))
    (by decide) (by decide) (.inl rfl)
  exact (hfirst.append hsecond).append hthird

theorem isBracketed_deliveryParagraphs (direction : Direction) :
    IsBracketed (deliveryParagraphs settings direction method) := by
  have hdispatch : IsBracketed
      (spaced (Target.every.map (dispatchParagraphs settings direction method))) := by
    refine .spaced fun part hpart ↦ ?_
    obtain ⟨target, -, rfl⟩ := List.mem_map.mp hpart
    exact isBracketed_dispatchParagraphs settings h direction target
  exact hdispatch.within rfl (List.forall_mem_nil _) rfl rfl

theorem isBracketed_messageParagraphs (direction : Direction) :
    IsBracketed (messageParagraphs settings direction method) :=
  (isBracketed_referenceParagraphs h).append
    ((isBracketed_deliveryParagraphs settings h direction).afterLine
      (isPlain_of_head? (isOneLine_recordLine settings h direction)
        (head?_recordLine settings direction method) (by decide)))

end Methods

section Hubs

variable {settings : Settings}

/-- The messages in a class, without the class. -/
theorem isBracketed_spaced_messageParagraphs (direction : Direction) {methods : List Method}
    (h : ∀ method ∈ methods, method.IsOneLine) :
    IsBracketed (spaced (methods.map (messageParagraphs settings direction))) := by
  refine .spaced fun part hpart ↦ ?_
  obtain ⟨method, hmethod, rfl⟩ := List.mem_map.mp hpart
  exact isBracketed_messageParagraphs settings (h method hmethod) direction

theorem isBracketed_messagesParagraphs (direction : Direction) {contract : Contract}
    (h : ∀ method ∈ contract.methods, method.IsOneLine) :
    IsBracketed (messagesParagraphs settings direction contract) := by
  have hclass : IsPlain (String.join (["public", "static"].map (· ++ " ")) ++ "class " ++
      direction.className) := by
    cases direction <;> decide
  exact (isBracketed_spaced_messageParagraphs direction h).within rfl
    (List.forall_mem_singleton.mpr hclass) rfl rfl

theorem isBracketed_constructorParagraphs {hub : Hub} (h : hub.IsOneLine) :
    IsBracketed (constructorParagraphs hub) := by
  have hassignment : IsPlain ("_actorSystem = actorSystem ?? " ++
      "throw new global::System.ArgumentNullException(nameof(actorSystem));") :=
    isPlain_of_head? (Text.isOneLine_append.mpr ⟨.literal rfl (by decide), .literal rfl (by decide)⟩)
      (Text.head?_toList_literal rfl _).2 (by decide)
  have hline := isPlain_of_head? (isOneLine_constructorLine h) (head?_constructorLine hub) (by decide)
  exact ((IsBracketed.line hassignment).within (o := .block "") rfl (List.forall_mem_nil _) rfl
    rfl).afterLine hline

theorem isBracketed_classParagraphs (hsettings : settings.IsOneLine) {hub : Hub}
    (h : hub.IsOneLine) :
    IsBracketed (classParagraphs settings hub) := by
  have hblank : IsPlain "" := by decide
  have hmethods : IsBracketed (hub.server.methods.flatMap fun method ↦
      forwardingParagraphs settings method ++ [line ""]) := .flatMap fun method hmethod ↦
    (isBracketed_forwardingParagraphs settings (h.serverMethods method hmethod)).append
      (.line hblank)
  have hclient : IsBracketed (messagesParagraphs settings .toClient hub.client) :=
    isBracketed_messagesParagraphs .toClient h.clientMethods
  have hserver : IsBracketed (messagesParagraphs settings .toServer hub.server) :=
    isBracketed_messagesParagraphs .toServer h.serverMethods
  have hconstructor := (isBracketed_constructorParagraphs h).append
    ((hmethods.append (hclient.append (hserver.afterLine hblank))).afterLine hblank)
  have hfield : IsPlain ("private readonly " ++ actorSystem ++ " _actorSystem;") := by
    rw [String.append_assoc]
    exact isPlain_of_head? (Text.isOneLine_append.mpr ⟨.literal rfl (by decide), Text.isOneLine_append.mpr
      ⟨.literal rfl (by decide), .literal rfl (by decide)⟩⟩) (Text.head?_toList_literal rfl _).2 (by decide)
  have hconstant : IsPlain (constantLine settings hub) :=
    isPlain_of_head? (isOneLine_constantLine settings h hsettings) (head?_constantLine settings hub)
      (by decide)
  have hclass : IsPlain (String.join (["public", "partial"].map (· ++ " ")) ++ "class " ++
      hub.bridgeType.name) := by
    refine isPlain_of_head? (c := 'p') ?_ (by simp) (by decide)
    simp only [Text.isOneLine_append, (isOneLine_bridgeType h).2, and_true]
    decide
  exact (((hconstructor.afterLine hblank).afterLine hfield).afterLine hblank).afterLine hconstant
    |>.within rfl (List.forall_mem_singleton.mpr hclass) rfl rfl

theorem isBracketed_hubParagraphs (hsettings : settings.IsOneLine) {hub : Hub} (h : hub.IsOneLine) :
    IsBracketed (hubParagraphs settings hub) := by
  rw [hubParagraphs]
  split
  · exact isBracketed_classParagraphs hsettings h
  · have hnamespace : IsPlain ("namespace " ++ hubNamespace hub) :=
      isPlain_of_head? (c := 'n')
        (Text.isOneLine_append.mpr ⟨by decide, isOneLine_hubNamespace h⟩) (by simp) (by decide)
    exact (isBracketed_classParagraphs hsettings h).within rfl
      (List.forall_mem_singleton.mpr hnamespace) rfl rfl

/-- The paragraphs of the document are bracketed. -/
theorem isBracketed_paragraphs (hsettings : settings.IsOneLine) {hubs : List Hub}
    (h : ∀ hub ∈ hubs, hub.IsOneLine) :
    IsBracketed (paragraphs settings hubs) := by
  have hcount : IsPlain (countLine hubs.length) :=
    isPlain_of_head? (isOneLine_countLine _) (head?_countLine _) (by decide)
  have hheader : IsBracketed (headerParagraphs hubs.length) :=
    (IsBracketed.line hcount).afterLine (by decide)
  exact hheader.append (.flatMap fun hub hhub ↦
    (isBracketed_hubParagraphs hsettings (h hub hhub)).afterLine (by decide))

end Hubs

/-! ### The lines -/

section Lines

variable {settings : Settings} (hsettings : settings.IsOneLine) {hubs : List Hub}
  (h : ∀ hub ∈ hubs, hub.IsOneLine)

include hsettings h

/-- The lines of the document are the bodies of its paragraphs, indented as deep as they stand. -/
theorem lines_text_ofHubs :
    Text.lines (ofHubs hubs settings).text =
      (paragraphs settings hubs).map fun p ↦ Text.indented settings.indent p.depth p.body := by
  have hrow := (isBracketed_paragraphs hsettings h).isRow
  have htexts : (paragraphs settings hubs).flatMap (lineTexts settings.indent) =
      (paragraphs settings hubs).map fun p ↦ Text.indented settings.indent p.depth p.body := by
    rw [← List.flatMap_pure_eq_map]
    exact List.flatMap_congr fun p hp ↦ (hrow p hp).lineTexts_eq settings.indent
  rw [text_ofHubs, htexts, ← String.append_empty (s := String.join _),
    Text.lines_join_append ?_ Text.isOneLine_empty, if_pos rfl, List.append_nil]
  intro text htext
  obtain ⟨p, hp, rfl⟩ := List.mem_map.mp htext
  exact Text.isOneLine_indented hsettings.indent (hrow p hp).isFlush_body.1 p.depth

/-- Past their indentation the lines have the bodies of the paragraphs. -/
theorem map_trimStart_lines :
    (Text.lines (ofHubs hubs settings).text).map Text.trimStart =
      (paragraphs settings hubs).map body := by
  rw [lines_text_ofHubs hsettings h, List.map_map]
  refine List.map_congr_left fun p hp ↦ ?_
  exact Text.trimStart_indented hsettings.indentIsBlank
    ((isBracketed_paragraphs hsettings h).isRow p hp).isFlush_body p.depth

/-- Hubs and settings on one line. Walking the lines of the document with a depth that begins at zero,
goes up after an opening brace and down before a closing one, the depth is never negative and ends at
zero. Each line is empty, or it is the indentation as often as the depth says, once more for the
expression of a method, and then a text that begins with a character other than white space. -/
theorem depths_lines_text_ofHubs :
    Text.rise Text.trimStart (Text.lines (ofHubs hubs settings).text) = 0 ∧
      ∀ depth line, (depth, line) ∈
          Text.depths Text.trimStart 0 (Text.lines (ofHubs hubs settings).text) →
        0 ≤ depth ∧ (line = "" ∨ ∃ c rest, Text.isBlank c = false ∧
          Text.trimStart line = String.ofList (c :: rest) ∧
          line = String.join (List.replicate (depth.toNat + hanging (Text.trimStart line))
            settings.indent) ++ Text.trimStart line) := by
  have hbracketed := isBracketed_paragraphs hsettings h
  have htrim : ∀ p ∈ paragraphs settings hubs,
      Text.trimStart (Text.indented settings.indent p.depth p.body) = p.body := fun p hp ↦
    Text.trimStart_indented hsettings.indentIsBlank (hbracketed.isRow p hp).isFlush_body p.depth
  rw [lines_text_ofHubs hsettings h]
  refine ⟨?_, fun depth line hmem ↦ ?_⟩
  · rw [Text.rise_map, Text.rise_congr htrim, hbracketed.rise_eq]
  · rw [Text.depths_map, Text.depths_congr htrim] at hmem
    obtain ⟨⟨d, p⟩, hp, hentry⟩ := List.mem_map.mp hmem
    obtain ⟨rfl, rfl⟩ := Prod.mk.inj hentry
    obtain ⟨hnonneg, hdepth⟩ := hbracketed.depth_eq _ hp
    have hflush := (hbracketed.isRow p (Text.mem_of_mem_depths hp)).isFlush_body
    refine ⟨hnonneg, ?_⟩
    dsimp only at hnonneg hdepth ⊢
    rw [htrim p (Text.mem_of_mem_depths hp), Text.indented]
    cases hbody : p.body.toList with
    | nil => exact .inl (if_pos (String.toList_eq_nil_iff.mp hbody))
    | cons c rest =>
      have hne : p.body ≠ "" := fun hempty ↦ by
        rw [hempty] at hbody
        cases hbody
      have hlevels : p.depth = d.toNat + hanging p.body := by omega
      refine .inr ⟨c, rest, hflush.2 c (by rw [hbody]; rfl), ?_, ?_⟩
      · rw [← hbody, String.ofList_toList]
      · rw [if_neg hne, hlevels]

end Lines

/-- A hub with a method that clients call, indented by tabs. -/
theorem depths_lines_text_ofHubs_ping :
    let text := TypeRef.plain "System" "String"
    let server := TypeRef.plain "Chat" "IPingServer"
    let ping : Method := ⟨"Ping", text, server, [⟨"times", text⟩]⟩
    let hub : Hub := ⟨.plain "Chat" "PingHub", ⟨.plain "Chat" "IPingClient", []⟩, ⟨server, [ping]⟩⟩
    let settings : Settings := { indent := "\t", newline := .crlf }
    let lines := Text.lines (ofHubs [hub] settings).text
    (settings.IsOneLine ∧ hub.IsOneLine) ∧ Text.rise Text.trimStart lines = 0 ∧
      ∀ depth line, (depth, line) ∈ Text.depths Text.trimStart 0 lines →
        0 ≤ depth ∧ (line = "" ∨ ∃ c rest, Text.isBlank c = false ∧
          Text.trimStart line = String.ofList (c :: rest) ∧
          line = String.join (List.replicate (depth.toNat + hanging (Text.trimStart line)) "\t") ++
            Text.trimStart line) := by
  intro text server ping hub settings lines
  have htext : text.IsOneLine := TypeRef.isOneLine_plain (by decide) (by decide)
  have hserver : server.IsOneLine := TypeRef.isOneLine_plain (by decide) (by decide)
  have hping : ping.IsOneLine :=
    ⟨by decide, htext, hserver, List.forall_mem_singleton.mpr (by decide),
      List.forall_mem_singleton.mpr htext⟩
  have hhub : hub.IsOneLine :=
    ⟨TypeRef.isOneLine_plain (by decide) (by decide),
      TypeRef.isOneLine_plain (by decide) (by decide), List.forall_mem_nil _, hserver,
      List.forall_mem_singleton.mpr hping⟩
  have hsettings : settings.IsOneLine :=
    ⟨by decide, by decide, List.all_eq_true.mp (by decide : "\t".toList.all Text.isBlank = true)⟩
  exact ⟨⟨hsettings, hhub⟩,
    depths_lines_text_ofHubs hsettings (List.forall_mem_singleton.mpr hhub)⟩

end Document

end HubRelay
