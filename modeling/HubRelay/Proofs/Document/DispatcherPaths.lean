import HubRelay.Proofs.Document.Headers
import HubRelay.Proofs.Text.Cases
import HubRelay.Proofs.Text.Literals
import HubRelay.Proofs.TypeExpr.Grammar

/-!
# The paths of dispatcher actors

The class of a hub has a constant with the path of the dispatcher actor: the prefix from the settings and
the name of the hub in small letters. The constant is assigned what stands between `selectionStart` and the
semicolon at the end of its line, on the third line of the class (`Assigns`). The document puts the path
between quotation marks as it is (`assigns_quoted`). In small letters an identifier has nothing in it that a
literal does not take as it is, so the literal stands for the path just when the prefix has no such thing in
it (`exists_assigns_value?_iff`).
-/

set_option autoImplicit false

namespace HubRelay

open Paragraph Writer
open Text (Literal.signs Literal.utf16 Literal.value?)
open TypeExpr (isIdentifier)

/-! ### Small letters -/

/-- An identifier has no character in it that does not stand for itself in a literal. Each of these is white
space, or a sign of ASCII. -/
theorem TypeExpr.notMem_of_mem_signs {name : String} (h : isIdentifier name = true) {sign : Char}
    (hsign : sign ∈ Literal.signs) : sign ∉ name.toList := by
  have hsigns : ∀ sign ∈ Literal.signs, Text.isBlank sign = true ∨ (sign.toNat < 0x80 ∧ sign ≠ '@' ∧
      sign ≠ '_' ∧ Text.inRanges [(0x30, 0x39), (0x41, 0x5A), (0x61, 0x7A)] sign.toNat = false) :=
    List.all_iff_forall_prop.mp (by decide)
  obtain hblank | ⟨hlt, hat, hlow, hranges⟩ := hsigns sign hsign
  · intro hmem
    exact Bool.false_ne_true ((isBlank_eq_false_of_mem_identifier h hmem).symm.trans hblank)
  · obtain ⟨hstarts, hcontinues⟩ := not_word_of_lt hlt hat hlow hranges
    exact notMem_of_isIdentifier h hstarts hcontinues

/-- Neither has the identifier in small letters. -/
theorem Text.notMem_toLower_of_mem_signs {name : String} (h : isIdentifier name = true) {sign : Char}
    (hsign : sign ∈ Literal.signs) : sign ∉ (Text.toLower name).toList := by
  have hsigns : ∀ sign ∈ Literal.signs, sign.toNat ≠ 0 ∧ (sign ≠ 'ς' ∧ sign ≠ 'σ') ∧
      (sign.toNat ≤ 0x60 ∨ 0x7B ≤ sign.toNat ∧ sign.toNat ≤ 0x9F ∨
        0x2000 ≤ sign.toNat ∧ sign.toNat ≤ 0x206F) := List.all_iff_forall_prop.mp (by decide)
  obtain ⟨hzero, hsigma, hcode⟩ := hsigns sign hsign
  exact notMem_toLower (avoids_lower hcode) hzero hsigma (TypeExpr.notMem_of_mem_signs h hsign)

namespace Document

/-! ### The line of the constant -/

/-- What the line of a hub's constant begins with. -/
def selectionStart : String := "public const string HubDispatcherActorSelection = "

/-- The path of a hub's dispatcher actor. -/
def dispatcherPath (settings : Settings) (hub : Hub) : String :=
  settings.dispatcherPathPrefix ++ Text.toLower hub.bridgeType.name

/-- What the lines around a hub's class begin with. -/
def classIndentation (settings : Settings) (hub : Hub) : String :=
  if (hubNamespace hub).isEmpty then "" else settings.indent

/-- In the text the constant of the hub is assigned the literal: the third line of the hub's class has the
literal between the constant and a semicolon at the end. -/
def Assigns (settings : Settings) (hub : Hub) (text literal : String) : Prop :=
  Text.IsOneLine literal ∧ ∃ earlier later : String, text =
    earlier ++ (classIndentation settings hub ++ classLine hub ++ settings.newline.text ++
      (classIndentation settings hub ++ "\x7b" ++ settings.newline.text ++
        (classIndentation settings hub ++ settings.indent ++ (selectionStart ++ literal ++ ";") ++
          settings.newline.text ++ later)))

variable (settings : Settings)

/-- The text of paragraphs, with a terminator after each line. -/
def textOf (ps : List Paragraph) : String :=
  String.join ((ps.flatMap (lineTexts settings.indent)).map (· ++ settings.newline.text))

theorem textOf_append (first second : List Paragraph) :
    textOf settings (first ++ second) = textOf settings first ++ textOf settings second := by
  rw [textOf, List.flatMap_append, List.map_append, String.join_append, textOf, textOf]

/-- A paragraph on one line is its text behind what lines begin with in its scopes. -/
theorem textOf_cons {scopes : List Opening} {text : String} (hline : Text.IsOneLine text)
    (hne : text ≠ "") (rest : List Paragraph) :
    textOf settings (⟨scopes, text⟩ :: rest) =
      headOf settings.indent scopes ++ text ++ settings.newline.text ++ textOf settings rest := by
  have hone : lineTexts settings.indent ⟨scopes, text⟩ = [headOf settings.indent scopes ++ text] := by
    rw [lineTexts_of_isOneLine hline, lineText, pieceText,
      if_neg (String.toList_eq_nil_iff.not.mpr hne), String.ofList_toList]
  rw [textOf, List.flatMap_cons, hone, List.singleton_append, List.map_cons, String.join_cons, textOf]

/-- The scope of a hub's class. -/
def classOpening (hub : Hub) : Opening := .classBlock hub.bridgeType.name ["public", "partial"]

theorem headOf_classScopes (hub : Hub) :
    headOf settings.indent (classScopes hub) = classIndentation settings hub ∧
      headOf settings.indent (classOpening hub :: classScopes hub) =
        classIndentation settings hub ++ settings.indent := by
  have hinside (scopes : List Opening) : headOf settings.indent (classOpening hub :: scopes) =
      headOf settings.indent scopes ++ settings.indent := rfl
  have hclass : headOf settings.indent (classScopes hub) = classIndentation settings hub := by
    rw [classScopes, classIndentation]
    split
    · rfl
    · exact String.empty_append
  exact ⟨hclass, (hinside _).trans (congrArg (· ++ settings.indent) hclass)⟩

/-- The third paragraph of a hub's class is the constant. -/
theorem exists_hubParagraphs_eq (hub : Hub) :
    ∃ before after, hubParagraphs settings hub = before ++ ⟨classScopes hub, classLine hub⟩ ::
      ⟨classScopes hub, "\x7b"⟩ ::
        ⟨classOpening hub :: classScopes hub, constantLine settings hub⟩ :: after := by
  obtain ⟨more, hclass⟩ : ∃ more, classParagraphs settings hub = line (classLine hub) :: line "\x7b" ::
      ⟨[classOpening hub], constantLine settings hub⟩ :: more := ⟨_, rfl⟩
  rw [hubParagraphs, classScopes, hclass]
  split
  · exact ⟨[], more, rfl⟩
  · exact ⟨[line ("namespace " ++ hubNamespace hub), line "\x7b"], _, rfl⟩

/-- Assumes: a prefix and a name on one line. The constant is assigned the path between quotation marks,
whatever the other settings, the rest of the hub and the other hubs are. -/
theorem assigns_quoted {hub : Hub} (hfront : Text.IsOneLine settings.dispatcherPathPrefix)
    (hname : Text.IsOneLine hub.bridgeType.name) (before after : List Hub) :
    Assigns settings hub (ofHubs (before ++ hub :: after) settings).text
      ("\"" ++ dispatcherPath settings hub ++ "\"") := by
  have hpath : Text.IsOneLine (dispatcherPath settings hub) :=
    Text.isOneLine_append.mpr ⟨hfront, Text.isOneLine_toLower hname⟩
  have hliteral : Text.IsOneLine ("\"" ++ dispatcherPath settings hub ++ "\"") := by
    simp only [Text.isOneLine_append, hpath, and_true]
    decide
  have hconstant : constantLine settings hub =
      selectionStart ++ ("\"" ++ dispatcherPath settings hub ++ "\"") ++ ";" := by
    unfold constantLine dispatcherPath selectionStart
    simp only [String.append_assoc]
    rfl
  have hconstantLine : Text.IsOneLine (constantLine settings hub) := by
    rw [hconstant]
    simp only [Text.isOneLine_append, hliteral, and_true]
    decide
  have hclassLine : Text.IsOneLine (classLine hub) := Text.isOneLine_append.mpr ⟨by decide, hname⟩
  have hnotEmpty (front rest : String) (hfront : front ≠ "") : front ++ rest ≠ "" := fun hempty ↦
    hfront (String.append_eq_empty_iff.mp hempty).1
  obtain ⟨front, back, hparagraphs⟩ := exists_hubParagraphs_eq settings hub
  obtain ⟨houter, hinner⟩ := headOf_classScopes settings hub
  have hall : paragraphs settings (before ++ hub :: after) =
      (headerParagraphs (before ++ hub :: after).length ++ hubsParagraphs settings before ++
        line "" :: front) ++ (⟨classScopes hub, classLine hub⟩ :: ⟨classScopes hub, "\x7b"⟩ ::
          ⟨classOpening hub :: classScopes hub, constantLine settings hub⟩ ::
            (back ++ hubsParagraphs settings after)) := by
    rw [paragraphs, hubsParagraphs, List.flatMap_append, List.flatMap_cons, hparagraphs]
    simp only [hubsParagraphs, List.append_assoc, List.cons_append]
  refine ⟨hliteral, textOf settings (headerParagraphs (before ++ hub :: after).length ++
    hubsParagraphs settings before ++ line "" :: front),
      textOf settings (back ++ hubsParagraphs settings after), ?_⟩
  rw [text_ofHubs, ← textOf, hall, textOf_append, textOf_cons settings hclassLine,
    textOf_cons settings (by decide) (by decide), textOf_cons settings hconstantLine, houter, hinner,
    hconstant]
  · rw [hconstant, String.append_assoc]
    exact hnotEmpty _ _ (by decide)
  · exact hnotEmpty _ _ (by decide)

/-! ### The path -/

/-- Assumes: a prefix without line feeds and carriage returns, and an identifier as the name of the hub. The
text that the constant is assigned is a string literal with the path as its value just when the prefix has
none of the characters in it that do not stand for themselves in a literal. -/
theorem exists_assigns_value?_iff {hub : Hub} (hfront : Text.IsOneLine settings.dispatcherPathPrefix)
    (hname : isIdentifier hub.bridgeType.name = true) (before after : List Hub) :
    ∃ literal, Assigns settings hub (ofHubs (before ++ hub :: after) settings).text literal ∧
      (Literal.value? literal.toList = some (Literal.utf16 (dispatcherPath settings hub).toList) ↔
        ∀ sign ∈ Literal.signs, sign ∉ settings.dispatcherPathPrefix.toList) := by
  have hnameLine : Text.IsOneLine hub.bridgeType.name :=
    ⟨fun h ↦ absurd (TypeExpr.isBlank_eq_false_of_mem_identifier hname h) (by decide),
      fun h ↦ absurd (TypeExpr.isBlank_eq_false_of_mem_identifier hname h) (by decide)⟩
  refine ⟨_, assigns_quoted settings hfront hnameLine before after, ?_⟩
  have hquoted : ("\"" ++ dispatcherPath settings hub ++ "\"").toList =
      '"' :: ((dispatcherPath settings hub).toList ++ ['"']) := by simp
  rw [hquoted, Text.Literal.value?_eq_utf16_iff, dispatcherPath, String.toList_append]
  constructor
  · exact fun h sign hsign hmem ↦ h sign (List.mem_append_left _ hmem) hsign
  · intro h c hc hsign
    rcases List.mem_append.mp hc with hmem | hmem
    · exact h c hsign hmem
    · exact Text.notMem_toLower_of_mem_signs hname hsign hmem

/-- A prefix that is fit for a literal. -/
theorem exists_assigns_value?_iff_chat :
    let settings : Settings := { dispatcherPathPrefix := "/user/hubs/" }
    let hub : Hub :=
      ⟨.plain "Chat" "ChatHub", ⟨.plain "Chat" "IChatClient", []⟩, ⟨.plain "Chat" "IChatServer", []⟩⟩
    (Text.IsOneLine settings.dispatcherPathPrefix ∧ isIdentifier hub.bridgeType.name = true) ∧
      ∃ literal, Assigns settings hub (ofHubs [hub] settings).text literal ∧
        Literal.value? literal.toList = some (Literal.utf16 "/user/hubs/chathub".toList) := by
  intro settings hub
  have hfront : Text.IsOneLine settings.dispatcherPathPrefix := by decide
  have hname : isIdentifier hub.bridgeType.name = true := by decide
  have hpath : dispatcherPath settings hub = "/user/hubs/chathub" := by decide +kernel
  have hsigns : ∀ sign ∈ Literal.signs, sign ∉ settings.dispatcherPathPrefix.toList :=
    List.all_iff_forall_prop.mp (by decide)
  obtain ⟨literal, hassigns, hvalue⟩ := exists_assigns_value?_iff settings hfront hname [] []
  exact ⟨⟨hfront, hname⟩, literal, hassigns, hpath ▸ hvalue.mpr hsigns⟩

/-- The constant is not assigned its path under every prefix on one line: a quotation mark in the prefix
ends the literal. -/
theorem not_forall_value?_eq_path :
    ¬ ∀ (settings : Settings) (hub : Hub) (before after : List Hub) (literal : String),
      Text.IsOneLine settings.dispatcherPathPrefix → isIdentifier hub.bridgeType.name = true →
        Assigns settings hub (ofHubs (before ++ hub :: after) settings).text literal →
          Literal.value? literal.toList =
            some (Literal.utf16 (dispatcherPath settings hub).toList) := by
  intro h
  let settings : Settings := { dispatcherPathPrefix := "/user/\"chat\"/" }
  let hub : Hub :=
    ⟨.plain "Chat" "ChatHub", ⟨.plain "Chat" "IChatClient", []⟩, ⟨.plain "Chat" "IChatServer", []⟩⟩
  have hfront : Text.IsOneLine settings.dispatcherPathPrefix := by decide
  have hassigns := assigns_quoted settings hfront (by decide : Text.IsOneLine hub.bridgeType.name) [] []
  have hvalue := h settings hub [] [] _ hfront (by decide) hassigns
  have hnone : Literal.value? ("\"" ++ dispatcherPath settings hub ++ "\"").toList = none := by
    decide +kernel
  exact Option.some_ne_none _ (hvalue.symm.trans hnone)

end Document

end HubRelay
