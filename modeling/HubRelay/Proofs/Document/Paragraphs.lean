import HubRelay.Document.Render
import HubRelay.Proofs.Writer.Paragraph

/-!
# The paragraphs of the document

The document is written by parts that write into each other's scopes. Here each part is given by its
paragraphs alone: a list of texts, each with the scopes it stands in. `writes_hubPart` and the lemmas
before it say that the parts write just these, whatever line breaks the names in them hold, and
`text_ofHubs` gives the text of the document as that of its paragraphs.

Two things follow at once, for names of any kind. The document depends on the terminator of lines only
through the terminators, and hubs are rendered independently of each other
(`afterLines_text_ofHubs_append`): after the two lines of the header, the text for two lists of hubs is
the text for the one and the text for the other.
-/

set_option autoImplicit false

namespace HubRelay

open Paragraph Writer

namespace Document

/-! ### Lines of the document -/

/-- The first line of a forwarding method. -/
def forwardingLine (settings : Settings) (method : Method) : String :=
  "public " ++ typeName settings method.returnType ++ " " ++ method.name ++ "(" ++
    declared (method.parameters.map fun p ↦ (typeName settings p.type, p.name)) ++ ")"

/-- The line of a forwarding method that makes the message. -/
def postingLine (method : Method) : String :=
  "var msg = new " ++ Direction.toServer.className ++ "." ++ method.name ++ "(" ++
    ", ".intercalate (contextArguments ++ method.parameters.map (·.name)) ++ ");"

/-- The first line of a record. -/
def recordLine (settings : Settings) (direction : Direction) (method : Method) : String :=
  "public record " ++ method.name ++ "(" ++ declared (recordFields settings direction method) ++ ")"

/-- The first line of the method of a record that delivers to a target. -/
def signatureLine (settings : Settings) (method : Method) (target : Target) : String :=
  "public " ++ typeName settings method.returnType ++ " " ++ target.methodName ++ "(" ++
    declared ((hubClients ++ "<" ++ typeName settings method.declaringType ++ ">", "hubClients") ::
      target.parameters) ++ ")"

/-- The line that delivers the call to a target. -/
def deliveryLine (direction : Direction) (method : Method) (target : Target) : String :=
  "=> hubClients." ++ target.address ++ "." ++ method.name ++ "(" ++
    ", ".intercalate (Field.names direction method) ++ ");"

/-- The line of a record's documentation. -/
def referenceLine (method : Method) : String :=
  "<see cref=\"" ++ method.name ++ "\"/>" ++ " is derived from " ++
    ("<see cref=\"" ++ method.cref ++ "\"/>")

/-- The constant of a hub's class. -/
def constantLine (settings : Settings) (hub : Hub) : String :=
  "public const string HubDispatcherActorSelection = \"" ++ settings.dispatcherPathPrefix ++
    Text.toLower hub.bridgeType.name ++ "\";"

/-- The first line of a hub's constructor. -/
def constructorLine (hub : Hub) : String :=
  "public " ++ hub.bridgeType.name ++ "(" ++ actorSystem ++ " actorSystem)"

/-- The second line of the header. -/
def countLine (count : Nat) : String :=
  "// " ++ (toString count ++ " hub" ++ (if count = 1 then "" else "s") ++ " found")

/-! ### Paragraphs of the parts -/

/-- Lists of paragraphs with an empty line between any two of them. -/
def spaced (parts : List (List Paragraph)) : List Paragraph := [line ""].intercalate parts

/-- The paragraphs of a forwarding method. -/
def forwardingParagraphs (settings : Settings) (method : Method) : List Paragraph :=
  line (forwardingLine settings method) :: within (.block "")
    (line (postingLine method) ::
      line "_actorSystem.ActorSelection(HubDispatcherActorSelection).Tell(msg);" ::
      (completion? settings method.returnType).toList.map fun value ↦
        line ("return " ++ value ++ ";"))

/-- The paragraphs of the method of a record that delivers to a target. -/
def dispatchParagraphs (settings : Settings) (direction : Direction) (method : Method)
    (target : Target) : List Paragraph :=
  line (signatureLine settings method target) ::
    within .indent [line (deliveryLine direction method target)]

/-- The paragraphs of a record's documentation. -/
def referenceParagraphs (method : Method) : List Paragraph :=
  within .documentation (within .summary [line (referenceLine method)])

/-- The paragraphs of a record's block, with its methods for all targets. -/
def deliveryParagraphs (settings : Settings) (direction : Direction) (method : Method) :
    List Paragraph :=
  within (.block "") (spaced (Target.every.map (dispatchParagraphs settings direction method)))

/-- The paragraphs of a record. -/
def messageParagraphs (settings : Settings) (direction : Direction) (method : Method) :
    List Paragraph :=
  referenceParagraphs method ++
    line (recordLine settings direction method) :: deliveryParagraphs settings direction method

/-- The paragraphs of the class with the messages of a contract. -/
def messagesParagraphs (settings : Settings) (direction : Direction) (contract : Contract) :
    List Paragraph :=
  within (.classBlock direction.className ["public", "static"])
    (spaced (contract.methods.map (messageParagraphs settings direction)))

/-- The paragraphs of a hub's constructor. -/
def constructorParagraphs (hub : Hub) : List Paragraph :=
  line (constructorLine hub) :: within (.block "")
    [line ("_actorSystem = actorSystem ?? " ++
      "throw new global::System.ArgumentNullException(nameof(actorSystem));")]

/-- The paragraphs of a hub's class. -/
def classParagraphs (settings : Settings) (hub : Hub) : List Paragraph :=
  within (.classBlock hub.bridgeType.name ["public", "partial"])
    (line (constantLine settings hub) :: line "" ::
      line ("private readonly " ++ actorSystem ++ " _actorSystem;") :: line "" ::
      (constructorParagraphs hub ++ line "" ::
        ((hub.server.methods.flatMap fun method ↦
            forwardingParagraphs settings method ++ [line ""]) ++
          (messagesParagraphs settings .toClient hub.client ++ line "" ::
            messagesParagraphs settings .toServer hub.server))))

/-- The paragraphs of a hub. -/
def hubParagraphs (settings : Settings) (hub : Hub) : List Paragraph :=
  if (hubNamespace hub).isEmpty then classParagraphs settings hub
  else within (.namespaceBlock (hubNamespace hub)) (classParagraphs settings hub)

/-- The paragraphs of the header. -/
def headerParagraphs (count : Nat) : List Paragraph :=
  [line "// <auto-generated />", line (countLine count)]

/-- The paragraphs of hubs, each after an empty line. -/
def hubsParagraphs (settings : Settings) (hubs : List Hub) : List Paragraph :=
  hubs.flatMap fun hub ↦ line "" :: hubParagraphs settings hub

/-- The paragraphs of the document. -/
def paragraphs (settings : Settings) (hubs : List Hub) : List Paragraph :=
  headerParagraphs hubs.length ++ hubsParagraphs settings hubs

/-! ### The parts write them -/

variable (settings : Settings)

/-- Parts with empty lines between them. -/
theorem writes_separated {α : Type} {parts : α → List Paragraph} {part : α → Writer → Writer}
    (h : ∀ x, Writes (parts x) (part x)) (xs : List α) :
    Writes (spaced (xs.map parts)) (separated part xs) := by
  induction xs with
  | nil => exact writes_id
  | cons first rest ih =>
    cases rest with
    | nil =>
      rw [List.map_singleton, spaced, List.intercalate_singleton]
      exact h first
    | cons next more =>
      rw [List.map_cons, List.map_cons, spaced, List.intercalate_cons_cons]
      exact ((h first).comp writes_blankLine).comp ih

theorem writes_forwardingMethod (method : Method) :
    Writes (forwardingParagraphs settings method) (forwardingMethod settings method) := by
  have hblock {ps : List Paragraph} {part : Writer → Writer} (h : Writes ps part) :=
    (((h.afterLine "_actorSystem.ActorSelection(HubDispatcherActorSelection).Tell(msg);").afterBreak
      (postingLine method)).within (.block "")).afterBreak (forwardingLine settings method)
  intro w indentText newline scopes sheet h
  rw [forwardingMethod, forwardingParagraphs]
  cases completion? settings method.returnType with
  | none => exact hblock writes_id h
  | some value => exact hblock (writes_writeBreak ("return " ++ value ++ ";")) h

theorem writes_dispatchMethod (direction : Direction) (method : Method) (target : Target) :
    Writes (dispatchParagraphs settings direction method target)
      (dispatchMethod settings method (Field.names direction method) target) := by
  have hdelivery := (writes_writeBreak (deliveryLine direction method target)).within .indent
  intro w indentText newline scopes sheet h
  rw [dispatchMethod]
  exact hdelivery.afterBreak (signatureLine settings method target) h

/-- The documentation of a record is one line inside its summary. -/
theorem writes_reference (method : Method) :
    Writes [line (referenceLine method)] fun w ↦
      (((w.see method.name).write " is derived from ").see method.cref).blankLine := by
  intro w indentText newline scopes sheet h
  have hline : (((w.see method.name).write " is derived from ").see method.cref).blankLine =
      w.writeLine (referenceLine method) := by
    rw [see, see, write_write h.newline_eq, write_write h.newline_eq]
    rfl
  show (((w.see method.name).write " is derived from ").see method.cref).blankLine.Follows _ _ _ _
  rw [hline]
  exact writes_writeLine _ h

theorem writes_message (direction : Direction) (method : Method) :
    Writes (messageParagraphs settings direction method) (message settings direction method) := by
  have hdispatch := writes_separated (writes_dispatchMethod settings direction method) Target.every
  have hrecord := (hdispatch.within (.block "")).afterBreak (recordLine settings direction method)
  have hreference := ((writes_reference method).within .summary).within .documentation
  intro w indentText newline scopes sheet h
  rw [message]
  exact (hreference.comp hrecord) h

theorem writes_messages (direction : Direction) (contract : Contract) :
    Writes (messagesParagraphs settings direction contract)
      (messages settings direction contract) :=
  (writes_separated (writes_message settings direction) contract.methods).within
    (.classBlock direction.className ["public", "static"])

theorem writes_constructor (hub : Hub) :
    Writes (constructorParagraphs hub) (constructor hub.bridgeType.name) :=
  ((writes_writeLine _).within (.block "")).afterBreak (constructorLine hub)

/-- The forwarding methods of a hub, with an empty line after each. -/
theorem writes_forwardingMethods (methods : List Method) :
    Writes (methods.flatMap fun method ↦ forwardingParagraphs settings method ++ [line ""]) fun w ↦
      methods.foldl (fun w method ↦ (forwardingMethod settings method w).blankLine) w :=
  Writes.foldl (fun method ↦ (writes_forwardingMethod settings method).comp writes_blankLine) methods

theorem writes_hubClass (hub : Hub) :
    Writes (classParagraphs settings hub) (hubClass settings hub) := by
  have hmessages := ((writes_messages settings .toClient hub.client).comp
    (writes_messages settings .toServer hub.server).afterBlank)
  have hmethods := (writes_forwardingMethods settings hub.server.methods).comp hmessages
  have hfields := ((((writes_constructor hub).comp hmethods.afterBlank).afterBlank.afterBreak
    ("private readonly " ++ actorSystem ++ " _actorSystem;")).afterBlank.afterBreak
      (constantLine settings hub))
  intro w indentText newline scopes sheet h
  rw [hubClass]
  exact hfields.within (.classBlock hub.bridgeType.name ["public", "partial"]) h

/-- A hub is written as its paragraphs. -/
theorem writes_hubPart (hub : Hub) :
    Writes (hubParagraphs settings hub) (hubPart settings hub) := by
  intro w indentText newline scopes sheet h
  rw [hubPart, hubParagraphs]
  split
  · exact writes_hubClass settings hub h
  · exact Writes.within (writes_hubClass settings hub) (.namespaceBlock (hubNamespace hub)) h

theorem writes_hubParts (hubs : List Hub) :
    Writes (hubsParagraphs settings hubs) (hubParts settings hubs) :=
  Writes.foldl (fun hub ↦ (writes_hubPart settings hub).afterBlank) hubs

/-- A comment on one line is one paragraph. -/
theorem writes_comment {text : String} (h : Text.IsOneLine text) :
    Writes [line ("// " ++ text)] (·.comment text) := by
  intro w indentText newline scopes sheet hw
  have hmarks : commentMarks text = lineMarks ("// " ++ text) := by
    rw [commentMarks, Text.pieces_eq_singleton h.1, List.flatMap_singleton, String.ofList_toList,
      lineMarks, lineMarks, ← List.append_assoc, marks, marks, marks, String.toList_append,
      List.filterMap_append]
  have hline := writes_writeLine ("// " ++ text) hw
  dsimp only at hline ⊢
  rwa [comment_eq_print hw.newline_eq, hmarks, ← writeLine_eq_print hw.newline_eq]

/-- A number is written on one line. -/
theorem isOneLine_toString (count : Nat) : Text.IsOneLine (toString count) :=
  ⟨fun h ↦ absurd (Text.isDigit_of_mem_toString h) (by decide),
    fun h ↦ absurd (Text.isDigit_of_mem_toString h) (by decide)⟩

theorem isOneLine_countLine (count : Nat) : Text.IsOneLine (countLine count) := by
  have hplural : Text.IsOneLine (if count = 1 then "" else "s") := by split <;> decide
  simp only [countLine, Text.isOneLine_append, isOneLine_toString, hplural, true_and, and_true]
  decide

theorem writes_header (count : Nat) : Writes (headerParagraphs count) (header count) := by
  have hfirst : Text.IsOneLine "<auto-generated />" := by decide
  have hsecond := (Text.isOneLine_append.mp (isOneLine_countLine count)).2
  have htext : "// " ++ "<auto-generated />" = "// <auto-generated />" := by decide
  have hgenerated := writes_comment hfirst
  rw [htext] at hgenerated
  intro w indentText newline scopes sheet h
  rw [header]
  exact (hgenerated.comp (writes_comment hsecond)) h

/-! ### The text -/

/-- The text of the document is that of the lines of its paragraphs, with a terminator after each. -/
theorem text_ofHubs (hubs : List Hub) :
    (ofHubs hubs settings).text =
      String.join (((paragraphs settings hubs).flatMap (lineTexts settings.indent)).map
        (· ++ settings.newline.text)) :=
  out_of_writes ((writes_header hubs.length).comp (writes_hubParts settings hubs)) settings.indent
    settings.newline

/-- The header is two lines, whatever the indentation. -/
theorem lineTexts_headerParagraphs (indentText : String) (count : Nat) :
    (headerParagraphs count).flatMap (lineTexts indentText) =
      ["// <auto-generated />", countLine count] := by
  have hfirst : Text.IsOneLine (line "// <auto-generated />").text := by decide
  have hsecond : Text.IsOneLine (line (countLine count)).text := isOneLine_countLine count
  rw [headerParagraphs, List.flatMap_cons, List.flatMap_singleton, lineTexts_of_isOneLine hfirst,
    lineTexts_of_isOneLine hsecond, lineText_line, lineText_line]
  rfl

/-- After the header the text is that of the lines of the hubs. -/
theorem afterLines_text_ofHubs (hubs : List Hub) :
    Text.afterLines 2 (ofHubs hubs settings).text =
      String.join (((hubsParagraphs settings hubs).flatMap (lineTexts settings.indent)).map
        (· ++ settings.newline.text)) := by
  have hfirst : Text.IsOneLine "// <auto-generated />" := by decide
  rw [text_ofHubs, paragraphs, List.flatMap_append, lineTexts_headerParagraphs, List.map_append,
    String.join_append, List.map_cons, List.map_singleton, String.join_cons, String.join_cons,
    String.append_assoc, Text.afterLines_append_terminator hfirst, String.append_assoc,
    Text.afterLines_append_terminator (isOneLine_countLine _), Text.afterLines_zero]
  exact String.empty_append

/-- Hubs are rendered independently of each other: after the two lines of the header, the text of the
document for two lists of hubs is that for the first list and that for the second. Nothing is assumed
of the names in the hubs or of the settings. -/
theorem afterLines_text_ofHubs_append (first second : List Hub) :
    Text.afterLines 2 (ofHubs (first ++ second) settings).text =
      Text.afterLines 2 (ofHubs first settings).text ++
        Text.afterLines 2 (ofHubs second settings).text := by
  have hhubs : hubsParagraphs settings (first ++ second) =
      hubsParagraphs settings first ++ hubsParagraphs settings second := List.flatMap_append
  rw [afterLines_text_ofHubs, afterLines_text_ofHubs, afterLines_text_ofHubs, hhubs,
    List.flatMap_append, List.map_append, String.join_append]

end Document

end HubRelay
