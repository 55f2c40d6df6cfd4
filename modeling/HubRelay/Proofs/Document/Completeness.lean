import HubRelay.Proofs.Document.Records

/-!
# The document is complete and in order

The class of a hub, a forwarding method and a class with messages are known by the first lines of their
blocks (`landmark?`). What is found in the whole document is, hub by hub, what the hub has: its class, a
forwarding method for each method of the server contract and both classes with messages as landmarks, and
a record with nine methods for each method of the client contract and then for each one of the server
contract.

A hub's constructor is named like its class, so where the name of a class begins with `record` and a
space, the constructor reads like a record (`not_forall_landmarks_and_records_ofHubs`).
-/

set_option autoImplicit false

namespace HubRelay

open Paragraph
open Text (hasPrefix findings Finds)

namespace Document

/-! ### Landmarks -/

/-- The first line of a hub's class, whose block begins with the dispatcher's constant, of a forwarding
method, whose block begins with making the message, or of a class with messages. -/
def landmark? (line : String) (rest : List String) : Option String :=
  if hasPrefix "public " line ∧ rest.head? = some "\x7b" ∧
      (hasPrefix "public partial class " line ∧
          hasPrefix "public const string HubDispatcherActorSelection = " (rest[1]?.getD "") ∨
        hasPrefix "var msg = new ToServer." (rest[1]?.getD "") ∨
        line = "public static class ToClient" ∨ line = "public static class ToServer") then
    some line
  else none

theorem landmark?_eq_none {line : String} (h : hasPrefix "public " line = false)
    (rest : List String) : landmark? line rest = none := by
  rw [landmark?, h, if_neg fun hlandmark ↦ Bool.false_ne_true hlandmark.1]

/-- A landmark stands before a brace. -/
theorem landmark?_eq_none_of_head? {rest : List String} (h : rest.head? ≠ some "\x7b")
    (line : String) : landmark? line rest = none := by
  rw [landmark?, if_neg fun hlandmark ↦ h hlandmark.2.1]

/-- In quiet lines no landmark is found. -/
theorem IsQuiet.finds_landmark? {part : List String} (h : IsQuiet part) : Finds landmark? part [] :=
  .none_of_forall fun _ hline ↦ landmark?_eq_none (h _ hline)

variable (settings : Settings)

/-! ### Forwarding methods -/

/-- A forwarding method makes the message first, and nothing in its block is public. -/
theorem exists_map_body_forwardingParagraphs (method : Method) :
    ∃ after, IsQuiet after ∧ (forwardingParagraphs settings method).map body =
      forwardingLine settings method :: "\x7b" :: postingLine method :: after := by
  let returns := (completion? settings method.returnType).toList.map fun value ↦
    "return " ++ value ++ ";"
  have hreturns : ∀ text ∈ returns, hasPrefix "public " text = false := by
    intro text htext
    obtain ⟨value, -, rfl⟩ := List.mem_map.mp htext
    exact hasPrefix_public_eq_false (by simp)
  have hbodies : ((completion? settings method.returnType).toList.map fun value ↦
      line ("return " ++ value ++ ";")).map body = returns := by
    rw [List.map_map]
    exact List.map_congr_left fun value _ ↦ body_line _
  refine ⟨"_actorSystem.ActorSelection(HubDispatcherActorSelection).Tell(msg);" ::
    (returns ++ ["\x7d"]), ?_, ?_⟩
  · exact .cons (by decide) (List.forall_mem_append.mpr ⟨hreturns, IsQuiet.closing⟩)
  · rw [forwardingParagraphs, List.map_cons, body_line, map_body_within rfl, List.map_cons, body_line,
      List.map_cons, body_line, hbodies]
    rfl

theorem hasPrefix_public_postingLine (method : Method) :
    hasPrefix "public " (postingLine method) = false := by
  refine hasPrefix_public_eq_false ?_
  rw [head?_postingLine]
  decide

/-- The first line of a forwarding method is a landmark before its block. -/
theorem landmark?_forwardingLine (method : Method) (rest : List String) :
    landmark? (forwardingLine settings method) ("\x7b" :: postingLine method :: rest) =
      some (forwardingLine settings method) := by
  have hpublic : hasPrefix "public " (forwardingLine settings method) = true := by
    unfold forwardingLine
    simp only [String.append_assoc]
    exact Text.hasPrefix_append ..
  have hposting : hasPrefix "var msg = new ToServer." (postingLine method) = true := by
    unfold postingLine
    simp [hasPrefix, List.isPrefixOf, Direction.className]
  rw [landmark?, if_pos ⟨hpublic, rfl, .inr (.inl hposting)⟩]

theorem finds_forwardingParagraphs (method : Method) :
    Finds record? ((forwardingParagraphs settings method).map body) [] ∧
      Finds landmark? ((forwardingParagraphs settings method).map body)
        [forwardingLine settings method] := by
  obtain ⟨after, hafter, hbody⟩ := exists_map_body_forwardingParagraphs settings method
  have hquiet : IsQuiet ("\x7b" :: postingLine method :: after) :=
    .cons (by decide) (.cons (hasPrefix_public_postingLine method) hafter)
  rw [hbody]
  exact ⟨.skip (fun _ ↦ record?_eq_none (isRecordLine_forwardingLine settings method) _)
    hquiet.finds_record?, hquiet.finds_landmark?.cons fun _ ↦
      landmark?_forwardingLine settings method _⟩

/-! ### No landmarks in records -/

/-- The methods of a record are no landmarks. -/
theorem finds_landmark?_deliveryParagraphs (direction : Direction) (method : Method) :
    Finds landmark? ((deliveryParagraphs settings direction method).map body) [] := by
  have hdelivery (target : Target) : deliveryLine direction method target ≠ "\x7b" := by
    intro hbrace
    have hhead := head?_deliveryLine direction method target
    rw [hbrace] at hhead
    exact absurd hhead (by decide)
  have hdispatch (target : Target) : Finds landmark?
      [signatureLine settings method target, deliveryLine direction method target] [] :=
    .skip (fun _ ↦ landmark?_eq_none_of_head? (fun hhead ↦
        hdelivery target (Option.some.inj (List.head?_cons.symm.trans hhead))) _)
      (IsQuiet.singleton (hasPrefix_public_deliveryLine direction method target)).finds_landmark?
  have hevery : Finds landmark? ([""].intercalate (Target.every.map fun target ↦
      [signatureLine settings method target, deliveryLine direction method target])) [] :=
    .intercalate_none IsQuiet.blank.finds_landmark? fun target _ ↦ hdispatch target
  rw [map_body_deliveryParagraphs]
  exact (hevery.append IsQuiet.closing.finds_landmark?).skip fun _ ↦
    landmark?_eq_none (by decide) _

/-- A record is no landmark, for in its block a public line comes first. -/
theorem landmark?_recordLine (direction : Direction) (method : Method) (rest : List String) :
    landmark? (recordLine settings direction method)
      ((deliveryParagraphs settings direction method).map body ++ rest) = none := by
  have hfirst : ((deliveryParagraphs settings direction method).map body ++ rest)[1]?.getD "" =
      signatureLine settings method .all := by
    rw [map_body_deliveryParagraphs]
    rfl
  have hposting : hasPrefix "var msg = new ToServer." (signatureLine settings method .all) = false :=
    Text.hasPrefix_eq_false (by decide) (by rw [head?_signatureLine]; decide)
  have hclass : hasPrefix "public partial class " (recordLine settings direction method) = false := by
    unfold recordLine
    simp [hasPrefix, List.isPrefixOf]
  have hrecord := isRecordLine_recordLine settings direction method
  rw [landmark?, hfirst, hposting, hclass, if_neg]
  rintro ⟨-, -, ⟨hfalse, -⟩ | hfalse | hline | hline⟩
  · exact Bool.false_ne_true hfalse
  · exact Bool.false_ne_true hfalse
  · rw [hline] at hrecord
    exact absurd hrecord (by decide)
  · rw [hline] at hrecord
    exact absurd hrecord (by decide)

/-- Neither records nor their methods are landmarks. -/
theorem finds_landmark?_messageParagraphs (direction : Direction) (method : Method) :
    Finds landmark? ((messageParagraphs settings direction method).map body) [] := by
  rw [messageParagraphs, List.map_append, List.map_cons, body_line]
  exact (isQuiet_referenceParagraphs method).finds_landmark?.append
    (.skip (landmark?_recordLine settings direction method)
      (finds_landmark?_deliveryParagraphs settings direction method))

/-- In the block of a class with messages there is no landmark. -/
theorem finds_landmark?_messagesBlock (direction : Direction) (methods : List Method) :
    Finds landmark? ("\x7b" ::
      ((spaced (methods.map (messageParagraphs settings direction))).map body ++ ["\x7d"])) [] := by
  have hblank : Finds landmark? [""] [] := IsQuiet.blank.finds_landmark?
  have hclosing : Finds landmark? ["\x7d"] [] := IsQuiet.closing.finds_landmark?
  have hmessages : Finds landmark? ([""].intercalate (methods.map fun method ↦
      (messageParagraphs settings direction method).map body)) [] :=
    .intercalate_none hblank fun method _ ↦
      finds_landmark?_messageParagraphs settings direction method
  rw [map_body_spaced, List.map_map]
  exact (hmessages.append hclosing).skip fun _ ↦
    landmark?_eq_none (by decide : hasPrefix "public " "\x7b" = false) _

/-- The first line of a class with messages is a landmark before a brace. -/
theorem landmark?_messagesLine (direction : Direction) {rest : List String}
    (hrest : rest.head? = some "\x7b") :
    landmark? ("public static class " ++ direction.className) rest =
      some ("public static class " ++ direction.className) := by
  have hpublic : hasPrefix "public " ("public static class " ++ direction.className) = true := by
    cases direction <;> decide
  have hclass : "public static class " ++ direction.className = "public static class ToClient" ∨
      "public static class " ++ direction.className = "public static class ToServer" := by
    cases direction
    · exact .inl (by decide)
    · exact .inr (by decide)
  rw [landmark?, if_pos ⟨hpublic, hrest, .inr (.inr hclass)⟩]

/-- A class with messages is one landmark. -/
theorem finds_landmark?_messagesParagraphs (direction : Direction) (contract : Contract) :
    Finds landmark? ((messagesParagraphs settings direction contract).map body)
      ["public static class " ++ direction.className] := by
  rw [map_body_messagesParagraphs]
  exact (finds_landmark?_messagesBlock settings direction contract.methods).cons fun rest ↦
    landmark?_messagesLine direction rfl

/-! ### Hubs -/

/-- The landmarks of a hub: its class, its forwarding methods and both classes with messages. -/
def landmarksOf (hub : Hub) : List String :=
  ("public partial class " ++ hub.bridgeType.name) ::
    (hub.server.methods.map (forwardingLine settings) ++
      ["public static class ToClient", "public static class ToServer"])

/-- The records of a hub: those for the client contract, and then those for the server contract. -/
def recordsOf (hub : Hub) : List (String × List (String × Option String)) :=
  hub.client.methods.map (recordOf settings .toClient) ++
    hub.server.methods.map (recordOf settings .toServer)

theorem map_body_constructorParagraphs (hub : Hub) :
    (constructorParagraphs hub).map body =
      [constructorLine hub, "\x7b", "_actorSystem = actorSystem ?? " ++
        "throw new global::System.ArgumentNullException(nameof(actorSystem));", "\x7d"] := by
  rw [constructorParagraphs, List.map_cons, body_line, map_body_within rfl, List.map_singleton,
    body_line]
  rfl

/-- A constructor is no landmark, and no record unless its name reads like one. -/
theorem finds_constructorParagraphs (hub : Hub) :
    (hasPrefix "record " hub.bridgeType.name = false →
      Finds record? ((constructorParagraphs hub).map body) []) ∧
      Finds landmark? ((constructorParagraphs hub).map body) [] := by
  let assignment := "_actorSystem = actorSystem ?? " ++
    "throw new global::System.ArgumentNullException(nameof(actorSystem));"
  have hhead : assignment.toList.head? = some '_' := (Text.head?_toList_literal rfl _).2
  have hstart {front : String} (hne : front ≠ "") (hfront : front.toList.head? = some 'p' ∨
      front.toList.head? = some 'v') : hasPrefix front assignment = false := by
    refine Text.hasPrefix_eq_false hne ?_
    rw [hhead]
    obtain hfront | hfront := hfront <;> rw [hfront] <;> decide
  have hquiet : IsQuiet ["\x7b", assignment, "\x7d"] :=
    .cons (by decide) (.cons (hstart (by decide) (.inl (by decide))) .closing)
  have hparenthesis : '(' ∈ (constructorLine hub).toList := by
    unfold constructorLine
    simp
  rw [map_body_constructorParagraphs]
  refine ⟨fun hname ↦ ?_, .skip (fun rest ↦ ?_) hquiet.finds_landmark?⟩
  · have hline := (isRecordLine_constructorLine hub).trans hname
    exact hquiet.finds_record?.skip fun _ ↦ record?_eq_none hline _
  · rw [landmark?, if_neg]
    rintro ⟨-, -, ⟨-, hconstant⟩ | hposting | hline | hline⟩
    · exact Bool.false_ne_true ((hstart (by decide) (.inl (Text.head?_toList_literal rfl "").1)).symm.trans
        hconstant)
    · exact Bool.false_ne_true ((hstart (by decide) (.inr (Text.head?_toList_literal rfl "").1)).symm.trans
        hposting)
    · rw [hline] at hparenthesis
      exact absurd hparenthesis (by decide)
    · rw [hline] at hparenthesis
      exact absurd hparenthesis (by decide)

/-- The first lines of a hub's class. -/
def openingLines (hub : Hub) : List String :=
  ["public partial class " ++ hub.bridgeType.name, "\x7b", constantLine settings hub, "",
    "private readonly " ++ actorSystem ++ " _actorSystem;", ""]

theorem map_body_classParagraphs (hub : Hub) :
    (classParagraphs settings hub).map body =
      openingLines settings hub ++ ((constructorParagraphs hub).map body ++ ([""] ++
        ((hub.server.methods.flatMap fun method ↦
            (forwardingParagraphs settings method).map body ++ [""]) ++
          ((messagesParagraphs settings .toClient hub.client).map body ++ ([""] ++
            ((messagesParagraphs settings .toServer hub.server).map body ++ ["\x7d"])))))) := by
  have hclass : String.join (["public", "partial"].map (· ++ " ")) = "public partial " := by decide
  have hclassLine : "public partial " ++ "class " ++ hub.bridgeType.name =
      "public partial class " ++ hub.bridgeType.name := congrArg (· ++ _) (by decide)
  rw [classParagraphs, map_body_within rfl, Opening.firstLines, Opening.lastLines, hclass,
    hclassLine, openingLines]
  simp only [List.map_cons, List.map_append, List.map_flatMap, body_line, List.map_nil,
    List.cons_append, List.nil_append, List.append_assoc]

/-- After the first of these lines there is no landmark. -/
theorem finds_landmark?_tail_openingLines (hub : Hub) :
    Finds landmark? (openingLines settings hub).tail [] := by
  have hquiet : IsQuiet ["", "private readonly " ++ actorSystem ++ " _actorSystem;", ""] :=
    .cons (by decide) (.cons (by decide) .blank)
  have hblank : some "" ≠ some "\x7b" := by decide
  refine .skip (fun _ ↦ landmark?_eq_none (by decide) _)
    (.skip (fun rest ↦ ?_) hquiet.finds_landmark?)
  apply landmark?_eq_none_of_head?
  exact hblank

theorem finds_openingLines (hub : Hub) :
    Finds record? (openingLines settings hub) [] ∧
      Finds landmark? (openingLines settings hub)
        ["public partial class " ++ hub.bridgeType.name] := by
  have hconstant : isRecordLine (constantLine settings hub) = false := by
    unfold constantLine
    simp only [String.append_assoc]
    exact (Text.hasPrefix_literal rfl rfl (by decide) _).trans (by decide)
  have hclass : isRecordLine ("public partial class " ++ hub.bridgeType.name) = false :=
    (Text.hasPrefix_literal rfl rfl (by decide) _).trans (by decide)
  have hpublic : hasPrefix "public " ("public partial class " ++ hub.bridgeType.name) = true :=
    (Text.hasPrefix_literal rfl rfl (by decide) _).trans (by decide)
  have hfirst : hasPrefix "public const string HubDispatcherActorSelection = "
      (constantLine settings hub) = true := by
    unfold constantLine
    simp only [String.append_assoc]
    exact (Text.hasPrefix_literal rfl rfl (by decide) _).trans (by decide)
  have hquiet : IsQuiet ["", "private readonly " ++ actorSystem ++ " _actorSystem;", ""] :=
    .cons (by decide) (.cons (by decide) .blank)
  refine ⟨.skip (fun _ ↦ record?_eq_none hclass _)
    (.skip (fun _ ↦ record?_eq_none (by decide) _)
      (.skip (fun _ ↦ record?_eq_none hconstant _) hquiet.finds_record?)), ?_⟩
  refine (finds_landmark?_tail_openingLines settings hub).cons fun rest ↦ ?_
  rw [landmark?, if_pos ⟨hpublic, rfl, .inl ⟨Text.hasPrefix_append .., hfirst⟩⟩]

/-- What is found in the class of a hub. -/
theorem finds_landmark?_classParagraphs (hub : Hub) :
    Finds landmark? ((classParagraphs settings hub).map body) (landmarksOf settings hub) := by
  have hblank : Finds landmark? [""] [] := IsQuiet.blank.finds_landmark?
  have hclosing : Finds landmark? ["\x7d"] [] := IsQuiet.closing.finds_landmark?
  have hforwarding : Finds landmark? (hub.server.methods.flatMap fun method ↦
      (forwardingParagraphs settings method).map body ++ [""])
        (hub.server.methods.flatMap fun method ↦ [forwardingLine settings method] ++ []) :=
    .flatMap fun method _ ↦ (finds_forwardingParagraphs settings method).2.append hblank
  have hclient : Finds landmark? ((messagesParagraphs settings .toClient hub.client).map body)
      ["public static class ToClient"] :=
    finds_landmark?_messagesParagraphs settings .toClient hub.client
  have hserver : Finds landmark? ((messagesParagraphs settings .toServer hub.server).map body)
      ["public static class ToServer"] :=
    finds_landmark?_messagesParagraphs settings .toServer hub.server
  have hclasses := hclient.append (hblank.append (hserver.append hclosing))
  have hmembers := (finds_constructorParagraphs hub).2.append
    (hblank.append (hforwarding.append hclasses))
  have hlines : hub.server.methods.map (forwardingLine settings) =
      hub.server.methods.flatMap fun method ↦ [forwardingLine settings method] :=
    List.map_eq_flatMap
  rw [map_body_classParagraphs, landmarksOf, hlines]
  exact (finds_openingLines settings hub).2.append hmembers

theorem finds_record?_classParagraphs {hub : Hub} (h : hub.IsOneLine)
    (hname : hasPrefix "record " hub.bridgeType.name = false) :
    Finds record? ((classParagraphs settings hub).map body) (recordsOf settings hub) := by
  have hblank : Finds record? [""] [] := IsQuiet.blank.finds_record?
  have hclosing : Finds record? ["\x7d"] [] := IsQuiet.closing.finds_record?
  have hforwarding : Finds record? (hub.server.methods.flatMap fun method ↦
      (forwardingParagraphs settings method).map body ++ [""])
        (hub.server.methods.flatMap fun _ ↦ [] ++ []) :=
    .flatMap fun method _ ↦ (finds_forwardingParagraphs settings method).1.append hblank
  have hnothing : (hub.server.methods.flatMap fun _ ↦
      ([] ++ [] : List (String × List (String × Option String)))) = [] :=
    List.flatMap_eq_nil_iff.mpr fun _ _ ↦ rfl
  rw [hnothing] at hforwarding
  have hclient := finds_record?_messagesParagraphs settings .toClient h.clientMethods
  have hserver := finds_record?_messagesParagraphs settings .toServer h.serverMethods
  have hclasses := hclient.append (hblank.append (hserver.append hclosing))
  have hmembers := ((finds_constructorParagraphs hub).1 hname).append
    (hblank.append (hforwarding.append hclasses))
  rw [List.append_nil] at hmembers
  rw [map_body_classParagraphs, recordsOf]
  exact (finds_openingLines settings hub).1.append hmembers

/-! ### The document -/

/-- A search that finds nothing in quiet lines finds in the document what it finds in the classes of the
hubs. -/
theorem findings_paragraphs {β : Type} {look : String → List String → Option β}
    (hquiet : ∀ part, IsQuiet part → Finds look part []) {hubs : List Hub} {found : Hub → List β}
    (hclass : ∀ hub ∈ hubs, Finds look ((classParagraphs settings hub).map body) (found hub)) :
    findings look ((paragraphs settings hubs).map body) = hubs.flatMap found := by
  have hheader : Finds look ((headerParagraphs hubs.length).map body) [] := by
    refine hquiet _ (List.forall_mem_map.mpr (List.forall_mem_cons.mpr
      ⟨by decide, List.forall_mem_singleton.mpr ?_⟩))
    rw [body_line]
    refine hasPrefix_public_eq_false ?_
    rw [head?_countLine]
    decide
  have hhub : ∀ hub ∈ hubs,
      Finds look ((line "" :: hubParagraphs settings hub).map body) (found hub) := by
    intro hub hmem
    have hblank : Finds look [""] [] := hquiet _ .blank
    rw [List.map_cons, body_line, hubParagraphs]
    split
    · exact hblank.append (hclass hub hmem)
    · have hopening : Finds look ["namespace " ++ hubNamespace hub, "\x7b"] [] :=
        hquiet _ (.cons (hasPrefix_public_eq_false (by simp)) (.singleton (by decide)))
      have hclosing : Finds look ["\x7d"] [] := hquiet _ .closing
      have hbody := hblank.append ((hopening.append (hclass hub hmem)).append hclosing)
      rw [List.append_nil] at hbody
      rw [map_body_within rfl]
      exact hbody
  have hhubs : Finds look ((hubsParagraphs settings hubs).map body) (hubs.flatMap found) := by
    rw [hubsParagraphs, List.map_flatMap]
    exact .flatMap hhub
  rw [paragraphs, List.map_append]
  exact (hheader.append hhubs).findings_eq

/-- What is found of records begins with their first lines. -/
theorem map_fst_findings_record? (lines : List String) :
    (findings record? lines).map (·.1) = lines.filter isRecordLine := by
  induction lines with
  | nil => rfl
  | cons text rest ih =>
    rw [findings, List.map_append, ih, record?]
    cases hline : isRecordLine text with
    | true =>
      rw [if_pos rfl, List.filter_cons_of_pos hline]
      rfl
    | false =>
      rw [if_neg Bool.false_ne_true, List.filter_cons_of_neg (hline ▸ Bool.false_ne_true)]
      rfl

/-- Hubs and settings on one line. Past their indentation the lines of the document have, hub by hub, the
landmarks of the hubs: the class, a forwarding method for each method of the server contract, and then
both classes with messages. If no name of a hub's class begins like a record, the lines that do are, hub
by hub, one for each method of the client contract and then one for each method of the server contract;
and between such a line and the next one or the end of the class there are the nine methods that deliver
to the targets, in order, each right before the line that delivers the call. -/
theorem landmarks_and_records_ofHubs {hubs : List Hub} (hsettings : settings.IsOneLine)
    (h : ∀ hub ∈ hubs, hub.IsOneLine) :
    let bodies := (Text.lines (ofHubs hubs settings).text).map Text.trimStart
    findings landmark? bodies = hubs.flatMap (landmarksOf settings) ∧
      ((∀ hub ∈ hubs, hasPrefix "record " hub.bridgeType.name = false) →
        bodies.filter isRecordLine = (hubs.flatMap fun hub ↦
            hub.client.methods.map (recordLine settings .toClient) ++
              hub.server.methods.map (recordLine settings .toServer)) ∧
          findings record? bodies = hubs.flatMap (recordsOf settings)) := by
  dsimp only
  rw [map_trimStart_lines hsettings h]
  refine ⟨findings_paragraphs settings (fun _ hquiet ↦ hquiet.finds_landmark?) fun hub _ ↦
    finds_landmark?_classParagraphs settings hub, fun hnames ↦ ?_⟩
  have hrecords : findings record? ((paragraphs settings hubs).map body) =
      hubs.flatMap (recordsOf settings) :=
    findings_paragraphs settings (fun _ hquiet ↦ hquiet.finds_record?) fun hub hmem ↦
      finds_record?_classParagraphs settings (h hub hmem) (hnames hub hmem)
  refine ⟨?_, hrecords⟩
  rw [← map_fst_findings_record?, hrecords, List.map_flatMap]
  refine List.flatMap_congr fun hub _ ↦ ?_
  rw [recordsOf, List.map_append, List.map_map, List.map_map]
  rfl

/-- A hub with a method that clients call and that has no parameters. -/
theorem landmarks_and_records_ofHubs_ping :
    let text := TypeRef.plain "System" "String"
    let server := TypeRef.plain "Chat" "IPingServer"
    let ping : Method := ⟨"Ping", text, server, []⟩
    let hub : Hub := ⟨.plain "" "PingHub", ⟨.plain "Chat" "IPingClient", []⟩, ⟨server, [ping]⟩⟩
    let bodies := (Text.lines (ofHubs [hub] {}).text).map Text.trimStart
    (Settings.IsOneLine {} ∧ hub.IsOneLine) ∧
      findings landmark? bodies =
        ["public partial class PingHub", "public global::System.String Ping()",
          "public static class ToClient", "public static class ToServer"] ∧
      bodies.filter isRecordLine =
        ["public record Ping(string ConnectionId, string UserIdentifier, " ++
          "global::System.Security.Claims.ClaimsPrincipal User)"] ∧
      (findings record? bodies).map (·.2.length) = [9] := by
  intro text server ping hub bodies
  have htext : text.IsOneLine := TypeRef.isOneLine_plain (by decide) (by decide)
  have hserver : server.IsOneLine := TypeRef.isOneLine_plain (by decide) (by decide)
  have hping : ping.IsOneLine :=
    ⟨by decide, htext, hserver, List.forall_mem_nil _, List.forall_mem_nil _⟩
  have hhub : hub.IsOneLine :=
    ⟨TypeRef.isOneLine_plain (by decide) (by decide),
      TypeRef.isOneLine_plain (by decide) (by decide), List.forall_mem_nil _, hserver,
      List.forall_mem_singleton.mpr hping⟩
  have hsettings : Settings.IsOneLine {} :=
    ⟨by decide, by decide, List.all_eq_true.mp (by decide : "    ".toList.all Text.isBlank = true)⟩
  obtain ⟨hlandmarks, hothers⟩ :=
    landmarks_and_records_ofHubs {} hsettings (List.forall_mem_singleton.mpr hhub)
  obtain ⟨hlines, hrecords⟩ := hothers (List.forall_mem_singleton.mpr (by decide))
  refine ⟨⟨hsettings, hhub⟩, hlandmarks.trans (by decide +kernel), hlines.trans (by decide +kernel), ?_⟩
  rw [hrecords]
  rfl

/-- Without the condition on names of classes the records are not as in `landmarks_and_records_ofHubs`: a
class may be named so that its constructor reads like a record. -/
theorem not_forall_landmarks_and_records_ofHubs :
    ¬ ∀ (settings : Settings) (hubs : List Hub), settings.IsOneLine →
      (∀ hub ∈ hubs, hub.IsOneLine) →
        let bodies := (Text.lines (ofHubs hubs settings).text).map Text.trimStart
        findings landmark? bodies = hubs.flatMap (landmarksOf settings) ∧
          bodies.filter isRecordLine = (hubs.flatMap fun hub ↦
            hub.client.methods.map (recordLine settings .toClient) ++
              hub.server.methods.map (recordLine settings .toServer)) ∧
          findings record? bodies = hubs.flatMap (recordsOf settings) := by
  intro h
  let client := TypeRef.plain "Chat" "IChatClient"
  let server := TypeRef.plain "Chat" "IChatServer"
  let hub : Hub := ⟨.plain "Chat" "record X", ⟨client, []⟩, ⟨server, []⟩⟩
  have hclient : client.IsOneLine := TypeRef.isOneLine_plain (by decide) (by decide)
  have hserver : server.IsOneLine := TypeRef.isOneLine_plain (by decide) (by decide)
  have hhub : ∀ other ∈ [hub], other.IsOneLine := List.forall_mem_singleton.mpr
    ⟨TypeRef.isOneLine_plain (by decide) (by decide), hclient, List.forall_mem_nil _, hserver,
      List.forall_mem_nil _⟩
  have hsettings : Settings.IsOneLine {} :=
    ⟨by decide, by decide, List.all_eq_true.mp (by decide : "    ".toList.all Text.isBlank = true)⟩
  have hrecords := (h {} [hub] hsettings hhub).2.1
  rw [map_trimStart_lines hsettings hhub] at hrecords
  have hmem : constructorLine hub ∈ (paragraphs {} [hub]).map body := by decide +kernel
  have hfound : constructorLine hub ∈ ((paragraphs {} [hub]).map body).filter isRecordLine :=
    List.mem_filter.mpr ⟨hmem, by decide +kernel⟩
  rw [hrecords] at hfound
  cases hfound

end Document

end HubRelay
