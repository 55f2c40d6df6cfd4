import HubRelay.Proofs.Document.Completeness
import HubRelay.Proofs.Document.Forwarding

/-!
# The names of records

In C# the members of a class are told apart by their names, and records that are nested in one class need
different names. The names are read off the lines of the document here: those of the records in the block
of a class with messages (`recordNames?`), and the name of the record that a forwarding method makes
(`posted?`). Both are searches that look at landmarks only, so in the class of a hub they find what they
find at its landmarks (`OnlyAtLandmarks.finds_classParagraphs`).

A record has the name of its method, and so has the one that the forwarding method makes. Methods of a
contract may share a name when they differ in the types of their parameters, and then so do their records:
each method has its own record just when no two methods of a contract share a name
(`hasOwnRecords_iff`).
-/

set_option autoImplicit false

namespace HubRelay

open Paragraph TypeExpr
open Text (hasPrefix findings Finds)

/-- The contract whose messages go in a direction. -/
def Hub.contract (hub : Hub) : Direction → Contract
  | .toClient => hub.client
  | .toServer => hub.server

namespace Contract

/-- No two methods have both the same name and the same types of parameters. Identifiers are compared
without leading `@`. -/
def HasDistinctSignatures (contract : Contract) : Prop :=
  (contract.methods.map fun m ↦ (Model.withoutAt m.name, m.parameters.map (·.type))).Nodup

/-- No two methods have the same name. -/
def HasDistinctNames (contract : Contract) : Prop :=
  (contract.methods.map fun m ↦ Model.withoutAt m.name).Nodup

instance (contract : Contract) : Decidable contract.HasDistinctSignatures :=
  inferInstanceAs (Decidable (List.Nodup _))

instance (contract : Contract) : Decidable contract.HasDistinctNames :=
  inferInstanceAs (Decidable (List.Nodup _))

end Contract

namespace Document

/-! ### Names on lines -/

/-- The name of the record that begins with a line. -/
def recordName? (line : String) : Option String :=
  if isRecordLine line then
    match tokensOf line with
    | _ :: _ :: .word name :: _ => some name
    | _ => none
  else none

/-- The name of the record that a line makes for a local variable. -/
def madeName? (line : String) : Option String :=
  match tokensOf line with
  | .word "var" :: .word _ :: .stray '=' :: .word "new" :: .word "ToServer" :: .dot :: .word name :: _ =>
    some name
  | _ => none

/-- The lines between an opening brace and the brace that closes it. -/
def blockLines (lines : List String) : List String :=
  ((Text.depths id 0 lines.tail).takeWhile fun entry ↦ decide (0 ≤ entry.1)).map (·.2)

/-- At the first line of the class with the messages of a direction, the names of the records in it. -/
def recordNames? (direction : Direction) (line : String) (rest : List String) :
    Option (List String) :=
  if landmark? line rest = some ("public static class " ++ direction.className) then
    some ((blockLines rest).filterMap recordName?)
  else none

/-- At the first line of a forwarding method, the name of the record that it makes. -/
def posted? (line : String) (rest : List String) : Option String :=
  (landmark? line rest).bind fun _ ↦ madeName? (rest[1]?.getD "")

/-- Each method of a hub has its own record, by the lines of the document of the hub: the records in
each of the two classes have different names, and the names that the forwarding methods make records by
are, one for each method of the server contract and in order, those of the method's own record and of no
other. Identifiers are compared without leading `@`. -/
def HasOwnRecords (settings : Settings) (hub : Hub) : Prop :=
  let bodies := (Text.lines (ofHubs [hub] settings).text).map Text.trimStart
  let posted := findings posted? bodies
  ∃ client server, findings (recordNames? .toClient) bodies = [client] ∧
    findings (recordNames? .toServer) bodies = [server] ∧
      (client.map Model.withoutAt).Nodup ∧ (server.map Model.withoutAt).Nodup ∧
        client.length = hub.client.methods.length ∧ server.length = hub.server.methods.length ∧
          posted.length = hub.server.methods.length ∧ ∀ (i j : Nat) (name record : String),
            posted[i]? = some name → server[j]? = some record →
              (Model.withoutAt name = Model.withoutAt record ↔ i = j)

/-! ### Reading the lines -/

/-- A line that begins otherwise than a record has no name of one. -/
theorem recordName?_eq_none {line : String} (h : isRecordLine line = false) :
    recordName? line = none := by
  rw [recordName?, h, if_neg Bool.false_ne_true]

/-- What comes behind a name on a line of the document. -/
theorem tokensOf_name_append {name : String} (hname : isIdentifier name = true) (rest : String) :
    tokensOf (name ++ ("(" ++ rest)) = .word name :: tokensOf ("(" ++ rest) := by
  have hhead : ("(" ++ rest).toList.head?.all isApart = true :=
    all_isApart_head?_append (by decide +kernel : _ = some '(') (by decide +kernel)
  rw [tokensOf_append (.inr hhead), tokensOf_identifier hname]
  rfl

section Lines

variable (settings : Settings)

theorem recordName?_recordLine (direction : Direction) {method : Method}
    (hname : isIdentifier method.name = true) :
    recordName? (recordLine settings direction method) = some method.name := by
  have hrecord : tokensOf "public record " = [.word "public", .word "record"] := by decide +kernel
  have hline : recordLine settings direction method = "public record " ++ (method.name ++
      ("(" ++ (declared (recordFields settings direction method) ++ ")"))) := by
    unfold recordLine
    simp only [String.append_assoc]
  rw [recordName?, if_pos (isRecordLine_recordLine settings direction method), hline,
    tokensOf_append (.inl (by decide +kernel)), tokensOf_name_append hname, hrecord]
  rfl

theorem madeName?_postingLine {method : Method} (hname : isIdentifier method.name = true) :
    madeName? (postingLine method) = some method.name := by
  have hmake : tokensOf "var msg = new ToServer." = [.word "var", .word "msg", .stray '=',
      .word "new", .word "ToServer", .dot] := by decide +kernel
  have hline : postingLine method = "var msg = new ToServer." ++ (method.name ++ ("(" ++
      (", ".intercalate (contextArguments ++ method.parameters.map (·.name)) ++ ");"))) := by
    unfold postingLine
    simp only [String.append_assoc]
    rfl
  rw [madeName?, hline, tokensOf_append (.inl (by decide +kernel)), tokensOf_name_append hname,
    hmake]
  rfl

/-- The constant of a hub's class makes no record. -/
theorem madeName?_constantLine (hub : Hub) : madeName? (constantLine settings hub) = none := by
  have hpublic : tokensOf "public " = [.word "public"] := by decide +kernel
  have hline : constantLine settings hub = "public " ++
      ("const string HubDispatcherActorSelection = \"" ++ (settings.dispatcherPathPrefix ++
        (Text.toLower hub.bridgeType.name ++ "\";"))) := by
    unfold constantLine
    simp only [String.append_assoc]
    rfl
  rw [madeName?, hline, tokensOf_append (.inl (by decide +kernel)), hpublic]
  rfl

end Lines

/-! ### Blocks -/

/-- The lines of a block with bracketed paragraphs inside. -/
theorem blockLines_map_body {ps : List Paragraph} (h : IsBracketed ps) (rest : List String) :
    blockLines ("\x7b" :: (ps.map body ++ "\x7d" :: rest)) = ps.map body := by
  have hrise : Text.rise id (ps.map body) = 0 := (Text.rise_map id body ps).trans h.rise_eq
  have hinside : ∀ entry ∈ Text.depths id 0 (ps.map body), decide (0 ≤ entry.1) = true := by
    intro entry hentry
    rw [Text.depths_map] at hentry
    obtain ⟨place, hplace, rfl⟩ := List.mem_map.mp hentry
    exact decide_eq_true (h.depth_eq place hplace).1
  have hclosing : (Text.depths id 0 ("\x7d" :: rest)).takeWhile (fun entry ↦ decide (0 ≤ entry.1)) =
      [] := by
    rw [Text.depths, List.takeWhile_cons_of_neg]
    decide
  rw [blockLines, List.tail_cons, Text.depths_append, hrise, Int.add_zero,
    List.takeWhile_append_of_pos hinside, hclosing, List.append_nil, Text.map_snd_depths]

variable (settings : Settings)

/-- The names of the records in a class with messages. -/
theorem filterMap_recordName?_messages (direction : Direction) {methods : List Method}
    (h : ∀ method ∈ methods, method.IsOneLine)
    (hnames : ∀ method ∈ methods, isIdentifier method.name = true) :
    ((spaced (methods.map (messageParagraphs settings direction))).map body).filterMap recordName? =
      methods.map (·.name) := by
  have hlines : ((spaced (methods.map (messageParagraphs settings direction))).map body).filter
      isRecordLine = methods.map (recordLine settings direction) := by
    have hfound := congrArg (List.map (·.1)) (findings_record?_messages settings direction h [])
    rw [map_fst_findings_record?, List.filter_append, List.map_append, List.map_map] at hfound
    have hclosing : ["\x7d"].filter isRecordLine = [] := by decide
    rw [hclosing, findings, List.map_nil, List.append_nil, List.append_nil] at hfound
    exact hfound
  have hfilter (lines : List String) :
      lines.filterMap recordName? = (lines.filter isRecordLine).filterMap recordName? := by
    rw [List.filterMap_filter]
    refine List.filterMap_congr fun line _ ↦ ?_
    cases hline : isRecordLine line with
    | true => rfl
    | false => exact recordName?_eq_none hline
  rw [hfilter, hlines, List.filterMap_map, ← List.filterMap_eq_map]
  exact List.filterMap_congr fun method hmethod ↦
    recordName?_recordLine settings direction (hnames method hmethod)

/-- The first line in a class with messages makes no record. -/
theorem madeName?_first_messages (direction : Direction) (methods : List Method)
    (rest : List String) :
    madeName? ((((spaced (methods.map (messageParagraphs settings direction))).map body ++
      "\x7d" :: rest)[0]?).getD "") = none := by
  cases methods with
  | nil =>
    show madeName? "\x7d" = none
    decide +kernel
  | cons method more =>
    have hfirst : ∃ after, (spaced ((method :: more).map (messageParagraphs settings direction))).map
        body = "/// <summary>" :: after := by
      cases more with
      | nil => exact ⟨_, rfl⟩
      | cons next others => exact ⟨_, rfl⟩
    obtain ⟨after, hafter⟩ := hfirst
    rw [hafter]
    show madeName? "/// <summary>" = none
    decide +kernel

/-! ### Searches at landmarks -/

/-- The search finds nothing where there is no landmark. -/
def OnlyAtLandmarks {β : Type} (look : String → List String → Option β) : Prop :=
  ∀ line rest, landmark? line rest = none → look line rest = none

/-- A landmark is the line at which it is found. -/
theorem eq_of_landmark?_eq_some {line found : String} {rest : List String}
    (h : landmark? line rest = some found) : found = line := by
  rw [landmark?] at h
  split at h
  · exact (Option.some.inj h).symm
  · cases h

theorem onlyAtLandmarks_recordNames? (direction : Direction) :
    OnlyAtLandmarks (recordNames? direction) := by
  intro line rest hnone
  rw [recordNames?, hnone, if_neg (Option.some_ne_none _).symm]

theorem onlyAtLandmarks_posted? : OnlyAtLandmarks posted? := by
  intro line rest hnone
  rw [posted?, hnone, Option.bind_none]

section Searches

variable {β : Type} {look : String → List String → Option β} (hlook : OnlyAtLandmarks look)

include hlook

theorem OnlyAtLandmarks.finds_of_isQuiet {part : List String} (h : IsQuiet part) :
    Finds look part [] := h.finds_landmark?.nil_of_imp hlook

/-- In the class of a hub such a search finds what it finds at the first lines of the forwarding methods
and of the classes with messages, provided that it finds nothing at the first line of the class. -/
theorem OnlyAtLandmarks.finds_classParagraphs {hub : Hub} (forwarding : Method → Option β)
    (messages : Direction → Option β)
    (hclass : ∀ rest, look ("public partial class " ++ hub.bridgeType.name)
      ("\x7b" :: constantLine settings hub :: rest) = none)
    (hforwarding : ∀ method ∈ hub.server.methods, ∀ rest,
      look (forwardingLine settings method) ("\x7b" :: postingLine method :: rest) =
        forwarding method)
    (hmessages : ∀ direction rest, look ("public static class " ++ direction.className)
      ("\x7b" :: ((spaced ((hub.contract direction).methods.map
        (messageParagraphs settings direction))).map body ++ "\x7d" :: rest)) = messages direction) :
    Finds look ((classParagraphs settings hub).map body)
      (hub.server.methods.flatMap (fun method ↦ (forwarding method).toList) ++
        ((messages .toClient).toList ++ (messages .toServer).toList)) := by
  have hquiet {part : List String} (h : IsQuiet part) : Finds look part [] := hlook.finds_of_isQuiet h
  have hopening : Finds look (openingLines settings hub) [] :=
    ((finds_landmark?_tail_openingLines settings hub).nil_of_imp hlook).skip fun _ ↦ hclass _
  have hconstructor : Finds look ((constructorParagraphs hub).map body) [] :=
    (finds_constructorParagraphs hub).2.nil_of_imp hlook
  have hmethods : Finds look (hub.server.methods.flatMap fun method ↦
      (forwardingParagraphs settings method).map body ++ [""])
        (hub.server.methods.flatMap fun method ↦ (forwarding method).toList) := by
    refine .flatMap fun method hmethod ↦ ?_
    obtain ⟨after, hafter, hbody⟩ := exists_map_body_forwardingParagraphs settings method
    have hblock : IsQuiet ("\x7b" :: postingLine method :: after) :=
      .cons (by decide) (.cons (hasPrefix_public_postingLine method) hafter)
    have hline := (hquiet hblock).item fun rest ↦ hforwarding method hmethod (after ++ rest)
    have hboth := hline.append (hquiet .blank)
    rw [List.append_nil, List.append_nil] at hboth
    rw [hbody]
    exact hboth
  have hcontract (direction : Direction) : Finds look
      ((messagesParagraphs settings direction (hub.contract direction)).map body)
        (messages direction).toList := by
    have hblock := (finds_landmark?_messagesBlock settings direction
      (hub.contract direction).methods).nil_of_imp hlook
    rw [map_body_messagesParagraphs, ← List.append_nil (messages direction).toList]
    refine hblock.item fun rest ↦ ?_
    rw [List.cons_append, List.append_assoc]
    exact hmessages direction rest
  have hboth := (hcontract .toClient).append
    ((hquiet .blank).append ((hcontract .toServer).append (hquiet .closing)))
  rw [List.append_nil, List.nil_append] at hboth
  rw [map_body_classParagraphs]
  exact hopening.append (hconstructor.append ((hquiet .blank).append (hmethods.append hboth)))

/-- If such a search finds something at the first line of each forwarding method and nothing at other
landmarks, this is what it finds in the class of a hub. -/
theorem OnlyAtLandmarks.finds_forwardingMethods {hub : Hub} (found : Method → β)
    (hclass : ∀ rest, look ("public partial class " ++ hub.bridgeType.name)
      ("\x7b" :: constantLine settings hub :: rest) = none)
    (hforwarding : ∀ method ∈ hub.server.methods, ∀ rest,
      look (forwardingLine settings method) ("\x7b" :: postingLine method :: rest) =
        some (found method))
    (hmessages : ∀ direction rest, look ("public static class " ++ direction.className)
      ("\x7b" :: ((spaced ((hub.contract direction).methods.map
        (messageParagraphs settings direction))).map body ++ "\x7d" :: rest)) = none) :
    Finds look ((classParagraphs settings hub).map body) (hub.server.methods.map found) := by
  have hfinds := hlook.finds_classParagraphs settings (fun method ↦ some (found method)) (fun _ ↦ none)
    hclass hforwarding hmessages
  have hnothing : (none : Option β).toList ++ (none : Option β).toList = [] := rfl
  have hall : (hub.server.methods.flatMap fun method ↦ (some (found method)).toList) =
      hub.server.methods.map found := List.map_eq_flatMap.symm
  rw [hnothing, List.append_nil, hall] at hfinds
  exact hfinds

end Searches

/-! ### Names in the document -/

/-- The name of every method in both contracts is an identifier. -/
def NamesMethods (hub : Hub) : Prop :=
  ∀ direction, ∀ method ∈ (hub.contract direction).methods, isIdentifier method.name = true

/-- Where a line is not the first of the class, no names are found. -/
theorem recordNames?_eq_none {direction : Direction} {line : String}
    (h : line ≠ "public static class " ++ direction.className) (rest : List String) :
    recordNames? direction line rest = none :=
  if_neg fun hfound ↦ h (eq_of_landmark?_eq_some hfound).symm

theorem recordNames?_classLine (direction : Direction) (name : String) (rest : List String) :
    recordNames? direction ("public partial class " ++ name) rest = none := by
  refine recordNames?_eq_none (fun hline ↦ ?_) rest
  have hpartial : hasPrefix "public partial class " ("public static class " ++ direction.className) =
      true := hline ▸ Text.hasPrefix_append ..
  cases direction <;> exact absurd hpartial (by decide)

theorem recordNames?_forwardingLine (direction : Direction) (method : Method) (rest : List String) :
    recordNames? direction (forwardingLine settings method) rest = none := by
  refine recordNames?_eq_none (fun hline ↦ ?_) rest
  have hparenthesis : '(' ∈ (forwardingLine settings method).toList := by
    unfold forwardingLine
    simp
  rw [hline] at hparenthesis
  cases direction <;> exact absurd hparenthesis (by decide)

/-- At the class with the messages of a direction the names of the methods are found, and at the other
class none. -/
theorem recordNames?_messagesLine (direction other : Direction) {methods : List Method}
    (h : ∀ method ∈ methods, method.IsOneLine)
    (hnames : ∀ method ∈ methods, isIdentifier method.name = true) (rest : List String) :
    recordNames? direction ("public static class " ++ other.className)
      ("\x7b" :: ((spaced (methods.map (messageParagraphs settings other))).map body ++
        "\x7d" :: rest)) =
      if other = direction then some (methods.map (·.name)) else none := by
  by_cases hsame : other = direction
  · subst hsame
    rw [recordNames?, landmark?_messagesLine other rfl, if_pos rfl, if_pos rfl,
      blockLines_map_body (isBracketed_spaced_messageParagraphs other h),
      filterMap_recordName?_messages settings other h hnames]
  · rw [if_neg hsame]
    refine recordNames?_eq_none (fun hline ↦ hsame ?_) _
    cases other <;> cases direction <;> first | rfl | exact absurd hline (by decide)

/-- Where the next block does not begin by making a record, no name is found. -/
theorem posted?_eq_none {line : String} {rest : List String}
    (h : madeName? (rest[1]?.getD "") = none) : posted? line rest = none := by
  rw [posted?, h]
  cases landmark? line rest <;> rfl

/-- At a forwarding method the name of its method is found. -/
theorem posted?_forwardingLine {method : Method} (h : isIdentifier method.name = true)
    (rest : List String) :
    posted? (forwardingLine settings method) ("\x7b" :: postingLine method :: rest) =
      some method.name := by
  rw [posted?, landmark?_forwardingLine]
  exact madeName?_postingLine h

section Names

variable {hub : Hub} (hnames : NamesMethods hub)

include hnames

/-- In the class of a hub, the names of the records for a contract are those of its methods. -/
theorem finds_recordNames?_classParagraphs (h : hub.IsOneLine) (direction : Direction) :
    Finds (recordNames? direction) ((classParagraphs settings hub).map body)
      [(hub.contract direction).methods.map (·.name)] := by
  have hmethods : ∀ d, ∀ method ∈ (hub.contract d).methods, method.IsOneLine
    | .toClient => h.clientMethods
    | .toServer => h.serverMethods
  have hfinds := (onlyAtLandmarks_recordNames? direction).finds_classParagraphs settings
    (fun _ ↦ none) _ (fun _ ↦ recordNames?_classLine direction hub.bridgeType.name _)
    (fun method _ _ ↦ recordNames?_forwardingLine settings direction method _)
    fun d rest ↦ recordNames?_messagesLine settings direction d (hmethods d) (hnames d) rest
  have hnothing : (hub.server.methods.flatMap fun _ ↦ (none : Option (List String)).toList) = [] :=
    List.flatMap_eq_nil_iff.mpr fun _ _ ↦ rfl
  rw [hnothing] at hfinds
  cases direction <;> exact hfinds

/-- In the class of a hub, the names of the records that forwarding methods make are those of the methods
of the server contract. -/
theorem finds_posted?_classParagraphs :
    Finds posted? ((classParagraphs settings hub).map body) (hub.server.methods.map (·.name)) :=
  onlyAtLandmarks_posted?.finds_forwardingMethods settings _
    (fun _ ↦ posted?_eq_none (madeName?_constantLine settings hub))
    (fun _ hmethod rest ↦ posted?_forwardingLine settings (hnames .toServer _ hmethod) rest)
    fun direction rest ↦ posted?_eq_none (madeName?_first_messages settings direction _ rest)

end Names

/-- Hubs and settings on one line. The names of records in the document are those of the methods, in the
classes with messages and in the forwarding methods. -/
theorem names_ofHubs (hsettings : settings.IsOneLine) {hubs : List Hub}
    (h : ∀ hub ∈ hubs, hub.IsOneLine) (hnames : ∀ hub ∈ hubs, NamesMethods hub) :
    let bodies := (Text.lines (ofHubs hubs settings).text).map Text.trimStart
    (∀ direction, findings (recordNames? direction) bodies =
        hubs.map fun hub ↦ (hub.contract direction).methods.map (·.name)) ∧
      findings posted? bodies = hubs.flatMap fun hub ↦ hub.server.methods.map (·.name) := by
  have hsingle (direction : Direction) :
      (hubs.map fun hub ↦ (hub.contract direction).methods.map (·.name)) =
        hubs.flatMap fun hub ↦ [(hub.contract direction).methods.map (·.name)] := List.map_eq_flatMap
  dsimp only
  rw [map_trimStart_lines hsettings h]
  refine ⟨fun direction ↦ ?_, ?_⟩
  · rw [hsingle]
    exact findings_paragraphs settings
      (fun _ hquiet ↦ (onlyAtLandmarks_recordNames? direction).finds_of_isQuiet hquiet)
      fun hub hmem ↦ finds_recordNames?_classParagraphs settings (hnames hub hmem) (h hub hmem) direction
  · exact findings_paragraphs settings (fun _ hquiet ↦ onlyAtLandmarks_posted?.finds_of_isQuiet hquiet)
      fun hub hmem ↦ finds_posted?_classParagraphs settings (hnames hub hmem)

/-- Names of methods in a list with no two alike, up to leading `@`, are at one place each. -/
theorem withoutAt_eq_iff_of_nodup {names : List String} (h : (names.map Model.withoutAt).Nodup)
    {i j : Nat} {name record : String} (hi : names[i]? = some name) (hj : names[j]? = some record) :
    Model.withoutAt name = Model.withoutAt record ↔ i = j := by
  have hlt : i < (names.map Model.withoutAt).length := by
    rw [List.length_map]
    exact (List.getElem?_eq_some_iff.mp hi).1
  rw [← List.getElem?_inj hlt h, List.getElem?_map, List.getElem?_map, hi, hj, Option.map_some,
    Option.map_some, Option.some_inj]

/-- Each method of a hub has its own record just when the methods of each contract have different names.
Assumes: a hub and settings on one line, and identifiers as names of methods. -/
theorem hasOwnRecords_iff (hsettings : settings.IsOneLine) {hub : Hub} (h : hub.IsOneLine)
    (hnames : NamesMethods hub) :
    HasOwnRecords settings hub ↔ hub.client.HasDistinctNames ∧ hub.server.HasDistinctNames := by
  obtain ⟨hrecords, hposted⟩ := names_ofHubs settings hsettings (List.forall_mem_singleton.mpr h)
    (List.forall_mem_singleton.mpr hnames)
  rw [List.flatMap_singleton] at hposted
  have hnodup (contract : Contract) : ((contract.methods.map (·.name)).map Model.withoutAt).Nodup ↔
      contract.HasDistinctNames := by
    rw [List.map_map]
    rfl
  unfold HasOwnRecords
  dsimp only
  rw [hposted, ← hnodup, ← hnodup]
  constructor
  · rintro ⟨client, server, hclient, hserver, hclientNodup, hserverNodup, -⟩
    obtain rfl := List.singleton_inj.mp ((hrecords .toClient).symm.trans hclient)
    obtain rfl := List.singleton_inj.mp ((hrecords .toServer).symm.trans hserver)
    exact ⟨hclientNodup, hserverNodup⟩
  · rintro ⟨hclient, hserver⟩
    exact ⟨_, _, hrecords .toClient, hrecords .toServer, hclient, hserver, List.length_map _,
      List.length_map _, List.length_map _, fun i j name record hi hj ↦
        withoutAt_eq_iff_of_nodup hserver hi hj⟩

/-- A method `void name(type value)` of a contract. -/
def callMethod (name type : String) : Method :=
  ⟨name, .plain "System" "Void", .plain "Chat" "IChatServer", [⟨"value", .plain "System" type⟩]⟩

/-- A hub with two methods that clients call. -/
def twoCallsHub (first second : Method) : Hub :=
  ⟨.plain "Chat" "ChatHub", ⟨.plain "Chat" "IChatClient", []⟩,
    ⟨.plain "Chat" "IChatServer", [first, second]⟩⟩

theorem isOneLine_callMethod {name type : String} (hname : Text.IsOneLine name)
    (htype : Text.IsOneLine type) : (callMethod name type).IsOneLine :=
  ⟨hname, TypeRef.isOneLine_plain (by decide) (by decide),
    TypeRef.isOneLine_plain (by decide) (by decide),
    List.forall_mem_singleton.mpr (by decide : Text.IsOneLine "value"),
    List.forall_mem_singleton.mpr (TypeRef.isOneLine_plain (by decide) htype)⟩

theorem isOneLine_twoCallsHub {first second : Method} (hfirst : first.IsOneLine)
    (hsecond : second.IsOneLine) : (twoCallsHub first second).IsOneLine :=
  ⟨TypeRef.isOneLine_plain (by decide) (by decide), TypeRef.isOneLine_plain (by decide) (by decide),
    List.forall_mem_nil _, TypeRef.isOneLine_plain (by decide) (by decide),
    List.forall_mem_cons.mpr ⟨hfirst, List.forall_mem_singleton.mpr hsecond⟩⟩

theorem isOneLine_default : Settings.IsOneLine {} :=
  ⟨by decide, by decide, List.all_eq_true.mp (by decide : "    ".toList.all Text.isBlank = true)⟩

/-- The methods `Send(string)` and `Close(string)` have their own records. -/
theorem hasOwnRecords_iff_sendAndClose :
    let hub := twoCallsHub (callMethod "Send" "String") (callMethod "Close" "String")
    (Settings.IsOneLine {} ∧ hub.IsOneLine ∧ NamesMethods hub) ∧ HasOwnRecords {} hub := by
  intro hub
  have hhub : hub.IsOneLine := isOneLine_twoCallsHub
    (isOneLine_callMethod (by decide) (by decide)) (isOneLine_callMethod (by decide) (by decide))
  have hnames : NamesMethods hub
    | .toClient => List.forall_mem_nil _
    | .toServer => by decide +kernel
  exact ⟨⟨isOneLine_default, hhub, hnames⟩, (hasOwnRecords_iff {} isOneLine_default hhub hnames).mpr
    ⟨List.nodup_nil, by decide +kernel⟩⟩

/-- The overloads `Send(string)` and `Send(int)` have records of one name. -/
theorem not_forall_hasOwnRecords :
    ¬ ∀ (settings : Settings) (hub : Hub), settings.IsOneLine → hub.IsOneLine → NamesMethods hub →
      hub.client.HasDistinctSignatures → hub.server.HasDistinctSignatures →
        HasOwnRecords settings hub := by
  intro h
  let hub := twoCallsHub (callMethod "Send" "String") (callMethod "Send" "Int32")
  have hhub : hub.IsOneLine := isOneLine_twoCallsHub
    (isOneLine_callMethod (by decide) (by decide)) (isOneLine_callMethod (by decide) (by decide))
  have hnames : NamesMethods hub
    | .toClient => List.forall_mem_nil _
    | .toServer => by decide +kernel
  obtain ⟨client, server, -, hserver, -, hnodup, -⟩ :=
    h {} hub isOneLine_default hhub hnames List.nodup_nil (by decide +kernel)
  obtain ⟨hrecords, -⟩ := names_ofHubs {} isOneLine_default (List.forall_mem_singleton.mpr hhub)
    (List.forall_mem_singleton.mpr hnames)
  obtain rfl := List.singleton_inj.mp ((hrecords .toServer).symm.trans hserver)
  exact absurd hnodup (by decide +kernel)

end Document

end HubRelay
