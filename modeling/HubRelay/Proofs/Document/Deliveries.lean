import HubRelay.Proofs.Document.Alignment
import HubRelay.Proofs.Document.Members

/-!
# The names in delivering methods

A method of a record delivers the call by one expression. It names the clients and what selects among them,
which are parameters of the method, and it names what is passed on, which are fields of the record. A
parameter hides a field of its name, so what a name stands for depends on both lists (`meaning`), and a
contract may well have a parameter `connectionId` or `hubClients`.

The parameters of all delivering methods begin with a small letter of ASCII, and no field does
(`ne_of_mem_fields`). So each name in the expression stands for what it is meant to, whatever the parameters
of the contract method are called (`isHygienic_deliveryOf`). If the names and types can be told
apart, the names are also found so on the lines of the document (`deliveries_areHygienic`).
-/

set_option autoImplicit false

namespace HubRelay

open Model (withoutAt)
open Paragraph Writer TypeExpr
open Text (IsEntry entries inFront declaration findings Finds)

/-- The parameters of the method that delivers to a target: the clients, and what selects among them. -/
def Target.parameterNames (target : Target) : List String :=
  "hubClients" :: target.parameters.map (·.2)

namespace Document

/-! ### What a name stands for -/

/-- What a name in a method of a record stands for: a parameter of the method, a field of the record, or
something else. -/
inductive Meaning
  | parameter (place : Nat)
  | field (place : Nat)
  | other
deriving DecidableEq, Repr

/-- The place of a name in a list. Identifiers are compared without leading `@`. -/
def place? (names : List String) (name : String) : Option Nat :=
  names.findIdx? fun other ↦ withoutAt other = withoutAt name

/-- What a name stands for in a method with these parameters, in a record with these fields. A parameter
hides a field of its name. -/
def meaning (parameters fields : List String) (name : String) : Meaning :=
  match place? parameters name with
  | some place => .parameter place
  | none =>
    match place? fields name with
    | some place => .field place
    | none => .other

/-- In a list with no two alike each name has its place. -/
theorem place?_eq_some {names : List String} (h : (names.map withoutAt).Nodup) {i : Nat} {name : String}
    (hi : names[i]? = some name) : place? names name = some i := by
  obtain ⟨hlt, hname⟩ := List.getElem?_eq_some_iff.mp hi
  rw [place?, List.findIdx?_eq_some_iff_getElem]
  refine ⟨hlt, by rw [hname]; exact decide_eq_true rfl, fun j hj hsame ↦ ?_⟩
  have hother := List.getElem?_eq_getElem (hj.trans hlt)
  exact Nat.ne_of_lt hj ((withoutAt_eq_iff_of_nodup h hother hi).mp (of_decide_eq_true hsame))

theorem meaning_parameter {parameters : List String} (h : (parameters.map withoutAt).Nodup)
    (fields : List String) {i : Nat} {name : String} (hi : parameters[i]? = some name) :
    meaning parameters fields name = .parameter i := by
  rw [meaning, place?_eq_some h hi]

/-- A field that no parameter hides. -/
theorem meaning_field {parameters fields : List String} (h : (fields.map withoutAt).Nodup) {i : Nat}
    {name : String} (hi : fields[i]? = some name)
    (hvisible : ∀ parameter ∈ parameters, withoutAt parameter ≠ withoutAt name) :
    meaning parameters fields name = .field i := by
  have hnone : place? parameters name = none :=
    List.findIdx?_eq_none_iff.mpr fun parameter hparameter ↦
      decide_eq_false (hvisible parameter hparameter)
  rw [meaning, hnone, place?_eq_some h hi]

/-! ### Deliveries -/

/-- The names in a method of a record that delivers the call: its parameters, the names of the clients and
of what selects among them, and the names that are passed on. -/
structure Delivery where
  parameters : List String
  addressed : List String
  passed : List String
deriving DecidableEq, Repr

/-- The names in a record: those of its fields, and those in each of its methods. -/
structure DeliveringRecord where
  fields : List String
  deliveries : List Delivery
deriving DecidableEq, Repr

/-- In a method of a record with these fields, of which the first `context` tell of the connection, every
name stands for what it is meant to. What selects the clients are the parameters of the method, and what is
passed on are the fields behind those of the connection, both in order and without leaving any out. -/
structure Delivery.IsHygienic (fields : List String) (context : Nat) (delivery : Delivery) : Prop where
  length_addressed : delivery.addressed.length = delivery.parameters.length
  addressed : ∀ (i : Nat) (name : String), delivery.addressed[i]? = some name →
    meaning delivery.parameters fields name = .parameter i
  length_passed : context + delivery.passed.length = fields.length
  passed : ∀ (i : Nat) (name : String), delivery.passed[i]? = some name →
    meaning delivery.parameters fields name = .field (context + i)

/-- The names in the method of a record that delivers to a target. -/
def deliveryOf (direction : Direction) (method : Method) (target : Target) : Delivery where
  parameters := target.parameterNames
  addressed := target.parameterNames
  passed := Field.names direction method

/-- The names in the record of a method. -/
def deliveringRecordOf (settings : Settings) (direction : Direction) (method : Method) :
    DeliveringRecord where
  fields := (recordFields settings direction method).map (·.2)
  deliveries := Target.every.map (deliveryOf direction method)

/-- The expression that selects the clients: a member of all clients, and what selects among these. -/
def addressing (member : String) : List String → String
  | [] => ""
  | clients :: [] => clients ++ "." ++ member
  | clients :: selecting => clients ++ "." ++ member ++ "(" ++ ", ".intercalate selecting ++ ")"

/-- The paragraphs of a method that delivers to a target with these names. -/
def Delivery.paragraphs (settings : Settings) (method : Method) (target : Target)
    (delivery : Delivery) : List Paragraph :=
  let clients := hubClients ++ "<" ++ typeName settings method.declaringType ++ ">"
  line ("public " ++ typeName settings method.returnType ++ " " ++ target.methodName ++ "(" ++
      declared ((clients :: target.parameters.map (·.1)).zip delivery.parameters) ++ ")") ::
    within .indent [line ("=> " ++ addressing target.member delivery.addressed ++ "." ++
      method.name ++ "(" ++ ", ".intercalate delivery.passed ++ ");")]

/-- A delivering method is written with these names. -/
theorem writes_deliveryOf (settings : Settings) (direction : Direction) (method : Method)
    (target : Target) :
    Writes ((deliveryOf direction method target).paragraphs settings method target)
      (dispatchMethod settings method (Field.names direction method) target) := by
  have haddress : "=> " ++ addressing target.member target.parameterNames =
      "=> hubClients." ++ target.address := by
    cases target <;> decide
  have hdeclared (clients : String) : (clients :: target.parameters.map (·.1)).zip
      target.parameterNames = (clients, "hubClients") :: target.parameters := by
    cases target <;> rfl
  have hparagraphs : (deliveryOf direction method target).paragraphs settings method target =
      dispatchParagraphs settings direction method target := by
    rw [Delivery.paragraphs, deliveryOf]
    dsimp only
    rw [haddress, hdeclared]
    rfl
  rw [hparagraphs]
  exact writes_dispatchMethod settings direction method target

/-! ### Fields and parameters -/

section Names

variable {direction : Direction} {method : Method} {target : Target}

/-- The parameters of delivering methods begin with a small letter. -/
theorem exists_head_of_mem_parameterNames {name : String} (h : name ∈ target.parameterNames) :
    ∃ c ∈ Text.smallLetters, name.toList.head? = some c := by
  have hall : ∀ other ∈ target.parameterNames,
      other.toList.head?.any (fun c ↦ decide (c ∈ Text.smallLetters)) = true := by
    cases target <;> decide
  obtain ⟨c, hc, hsmall⟩ := (Option.any_eq_true _ _).mp (hall name h)
  exact ⟨c, of_decide_eq_true hsmall, hc⟩

/-- The parameters of delivering methods have no `@` to be compared without. -/
theorem withoutAt_of_mem_parameterNames {name : String} (h : name ∈ target.parameterNames) :
    withoutAt name = name := by
  obtain ⟨c, hsmall, hc⟩ := exists_head_of_mem_parameterNames h
  refine Model.withoutAt_eq_self fun (hat : name.toList.head? = some '@') ↦ ?_
  obtain rfl := Option.some.inj (hc.symm.trans hat)
  exact absurd hsmall (by decide)

/-- No parameter of a delivering method has the name of a field. -/
theorem ne_of_mem_fields {parameter field : String} (hparameter : parameter ∈ target.parameterNames)
    (hfield : field ∈ direction.contextFields.map (·.2) ++ Field.names direction method) :
    withoutAt parameter ≠ withoutAt field := by
  obtain ⟨c, hsmall, hc⟩ := exists_head_of_mem_parameterNames hparameter
  rw [withoutAt_of_mem_parameterNames hparameter, withoutAt_of_mem_fields hfield]
  rintro rfl
  exact (head_of_mem_fields hfield c hc).1 hsmall

/-- No two parameters of a delivering method have the same name. -/
theorem nodup_map_withoutAt_parameterNames (target : Target) :
    (target.parameterNames.map withoutAt).Nodup := by
  have hsame : ∀ name ∈ target.parameterNames, withoutAt name = id name :=
    fun name hname ↦ withoutAt_of_mem_parameterNames hname
  rw [List.map_congr_left hsame, List.map_id]
  cases target <;> decide

/-- No two fields of a record have the same name. -/
theorem nodup_map_withoutAt_fields (settings : Settings) (direction : Direction) (method : Method) :
    (((recordFields settings direction method).map (·.2)).map withoutAt).Nodup := by
  have hnodup := (passesOn_recordListsOf settings direction method).nodup_fields
  rw [recordListsOf] at hnodup
  dsimp only at hnodup
  have hsame : ∀ name ∈ (recordFields settings direction method).map (·.2), withoutAt name = id name := by
    intro name hname
    rw [(map_snd_recordFields settings direction method).1] at hname
    exact withoutAt_of_mem_fields hname
  rwa [List.map_congr_left hsame, List.map_id]

/-- The names in a delivering method stand for what they are meant to. -/
theorem isHygienic_deliveryOf (settings : Settings) (direction : Direction) (method : Method)
    (target : Target) :
    (deliveryOf direction method target).IsHygienic ((recordFields settings direction method).map (·.2))
      direction.contextFields.length := by
  have hparameters := nodup_map_withoutAt_parameterNames target
  have hfields := nodup_map_withoutAt_fields settings direction method
  have hnames := (map_snd_recordFields settings direction method).1
  refine ⟨rfl, fun i name hi ↦ meaning_parameter hparameters _ hi, ?_, fun i name hi ↦ ?_⟩
  · rw [hnames, List.length_append, List.length_map]
    rfl
  · have hplace : ((recordFields settings direction method).map
        (·.2))[direction.contextFields.length + i]? = some name := by
      rw [hnames, List.getElem?_append_right (by rw [List.length_map]; exact Nat.le_add_right _ i),
        List.length_map, Nat.add_sub_cancel_left]
      exact hi
    have hmem := List.mem_append_right (direction.contextFields.map (·.2)) (List.mem_of_getElem? hi)
    exact meaning_field hfields hplace fun parameter hparameter ↦ ne_of_mem_fields hparameter hmem

end Names

/-! ### Reading the names -/

/-- The names on the two lines of a delivering method. -/
def Delivery.read (signature expression : String) : Delivery where
  parameters := ((entries signature).map declaration).map (·.2)
  addressed := references none (tokensOf (inFront expression))
  passed := entries expression

/-- The names on the lines that are found of a record. -/
def DeliveringRecord.read (found : String × List (String × Option String)) : DeliveringRecord where
  fields := ((entries found.1).map declaration).map (·.2)
  deliveries := found.2.map fun call ↦ Delivery.read call.1 (call.2.getD "")

/-- At the first line of a record, the names in it. -/
def deliveringRecord? (text : String) (rest : List String) : Option DeliveringRecord :=
  (record? text rest).map DeliveringRecord.read

/-- A member is not referred to by its name alone. -/
theorem references_append_member (previous : Option Token) (tokens : List Token) (member : String) :
    references previous (tokens ++ [Token.dot, .word member]) = references previous tokens := by
  induction tokens generalizing previous with
  | nil =>
    show references (some .dot) [.word member] = []
    rw [references, if_pos (.inl rfl)]
    rfl
  | cons token rest ih =>
    have hhead : (rest ++ [Token.dot, .word member]).head?.any Token.isWord =
        rest.head?.any Token.isWord := by
      cases rest <;> rfl
    cases token with
    | word name => rw [List.cons_append, references, references, hhead, ih]
    | _ => exact ih _

section Reading

variable (settings : Settings) {method : Method}

/-- The type of the clients of a contract is a type with the contract as its argument. -/
theorem typeName_hubClients (contract : TypeRef) :
    typeName settings ⟨"Microsoft.AspNetCore.SignalR", "IHubClients", [contract]⟩ =
      hubClients ++ "<" ++ typeName settings contract ++ ">" := by
  have hsuffix : TypeRef.splitSuffix "IHubClients" = ("IHubClients", "") := by decide
  have hrender (style : NameStyle) (hstyle : style = .global ∨ style = .keyword) :
      TypeRef.render style ⟨"Microsoft.AspNetCore.SignalR", "IHubClients", [contract]⟩ =
        hubClients ++ "<" ++ contract.render style ++ ">" := by
    have hhead : TypeRef.qualification style "Microsoft.AspNetCore.SignalR" ++ "IHubClients" =
        hubClients := by
      rcases hstyle with rfl | rfl <;> decide
    rw [TypeRef.render, TypeRef.renderMore, hsuffix]
    dsimp only
    rw [hhead]
    rcases hstyle with rfl | rfl <;> simp [NameStyle.brackets]
  rw [typeName, typeName]
  split
  · exact hrender .keyword (.inr rfl)
  · exact hrender .global (.inl rfl)

/-- The type of the clients of a legal contract can be read. -/
theorem isEntry_hubClients {contract : TypeRef} (hcontract : contract.IsLegal) :
    IsEntry (hubClients ++ "<" ++ typeName settings contract ++ ">") := by
  have hlegal : TypeRef.IsLegal ⟨"Microsoft.AspNetCore.SignalR", "IHubClients", [contract]⟩ :=
    .of_parts ⟨["Microsoft", "AspNetCore", "SignalR"], by decide, by decide⟩ (by decide)
      (List.forall_mem_singleton.mpr hcontract)
  rw [← typeName_hubClients]
  exact isEntry_typeName settings hlegal

/-- The parameters of a delivering method can be read. -/
theorem isEntry_parameters {target : Target} :
    ∀ entry ∈ target.parameters, IsEntry entry.1 ∧ IsWord entry.2 := by
  have hstring : TypeRef.IsLegal (.plain "System" "String") :=
    .of_parts ⟨["System"], by decide, String.intercalate_singleton⟩ (by decide)
      (List.forall_mem_nil _)
  have hlist : TypeRef.IsLegal ⟨"System.Collections.Generic", "IReadOnlyList",
      [.plain "System" "String"]⟩ :=
    .of_parts ⟨["System", "Collections", "Generic"], by decide, by decide⟩ (by decide)
      (List.forall_mem_singleton.mpr hstring)
  have htypes : ∀ entry ∈ target.parameters, entry.1 ∈ ["string", Target.nameList] ∧ IsWord entry.2 := by
    refine List.all_iff_forall_prop.mp ?_
    cases target <;> decide
  have hentries : ∀ type ∈ ["string", Target.nameList], IsEntry type := by
    have hstringName : TypeRef.render .keyword (.plain "System" "String") = "string" := by decide
    have hlistName : TypeRef.render .keyword ⟨"System.Collections.Generic", "IReadOnlyList",
      [.plain "System" "String"]⟩ = Target.nameList := by decide
    refine List.forall_mem_cons.mpr ⟨?_, List.forall_mem_singleton.mpr ?_⟩
    · rw [← hstringName]
      exact hstring.isEntry (by decide)
    · rw [← hlistName]
      exact hlist.isEntry (by decide)
  intro entry hentry
  exact ⟨hentries _ (htypes entry hentry).1, (htypes entry hentry).2⟩

variable (direction : Direction) (target : Target)

/-- The names in the expression that selects the clients. -/
theorem references_expression {name : String} (hname : isIdentifier name = true) :
    references none (tokensOf ("=> hubClients." ++ target.address ++ "." ++ name)) =
      target.parameterNames := by
  have hclients : tokensOf "=> hubClients." = [.stray '=', .greater, .word "hubClients", .dot] := by
    decide +kernel
  have hdot : tokensOf "." = [.dot] := by decide +kernel
  have hends : "=> hubClients.".toList.getLast?.all isApart = true ∧
      ".".toList.getLast?.all isApart = true := by decide +kernel
  have hhead : ("." ++ name).toList.head?.all isApart = true :=
    all_isApart_head?_append (by decide +kernel : _ = some '.') (by decide +kernel)
  rw [String.append_assoc, tokensOf_append (.inr hhead), tokensOf_append (.inl hends.1),
    tokensOf_append (.inl hends.2), tokensOf_identifier hname, hclients, hdot,
    List.singleton_append, references_append_member]
  cases target <;> decide +kernel

/-- The names on the lines of a delivering method are read back. -/
theorem Delivery.read_deliveryOf (h : method.IsReadable) (hdeclaring : method.declaringType.IsLegal) :
    Delivery.read (signatureLine settings method target) (deliveryLine direction method target) =
      deliveryOf direction method target := by
  have hparameters : ((entries (signatureLine settings method target)).map declaration).map (·.2) =
      target.parameterNames := by
    have hclients : IsWord "hubClients" := by decide
    unfold signatureLine
    rw [map_declaration_entries _ (List.forall_mem_cons.mpr
      ⟨⟨isEntry_hubClients settings hdeclaring, hclients⟩, isEntry_parameters⟩)]
    rfl
  have hfront : inFront (deliveryLine direction method target) =
      "=> hubClients." ++ target.address ++ "." ++ method.name :=
    Text.inFront_eq _ (fun name hname ↦ (isWord_of_mem_names h direction name hname).isEntry) rfl
      (by decide)
  have haddressed := references_expression target h.name
  rw [Delivery.read, deliveryOf, hparameters, hfront, haddressed, entries_deliveryLine h]

/-- The names on the lines of a record are read back. -/
theorem DeliveringRecord.read_recordOf (h : method.IsReadable)
    (hdeclaring : method.declaringType.IsLegal) :
    DeliveringRecord.read (recordOf settings direction method) =
      deliveringRecordOf settings direction method := by
  have hdeliveries : ((fun call : String × Option String ↦ Delivery.read call.1 (call.2.getD "")) ∘
      fun target ↦ (signatureLine settings method target, some (deliveryLine direction method target))) =
        deliveryOf direction method := by
    funext target
    exact Delivery.read_deliveryOf settings direction target h hdeclaring
  rw [DeliveringRecord.read, deliveringRecordOf, recordOf]
  dsimp only
  rw [map_declaration_recordLine settings h, List.map_map, hdeliveries]

end Reading

/-! ### The names in the document -/

/-- The names in the records for a hub: those for the client contract, and then those for the server
contract. -/
def deliveringRecordsOf (settings : Settings) (hub : Hub) : List DeliveringRecord :=
  hub.client.methods.map (deliveringRecordOf settings .toClient) ++
    hub.server.methods.map (deliveringRecordOf settings .toServer)

/-- No field for a parameter of a contract method has the name of a parameter of a delivering method,
whatever the contract calls them. So in each delivering method, which is written with the names that
`deliveryOf` gives, the clients and what selects among them are the parameters of the method, and what is
passed on are the fields of the record. For hubs and settings on one line, with names and types that can be
told apart, these names are also read on the lines of the document. -/
theorem deliveries_areHygienic (settings : Settings) (hubs : List Hub) :
    (∀ direction method, (∀ name ∈ Field.names direction method, ∀ target : Target,
        name ≠ "hubClients" ∧ name ∉ target.parameters.map (·.2)) ∧
      ∀ target, Writes ((deliveryOf direction method target).paragraphs settings method target)
          (dispatchMethod settings method (Field.names direction method) target) ∧
        (deliveryOf direction method target).IsHygienic
          (deliveringRecordOf settings direction method).fields direction.contextFields.length) ∧
      (settings.IsOneLine → (∀ hub ∈ hubs, hub.IsOneLine ∧ hub.IsReadable ∧
        ∀ direction, ∀ method ∈ (hub.contract direction).methods, method.declaringType.IsLegal) →
        findings deliveringRecord? ((Text.lines (ofHubs hubs settings).text).map Text.trimStart) =
          hubs.flatMap (deliveringRecordsOf settings)) := by
  refine ⟨fun direction method ↦ ⟨fun name hname target ↦ ?_, fun target ↦
    ⟨writes_deliveryOf settings direction method target,
      isHygienic_deliveryOf settings direction method target⟩⟩, fun hsettings h ↦ ?_⟩
  · have hfield := List.mem_append_right (direction.contextFields.map (·.2)) hname
    have hne : name ∉ target.parameterNames := fun hmem ↦ ne_of_mem_fields hmem hfield rfl
    exact not_or.mp fun hmem ↦ hne (List.mem_cons.mpr hmem)
  · have hquiet {part : List String} (hpart : IsQuiet part) : Finds deliveringRecord? part [] :=
      hpart.finds_record?.map DeliveringRecord.read
    rw [map_trimStart_lines hsettings fun hub hmem ↦ (h hub hmem).1]
    refine findings_paragraphs settings (fun _ hpart ↦ hquiet hpart) fun hub hmem ↦ ?_
    obtain ⟨honeLine, hread, hdeclaring⟩ := h hub hmem
    exact finds_map_record?_classParagraphs settings hread honeLine fun direction method hmethod ↦
      DeliveringRecord.read_recordOf settings direction (hread.methods direction method hmethod)
        (hdeclaring direction method hmethod)

/-- Parameters `connectionId`, `@userIds` and `hubClients` of a method that the server calls. The methods of
its record have parameters of these names, and pass on its fields. -/
theorem deliveries_areHygienic_notify :
    let string : TypeRef := .plain "System" "String"
    let notify : Method := ⟨"Notify", .plain "System" "Void", .plain "Chat" "IChatClient",
      [⟨"connectionId", string⟩, ⟨"@userIds", string⟩, ⟨"hubClients", string⟩]⟩
    let hub : Hub := ⟨.plain "Chat" "ChatHub", ⟨.plain "Chat" "IChatClient", [notify]⟩,
      ⟨.plain "Chat" "IChatServer", []⟩⟩
    let fields := ["ConnectionId", "ConnectionId2", "UserIds", "HubClients"]
    (Settings.IsOneLine {} ∧ hub.IsOneLine ∧ hub.IsReadable ∧
        ∀ direction, ∀ method ∈ (hub.contract direction).methods, method.declaringType.IsLegal) ∧
      findings deliveringRecord? ((Text.lines (ofHubs [hub] {}).text).map Text.trimStart) =
        [⟨fields, Target.every.map fun target ↦
          ⟨target.parameterNames, target.parameterNames, fields.tail⟩⟩] ∧
      Target.users.parameterNames.map (meaning Target.users.parameterNames fields) =
        [.parameter 0, .parameter 1] ∧
      fields.tail.map (meaning Target.users.parameterNames fields) = [.field 1, .field 2, .field 3] := by
  intro string notify hub fields
  have hstring : string.IsOneLine := TypeRef.isOneLine_plain (by decide) (by decide)
  have hclient : hub.client.type.IsOneLine := TypeRef.isOneLine_plain (by decide) (by decide)
  have hparameters : ∀ p ∈ notify.parameters, Text.IsOneLine p.name ∧ p.type = string := by
    decide
  have hnotify : notify.IsOneLine :=
    ⟨by decide, TypeRef.isOneLine_plain (by decide) (by decide), hclient,
      fun p hp ↦ (hparameters p hp).1, fun p hp ↦ (hparameters p hp).2 ▸ hstring⟩
  have hhub : hub.IsOneLine :=
    ⟨TypeRef.isOneLine_plain (by decide) (by decide), hclient, List.forall_mem_singleton.mpr hnotify,
      TypeRef.isOneLine_plain (by decide) (by decide), List.forall_mem_nil _⟩
  have hplain {container name : String} (hcontainer : TypeExpr.isIdentifier container = true)
      (hname : TypeExpr.isIdentifier name = true) : TypeRef.IsLegal (.plain container name) :=
    .of_parts ⟨[container], List.forall_mem_singleton.mpr hcontainer, String.intercalate_singleton⟩ hname
      (List.forall_mem_nil _)
  have hreadable : notify.IsReadable :=
    ⟨by decide, by decide, fun p hp ↦
      (hparameters p hp).2 ▸ hplain (by decide) (by decide)⟩
  have hread : hub.IsReadable := by
    refine ⟨by decide, fun direction ↦ ?_⟩
    cases direction with
    | toClient => exact List.forall_mem_singleton.mpr hreadable
    | toServer => exact List.forall_mem_nil _
  have hdeclaring : ∀ direction, ∀ method ∈ (hub.contract direction).methods,
      method.declaringType.IsLegal
    | .toClient => List.forall_mem_singleton.mpr (hplain (by decide) (by decide))
    | .toServer => List.forall_mem_nil _
  have hnames : Field.names .toClient notify = fields.tail := by
    refine Field.names_eq rfl fun i p hp ↦ ?_
    match i, hp with
    | 0, rfl => exact ⟨1, by decide, by decide, by decide⟩
    | 1, rfl => exact ⟨0, by decide, by decide, by decide⟩
    | 2, rfl => exact ⟨0, by decide, by decide, by decide⟩
  obtain ⟨-, hdocument⟩ := deliveries_areHygienic {} [hub]
  refine ⟨⟨isOneLine_default, hhub, hread, hdeclaring⟩, ?_, by decide, by decide⟩
  rw [hdocument isOneLine_default (List.forall_mem_singleton.mpr ⟨hhub, hread, hdeclaring⟩),
    List.flatMap_singleton, deliveringRecordsOf, List.map_nil, List.append_nil, List.map_singleton,
    deliveringRecordOf, (map_snd_recordFields {} .toClient notify).1, hnames]
  have hdeliveries : deliveryOf .toClient notify =
      fun target ↦ ⟨target.parameterNames, target.parameterNames, fields.tail⟩ := by
    funext target
    rw [deliveryOf, hnames]
  rw [hdeliveries]
  rfl

end Document

end HubRelay
