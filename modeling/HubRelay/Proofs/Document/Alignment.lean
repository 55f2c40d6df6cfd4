import HubRelay.Proofs.Document.RecordNames
import HubRelay.Proofs.Text.Entries
import HubRelay.Proofs.TypeRef.Unambiguous

/-!
# Calls and declarations line up

A forwarding method makes the record of its method from the connection and its own parameters, and the
record is declared elsewhere, with fields for the connection and fields that are named anew. The methods of
a record pass the latter fields on to the clients. So four lists in parentheses belong together: the
parameters of the forwarding method and the arguments that it makes the record from (`Forwarding`), and the
fields of the record and what its methods pass on (`RecordLists`). Place by place they line up
(`LinesUp`, `PassesOn`), for names and types of any kind.

The lists are those that are written. If the names are identifiers and the types legal, they are also those
that a reader finds in the parentheses on the lines of the document (`calls_lineUp`).
-/

set_option autoImplicit false

namespace HubRelay

open Paragraph Writer
open Text (IsPassed IsEntry entries declaration findings Finds hasPrefix)

/-! ### Types as entries -/

namespace TypeRef

open TypeExpr (rankSuffixes toList_rankSuffix)

variable {style : NameStyle}

/-- Array suffixes are passed over. -/
theorem isPassed_rankSuffixes (ranks : List Nat) (depth : Nat) :
    IsPassed depth (rankSuffixes ranks).toList := by
  have hcommas (n : Nat) : IsPassed (depth + 1) (List.replicate n ',') := by
    induction n with
    | zero => exact .nil _
    | succ n ih => exact (IsPassed.comma depth).append ih
  induction ranks with
  | nil => exact .nil depth
  | cons rank more ih =>
    rw [rankSuffixes, String.toList_append, toList_rankSuffix]
    exact ((hcommas _).bracketed (.inr rfl) (.inr rfl)).append ih

/-- Inside brackets further type arguments are passed over, if each of them is. -/
theorem isPassed_renderMore (hstyle : style ≠ .cref) {arguments : List TypeRef} {depth : Nat}
    (h : ∀ argument ∈ arguments, IsPassed (depth + 1) (argument.render style).toList) :
    IsPassed (depth + 1) (renderMore style arguments).toList := by
  have hgap : style.brackets.2.1.toList = [','] ++ [' '] := by
    cases style <;> first | rfl | exact absurd rfl hstyle
  have hspace : IsPassed (depth + 1) [' '] := .char (by decide) _
  induction arguments with
  | nil => exact .nil _
  | cons next more ih =>
    obtain ⟨hnext, hmore⟩ := List.forall_mem_cons.mp h
    rw [renderMore, String.toList_append, String.toList_append, hgap]
    exact ((((IsPassed.comma depth).append hspace).append hnext).append (ih hmore))

/-- Assumes: a style with angle brackets. The full name of a legal reference is passed over: its commas are
inside brackets. -/
theorem IsLegal.isPassed (hstyle : style ≠ .cref) {r : TypeRef} (hr : r.IsLegal) (depth : Nat) :
    IsPassed depth (r.render style).toList := by
  have hbrackets : style.brackets.1.toList = ['<'] ∧ style.brackets.2.2.toList = ['>'] := by
    cases style <;> first | exact ⟨rfl, rfl⟩ | exact absurd rfl hstyle
  induction hr generalizing depth with
  | @intro container stem ranks arguments hcontainer hstem harguments ih =>
    have hr : IsLegal ⟨container, stem ++ rankSuffixes ranks, arguments⟩ :=
      .intro hcontainer hstem harguments
    have hhead : IsPassed depth (head style ⟨container, stem ++ rankSuffixes ranks, arguments⟩).toList := by
      refine .of_forall (fun c hc hmem ↦ ?_) depth
      have hmarks : [',', '<', '[', '>', ']'] ⊆ marks := by decide
      exact Bool.noConfusion ((hr.head_isPath.1 c hc).symm.trans (isPathChar_eq_false c (hmarks hmem)))
    have hbracketed : IsPassed depth (bracketed style arguments).toList := by
      cases arguments with
      | nil => exact .nil depth
      | cons first more =>
        obtain ⟨hfirst, hmore⟩ := List.forall_mem_cons.mp ih
        have hinside := (hfirst (depth + 1)).append
          (isPassed_renderMore hstyle fun argument hargument ↦ hmore argument hargument (depth + 1))
        have hpassed := hinside.bracketed (.inl rfl) (.inl rfl)
        rw [bracketed, String.toList_append, String.toList_append, String.toList_append, hbrackets.1,
          hbrackets.2]
        simpa only [List.append_assoc, List.cons_append, List.nil_append] using hpassed
    rw [toList_render, splitSuffix_append_rankSuffixes hstem]
    exact hhead.append (hbracketed.append (isPassed_rankSuffixes ranks depth))

/-- Assumes: a style with angle brackets. The full name of a legal reference is an entry. -/
theorem IsLegal.isEntry (hstyle : style ≠ .cref) {r : TypeRef} (hr : r.IsLegal) :
    IsEntry (r.render style) := by
  have hparentheses : isNameChar style '(' = false ∧ isNameChar style ')' = false := by
    constructor <;> refine isNameChar_eq_false (by decide) ?_ <;> cases style <;> decide
  obtain ⟨c, rest, hlist, hc⟩ := hr.exists_toList_render style
  refine ⟨hr.isPassed hstyle 0, ⟨fun hmem ↦ ?_, fun hmem ↦ ?_⟩, c, rest, hlist, ?_⟩
  · exact Bool.noConfusion ((hr.isNameChar_of_mem style _ hmem).symm.trans hparentheses.1)
  · exact Bool.noConfusion ((hr.isNameChar_of_mem style _ hmem).symm.trans hparentheses.2)
  · rintro rfl
    rw [isPathChar_eq_false ' ' (by decide)] at hc
    cases hc

end TypeRef

/-! ### Names as entries -/

/-- A text without any of the marks that part entries, or belong to them. -/
def IsWord (text : String) : Prop := text ≠ "" ∧ ∀ mark ∈ TypeRef.marks, mark ∉ text.toList

instance (text : String) : Decidable (IsWord text) :=
  decidable_of_iff (text ≠ "" ∧ TypeRef.marks.all (fun mark ↦ decide (mark ∉ text.toList)) = true)
    (and_congr_right' List.all_iff_forall_prop)

/-- An identifier is a word. -/
theorem isWord_of_isIdentifier {text : String} (h : TypeExpr.isIdentifier text = true) :
    IsWord text := by
  constructor
  · rintro rfl
    cases h
  · intro mark hmark hmem
    exact Bool.noConfusion ((TypeRef.isPathChar_of_mem_identifier h hmem).1.symm.trans
      (TypeRef.isPathChar_eq_false mark hmark))

/-- A word is an entry. -/
theorem IsWord.isEntry {text : String} (h : IsWord text) : IsEntry text := by
  obtain ⟨hne, hnone⟩ := h
  have hmarks : [',', '<', '[', '>', ']'] ⊆ TypeRef.marks := by decide
  refine ⟨.of_forall (fun c hc hmem ↦ hnone c (hmarks hmem) hc) 0,
    ⟨hnone _ (by decide), hnone _ (by decide)⟩, ?_⟩
  cases hlist : text.toList with
  | nil => exact absurd (String.toList_eq_nil_iff.mp hlist) hne
  | cons c rest =>
    refine ⟨c, rest, rfl, ?_⟩
    rintro rfl
    exact hnone ' ' (by decide) (hlist ▸ List.mem_cons_self)

/-- A type with a word behind it is an entry. -/
theorem isEntry_declared {type name : String} (htype : IsEntry type) (hname : IsWord name) :
    IsEntry (type ++ " " ++ name) := by
  obtain ⟨c, rest, hlist, hc⟩ := htype.head
  have hspace : IsPassed 0 " ".toList := .char (by decide) 0
  have hblank : '(' ∉ " ".toList ∧ ')' ∉ " ".toList := by decide
  have hentry := hname.isEntry
  refine ⟨?_, ?_, c, rest ++ " ".toList ++ name.toList, ?_, hc⟩
  · rw [String.toList_append, String.toList_append]
    exact (htype.passed.append hspace).append hentry.passed
  · simp only [String.toList_append, List.mem_append, not_or]
    exact ⟨⟨⟨htype.notMem.1, hblank.1⟩, hentry.notMem.1⟩, ⟨htype.notMem.2, hblank.2⟩, hentry.notMem.2⟩
  · rw [String.toList_append, String.toList_append, hlist]
    rfl

namespace Field

/-- The name that an identifier suggests for a field is a word, unless the identifier is `@`. -/
theorem isWord_suggestion {parameter : String} (h : TypeExpr.isIdentifier parameter = true)
    (hne : Model.withoutAt parameter ≠ "") : IsWord (suggestion parameter) := by
  have hmarks : ∀ mark ∈ TypeRef.marks, mark.toNat ≠ 0 ∧
      (mark.toNat ≤ 0x40 ∨ 0x5B ≤ mark.toNat ∧ mark.toNat ≤ 0x7F) :=
    List.all_iff_forall_prop.mp (by decide)
  refine ⟨Text.capitalize_ne_empty hne, fun mark hmark ↦ ?_⟩
  obtain ⟨hzero, hcode⟩ := hmarks mark hmark
  refine Text.notMem_capitalize (Text.avoids_upper hcode) hzero fun hmem ↦ ?_
  rw [String.toList_ofList] at hmem
  exact (isWord_of_isIdentifier h).2 mark hmark ((List.dropWhile_suffix _).mem hmem)

/-- All names tried for a word are words. -/
theorem isWord_tried {base : String} (h : IsWord base) (k : Nat) : IsWord (tried base k) := by
  cases k with
  | zero => exact h
  | succ k =>
    have hdigits : ∀ mark ∈ TypeRef.marks, mark.isDigit = false := List.all_iff_forall_prop.mp (by decide)
    refine ⟨fun hempty ↦ h.1 (String.append_eq_empty_iff.mp hempty).1, fun mark hmark hmem ↦ ?_⟩
    rw [tried, String.toList_append, List.mem_append] at hmem
    exact hmem.elim (h.2 mark hmark) fun hmem ↦
      Bool.noConfusion ((Text.isDigit_of_mem_toString hmem).symm.trans (hdigits mark hmark))

end Field

/-! ### The lists of a method -/

namespace Document

/-- What stands in the parentheses of a forwarding method: its parameters, each with its type, and the
arguments that it makes the record from. -/
structure Forwarding where
  parameters : List (String × String)
  arguments : List String
deriving DecidableEq

/-- What stands in the parentheses of a record: its fields, each with its type, and what each of its methods
passes on, target by target. -/
structure RecordLists where
  fields : List (String × String)
  passed : List (List String)
deriving DecidableEq

section Lists

variable (settings : Settings)

/-- The paragraphs of a forwarding method with these lists. -/
def Forwarding.paragraphs (method : Method) (lists : Forwarding) : List Paragraph :=
  line ("public " ++ typeName settings method.returnType ++ " " ++ method.name ++ "(" ++
      declared lists.parameters ++ ")") ::
    within (.block "")
      (line ("var msg = new ToServer." ++ method.name ++ "(" ++ ", ".intercalate lists.arguments ++
          ");") ::
        line "_actorSystem.ActorSelection(HubDispatcherActorSelection).Tell(msg);" ::
        (completion? settings method.returnType).toList.map fun value ↦
          line ("return " ++ value ++ ";"))

/-- The paragraphs of a record with these lists. -/
def RecordLists.paragraphs (method : Method) (lists : RecordLists) : List Paragraph :=
  referenceParagraphs method ++
    line ("public record " ++ method.name ++ "(" ++ declared lists.fields ++ ")") ::
    within (.block "") (spaced ((Target.every.zip lists.passed).map fun call ↦
      line (signatureLine settings method call.1) ::
        within .indent [line ("=> hubClients." ++ call.1.address ++ "." ++ method.name ++ "(" ++
          ", ".intercalate call.2 ++ ");")]))

/-- The lists of the forwarding method for a method. -/
def forwardingOf (method : Method) : Forwarding where
  parameters := method.parameters.map fun p ↦ (typeName settings p.type, p.name)
  arguments := contextArguments ++ method.parameters.map (·.name)

/-- The lists of the record for a method. -/
def recordListsOf (direction : Direction) (method : Method) : RecordLists where
  fields := recordFields settings direction method
  passed := Target.every.map fun _ ↦ Field.names direction method

/-- A forwarding method is written with these lists. -/
theorem writes_forwardingOf (method : Method) :
    Writes ((forwardingOf settings method).paragraphs settings method)
      (forwardingMethod settings method) :=
  writes_forwardingMethod settings method

/-- A record is written with these lists. -/
theorem writes_recordListsOf (direction : Direction) (method : Method) :
    Writes ((recordListsOf settings direction method).paragraphs settings method)
      (message settings direction method) :=
  writes_message settings direction method

end Lists

/-! ### Lists that line up -/

/-- The forwarding method for a method makes the record with its own parameters, and the record is declared
for these: behind the connection, which comes first on both sides, each argument is a parameter of the
forwarding method, and the field at this place has the type that the parameter is declared with. -/
structure LinesUp (settings : Settings) (method : Method) (forwarding : Forwarding)
    (lists : RecordLists) : Prop where
  parameters :
    forwarding.parameters = method.parameters.map fun p ↦ (typeName settings p.type, p.name)
  length_arguments : forwarding.arguments.length = 3 + method.parameters.length
  length_fields : lists.fields.length = 3 + method.parameters.length
  context_arguments : forwarding.arguments.take 3 =
    ["ConnectionId", "UserIdentifier", "User"].map ("Context." ++ ·)
  context_fields : (lists.fields.take 3).map (·.2) = ["ConnectionId", "UserIdentifier", "User"]
  place : ∀ (i : Nat) (type name : String), forwarding.parameters[i]? = some (type, name) →
    forwarding.arguments[3 + i]? = some name ∧ ∃ field, lists.fields[3 + i]? = some (type, field)

/-- The nine methods of a record pass on just those fields that stand behind the connection, one for each
parameter of the contract method and in the same order. No two fields have the same name, so what is passed
on is these fields and no others. -/
structure PassesOn (settings : Settings) (direction : Direction) (method : Method)
    (lists : RecordLists) : Prop where
  length_passed : lists.passed.length = 9
  passed : ∀ names ∈ lists.passed,
    names = (lists.fields.drop direction.contextFields.length).map (·.2)
  context : lists.fields.take direction.contextFields.length = direction.contextFields
  length_fields :
    (lists.fields.drop direction.contextFields.length).length = method.parameters.length
  place : ∀ (i : Nat) (p : Parameter), method.parameters[i]? = some p →
    ∃ k, (lists.fields.drop direction.contextFields.length)[i]? =
      some (typeName settings p.type, Field.tried (Field.suggestion p.name) k)
  nodup_fields : (lists.fields.map (·.2)).Nodup
  notMem_context : ∀ names ∈ lists.passed, ∀ name ∈ names,
    name ∉ direction.contextFields.map (·.2)

section Alignment

variable (settings : Settings)

/-- Behind the connection a record has a field for each parameter. -/
theorem drop_recordFields (direction : Direction) (method : Method) :
    (recordFields settings direction method).take direction.contextFields.length =
        direction.contextFields ∧
      (recordFields settings direction method).drop direction.contextFields.length =
        (method.parameters.zip (Field.names direction method)).map fun entry ↦
          (typeName settings entry.1.type, entry.2) :=
  ⟨List.take_left, List.drop_left⟩

/-- The field for a parameter has its type, and one of the names that are tried for it. -/
theorem exists_getElem?_drop_recordFields (direction : Direction) {method : Method} {i : Nat}
    {p : Parameter} (h : method.parameters[i]? = some p) :
    ∃ k, ((recordFields settings direction method).drop direction.contextFields.length)[i]? =
      some (typeName settings p.type, Field.tried (Field.suggestion p.name) k) := by
  obtain ⟨k, hname, -⟩ := Field.exists_getElem?_names_eq direction method h
  have hentry : (method.parameters.zip (Field.names direction method))[i]? =
      some (p, Field.tried (Field.suggestion p.name) k) :=
    List.getElem?_zip_eq_some.mpr ⟨h, hname⟩
  rw [(drop_recordFields settings direction method).2, List.getElem?_map, hentry]
  exact ⟨k, rfl⟩

/-- As many fields stand behind the connection as there are parameters. -/
theorem length_drop_recordFields (direction : Direction) (method : Method) :
    ((recordFields settings direction method).drop direction.contextFields.length).length =
      method.parameters.length := by
  rw [(drop_recordFields settings direction method).2, List.length_map, List.length_zip,
    Field.length_names, Nat.min_self]

/-- The forwarding method for a method of the server contract and its record line up. -/
theorem linesUp_recordListsOf (method : Method) :
    LinesUp settings method (forwardingOf settings method)
      (recordListsOf settings .toServer method) where
  parameters := rfl
  length_arguments := by
    rw [forwardingOf, List.length_append, List.length_map]
    rfl
  length_fields := by
    have hlength := length_drop_recordFields settings .toServer method
    have hcontext := congrArg List.length (drop_recordFields settings .toServer method).1
    have hthree : Direction.toServer.contextFields.length = 3 := rfl
    rw [hthree] at hlength hcontext
    rw [List.length_drop] at hlength
    rw [List.length_take] at hcontext
    rw [recordListsOf]
    dsimp only
    omega
  context_arguments := by
    rw [forwardingOf]
    rfl
  context_fields := by
    rw [recordListsOf]
    rfl
  place := by
    intro i type name h
    rw [forwardingOf, List.getElem?_map, Option.map_eq_some_iff] at h
    obtain ⟨p, hp, hentry⟩ := h
    obtain ⟨rfl, rfl⟩ := Prod.mk.inj hentry
    obtain ⟨k, hfield⟩ := exists_getElem?_drop_recordFields settings .toServer hp
    rw [List.getElem?_drop] at hfield
    refine ⟨?_, _, hfield⟩
    have hthree : contextArguments.length ≤ 3 + i := Nat.le_add_right 3 i
    have hplace : 3 + i - contextArguments.length = i := Nat.add_sub_cancel_left 3 i
    rw [forwardingOf, List.getElem?_append_right hthree, hplace, List.getElem?_map, hp]
    rfl

/-- The methods of a record pass on its fields. -/
theorem passesOn_recordListsOf (direction : Direction) (method : Method) :
    PassesOn settings direction method (recordListsOf settings direction method) := by
  obtain ⟨hcontext, -⟩ := drop_recordFields settings direction method
  obtain ⟨hnames, -⟩ := map_snd_recordFields settings direction method
  have hothers := Field.ne_and_notMem_of_mem_names direction method
  have hpassed : ∀ names ∈ (recordListsOf settings direction method).passed,
      names = Field.names direction method := by
    intro names h
    obtain ⟨-, -, rfl⟩ := List.mem_map.mp h
    rfl
  refine ⟨rfl, fun names h ↦ ?_, hcontext, length_drop_recordFields settings direction method,
    fun i p hp ↦ exists_getElem?_drop_recordFields settings direction hp, ?_, fun names h name hname ↦ ?_⟩
  · have hlist := congrArg (List.drop direction.contextFields.length) hnames
    rw [← List.map_drop, List.drop_left' (List.length_map _)] at hlist
    rw [hpassed names h]
    exact hlist.symm
  · have hconnection : (direction.contextFields.map (·.2)).Nodup := by
      cases direction <;> decide
    rw [recordListsOf]
    dsimp only
    rw [hnames]
    exact hconnection.append (Field.nodup_names direction method) fun name hname hmem ↦
      (hothers name hmem).2 hname
  · rw [hpassed names h] at hname
    exact (hothers name hname).2

end Alignment

end Document

/-! ### Reading the lists -/

/-- The names and the types in the parentheses of a method can be told apart: they are identifiers, not `@`
alone, and legal types. -/
structure Method.IsReadable (method : Method) : Prop where
  name : TypeExpr.isIdentifier method.name = true
  parameterName : ∀ p ∈ method.parameters,
    TypeExpr.isIdentifier p.name = true ∧ Model.withoutAt p.name ≠ ""
  parameterType : ∀ p ∈ method.parameters, p.type.IsLegal

/-- A hub with an identifier for the name of its class, and with readable methods. -/
structure Hub.IsReadable (hub : Hub) : Prop where
  bridgeName : TypeExpr.isIdentifier hub.bridgeType.name = true
  methods : ∀ direction, ∀ method ∈ (hub.contract direction).methods, method.IsReadable

namespace Document

/-- At the first line of a forwarding method, its lists. -/
def forwarding? (text : String) (rest : List String) : Option Forwarding :=
  (posted? text rest).map fun _ ↦
    ⟨(entries text).map declaration, entries (rest[1]?.getD "")⟩

/-- The lists on the lines that are found of a record. -/
def RecordLists.read (found : String × List (String × Option String)) : RecordLists where
  fields := (entries found.1).map declaration
  passed := found.2.map fun call ↦ entries (call.2.getD "")

/-- At the first line of a record, its lists. -/
def recordLists? (text : String) (rest : List String) : Option RecordLists :=
  (record? text rest).map RecordLists.read

section Reading

variable (settings : Settings)

/-- Declared types and names are read back. -/
theorem map_declaration_entries (front : String) {list : List (String × String)}
    (h : ∀ entry ∈ list, IsEntry entry.1 ∧ IsWord entry.2) :
    (entries (front ++ "(" ++ declared list ++ ")")).map declaration = list := by
  have hentries : ∀ entry ∈ list.map fun entry ↦ entry.1 ++ " " ++ entry.2, IsEntry entry := by
    intro entry hentry
    obtain ⟨pair, hpair, rfl⟩ := List.mem_map.mp hentry
    exact isEntry_declared (h pair hpair).1 (h pair hpair).2
  have hback : ∀ entry ∈ list, (declaration ∘ fun entry : String × String ↦
      entry.1 ++ " " ++ entry.2) entry = id entry := fun entry hentry ↦
    Text.declaration_eq entry.1 ((h entry hentry).2.2 ' ' (by decide))
  rw [declared, Text.entries_eq front hentries rfl List.not_mem_nil, List.map_map,
    List.map_congr_left hback, List.map_id]

/-- The name of a legal type is an entry. -/
theorem isEntry_typeName {type : TypeRef} (h : type.IsLegal) : IsEntry (typeName settings type) := by
  rw [typeName]
  split
  · exact h.isEntry (by decide)
  · exact h.isEntry (by decide)

variable {method : Method} (h : method.IsReadable)

include h

/-- The names of the fields for a readable method are words. -/
theorem isWord_of_mem_names (direction : Direction) : ∀ name ∈ Field.names direction method,
    IsWord name := by
  intro name hname
  obtain ⟨i, hi, rfl⟩ := List.getElem_of_mem hname
  obtain ⟨p, hp⟩ : ∃ p, method.parameters[i]? = some p :=
    ⟨_, List.getElem?_eq_getElem (Field.length_names direction method ▸ hi)⟩
  obtain ⟨k, hfield, -⟩ := Field.exists_getElem?_names_eq direction method hp
  obtain ⟨hidentifier, hne⟩ := h.parameterName p (List.mem_of_getElem? hp)
  obtain ⟨_, hname⟩ := List.getElem?_eq_some_iff.mp hfield
  rw [hname]
  exact Field.isWord_tried (Field.isWord_suggestion hidentifier hne) k

/-- The parameters of a forwarding method are read back. -/
theorem map_declaration_forwardingLine :
    (entries (forwardingLine settings method)).map declaration =
      method.parameters.map fun p ↦ (typeName settings p.type, p.name) := by
  refine map_declaration_entries _ fun entry hentry ↦ ?_
  obtain ⟨p, hp, rfl⟩ := List.mem_map.mp hentry
  exact ⟨isEntry_typeName settings (h.parameterType p hp),
    isWord_of_isIdentifier (h.parameterName p hp).1⟩

/-- The arguments that a forwarding method makes the record from are read back. -/
theorem entries_postingLine :
    entries (postingLine method) = contextArguments ++ method.parameters.map (·.name) := by
  have hcontext : ∀ text ∈ contextArguments, IsWord text :=
    List.all_iff_forall_prop.mp (by decide)
  refine Text.entries_eq _ (fun entry hentry ↦ IsWord.isEntry ?_) rfl (by decide)
  rcases List.mem_append.mp hentry with hmem | hmem
  · exact hcontext entry hmem
  · obtain ⟨p, hp, rfl⟩ := List.mem_map.mp hmem
    exact isWord_of_isIdentifier (h.parameterName p hp).1

/-- The fields of a record are read back. -/
theorem map_declaration_recordLine (direction : Direction) :
    (entries (recordLine settings direction method)).map declaration =
      recordFields settings direction method := by
  have hcontext : ∀ entry ∈ direction.contextFields, IsEntry entry.1 ∧ IsWord entry.2 := by
    have hall : ∀ entry ∈ direction.contextFields, IsWord entry.1 ∧ IsWord entry.2 := by
      refine List.all_iff_forall_prop.mp ?_
      cases direction <;> decide
    exact fun entry hentry ↦ ⟨(hall entry hentry).1.isEntry, (hall entry hentry).2⟩
  refine map_declaration_entries _ fun entry hentry ↦ ?_
  rcases List.mem_append.mp hentry with hmem | hmem
  · exact hcontext entry hmem
  · obtain ⟨⟨p, name⟩, hzip, rfl⟩ := List.mem_map.mp hmem
    obtain ⟨hp, hname⟩ := List.of_mem_zip hzip
    exact ⟨isEntry_typeName settings (h.parameterType p hp),
      isWord_of_mem_names h direction name hname⟩

/-- What the methods of a record pass on is read back. -/
theorem entries_deliveryLine (direction : Direction) (target : Target) :
    entries (deliveryLine direction method target) = Field.names direction method :=
  Text.entries_eq _ (fun name hname ↦ (isWord_of_mem_names h direction name hname).isEntry) rfl
    (by decide)

end Reading

/-! ### The lists in the document -/

/-- The lists of the records for a hub: those for the client contract, and then those for the server
contract. -/
def recordListsOfHub (settings : Settings) (hub : Hub) : List RecordLists :=
  hub.client.methods.map (recordListsOf settings .toClient) ++
    hub.server.methods.map (recordListsOf settings .toServer)

section Documents

variable (settings : Settings)

theorem onlyAtLandmarks_forwarding? : OnlyAtLandmarks forwarding? := by
  intro line rest hnone
  rw [forwarding?, onlyAtLandmarks_posted? line rest hnone, Option.map_none]

theorem forwarding?_eq_none {line : String} {rest : List String}
    (h : madeName? (rest[1]?.getD "") = none) : forwarding? line rest = none := by
  rw [forwarding?, posted?_eq_none h, Option.map_none]

/-- At the first line of a forwarding method its lists are found. -/
theorem forwarding?_forwardingLine {method : Method} (h : method.IsReadable) (rest : List String) :
    forwarding? (forwardingLine settings method) ("\x7b" :: postingLine method :: rest) =
      some (forwardingOf settings method) := by
  have hsecond : ("\x7b" :: postingLine method :: rest)[1]?.getD "" = postingLine method := rfl
  rw [forwarding?, posted?_forwardingLine settings h.name, Option.map_some, hsecond,
    map_declaration_forwardingLine settings h, entries_postingLine h]
  rfl

/-- The lists of a record are read on what is found of it. -/
theorem RecordLists.read_recordOf {method : Method} (h : method.IsReadable) (direction : Direction) :
    RecordLists.read (recordOf settings direction method) = recordListsOf settings direction method := by
  have hpassed : ((fun call : String × Option String ↦ entries (call.2.getD "")) ∘ fun target ↦
      (signatureLine settings method target, some (deliveryLine direction method target))) =
        fun _ ↦ Field.names direction method := by
    funext target
    rw [Function.comp_apply, Option.getD_some, entries_deliveryLine h]
  rw [RecordLists.read, recordListsOf, recordOf]
  dsimp only
  rw [map_declaration_recordLine settings h, List.map_map, hpassed]

variable {hub : Hub} (hread : hub.IsReadable)

include hread

/-- In the class of a hub the lists of its forwarding methods are found. -/
theorem finds_forwarding?_classParagraphs : Finds forwarding? ((classParagraphs settings hub).map body)
    (hub.server.methods.map (forwardingOf settings)) :=
  onlyAtLandmarks_forwarding?.finds_forwardingMethods settings _
    (fun _ ↦ forwarding?_eq_none (madeName?_constantLine settings hub))
    (fun _ hmethod rest ↦ forwarding?_forwardingLine settings (hread.methods .toServer _ hmethod) rest)
    fun direction rest ↦ forwarding?_eq_none (madeName?_first_messages settings direction _ rest)

/-- In the class of a hub is found what is read on the lines of the records for its methods. -/
theorem finds_map_record?_classParagraphs {β : Type} (h : hub.IsOneLine)
    {read : String × List (String × Option String) → β} {expected : Direction → Method → β}
    (hmethods : ∀ direction, ∀ method ∈ (hub.contract direction).methods,
      read (recordOf settings direction method) = expected direction method) :
    Finds (fun line rest ↦ (record? line rest).map read) ((classParagraphs settings hub).map body)
      (hub.client.methods.map (expected .toClient) ++ hub.server.methods.map (expected .toServer)) := by
  have hname : hasPrefix "record " hub.bridgeType.name = false := by
    rw [← Bool.not_eq_true, Text.hasPrefix_iff]
    intro hstart
    have hspace : ' ' ∈ "record ".toList := by decide
    exact (isWord_of_isIdentifier hread.bridgeName).2 ' ' (by decide) (hstart.subset hspace)
  have hrecords (direction : Direction) : (hub.contract direction).methods.map
      (read ∘ recordOf settings direction) = (hub.contract direction).methods.map (expected direction) :=
    List.map_congr_left (hmethods direction)
  have hread : (recordsOf settings hub).map read =
      hub.client.methods.map (expected .toClient) ++ hub.server.methods.map (expected .toServer) := by
    rw [recordsOf, List.map_append, List.map_map, List.map_map]
    exact congrArg₂ (· ++ ·) (hrecords .toClient) (hrecords .toServer)
  rw [← hread]
  exact (finds_record?_classParagraphs settings h hname).map read

/-- In the class of a hub the lists of its records are found. -/
theorem finds_recordLists?_classParagraphs (h : hub.IsOneLine) :
    Finds recordLists? ((classParagraphs settings hub).map body) (recordListsOfHub settings hub) :=
  finds_map_record?_classParagraphs settings hread h fun direction method hmethod ↦
    RecordLists.read_recordOf settings (hread.methods direction method hmethod) direction

end Documents

/-- What a forwarding method and a record are written with lines up: the arguments that the method makes
the record from with the fields of the record, and the fields behind the connection with what each of the
nine methods of the record passes on. For hubs and settings on one line, with names and types that can be
told apart, these lists are also read in the document: in its forwarding methods those of the methods of
the server contracts, and in its records those of the methods of both contracts. -/
theorem calls_lineUp (settings : Settings) (hubs : List Hub) :
    (∀ method, Writes ((forwardingOf settings method).paragraphs settings method)
        (forwardingMethod settings method) ∧
      LinesUp settings method (forwardingOf settings method)
        (recordListsOf settings .toServer method)) ∧
      (∀ direction method, Writes ((recordListsOf settings direction method).paragraphs settings method)
          (message settings direction method) ∧
        PassesOn settings direction method (recordListsOf settings direction method)) ∧
      (settings.IsOneLine → (∀ hub ∈ hubs, hub.IsOneLine) → (∀ hub ∈ hubs, hub.IsReadable) →
        let bodies := (Text.lines (ofHubs hubs settings).text).map Text.trimStart
        (findings forwarding? bodies =
            hubs.flatMap fun hub ↦ hub.server.methods.map (forwardingOf settings)) ∧
          findings recordLists? bodies = hubs.flatMap (recordListsOfHub settings)) := by
  refine ⟨fun method ↦ ⟨writes_forwardingOf settings method, linesUp_recordListsOf settings method⟩,
    fun direction method ↦ ⟨writes_recordListsOf settings direction method,
      passesOn_recordListsOf settings direction method⟩, fun hsettings honeLine hread ↦ ?_⟩
  have hquiet {part : List String} (h : IsQuiet part) : Finds recordLists? part [] :=
    h.finds_record?.map RecordLists.read
  dsimp only
  rw [map_trimStart_lines hsettings honeLine]
  exact ⟨findings_paragraphs settings
      (fun _ h ↦ onlyAtLandmarks_forwarding?.finds_of_isQuiet h)
      fun hub hmem ↦ finds_forwarding?_classParagraphs settings (hread hub hmem),
    findings_paragraphs settings (fun _ h ↦ hquiet h)
      fun hub hmem ↦ finds_recordLists?_classParagraphs settings (hread hub hmem) (honeLine hub hmem)⟩

/-- Parameters `user` and `@user` of a method that clients call: the forwarding method makes the record
from both, and their fields have other names than that of the connection. -/
theorem calls_lineUp_users :
    let string : TypeRef := .plain "System" "String"
    let send : Method := ⟨"Send", .plain "System" "Void", .plain "Chat" "IChatServer",
      [⟨"user", string⟩, ⟨"@user", .plain "System" "Int32"⟩]⟩
    let hub : Hub := ⟨.plain "Chat" "ChatHub", ⟨.plain "Chat" "IChatClient", []⟩,
      ⟨.plain "Chat" "IChatServer", [send]⟩⟩
    let bodies := (Text.lines (ofHubs [hub] {}).text).map Text.trimStart
    (Settings.IsOneLine {} ∧ hub.IsOneLine ∧ hub.IsReadable) ∧
      findings forwarding? bodies =
        [⟨[("global::System.String", "user"), ("global::System.Int32", "@user")],
          ["Context.ConnectionId", "Context.UserIdentifier", "Context.User", "user", "@user"]⟩] ∧
      findings recordLists? bodies =
        [⟨[("string", "ConnectionId"), ("string", "UserIdentifier"),
            ("global::System.Security.Claims.ClaimsPrincipal", "User"),
            ("global::System.String", "User2"), ("global::System.Int32", "User3")],
          List.replicate 9 ["User2", "User3"]⟩] := by
  intro string send hub bodies
  have hstring : string.IsOneLine := TypeRef.isOneLine_plain (by decide) (by decide)
  have hserver : hub.server.type.IsOneLine := TypeRef.isOneLine_plain (by decide) (by decide)
  have hsend : send.IsOneLine :=
    ⟨by decide, TypeRef.isOneLine_plain (by decide) (by decide), hserver,
      List.forall_mem_cons.mpr ⟨(by decide : Text.IsOneLine "user"),
        List.forall_mem_singleton.mpr (by decide : Text.IsOneLine "@user")⟩,
      List.forall_mem_cons.mpr ⟨hstring,
        List.forall_mem_singleton.mpr (TypeRef.isOneLine_plain (by decide) (by decide))⟩⟩
  have hhub : hub.IsOneLine :=
    ⟨TypeRef.isOneLine_plain (by decide) (by decide), TypeRef.isOneLine_plain (by decide) (by decide),
      List.forall_mem_nil _, hserver, List.forall_mem_singleton.mpr hsend⟩
  have hsystem {name : String} (hname : TypeExpr.isIdentifier name = true) :
      TypeRef.IsLegal (.plain "System" name) :=
    .of_parts ⟨["System"], by decide, String.intercalate_singleton⟩ hname (List.forall_mem_nil _)
  have hreadable : send.IsReadable :=
    ⟨by decide, by decide +kernel, List.forall_mem_cons.mpr ⟨hsystem (by decide),
      List.forall_mem_singleton.mpr (hsystem (by decide +kernel))⟩⟩
  have hread : hub.IsReadable := by
    refine ⟨by decide, fun direction ↦ ?_⟩
    cases direction with
    | toClient => exact List.forall_mem_nil _
    | toServer => exact List.forall_mem_singleton.mpr hreadable
  have hnames : Field.names .toServer send = ["User2", "User3"] := by
    have huser : send.parameters[0]? = some ⟨"user", string⟩ := rfl
    have hother : send.parameters[1]? = some ⟨"@user", .plain "System" "Int32"⟩ := rfl
    obtain ⟨first, second, hboth⟩ := List.length_eq_two.mp (Field.length_names .toServer send)
    have hfirst := Field.getElem?_names_eq (k := 1) .toServer send huser
      ⟨by decide +kernel, by decide +kernel⟩
    rw [hboth] at hfirst ⊢
    have hfirstName : first = "User2" := (Option.some.inj hfirst).trans (by decide +kernel)
    have htaken : Field.takenBefore .toServer send 1 =
        ["Send", "ConnectionId", "UserIdentifier", "User", "User2"] := by
      rw [Field.takenBefore, hboth, hfirstName]
      rfl
    have hsecond := Field.getElem?_names_eq (k := 2) .toServer send hother
      (htaken ▸ ⟨by decide +kernel, by decide +kernel⟩)
    rw [hboth] at hsecond
    have hsecondName : second = "User3" := (Option.some.inj hsecond).trans (by decide +kernel)
    rw [hfirstName, hsecondName]
  obtain ⟨-, -, hdocument⟩ := calls_lineUp {} [hub]
  obtain ⟨hforwarding, hrecords⟩ := hdocument isOneLine_default (List.forall_mem_singleton.mpr hhub)
    (List.forall_mem_singleton.mpr hread)
  refine ⟨⟨isOneLine_default, hhub, hread⟩, hforwarding.trans (by decide +kernel), hrecords.trans ?_⟩
  rw [List.flatMap_singleton, recordListsOfHub, List.map_nil, List.nil_append, List.map_singleton,
    recordListsOf, recordFields, hnames]
  decide +kernel

end Document

end HubRelay
