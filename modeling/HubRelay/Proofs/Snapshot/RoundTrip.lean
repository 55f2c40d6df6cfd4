import HubRelay.Proofs.Json.ReadBack
import HubRelay.Proofs.Snapshot.Written
import HubRelay.Proofs.TypeExpr.Completeness

/-!
# Snapshots read back

A snapshot that has been read from some text can be written as JSON and read again, and is the same
snapshot (`Snapshot.read_toJson`). The text need not be the same: fields may have been left off, in
any order, records written as arrays and types with blanks. What is written has none of these, so
each record is read back from its fields in order, each field from its own value. Types are read
back from their renderings, which is where it matters that they have been read
(`TypeExpr.IsRead.decodes`).

A reader goes into as many levels of arrays and objects as it is allowed. A snapshot has ten: an
object and an array in it for each of the snapshot, an assembly and a type, an object for a member,
and then a method, its parameters and each of them.
-/

set_option autoImplicit false

namespace HubRelay

/-! ### Types and lists -/

namespace TypeExpr

/-- A type that can be read is read back from its rendering. -/
theorem IsRead.parse_render {t : TypeExpr} (h : t.IsRead) : parse t.render = .ok t := by
  obtain ⟨text, hparse⟩ := h
  exact parse_eq_ok_iff.mpr ⟨(parse_eq_ok_iff.mp hparse).1, spells_render t⟩

/-- A type that can be read is decoded from the text it renders to. -/
theorem IsRead.decodes {t : TypeExpr} (h : t.IsRead) : Json.Decodes ofJson t.toJson t := by
  intro layout gap rest hgap
  have htext := Json.decodes_string t.render layout gap rest hgap
  rw [ofJson, toJson, Json.run_bind_of_ok htext, h.parse_render]
  rfl

end TypeExpr

/-- A field with a list is decoded from the array of what the entries are written as. -/
theorem decodes_listField {α : Type} {name : String} {levels : Nat} (hlevels : 0 < levels)
    {item : Json.Reader α} {toJson : α → Json.Value} {xs : List α}
    (h : ∀ x ∈ xs, Json.Decodes item (toJson x) x) :
    Json.Decodes (listField name levels item).read (.array (xs.map toJson)) xs :=
  Json.decodes_list hlevels (Json.forall₂_map_decodes h)

/-! ### Records

Each record is decoded from what it is written as, when the types in it can be read. -/

theorem DeclarationKind.decodes (k : DeclarationKind) (levels : Nat) :
    Json.Decodes (ofJson levels) k.toJson k := by
  cases k with
  | classType | interfaceType | structType | recordType =>
    exact Json.decodes_variant_bare rfl levels

theorem pending_typedFields (name : String) {type : TypeExpr} (h : type.IsRead) :
    typedFields.Pending typedFields.noneRead (name, type, ())
      [("name", .string name), ("type", type.toJson)] :=
  ⟨_, _, rfl, Json.decodes_string name, _, _, rfl, h.decodes, rfl⟩

theorem ParameterDecl.decodes {p : ParameterDecl} (h : p.type.IsRead) {levels : Nat}
    (hlevels : 0 < levels) : Json.Decodes (ofJson levels) p.toJson p :=
  (Json.decodes_record (by decide) hlevels (pending_typedFields p.name h)).bind _ rfl

theorem PropertyDecl.decodes {p : PropertyDecl} (h : p.type.IsRead) {levels : Nat}
    (hlevels : 0 < levels) : Json.Decodes (ofJson levels) p.toJson p :=
  (Json.decodes_record (by decide) hlevels (pending_typedFields p.name h)).bind _ rfl

theorem MethodDecl.decodes {m : MethodDecl} (h : ∀ t ∈ m.signature, t.IsRead) {levels : Nat}
    (hlevels : 3 ≤ levels) : Json.Decodes (ofJson levels) m.toJson m := by
  obtain ⟨hreturns, hparameters⟩ := List.forall_mem_cons.mp h
  have hall : ∀ p ∈ m.parameters, Json.Decodes (ParameterDecl.ofJson (levels - 2)) p.toJson p :=
    fun p hp ↦ ParameterDecl.decodes (List.forall_mem_map.mp hparameters p hp) (by omega)
  have hnames : ["name", "returns", "parameters"].Nodup := by decide
  refine .bind (m.name, m.returns, m.parameters, ()) (Json.decodes_record ?_ ?_ ?_) rfl
  · exact hnames
  · omega
  · refine ⟨_, _, rfl, Json.decodes_string m.name, _, _, rfl, hreturns.decodes, ?_⟩
    exact ⟨_, _, rfl, decodes_listField (by omega) hall, rfl⟩

theorem MemberDecl.decodes {m : MemberDecl} (h : ∀ t ∈ m.written, t.IsRead) {levels : Nat}
    (hlevels : 4 ≤ levels) : Json.Decodes (ofJson levels) m.toJson m := by
  have hpositive : 0 < levels := by omega
  have hmethod : 3 ≤ levels - 1 := by omega
  have hproperty : 0 < levels - 1 := by omega
  cases m with
  | method declaration =>
    have hinside := MethodDecl.decodes h hmethod
    exact Json.decodes_variant_inside hpositive rfl (hinside.bind _ rfl)
  | property declaration =>
    have hinside := PropertyDecl.decodes (List.forall_mem_singleton.mp h) hproperty
    exact Json.decodes_variant_inside hpositive rfl (hinside.bind _ rfl)
  | event declaration =>
    have hinside := PropertyDecl.decodes (List.forall_mem_singleton.mp h) hproperty
    exact Json.decodes_variant_inside hpositive rfl (hinside.bind _ rfl)

theorem TypeDecl.decodes {d : TypeDecl} (h : ∀ t ∈ d.written, t.IsRead) {levels : Nat}
    (hlevels : 6 ≤ levels) : Json.Decodes (ofJson levels) d.toJson d := by
  obtain ⟨hbases, hmembers⟩ := List.forall_mem_append.mp h
  have hstrings (texts : List String) : ∀ s ∈ texts, Json.Decodes Json.string (.string s) s :=
    fun s _ ↦ Json.decodes_string s
  have hbaseList : ∀ t ∈ d.baseList, Json.Decodes TypeExpr.ofJson t.toJson t :=
    fun t ht ↦ (hbases t ht).decodes
  have hall : ∀ m ∈ d.members, Json.Decodes (MemberDecl.ofJson (levels - 2)) m.toJson m :=
    fun m hm ↦ MemberDecl.decodes (fun t ht ↦ hmembers t (List.mem_flatMap.mpr ⟨m, hm, ht⟩))
      (by omega)
  have hnames : ["kind", "namespace", "name", "type_parameters", "usings", "base_list",
      "members"].Nodup := by decide
  have hinner : 0 < levels - 1 := by omega
  refine .bind (d.kind, d.container, d.name, d.typeParameters, d.usings, d.baseList, d.members, ())
    (Json.decodes_record ?_ ?_ ?_) rfl
  · exact hnames
  · omega
  · refine ⟨_, _, rfl, d.kind.decodes _, _, _, rfl, Json.decodes_string d.container, ?_⟩
    refine ⟨_, _, rfl, Json.decodes_string d.name, ?_⟩
    refine ⟨_, _, rfl, decodes_listField hinner (hstrings d.typeParameters), ?_⟩
    refine ⟨_, _, rfl, decodes_listField hinner (hstrings d.usings), ?_⟩
    refine ⟨_, _, rfl, decodes_listField hinner hbaseList, ?_⟩
    exact ⟨_, _, rfl, decodes_listField hinner hall, rfl⟩

theorem AssemblyDecl.decodes {a : AssemblyDecl} (h : ∀ d ∈ a.types, ∀ t ∈ d.written, t.IsRead)
    {levels : Nat} (hlevels : 8 ≤ levels) : Json.Decodes (ofJson levels) a.toJson a := by
  have hall : ∀ d ∈ a.types, Json.Decodes (TypeDecl.ofJson (levels - 2)) d.toJson d :=
    fun d hd ↦ TypeDecl.decodes (h d hd) (by omega)
  have hnames : ["name", "types"].Nodup := by decide
  refine .bind (a.name, a.types, ()) (Json.decodes_record ?_ ?_ ?_) rfl
  · exact hnames
  · omega
  · refine ⟨_, _, rfl, Json.decodes_string a.name, ?_⟩
    exact ⟨_, _, rfl, decodes_listField (by omega) hall, rfl⟩

/-- Assumes: types that can be read. A snapshot is decoded from what it is written as, at ten levels
or more. -/
theorem Snapshot.decodes {s : Snapshot} (h : ∀ d ∈ s.types, ∀ t ∈ d.written, t.IsRead)
    {levels : Nat} (hlevels : 10 ≤ levels) : Json.Decodes (ofJson levels) s.toJson s := by
  have hall : ∀ a ∈ s.assemblies, Json.Decodes (AssemblyDecl.ofJson (levels - 2)) a.toJson a :=
    fun a ha ↦ AssemblyDecl.decodes (fun d hd ↦ h d (List.mem_flatMap.mpr ⟨a, ha, hd⟩)) (by omega)
  have hnames : ["assemblies"].Nodup := by decide
  have hassemblies : Json.Decodes (Json.list (levels - 1) (AssemblyDecl.ofJson (levels - 2)))
      (.array (s.assemblies.map AssemblyDecl.toJson)) s.assemblies :=
    Json.decodes_list (by omega) (Json.forall₂_map_decodes hall)
  refine .bind (s.assemblies, ()) (Json.decodes_record ?_ ?_ ?_) rfl
  · exact hnames
  · omega
  · exact ⟨_, _, rfl, hassemblies, rfl⟩

/-! ### Snapshots -/

/-- Assumes: a snapshot that has been read from some text. Written on one line, or indented from any
depth, it is read again as the same snapshot. -/
theorem Snapshot.read_toJson {text : String} {s : Snapshot}
    (h : Json.read (ofJson Json.maxLevels) text = .ok s) :
    Json.read (ofJson Json.maxLevels) s.toJson.compact = .ok s ∧
      ∀ depth, Json.read (ofJson Json.maxLevels) (s.toJson.pretty depth) = .ok s := by
  have hlevels : 10 ≤ Json.maxLevels := by decide
  have hdecodes := Snapshot.decodes (isRead_of_produces (Json.produces_of_read h)) hlevels
  have hcompact := hdecodes.read_eq .oneLine
  have hpretty := fun depth ↦ hdecodes.read_eq (.indented depth)
  simp only [Json.Layout.text, String.ofList_toList] at hcompact hpretty
  exact ⟨hcompact, hpretty⟩

/-- An assembly written as an array, fields in another order and fields left off, a type with
blanks, and a character that is escaped although it need not be. -/
theorem Snapshot.read_toJson_chat :
    let text := " \x7b \"assemblies\": [ [\"Ch\\u0061t\", [ \x7b\"name\": \"IChat\"," ++
      "\"kind\": \x7b\"interface\": null\x7d, \"members\": [\x7b\"method\": [\"Send\"]\x7d," ++
      "\x7b\"event\": \x7b\"type\": \" Action < int ? > \", \"name\": \"Sent\"\x7d\x7d]" ++
      " \x7d ] ] ] \x7d"
    let sent : MemberDecl := .event ⟨"Sent", .generic "Action" [.nullable (.keyword "int")]⟩
    let s : Snapshot := ⟨[⟨"Chat", [⟨.interfaceType, "", "IChat", [], [], [],
      [.method ⟨"Send", .keyword "void", []⟩, sent]⟩]⟩]⟩
    Json.read (ofJson Json.maxLevels) text = .ok s ∧
      Json.read (ofJson Json.maxLevels) s.toJson.compact = .ok s ∧
      ∀ depth, Json.read (ofJson Json.maxLevels) (s.toJson.pretty depth) = .ok s := by
  intro text sent s
  have htext : text = String.ofList _ :=
    Text.append_eq_ofList (Text.append_eq_ofList (Text.append_eq_ofList rfl rfl) rfl) rfl
  have h : Json.read (ofJson Json.maxLevels) text = .ok s := Json.read_of_run htext (by decide +kernel)
  exact ⟨h, Snapshot.read_toJson h⟩

end HubRelay
