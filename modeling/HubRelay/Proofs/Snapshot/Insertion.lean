import HubRelay.Proofs.Discovery.Extraction
import HubRelay.Proofs.Discovery.Pattern
import HubRelay.Proofs.Json.ReadBack
import HubRelay.Proofs.Snapshot.Mentions
import HubRelay.Proofs.Snapshot.Written

/-!
# One more declaration

A declaration that nobody mentions has no effect. Put into a snapshot at any place, it is the only
declaration that is found in addition (`Model.lookup_eq_of_isInserted`). Every other declaration is
found as before, and its base list and the signatures of its methods are resolved as before, unless
they mention the new one (`Model.AddsUnmentioned.resolve_eq`).

What is extracted from a declaration depends on more than its own types: the contracts are symbols,
and their members are those of other declarations. But a contract is found among the types in a base
list, or is a type argument of one, so it is declared where it was before
(`Model.isFound_of_mem_typeArguments`), and what it mentions is mentioned in the snapshot. So the
same is extracted from each declaration (`Model.extract_eq_of_isInserted`).
-/

set_option autoImplicit false

namespace HubRelay

/-! ### Types that are resolved -/

/-- The types in the signature of a member. Contracts leave properties and events out. -/
def MemberDecl.signature : MemberDecl → List TypeExpr
  | .method declaration => declaration.signature
  | .property _ | .event _ => []

/-- The types in a declaration that are resolved: its base list, and the signatures of its methods.
-/
def TypeDecl.resolved (d : TypeDecl) : List TypeExpr :=
  d.baseList ++ d.members.flatMap MemberDecl.signature

/-- The types that are resolved are among those that are written. -/
theorem TypeDecl.resolved_subset_written (d : TypeDecl) : d.resolved ⊆ d.written := by
  refine List.append_subset.mpr ⟨List.subset_append_left _ _, ?_⟩
  refine fun t ht ↦ List.mem_append_right _ ?_
  obtain ⟨member, hmember, ht⟩ := List.mem_flatMap.mp ht
  refine List.mem_flatMap.mpr ⟨member, hmember, ?_⟩
  cases member with
  | method => exact ht
  | property | event => exact absurd ht List.not_mem_nil

/-! ### One more declaration -/

/-- The second snapshot has one more declaration than the first, at any place in one of its
assemblies, or in an assembly of its own. -/
inductive Snapshot.IsInserted (d : TypeDecl) : Snapshot → Snapshot → Prop
  | existing (before after : List AssemblyDecl) (name : String) (earlier later : List TypeDecl) :
      IsInserted d ⟨before ++ ⟨name, earlier ++ later⟩ :: after⟩
        ⟨before ++ ⟨name, earlier ++ d :: later⟩ :: after⟩
  | alone (before after : List AssemblyDecl) (name : String) :
      IsInserted d ⟨before ++ after⟩ ⟨before ++ ⟨name, [d]⟩ :: after⟩

/-- But for their order, the declarations are those of the first snapshot and the new one. -/
theorem Snapshot.IsInserted.exists_perm {d : TypeDecl} {s s' : Snapshot} (h : s.IsInserted d s') :
    ∃ assembly, s'.declarations.Perm ((assembly, d) :: s.declarations) := by
  cases h with
  | existing before after name earlier later =>
    refine ⟨name, ?_⟩
    simp only [declarations, List.flatMap_append, List.flatMap_cons, List.map_append,
      List.map_cons, List.append_assoc, List.cons_append]
    rw [← List.append_assoc, ← List.append_assoc]
    exact List.perm_middle
  | alone before after name =>
    refine ⟨name, ?_⟩
    simp only [declarations, List.flatMap_append, List.flatMap_cons, List.map_cons, List.map_nil]
    exact List.perm_middle

namespace Model

variable {m m' : Model} {d : TypeDecl} {settings : Settings}

/-- Every key but that of the new declaration is looked up as before. -/
theorem lookup_eq_of_isInserted (h : m.snapshot.IsInserted d m'.snapshot)
    {container name : String} {arity : Nat} (hkey : (container, name, arity) ≠ d.key) :
    m'.lookup container name arity = m.lookup container name arity := by
  obtain ⟨assembly, hperm⟩ := h.exists_perm
  refine Option.ext fun ⟨other, e⟩ ↦ ?_
  rw [lookup_eq_some_iff, lookup_eq_some_iff, hperm.mem_iff, List.mem_cons]
  constructor
  · rintro ⟨heq | hmem, he⟩
    · rw [(Prod.mk.inj heq).2] at he
      exact absurd he.symm hkey
    · exact ⟨hmem, he⟩
  · exact fun ⟨hmem, he⟩ ↦ ⟨.inr hmem, he⟩

/-- No other declaration has the key of the new one. -/
theorem key_ne_of_isInserted (h : m.snapshot.IsInserted d m'.snapshot) {e : TypeDecl}
    (he : e ∈ m.candidates) : e.key ≠ d.key := by
  obtain ⟨assembly, hperm⟩ := h.exists_perm
  have hkeys := m'.accepted.keys
  rw [← Snapshot.map_snd_declarations, ((hperm.map Prod.snd).map TypeDecl.key).nodup_iff,
    List.map_cons, List.map_cons, Snapshot.map_snd_declarations, List.nodup_cons] at hkeys
  exact fun hkey ↦ hkeys.1 (hkey ▸ List.mem_map_of_mem he)

/-! ### What is reached -/

/-- The type arguments of a named type are those it is given. -/
theorem typeArguments_named (container name : String) (arguments : List Symbol) :
    (m.named container name arguments).typeArguments = arguments := by
  unfold named
  split <;> rfl

/-- Assumes: a type of the grammar. The type arguments of its symbol are found, if they are
declared. -/
theorem isFound_of_mem_typeArguments (scope : TypeDecl) {t : TypeExpr} (ht : TypeExpr.IsType t) :
    ∀ argument ∈ (m.resolve scope t).typeArguments, m.IsFound argument := by
  cases ht with
  | keyword hword =>
    rw [resolve, typeArguments_named]
    exact List.forall_mem_nil _
  | name ht =>
    obtain ⟨path, hpath⟩ := TypeExpr.exists_hasPath ht
    rw [resolve_of_hasPath hpath, typeArguments_resolvePath, List.forall_mem_map]
    exact fun argument _ ↦ isFound_resolve scope argument
  | array helement hrank =>
    rw [resolve]
    exact List.forall_mem_nil _
  | nullable hinner =>
    rw [resolve]
    split
    · rw [typeArguments_named]
      exact List.forall_mem_singleton.mpr (isFound_resolve scope _)
    · exact isFound_of_mem_typeArguments scope hinner

/-- The declaration of a symbol that is found is one of the snapshot. -/
theorem mem_candidates_of_isFound {s : Symbol} (h : m.IsFound s) {e : TypeDecl}
    (he : s.declaration? = some e) : e ∈ m.candidates := by
  cases s with
  | declared assembly declaration arguments =>
    obtain rfl := Option.some.inj he
    exact mem_candidates_of_lookup h
  | external | typeParameter | array => cases he

/-- Assumes: types of the grammar in base lists. The contracts of a declaration are found, if they
are declared. -/
theorem isFound_of_contracts {assembly : String} {e : TypeDecl} {client server : Symbol}
    (htypes : ∀ t ∈ e.baseList, TypeExpr.IsType t)
    (h : m.host.contracts settings (.declared assembly e []) = .ok (client, server)) :
    m.IsFound client ∧ m.IsFound server := by
  obtain ⟨base, hbase, -, -, -, hclient, -, hserver⟩ := Host.contracts_eq_ok_iff.mp h
  change m.baseType (.declared assembly e []) = some base at hbase
  change base.typeArguments = [client] at hclient
  change m.interfaces (.declared assembly e []) = [server] at hserver
  constructor
  · obtain ⟨t, ht, rfl⟩ := List.mem_map.mp (mem_bases_of_baseType hbase)
    refine isFound_of_mem_typeArguments e (htypes t ht) client ?_
    rw [hclient]
    exact List.mem_singleton_self _
  · have hmem : server ∈ m.interfaces (.declared assembly e []) := by
      rw [hserver]
      exact List.mem_singleton_self _
    obtain ⟨t, -, rfl⟩ := List.mem_map.mp (mem_bases_of_mem_interfaces hmem)
    exact isFound_resolve e t

/-! ### What is answered as before -/

/-- The second model has one more declaration, not in the namespace `System`. The types that the
first one resolves are types of the grammar and do not mention it. -/
structure AddsUnmentioned (m m' : Model) (d : TypeDecl) : Prop where
  inserted : m.snapshot.IsInserted d m'.snapshot
  container : d.container ≠ Keyword.systemNamespace
  types : ∀ e ∈ m.candidates, ∀ t ∈ e.resolved, TypeExpr.IsType t
  mentions : ∀ e ∈ m.candidates, ∀ t ∈ e.resolved, (d.name, d.arity) ∉ t.mentions

namespace AddsUnmentioned

variable (h : AddsUnmentioned m m' d)
include h

/-- The types of a declaration are resolved as before. -/
theorem resolve_eq {e : TypeDecl} (he : e ∈ m.candidates) {t : TypeExpr} (ht : t ∈ e.resolved) :
    m'.resolve e t = m.resolve e t := by
  have hsystem (name : String) (arity : Nat) :
      m'.lookup Keyword.systemNamespace name arity =
        m.lookup Keyword.systemNamespace name arity :=
    lookup_eq_of_isInserted h.inserted fun hkey ↦ h.container (congrArg Prod.fst hkey).symm
  refine resolve_eq_of_mentions hsystem (h.types e he t ht) fun mention hmention container ↦ ?_
  refine lookup_eq_of_isInserted h.inserted fun hkey ↦ ?_
  have hnew : mention = (d.name, d.arity) := congrArg Prod.snd hkey
  exact h.mentions e he t ht (hnew ▸ hmention)

/-- The symbol of a declaration is the same as before. -/
theorem symbol_eq {e : TypeDecl} (he : e ∈ m.candidates) :
    m'.declaredSymbol e = m.declaredSymbol e := by
  have hkey := key_ne_of_isInserted h.inserted he
  rw [declaredSymbol, declaredSymbol, lookup_eq_of_isInserted h.inserted hkey]

variable {s : Symbol} (hs : ∀ e, s.declaration? = some e → e ∈ m.candidates)
include hs

/-- The bases of a type that was declared are the same as before. -/
theorem bases_eq : m'.bases s = m.bases s := by
  unfold bases
  split
  · next e he =>
    exact List.map_congr_left fun t ht ↦ h.resolve_eq (hs e he) (List.mem_append_left _ ht)
  · rfl

/-- The members of a type that was declared are the same as before. -/
theorem members_eq : m'.members s = m.members s := by
  unfold members
  split
  · next e he =>
    refine List.map_congr_left fun member hmember ↦ ?_
    have hsignature : ∀ t ∈ member.signature, m'.resolve e t = m.resolve e t := fun t ht ↦
      h.resolve_eq (hs e he) (List.mem_append_right _ (List.mem_flatMap.mpr ⟨member, hmember, ht⟩))
    cases member with
    | method declaration =>
      obtain ⟨hreturns, hparameters⟩ := List.forall_mem_cons.mp hsignature
      rw [List.forall_mem_map] at hparameters
      have hmap : declaration.parameters.map
            (fun p ↦ (⟨p.name, m'.resolve e p.type⟩ : ParameterSymbol Symbol)) =
          declaration.parameters.map fun p ↦ ⟨p.name, m.resolve e p.type⟩ :=
        List.map_congr_left fun p hp ↦ by rw [hparameters p hp]
      rw [memberSymbol, memberSymbol, hreturns, hmap]
    | property | event => rfl
  · rfl

/-- The contracts of a type that was declared are the same as before. -/
theorem contracts_eq (settings : Settings) :
    m'.host.contracts settings s = m.host.contracts settings s := by
  have hbases := h.bases_eq hs
  have hbase : m'.host.baseType? s = m.host.baseType? s := by
    show m'.baseType s = m.baseType s
    unfold baseType
    rw [hbases]
  have hinterfaces : m'.host.interfaces s = m.host.interfaces s := by
    have hsome : m'.baseType s = m.baseType s := hbase
    show m'.interfaces s = m.interfaces s
    unfold interfaces
    rw [hbases, hsome]
  unfold Host.contracts
  rw [hbase, hinterfaces]
  rfl

/-- The contract of a symbol is extracted as before. -/
theorem extractContract_eq : m'.host.extractContract s = m.host.extractContract s := by
  have hview : m'.host.view = m.host.view := rfl
  have hmembers : m'.host.members s = m.host.members s := h.members_eq hs
  exact Host.extractContract_congr hview hmembers

omit hs in
/-- The same is extracted from every declaration that was there before. -/
theorem extract_eq (settings : Settings) {e : TypeDecl} (he : e ∈ m.candidates) :
    m'.host.extract settings e = m.host.extract settings e := by
  have hsame : m'.host.symbol? e = m.host.symbol? e := h.symbol_eq he
  obtain ⟨assembly, hdeclared⟩ := exists_declaredSymbol_eq he
  have hsymbol : m.host.symbol? e = some (.declared assembly e []) := hdeclared
  have hdeclaration : ∀ other, (Symbol.declared assembly e []).declaration? = some other →
      other ∈ m.candidates := fun other hother ↦ by rwa [← Option.some.inj hother]
  unfold Host.extract
  rw [hsame, hsymbol]
  dsimp only
  rw [h.contracts_eq hdeclaration settings]
  cases hboth : m.host.contracts settings (.declared assembly e []) with
  | error reason => rfl
  | ok both =>
    obtain ⟨client, server⟩ := both
    have hbases := fun t ht ↦ h.types e he t (List.mem_append_left _ ht)
    obtain ⟨hclient, hserver⟩ := isFound_of_contracts hbases hboth
    dsimp only
    unfold Host.extractHub
    rw [h.extractContract_eq fun _ ↦ mem_candidates_of_isFound hclient,
      h.extractContract_eq fun _ ↦ mem_candidates_of_isFound hserver]
    rfl

end AddsUnmentioned

/-! ### Discovery -/

/-- Assumes: an accepted snapshot that has been read, and an accepted one with one more declaration.
The new declaration is not in the namespace `System`, and no type in a base list or in the signature
of a method mentions its name with its number of type parameters. Then, for all settings, the same
is extracted from every declaration of the first snapshot, with the same events. -/
theorem extract_eq_of_isInserted {text : String} {s s' : Snapshot} {d : TypeDecl}
    (hread : Json.read (Snapshot.ofJson Json.maxLevels) text = .ok s) (hm : ofSnapshot s = .ok m)
    (hm' : ofSnapshot s' = .ok m') (hinserted : s.IsInserted d s')
    (hcontainer : d.container ≠ "System")
    (hmentions : ∀ e ∈ s.types, ∀ t ∈ e.resolved, (d.name, d.arity) ∉ t.mentions)
    (settings : Settings) {e : TypeDecl} (he : e ∈ s.types) :
    m'.host.extract settings e = m.host.extract settings e := by
  obtain rfl := ofSnapshot_eq_ok_iff.mp hm
  obtain rfl := ofSnapshot_eq_ok_iff.mp hm'
  have htypes : ∀ e ∈ m.candidates, ∀ t ∈ e.resolved, TypeExpr.IsType t := by
    intro e he t ht
    obtain ⟨written, hparse⟩ := Snapshot.isRead_of_produces (Json.produces_of_read hread) e he t
      (e.resolved_subset_written ht)
    exact (TypeExpr.parse_sound hparse).1.1
  have hadds : AddsUnmentioned m m' d := ⟨hinserted, hcontainer, htypes, hmentions⟩
  exact hadds.extract_eq settings he

/-- A hub and its server contract, and an interface with the name of the contract and one type
parameter more. -/
theorem extract_eq_of_isInserted_generic :
    let text := "\x7b\"assemblies\":[[\"Core\",[[\"class\",\"\",\"Hub\",[\"T\"]]]],[\"Chat\",[" ++
      "[\"interface\",\"\",\"IServer\",[],[],[],[\x7b\"method\":[\"Send\"]\x7d]]," ++
      "[\"class\",\"\",\"ChatHub\",[],[],[\"Hub<string>\",\"IServer\"]]]]]\x7d"
    let base : TypeDecl := ⟨.classType, "", "Hub", ["T"], [], [], []⟩
    let contract : TypeDecl := ⟨.interfaceType, "", "IServer", [], [], [],
      [.method ⟨"Send", .keyword "void", []⟩]⟩
    let hub : TypeDecl := ⟨.classType, "", "ChatHub", [], [],
      [.generic "Hub" [.keyword "string"], .simple "IServer"], []⟩
    let d : TypeDecl := ⟨.interfaceType, "", "IServer", ["T"], [], [], []⟩
    let s : Snapshot := ⟨[⟨"Core", [base]⟩, ⟨"Chat", [contract, hub]⟩]⟩
    let s' : Snapshot := ⟨[⟨"Core", [base]⟩, ⟨"Chat", [contract, d, hub]⟩]⟩
    Json.read (Snapshot.ofJson Json.maxLevels) text = .ok s ∧ s.IsInserted d s' ∧
      ∃ m m', ofSnapshot s = .ok m ∧ ofSnapshot s' = .ok m' ∧ ∀ (settings : Settings),
        ∀ e ∈ s.types, m'.host.extract settings e = m.host.extract settings e := by
  intro text base contract hub d s s'
  have htext : text = String.ofList _ := Text.append_eq_ofList (Text.append_eq_ofList rfl rfl) rfl
  have hread : Json.read (Snapshot.ofJson Json.maxLevels) text = .ok s :=
    Json.read_of_run htext (by decide +kernel)
  have hinserted : s.IsInserted d s' := .existing [⟨"Core", [base]⟩] [] "Chat" [contract] [hub]
  obtain ⟨m, hm, -⟩ := exists_ofSnapshot_eq_ok (s := s) (by decide +kernel)
  obtain ⟨m', hm', -⟩ := exists_ofSnapshot_eq_ok (s := s') (by decide +kernel)
  have hmentions : ∀ e ∈ s.types, ∀ t ∈ e.resolved, (d.name, d.arity) ∉ t.mentions := by
    decide +kernel
  exact ⟨hread, hinserted, m, m', hm, hm', fun settings e he ↦
    extract_eq_of_isInserted hread hm hm' hinserted (by decide) hmentions settings he⟩

end Model

end HubRelay
