import HubRelay.Discovery.Extraction
import HubRelay.Discovery.Snapshot
import HubRelay.Proofs.Snapshot.Lookup
import HubRelay.Proofs.Steps

/-!
# The pattern of a hub

A declaration is a hub class when it extends the generic hub base from the configured assembly, with
a named type as its one argument, and implements one interface. `IsHub` says this of a declaration
of a snapshot by its base list and what the entries resolve to. The two looks of a discovery find
it: a declaration passes the first look and is not rejected by the second just when it is a hub
class (`isCandidate_and_extract_iff`).

The second look goes a longer way than the pattern. It asks the symbol of the declaration for its
base type and its interfaces, which are resolved and sorted out from the base list, and counts type
parameters and type arguments apart. `contracts_declared_iff` leads it back to the base list, and
`arguments_eq_of_resolve` leads the type arguments back to the ones that are written.
-/

set_option autoImplicit false

namespace HubRelay

/-! ### The second look -/

namespace Host

variable {ν σ : Type} {host : Host ν σ} {settings : Settings}

/-- A symbol has contracts when its base type is the hub base from the hub assembly, has one type
parameter and one type argument, which is a named type and the client contract, and when it has one
interface, which is the server contract. -/
theorem contracts_eq_ok_iff {s client server : σ} :
    host.contracts settings s = .ok (client, server) ↔
      ∃ base, host.baseType? s = some base ∧ host.assembly? base = some settings.hubAssembly ∧
        host.name base = settings.hubBaseName ∧ (host.typeParameters base).length = 1 ∧
        host.typeArguments base = [client] ∧ host.isNamed client = true ∧
        host.interfaces s = [server] := by
  unfold contracts
  constructor
  · intro h
    split at h
    · cases h
    · next base hbase =>
      simp only [guarded_eq_ok_iff, ne_eq, not_not] at h
      obtain ⟨hassembly, hname, hcount, h⟩ := h
      split at h
      · next only harguments =>
        obtain ⟨hnamed, h⟩ := guarded_eq_ok_iff.mp h
        split at h
        · next one hinterfaces =>
          obtain ⟨rfl, rfl⟩ := Prod.mk.inj (Except.ok.inj h)
          exact ⟨base, hbase, hassembly, hname, hcount, harguments, by simpa using hnamed,
            hinterfaces⟩
        · cases h
      · cases h
  · rintro ⟨base, hbase, hassembly, hname, hcount, harguments, hnamed, hinterfaces⟩
    simp [hbase, hassembly, hname, hcount, harguments, hnamed, hinterfaces]

/-- A declaration is rejected unless its symbol has contracts. -/
theorem extract_ne_none_iff {node : ν} {s : σ} (hs : host.symbol? node = some s) :
    (host.extract settings node).result ≠ .ok none ↔
      ∃ client server, host.contracts settings s = .ok (client, server) := by
  unfold extract
  rw [hs]
  dsimp only
  constructor
  · intro h
    split at h
    · exact absurd rfl h
    · next client server hcontracts => exact ⟨client, server, hcontracts⟩
  · rintro ⟨client, server, hcontracts⟩ h
    rw [hcontracts] at h
    dsimp only at h
    rw [Traced.result_bind] at h
    obtain ⟨hub, -, hnone⟩ := bind_eq_ok_iff.mp h
    cases Except.ok.inj hnone

/-- The hub of a symbol with contracts has the references to the symbol and to both contracts. -/
theorem typeRef_of_extract {node : ν} {s client server : σ} (hs : host.symbol? node = some s)
    (hcontracts : host.contracts settings s = .ok (client, server)) {hub : Hub}
    (h : (host.extract settings node).result = .ok (some hub)) :
    host.typeRef s = .ok hub.bridgeType ∧ host.typeRef client = .ok hub.client.type ∧
      host.typeRef server = .ok hub.server.type := by
  have hcontract {contract : σ} {result : Contract}
      (hresult : (host.extractContract contract).result = .ok result) :
      host.typeRef contract = .ok result.type := by
    rw [extractContract, Traced.result_bind] at hresult
    obtain ⟨type, htype, hresult⟩ := bind_eq_ok_iff.mp hresult
    rw [Traced.result_bind] at hresult
    obtain ⟨methods, -, hresult⟩ := bind_eq_ok_iff.mp hresult
    obtain rfl := Except.ok.inj hresult
    exact htype
  unfold extract at h
  rw [hs] at h
  dsimp only at h
  rw [hcontracts] at h
  dsimp only at h
  rw [Traced.result_bind] at h
  obtain ⟨found, hfound, hsome⟩ := bind_eq_ok_iff.mp h
  obtain rfl := Option.some.inj (Except.ok.inj hsome)
  rw [extractHub, Traced.result_bind] at hfound
  obtain ⟨bridgeType, hbridge, hfound⟩ := bind_eq_ok_iff.mp hfound
  rw [Traced.result_bind] at hfound
  obtain ⟨clientContract, hclient, hfound⟩ := bind_eq_ok_iff.mp hfound
  rw [Traced.result_bind] at hfound
  obtain ⟨serverContract, hserver, hfound⟩ := bind_eq_ok_iff.mp hfound
  obtain rfl := Except.ok.inj hfound
  exact ⟨hbridge, hcontract hclient, hcontract hserver⟩

end Host

namespace TypeExpr

/-- A name that ends in a generic segment is longer than the identifier of the segment. -/
theorem render_ne_of_rightmost {t : TypeExpr} {identifier : String} {arguments : List TypeExpr}
    (h : t.rightmost = .generic identifier arguments) : t.render ≠ identifier := by
  have hgeneric : identifier.length < (render (.generic identifier arguments)).length := by
    rw [render, String.length_append, String.length_append, String.length_append]
    have hopen : "<".length = 1 := rfl
    omega
  intro heq
  cases t with
  | generic name list =>
    obtain ⟨rfl, rfl⟩ := generic.inj h
    rw [heq] at hgeneric
    exact Nat.lt_irrefl _ hgeneric
  | qualified left right =>
    obtain rfl : right = .generic identifier arguments := h
    have hlength := congrArg String.length heq
    rw [render, String.length_append] at hlength
    omega
  | aliased label name =>
    obtain rfl : name = .generic identifier arguments := h
    have hlength := congrArg String.length heq
    rw [render, String.length_append] at hlength
    omega
  | keyword word | simple name | array element rank | nullable inner => cases h

end TypeExpr

/-! ### The pattern -/

/-- A class of the snapshot extends the hub base with `client` as its argument and implements
`server`. -/
structure IsHub (m : Model) (settings : Settings) (d : TypeDecl) (base server client : TypeExpr) :
    Prop where
  kind : d.kind = .classType
  baseList : d.baseList = [base, server]
  rightmost : base.rightmost = .generic settings.hubBaseName [client]
  /-- The first base is declared in the hub assembly with the name of the hub base, and is no
  interface. -/
  declared : ∃ declaration arguments,
    m.resolve d base = .declared settings.hubAssembly declaration arguments ∧
      declaration.name = settings.hubBaseName ∧ declaration.kind ≠ .interfaceType
  client_named : (m.resolve d client).isNamed = true
  server_interface : (m.resolve d server).isInterface = true

namespace Model

variable {m : Model} {settings : Settings} {d : TypeDecl}

/-- Assumes: a name that ends in a generic segment and resolves to a declaration named like it. Its
type arguments are those of the segment. -/
theorem arguments_eq_of_resolve {t : TypeExpr} {identifier : String} {written : List TypeExpr}
    (ht : t.rightmost = .generic identifier written) {assembly : String} {declaration : TypeDecl}
    {arguments : List Symbol}
    (h : m.resolve d t = .declared assembly declaration arguments)
    (hname : declaration.name = identifier) : arguments = m.resolveAll d written := by
  have hgeneric : t.rightmost.segments?.isSome = true := by rw [ht]; rfl
  rw [resolve_eq_resolveName d hgeneric, ht, resolveArguments, resolveName] at h
  split at h
  · next path hpath =>
    have harguments := m.typeArguments_resolvePath d path (m.resolveAll d written)
    rw [h] at harguments
    exact harguments
  · -- The text of the name is the name of no declaration that is called like its last segment.
    unfold named at h
    split at h
    · next found e hlookup =>
      obtain ⟨-, rfl, -⟩ := Symbol.declared.inj h
      have hrender := (key_of_lookup hlookup).2.1
      exact absurd (hrender.symm.trans hname) (TypeExpr.render_ne_of_rightmost ht)
    · cases h

/-- A class passes the first look when it has two bases, the first of which ends in a generic
segment with the name of the hub base. -/
theorem isCandidate_iff : m.host.isCandidate settings d = true ↔
    d.kind = .classType ∧ ∃ base server written, d.baseList = [base, server] ∧
      base.rightmost = .generic settings.hubBaseName written := by
  have hgeneric (t : TypeExpr) : t.isGenericNamed settings.hubBaseName = true ↔
      ∃ written, t.rightmost = .generic settings.hubBaseName written := by
    unfold TypeExpr.isGenericNamed
    cases t.rightmost <;> simp
  unfold Host.isCandidate
  split
  · next base server hkind hbases =>
    change d.kind = .classType at hkind
    change d.baseList = [base, server] at hbases
    rw [hgeneric, hbases]
    constructor
    · rintro ⟨written, hwritten⟩
      exact ⟨hkind, base, server, written, rfl, hwritten⟩
    · rintro ⟨-, _, _, written, hsplit, hwritten⟩
      obtain ⟨rfl, -⟩ := List.cons.inj hsplit
      exact ⟨written, hwritten⟩
  · next hother =>
    constructor
    · exact fun h ↦ Bool.noConfusion h
    · rintro ⟨hkind, base, server, -, hbases, -⟩
      exact (hother base server hkind hbases).elim

/-- The base type and the interfaces of a class with two bases, the first of which is no interface:
they are the first base, and the second if it is an interface. -/
theorem baseType_and_interfaces (assembly : String) {base server : TypeExpr}
    (hkind : d.kind = .classType) (hbases : d.baseList = [base, server])
    (hbase : (m.resolve d base).isInterface = false) :
    m.baseType (.declared assembly d []) = some (m.resolve d base) ∧
      m.interfaces (.declared assembly d []) = [m.resolve d server].filter (·.isInterface) := by
  have hresolved : m.bases (.declared assembly d []) = [m.resolve d base, m.resolve d server] := by
    show d.baseList.map (m.resolve d) = _
    rw [hbases]
    rfl
  have hbaseType : m.baseType (.declared assembly d []) = some (m.resolve d base) := by
    show (if d.kind = .interfaceType ∨ d.kind = .structType then none
      else (m.bases (.declared assembly d [])).head?.filter (!·.isInterface)) = _
    rw [hresolved, hkind, if_neg (by decide), List.head?_cons, Option.filter_some, hbase]
    rfl
  refine ⟨hbaseType, ?_⟩
  rw [interfaces, hbaseType, hresolved]
  rfl

/-- A class whose first base is an interface has no base type. -/
theorem baseType_eq_none {assembly : String} {base server : TypeExpr}
    (hbases : d.baseList = [base, server]) (hbase : (m.resolve d base).isInterface = true) :
    m.baseType (.declared assembly d []) = none := by
  show (if d.kind = .interfaceType ∨ d.kind = .structType then none
    else (d.baseList.map (m.resolve d)).head?.filter (!·.isInterface)) = none
  rw [hbases, List.map_cons, List.head?_cons, Option.filter_some, hbase]
  split <;> rfl

/-- The symbol of a class with two bases has contracts when the first base is the hub base and the
second is an interface. -/
theorem contracts_declared_iff {assembly : String} {base server : TypeExpr}
    (hkind : d.kind = .classType) (hbases : d.baseList = [base, server])
    {client contract : Symbol} :
    m.host.contracts settings (.declared assembly d []) = .ok (client, contract) ↔
      (∃ declaration, m.resolve d base = .declared settings.hubAssembly declaration [client] ∧
        declaration.name = settings.hubBaseName ∧ declaration.kind ≠ .interfaceType) ∧
      client.isNamed = true ∧ contract = m.resolve d server ∧ contract.isInterface = true := by
  rw [Host.contracts_eq_ok_iff]
  constructor
  · rintro ⟨found, hfound, hassembly, hname, -, harguments, hnamed, hinterfaces⟩
    change m.baseType (.declared assembly d []) = some found at hfound
    cases hinterface : (m.resolve d base).isInterface with
    | true =>
      rw [baseType_eq_none hbases hinterface] at hfound
      cases hfound
    | false =>
      obtain ⟨hbaseType, hsecond⟩ := m.baseType_and_interfaces assembly hkind hbases hinterface
      obtain rfl := Option.some.inj (hbaseType.symm.trans hfound)
      cases hbase : m.resolve d base with
      | declared other declaration arguments =>
        rw [hbase] at hassembly hname harguments hinterface
        obtain rfl : other = settings.hubAssembly := Option.some.inj hassembly
        obtain rfl : arguments = [client] := harguments
        have hserver : [m.resolve d server].filter (·.isInterface) = [contract] :=
          hsecond.symm.trans hinterfaces
        have hmem : contract ∈ [m.resolve d server].filter (·.isInterface) := by
          rw [hserver]
          exact List.mem_singleton_self _
        obtain ⟨hone, hcontract⟩ := List.mem_filter.mp hmem
        refine ⟨⟨declaration, rfl, hname, ?_⟩, hnamed, List.mem_singleton.mp hone, hcontract⟩
        exact beq_eq_false_iff_ne.mp hinterface
      | external container name arguments | typeParameter name | array element rank =>
        rw [hbase] at hassembly
        cases hassembly
  · rintro ⟨⟨declaration, hbase, hname, hdeclared⟩, hnamed, rfl, hcontract⟩
    have hinterface : (m.resolve d base).isInterface = false := by
      rw [hbase]
      exact beq_eq_false_iff_ne.mpr hdeclared
    obtain ⟨hbaseType, hsecond⟩ := m.baseType_and_interfaces assembly hkind hbases hinterface
    have hcount := m.isFound_resolve d base
    rw [hbase] at hbaseType hcount
    refine ⟨_, hbaseType, rfl, hname, (key_of_lookup hcount).2.2, rfl, hnamed, ?_⟩
    refine hsecond.trans ?_
    rw [List.filter_cons_of_pos hcontract, List.filter_nil]

/-- Assumes: a declaration of the snapshot. It passes the first look and is not rejected by the
second just when it is a hub class. The hub is then made of the declaration by its full name, of the
type argument of the hub base and of the interface. -/
theorem isCandidate_and_extract_iff (hd : d ∈ m.candidates) :
    ((m.host.isCandidate settings d = true ∧ (m.host.extract settings d).result ≠ .ok none) ↔
      ∃ base server client, IsHub m settings d base server client) ∧
    ∀ base server client, IsHub m settings d base server client →
      ∀ hub, (m.host.extract settings d).result = .ok (some hub) →
        hub.bridgeType = .plain d.container d.name ∧
        m.host.typeRef (m.resolve d client) = .ok hub.client.type ∧
        m.host.typeRef (m.resolve d server) = .ok hub.server.type := by
  obtain ⟨assembly, hsymbol⟩ := exists_declaredSymbol_eq hd
  have hcontracts {base server client : TypeExpr} (h : IsHub m settings d base server client) :
      m.host.contracts settings (.declared assembly d []) =
        .ok (m.resolve d client, m.resolve d server) := by
    obtain ⟨declaration, arguments, hbase, hname, hkind⟩ := h.declared
    obtain rfl : arguments = [m.resolve d client] :=
      m.arguments_eq_of_resolve h.rightmost hbase hname
    exact (contracts_declared_iff h.kind h.baseList).mpr
      ⟨⟨declaration, hbase, hname, hkind⟩, h.client_named, rfl, h.server_interface⟩
  refine ⟨⟨?_, ?_⟩, ?_⟩
  · rintro ⟨hcandidate, hextract⟩
    obtain ⟨hkind, base, server, written, hbases, hrightmost⟩ := isCandidate_iff.mp hcandidate
    obtain ⟨client, contract, hok⟩ := (Host.extract_ne_none_iff hsymbol).mp hextract
    obtain ⟨⟨declaration, hbase, hname, hdeclared⟩, hnamed, rfl, hinterface⟩ :=
      (contracts_declared_iff hkind hbases).mp hok
    have hwritten : [client] = m.resolveAll d written :=
      m.arguments_eq_of_resolve hrightmost hbase hname
    match written, hwritten with
    | [argument], hwritten =>
      obtain rfl : client = m.resolve d argument := (List.cons.inj hwritten).1
      exact ⟨base, server, argument, hkind, hbases, hrightmost,
        ⟨declaration, _, hbase, hname, hdeclared⟩, hnamed, hinterface⟩
    | [], hwritten | _ :: _ :: _, hwritten => simp [resolveAll] at hwritten
  · rintro ⟨base, server, client, h⟩
    exact ⟨isCandidate_iff.mpr ⟨h.kind, base, server, [client], h.baseList, h.rightmost⟩,
      (Host.extract_ne_none_iff hsymbol).mpr ⟨_, _, hcontracts h⟩⟩
  · intro base server client h hub hhub
    obtain ⟨hbridge, hclient, hserver⟩ := Host.typeRef_of_extract hsymbol (hcontracts h) hhub
    refine ⟨?_, hclient, hserver⟩
    exact (Except.ok.inj hbridge).symm

/-- The hub `Chat.ChatHub` over the declared base `SignalR.Hub<T>`, with two contracts that the
snapshot does not declare. -/
theorem isCandidate_and_extract_chatHub :
    let base : TypeDecl := ⟨.classType, "SignalR", "Hub", ["T"], [], [], []⟩
    let hub : TypeDecl := ⟨.classType, "Chat", "ChatHub", [], ["SignalR"],
      [.generic "Hub" [.simple "IClient"], .simple "IServer"], []⟩
    let settings : Settings := { hubAssembly := "Core" }
    ∃ m, ofSnapshot ⟨[⟨"Core", [base]⟩, ⟨"Chat", [hub]⟩]⟩ = .ok m ∧
      (m.host.isCandidate settings hub = true ∧
        (m.host.extract settings hub).result ≠ .ok none) ∧
      ∃ found, (m.host.extract settings hub).result = .ok (some found) ∧
        found.bridgeType = .plain "Chat" "ChatHub" ∧
        m.host.typeRef (m.resolve hub (.simple "IClient")) = .ok found.client.type ∧
        m.host.typeRef (m.resolve hub (.simple "IServer")) = .ok found.server.type := by
  intro base hub settings
  obtain ⟨m, hm, hsnapshot⟩ := exists_ofSnapshot_eq_ok
    (s := ⟨[⟨"Core", [base]⟩, ⟨"Chat", [hub]⟩]⟩) (by decide +kernel)
  have hmem : hub ∈ m.candidates := by
    rw [candidates, hsnapshot]
    exact List.mem_cons_of_mem _ List.mem_cons_self
  have hexternal {identifier : String}
      (hfound : (searched hub ⟨none, [], identifier, []⟩).findSome?
        (m.lookup · (withoutAt identifier) 0) = none) :
      m.resolve hub (.simple identifier) = .external "" (withoutAt identifier) [] := by
    rw [resolve, resolveName]
    show m.resolvePath hub ⟨none, [], identifier, []⟩ [] = _
    rw [resolvePath, List.length_nil, hfound]
    rfl
  have hclient : m.resolve hub (.simple "IClient") = .external "" "IClient" [] := by
    refine hexternal ?_
    simp only [lookup_eq_find?, hsnapshot]
    decide +kernel
  have hserver : m.resolve hub (.simple "IServer") = .external "" "IServer" [] := by
    refine hexternal ?_
    simp only [lookup_eq_find?, hsnapshot]
    decide +kernel
  have hbase : m.resolve hub (.generic "Hub" [.simple "IClient"]) =
      .declared "Core" base [.external "" "IClient" []] := by
    have hfound : (searched hub ⟨none, [], "Hub", [.simple "IClient"]⟩).findSome?
        (m.lookup · (withoutAt "Hub") 1) = some ("Core", base) := by
      simp only [lookup_eq_find?, hsnapshot]
      decide +kernel
    rw [resolve, resolveName, resolveAll, hclient]
    show m.resolvePath hub ⟨none, [], "Hub", [.simple "IClient"]⟩ [.external "" "IClient" []] = _
    rw [resolvePath, List.length_singleton, hfound]
    rfl
  have hhub : IsHub m settings hub (.generic "Hub" [.simple "IClient"]) (.simple "IServer")
      (.simple "IClient") :=
    ⟨rfl, rfl, rfl, ⟨base, _, hbase, rfl, by decide⟩, by rw [hclient]; rfl,
      by rw [hserver]; decide +kernel⟩
  obtain ⟨hiff, hparts⟩ := @isCandidate_and_extract_iff m settings hub hmem
  have hextract := hiff.mpr ⟨_, _, _, hhub⟩
  obtain ⟨assembly, hsymbol⟩ := exists_declaredSymbol_eq hmem
  have hcontracts : m.host.contracts settings (.declared assembly hub []) =
      .ok (.external "" "IClient" [], .external "" "IServer" []) :=
    (contracts_declared_iff rfl rfl).mpr
      ⟨⟨base, hbase, rfl, by decide⟩, rfl, hserver.symm, by decide +kernel⟩
  have hresult : (m.host.extract settings hub).result = .ok (some
      ⟨.plain "Chat" "ChatHub", ⟨.plain "" "IClient", []⟩, ⟨.plain "" "IServer", []⟩⟩) := by
    unfold Host.extract
    rw [show m.host.symbol? hub = some (.declared assembly hub []) from hsymbol]
    dsimp only
    rw [hcontracts]
    rfl
  exact ⟨m, hm, hextract, _, hresult, hparts _ _ _ hhub _ hresult⟩
end Model

end HubRelay
