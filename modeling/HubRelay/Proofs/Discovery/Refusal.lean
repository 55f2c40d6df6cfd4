import HubRelay.Discovery.Described
import HubRelay.Proofs.Discovery.Extraction

/-!
# Which type a hub is refused for

A hub is extracted from the types that it is made of: its own type, and for each contract the type of the
contract and the types of its methods, first those of the parameters and then the one that is returned
(`Host.typesOfHub`). Members that are no methods add no types. The extraction asks for the reference of
each of these types in turn, so it fails for the first type that has none, and for the reason that this
type is refused for (`Host.refusal?_extractHub`). If all have references, nothing is left out: each
contract has its methods in order, with their names and parameters (`Host.IsExtracted`).
-/

set_option autoImplicit false

namespace HubRelay

/-- The types of a method: those of its parameters, and then the one that it returns. -/
def MethodSymbol.types {σ : Type} (m : MethodSymbol σ) : List σ :=
  m.parameters.map (·.type) ++ [m.returnType]

namespace Host

variable {ν σ : Type} (host : Host ν σ)

/-! ### What a hub is made of -/

/-- The methods among the members of a symbol, in order. -/
def methods (s : σ) : List (MethodSymbol σ) := (host.members s).filterMap Member.method?

/-- The types of a contract, in order. -/
def typesOfContract (s : σ) : List σ := s :: (host.methods s).flatMap MethodSymbol.types

/-- The types of a hub, in order. -/
def typesOfHub (s client server : σ) : List σ :=
  s :: (host.typesOfContract client ++ host.typesOfContract server)

/-- Why a type has no reference, if it has none. -/
def typeRefusal? (s : σ) : Option ExtractionError := refusal? (host.typeRef s)

/-- The method has the name and the parameters of the symbol, in order, with the references to their
types, and it is declared by a type. -/
structure IsMethodOf (declaringType : TypeRef) (symbol : MethodSymbol σ) (method : Method) : Prop where
  name_eq : method.name = symbol.name
  declaringType_eq : method.declaringType = declaringType
  returnType_eq : host.typeRef symbol.returnType = .ok method.returnType
  parameters : List.Forall₂ (fun p parameter ↦ parameter.name = p.name ∧
    host.typeRef p.type = .ok parameter.type) symbol.parameters method.parameters

/-- The contract has the reference of the symbol and its methods, in order. -/
structure IsExtracted (s : σ) (contract : Contract) : Prop where
  type_eq : host.typeRef s = .ok contract.type
  methods : List.Forall₂ (host.IsMethodOf contract.type) (host.methods s) contract.methods

variable {host} {settings : Settings}

/-! ### The first type that is refused -/

/-- The first thing found in lists one after the other is found in the first of them in which anything
is. -/
theorem findSome?_flatMap {α β γ : Type} (look : β → Option γ) (lists : α → List β) (xs : List α) :
    (xs.flatMap lists).findSome? look = xs.findSome? fun x ↦ (lists x).findSome? look := by
  induction xs with
  | nil => rfl
  | cons x rest ih =>
    rw [List.flatMap_cons, List.findSome?_append, ih, List.findSome?_cons]
    cases (lists x).findSome? look <;> rfl

theorem refusal?_extractMethod (declaringType : TypeRef) (m : MethodSymbol σ) :
    refusal? (host.extractMethod declaringType m) = m.types.findSome? host.typeRefusal? := by
  have hparameters : refusal? (m.parameters.mapM host.extractParameter) =
      (m.parameters.map (·.type)).findSome? host.typeRefusal? := by
    have hparameter (p : ParameterSymbol σ) :
        refusal? (host.extractParameter p) = host.typeRefusal? p.type := by
      rw [extractParameter, refusal?_bind_of_none fun _ ↦ rfl]
      rfl
    rw [refusal?_mapM, List.findSome?_map]
    simp only [hparameter]
    rfl
  have hreturn (parameters : List Parameter) :
      refusal? (do return Method.mk m.name (← host.typeRef m.returnType) declaringType parameters) =
        host.typeRefusal? m.returnType := by
    rw [refusal?_bind_of_none fun _ ↦ rfl]
    rfl
  rw [extractMethod, refusal?_bind hreturn, hparameters, MethodSymbol.types, List.findSome?_append,
    List.findSome?_singleton]

theorem refusal?_extractContract (s : σ) :
    refusal? (host.extractContract s).result =
      (host.typesOfContract s).findSome? host.typeRefusal? := by
  have hmethods (type : TypeRef) :
      refusal? ((host.extractMethods type (host.members s)).result >>= fun methods ↦
          .ok (Contract.mk type methods)) =
        ((host.methods s).flatMap MethodSymbol.types).findSome? host.typeRefusal? := by
    rw [refusal?_bind_of_none fun _ ↦ rfl, result_extractMethods, refusal?_mapM, findSome?_flatMap]
    simp only [refusal?_extractMethod]
    rfl
  rw [extractContract]
  simp only [Traced.result_bind, Traced.result_quiet, Traced.result_pure]
  rw [refusal?_bind hmethods, typesOfContract, List.findSome?_cons]
  show (host.typeRefusal? s).or _ = _
  cases host.typeRefusal? s <;> rfl

/-- The extraction of a hub fails for the first of its types that is refused. -/
theorem refusal?_extractHub (s client server : σ) :
    refusal? (host.extractHub s client server).result =
      (host.typesOfHub s client server).findSome? host.typeRefusal? := by
  have hserver (bridgeType : TypeRef) (first : Contract) :
      refusal? ((host.extractContract server).result >>= fun second ↦
          .ok (Hub.mk bridgeType first second)) =
        (host.typesOfContract server).findSome? host.typeRefusal? := by
    rw [refusal?_bind_of_none fun _ ↦ rfl, refusal?_extractContract]
  rw [extractHub]
  simp only [Traced.result_bind, Traced.result_quiet, Traced.result_pure]
  rw [refusal?_bind fun bridgeType ↦ refusal?_bind (hserver bridgeType), refusal?_extractContract,
    typesOfHub, List.findSome?_cons, List.findSome?_append]
  show (host.typeRefusal? s).or _ = _
  cases host.typeRefusal? s <;> rfl

/-! ### What is extracted if none is refused -/

theorem isMethodOf_of_extractMethod {declaringType : TypeRef} {symbol : MethodSymbol σ}
    {method : Method} (h : host.extractMethod declaringType symbol = .ok method) :
    host.IsMethodOf declaringType symbol method := by
  obtain ⟨parameters, hparameters, hreturn⟩ := bind_eq_ok_iff.mp h
  obtain ⟨returnType, hreturnType, hmethod⟩ := bind_eq_ok_iff.mp hreturn
  obtain rfl := Except.ok.inj hmethod
  refine ⟨rfl, rfl, hreturnType, (mapM_eq_ok_iff.mp hparameters).imp fun p parameter hparameter ↦ ?_⟩
  obtain ⟨type, htype, hmade⟩ := bind_eq_ok_iff.mp hparameter
  obtain rfl := Except.ok.inj hmade
  exact ⟨rfl, htype⟩

theorem isExtracted_of_extractContract {s : σ} {contract : Contract}
    (h : (host.extractContract s).result = .ok contract) : host.IsExtracted s contract := by
  obtain ⟨htype, hmethods⟩ := extractContract_eq_ok_iff.mp h
  exact ⟨htype, (mapM_eq_ok_iff.mp hmethods).imp fun _ _ ↦ isMethodOf_of_extractMethod⟩

/-- From a declaration whose symbol has contracts the hub of these is extracted. -/
theorem result_extract {node : ν} {s client server : σ} (hs : host.symbol? node = some s)
    (hcontracts : host.contracts settings s = .ok (client, server)) :
    (host.extract settings node).result = do
      return some (← (host.extractHub s client server).result) := by
  unfold extract
  rw [hs]
  dsimp only
  rw [hcontracts]
  exact Traced.result_bind _ _

/-- Assumes: a declaration whose symbol passes all checks of a hub, with the contracts that they find. A
hub is extracted from it just when all types of the hub have references, and then both contracts are
extracted with all their methods. Otherwise the extraction fails for the first of these types that has
none. -/
theorem extract_of_typesOfHub {node : ν} {s client server : σ} (hs : host.symbol? node = some s)
    (hcontracts : host.contracts settings s = .ok (client, server)) :
    let types := host.typesOfHub s client server
    let result := (host.extract settings node).result
    ((∃ hub, result = .ok (some hub)) ↔ ∀ t ∈ types, ∃ r, host.typeRef t = .ok r) ∧
      (∀ hub, result = .ok (some hub) → host.typeRef s = .ok hub.bridgeType ∧
        host.IsExtracted client hub.client ∧ host.IsExtracted server hub.server) ∧
      ((¬ ∃ hub, result = .ok (some hub)) → ∃ front t back reason, types = front ++ t :: back ∧
        (∀ earlier ∈ front, ∃ r, host.typeRef earlier = .ok r) ∧
          host.typeRef t = .error reason ∧ result = .error reason) := by
  intro types result
  have hresult : result = (host.extractHub s client server).result >>= fun hub ↦ pure (some hub) :=
    result_extract hs hcontracts
  have hrefusal : refusal? result = types.findSome? host.typeRefusal? := by
    rw [hresult, refusal?_bind_of_none fun _ ↦ rfl, refusal?_extractHub]
  have hnone : refusal? result = none ↔ ∃ hub, result = .ok (some hub) := by
    rw [refusal?_eq_none_iff]
    constructor
    · rintro ⟨found, hfound⟩
      rw [hresult] at hfound ⊢
      obtain ⟨hub, -, hsome⟩ := bind_eq_ok_iff.mp hfound
      exact ⟨hub, hfound.trans hsome.symm⟩
    · rintro ⟨hub, hhub⟩
      exact ⟨some hub, hhub⟩
  refine ⟨?_, fun hub hhub ↦ ?_, fun hno ↦ ?_⟩
  · rw [← hnone, hrefusal, List.findSome?_eq_none_iff]
    exact forall₂_congr fun t _ ↦ refusal?_eq_none_iff
  · rw [hresult] at hhub
    obtain ⟨found, hfound, hsome⟩ := bind_eq_ok_iff.mp hhub
    obtain rfl := Option.some.inj (Except.ok.inj hsome)
    obtain ⟨hbridge, hclient, hserver⟩ := extractHub_eq_ok_iff.mp hfound
    exact ⟨hbridge, isExtracted_of_extractContract hclient, isExtracted_of_extractContract hserver⟩
  · rw [← hnone, ← Ne, Option.ne_none_iff_exists'] at hno
    obtain ⟨reason, hreason⟩ := hno
    have hfirst := hreason
    rw [hrefusal, List.findSome?_eq_some_iff] at hfirst
    obtain ⟨front, t, back, htypes, ht, hfront⟩ := hfirst
    exact ⟨front, t, back, reason, htypes,
      fun earlier hmem ↦ refusal?_eq_none_iff.mp (hfront earlier hmem),
      refusal?_eq_some_iff.mp ht, refusal?_eq_some_iff.mp hreason⟩

/-! ### A contract with other members -/

namespace CountingContract

/-- A type with a name in the namespace `Chat`, and with members. -/
def chatType (name : String) (members : List (Member DescribedSymbol)) : DescribedSymbol :=
  ⟨name, "Chat", none, name, true, none, 0, [], [], none, [], members⟩

/-- The client contract has a property between two methods. -/
def client : DescribedSymbol :=
  chatType "IClient" [.method ⟨"Join", chatType "Reply" [], [⟨"room", chatType "Room" []⟩]⟩,
    .other "Count", .method ⟨"Leave", chatType "Reply" [], []⟩]

def server : DescribedSymbol := chatType "IServer" [.other "Changed"]

/-- The hub base `Hub<IClient>`. -/
def base : DescribedSymbol :=
  ⟨"Hub", "Core", some "Core", "Hub<IClient>", true, none, 0, ["T"], [client], none, [], []⟩

/-- The class `ChatHub : Hub<IClient>, IServer`. -/
def hub : DescribedSymbol :=
  ⟨"ChatHub", "Chat", some "App", "ChatHub", true, none, 0, [], [], some base, [server], []⟩

end CountingContract

open CountingContract in
/-- The contracts of a hub are extracted without the members that are no methods. -/
theorem extract_of_typesOfHub_counting :
    let node : DescribedDeclaration := ⟨.classType, [], some hub⟩
    let settings : Settings := { hubAssembly := "Core" }
    (describedHost.symbol? node = some hub ∧
        describedHost.contracts settings hub = .ok (client, server)) ∧
      ∃ found, (describedHost.extract settings node).result = .ok (some found) ∧
        found.client.methods.map (·.name) = ["Join", "Leave"] ∧ found.server.methods = [] := by
  intro node settings
  have hs : describedHost.symbol? node = some hub := rfl
  have hcontracts : describedHost.contracts settings hub = .ok (client, server) := rfl
  obtain ⟨hexists, hfound, -⟩ := extract_of_typesOfHub hs hcontracts
  have hall : ∀ t ∈ describedHost.typesOfHub hub client server,
      ∃ r, describedHost.typeRef t = .ok r := by
    have hnone : (describedHost.typesOfHub hub client server).all
        (fun t ↦ (describedHost.typeRefusal? t).isNone) = true := by decide +kernel
    intro t ht
    exact refusal?_eq_none_iff.mp (Option.isNone_iff_eq_none.mp (List.all_eq_true.mp hnone t ht))
  obtain ⟨found, hresult⟩ := hexists.mpr hall
  obtain ⟨-, hclient, hserver⟩ := hfound found hresult
  refine ⟨⟨hs, hcontracts⟩, found, hresult, ?_, List.forall₂_nil_left_iff.mp hserver.methods⟩
  obtain ⟨first, rest, hjoin, hrest, hmethods⟩ := List.forall₂_cons_left_iff.mp hclient.methods
  obtain ⟨second, more, hleave, hmore, rfl⟩ := List.forall₂_cons_left_iff.mp hrest
  obtain rfl := List.forall₂_nil_left_iff.mp hmore
  rw [hmethods, List.map_cons, List.map_singleton, hjoin.name_eq, hleave.name_eq]

end Host

end HubRelay
