import HubRelay.Proofs.Discovery.Candidates
import HubRelay.Proofs.Discovery.Extraction
import HubRelay.Proofs.Discovery.Pattern
import HubRelay.Proofs.Discovery.Resolved
import HubRelay.Proofs.TypeRef.ArrayNames

/-!
# Contracts of generic types

A contract can be a generic type that is used with type arguments. A class that implements the type
has to implement its methods with these arguments in place of the type parameters, and so these are the
methods that the contract should have (`Model.IsInstantiated`). `Symbol.referenceWith` is the reference
of a symbol with types in place of the type parameters.

The reference to the contract has the arguments, but the methods are extracted as they are declared: a
type parameter stands for itself in them, as a type of the global namespace
(`Model.methodWith_eq_of_extractMethod`). The methods with one choice of types are those with another
one just when the choices agree on the type parameters that occur (`Model.methodWith_eq_iff`). So the
contract has the methods that it should have just when each type parameter that occurs in them is used
with the type that it stands for by itself (`Model.isInstantiated_contracts_iff`), which for a contract
like `IServer<string>` is not so (`Model.not_forall_methods_eq_instantiated`).
-/

set_option autoImplicit false

namespace HubRelay

/-! ### Type parameters of symbols -/

namespace Symbol

mutual

/-- The reference of a symbol in which each type parameter stands for the type that it is given. -/
def referenceWith (types : String → TypeRef) : Symbol → TypeRef
  | declared _ d arguments => ⟨d.container, d.name, referencesWith types arguments⟩
  | external container name arguments => ⟨container, name, referencesWith types arguments⟩
  | typeParameter name => types name
  | array element rank => (referenceWith types element).arrayOf rank

/-- The references of symbols, in order. -/
def referencesWith (types : String → TypeRef) : List Symbol → List TypeRef
  | [] => []
  | first :: rest => referenceWith types first :: referencesWith types rest

end

mutual

/-- The type parameters that occur in a symbol. -/
def parametersIn : Symbol → List String
  | declared _ _ arguments | external _ _ arguments => parametersInAll arguments
  | typeParameter name => [name]
  | array element _ => parametersIn element

/-- The type parameters that occur in symbols. -/
def parametersInAll : List Symbol → List String
  | [] => []
  | first :: rest => parametersIn first ++ parametersInAll rest

end

mutual

/-- The reference of a symbol is that with each type parameter for itself. -/
theorem referenceWith_plain : ∀ s : Symbol, s.referenceWith (TypeRef.plain "") = s.reference
  | declared assembly d arguments => by
    rw [referenceWith, referencesWith_plain arguments, reference_declared]
  | external container name arguments => by
    rw [referenceWith, referencesWith_plain arguments, reference_external]
  | typeParameter name => by
    rw [referenceWith, reference_typeParameter]
  | array element rank => by
    rw [referenceWith, referenceWith_plain element, reference_array]

theorem referencesWith_plain :
    ∀ symbols : List Symbol, referencesWith (TypeRef.plain "") symbols = symbols.map reference
  | [] => rfl
  | first :: rest => by
    rw [referencesWith, referenceWith_plain first, referencesWith_plain rest, List.map_cons]

end

mutual

/-- The reference of a symbol is the same with two choices of types just when they agree on the type
parameters that occur in the symbol. -/
theorem referenceWith_eq_iff {types others : String → TypeRef} : ∀ s : Symbol,
    s.referenceWith types = s.referenceWith others ↔
      ∀ name ∈ s.parametersIn, types name = others name
  | declared assembly d arguments => by
    rw [referenceWith, referenceWith, TypeRef.mk.injEq, and_iff_right rfl, and_iff_right rfl,
      parametersIn]
    exact referencesWith_eq_iff arguments
  | external container name arguments => by
    rw [referenceWith, referenceWith, TypeRef.mk.injEq, and_iff_right rfl, and_iff_right rfl,
      parametersIn]
    exact referencesWith_eq_iff arguments
  | typeParameter name => by
    rw [referenceWith, referenceWith, parametersIn, List.forall_mem_singleton]
  | array element rank => by
    rw [referenceWith, referenceWith, TypeRef.arrayOf_inj, parametersIn]
    exact referenceWith_eq_iff element

theorem referencesWith_eq_iff {types others : String → TypeRef} : ∀ symbols : List Symbol,
    referencesWith types symbols = referencesWith others symbols ↔
      ∀ name ∈ parametersInAll symbols, types name = others name
  | [] => iff_of_true rfl (List.forall_mem_nil _)
  | first :: rest => by
    rw [referencesWith, referencesWith, List.cons_eq_cons, referenceWith_eq_iff first,
      referencesWith_eq_iff rest, parametersInAll, List.forall_mem_append]

end

end Symbol

/-! ### Declared methods -/

/-- The method that a member is, if it is one. -/
def MemberDecl.method? : MemberDecl → Option MethodDecl
  | method declaration => some declaration
  | property _ | event _ => none

namespace TypeDecl

/-- The methods of a declaration, in order. -/
def methods (d : TypeDecl) : List MethodDecl := d.members.filterMap MemberDecl.method?

/-- What the type parameters of a declaration stand for when it is used with type arguments. -/
def instantiation (d : TypeDecl) (arguments : List Symbol) (name : String) : TypeRef :=
  ((d.typeParameters.zip (arguments.map Symbol.reference)).lookup name).getD (.plain "" name)

end TypeDecl

namespace Model

/-- A declared method with the symbols of its types. -/
def methodSymbol (m : Model) (d : TypeDecl) (declaration : MethodDecl) : MethodSymbol Symbol where
  name := declaration.name
  returnType := m.resolve d declaration.returns
  parameters := declaration.parameters.map fun p ↦ ⟨p.name, m.resolve d p.type⟩

/-- A method of a declaration as one of a contract, with types for the type parameters. -/
def methodWith (m : Model) (d : TypeDecl) (declaringType : TypeRef) (types : String → TypeRef)
    (declaration : MethodDecl) : Method where
  name := declaration.name
  returnType := (m.resolve d declaration.returns).referenceWith types
  declaringType := declaringType
  parameters := declaration.parameters.map fun p ↦ ⟨p.name, (m.resolve d p.type).referenceWith types⟩

/-- The type parameters that occur in the types of a declared method. -/
def parametersInMethod (m : Model) (d : TypeDecl) (declaration : MethodDecl) : List String :=
  (m.resolve d declaration.returns).parametersIn ++
    declaration.parameters.flatMap fun p ↦ (m.resolve d p.type).parametersIn

section Scope

variable {m : Model} {scope : TypeDecl}

theorem parametersIn_named (container name : String) (arguments : List Symbol) :
    (m.named container name arguments).parametersIn = Symbol.parametersInAll arguments := by
  unfold named
  split <;> rw [Symbol.parametersIn]

/-- Assumes: type arguments in which only type parameters of the scope occur. So it is in the symbol
of a name that has them. -/
theorem parametersIn_resolveName {arguments : List Symbol}
    (harguments : Symbol.parametersInAll arguments ⊆ scope.typeParameters) (t : TypeExpr) :
    (m.resolveName scope t arguments).parametersIn ⊆ scope.typeParameters := by
  unfold resolveName resolvePath
  split
  · next path _ =>
    dsimp only
    split
    · next hparameter =>
      simp only [Bool.and_eq_true, List.contains_iff_mem] at hparameter
      rw [Symbol.parametersIn]
      exact List.cons_subset.mpr ⟨hparameter.2, List.nil_subset _⟩
    · split <;> exact harguments
  · rw [parametersIn_named]
    exact List.nil_subset _

mutual

/-- The type parameters that occur in a resolved type are those of the declaration that it is written
in. -/
theorem parametersIn_resolve :
    ∀ t : TypeExpr, (m.resolve scope t).parametersIn ⊆ scope.typeParameters
  | .keyword word => by
    rw [resolve, parametersIn_named]
    exact List.nil_subset _
  | .array element rank => by
    rw [resolve, Symbol.parametersIn]
    exact parametersIn_resolve element
  | .nullable inner => by
    have ih := parametersIn_resolve inner
    rw [resolve]
    split
    · rw [parametersIn_named, Symbol.parametersInAll, Symbol.parametersInAll, List.append_nil]
      exact ih
    · exact ih
  | .simple identifier => by
    rw [resolve]
    exact parametersIn_resolveName (List.nil_subset _) _
  | .generic identifier arguments => by
    rw [resolve]
    exact parametersIn_resolveName (parametersInAll_resolveAll arguments) _
  | .qualified left right => by
    rw [resolve]
    exact parametersIn_resolveName (parametersInAll_resolveArguments right) _
  | .aliased label name => by
    rw [resolve]
    exact parametersIn_resolveName (parametersInAll_resolveArguments name) _

theorem parametersInAll_resolveArguments : ∀ t : TypeExpr,
    Symbol.parametersInAll (m.resolveArguments scope t) ⊆ scope.typeParameters
  | .generic identifier arguments => by
    rw [resolveArguments]
    exact parametersInAll_resolveAll arguments
  | .keyword _ | .array _ _ | .nullable _ | .simple _ | .qualified _ _ | .aliased _ _ => by
    simp [resolveArguments, Symbol.parametersInAll]

theorem parametersInAll_resolveAll : ∀ ts : List TypeExpr,
    Symbol.parametersInAll (m.resolveAll scope ts) ⊆ scope.typeParameters
  | [] => by
    rw [resolveAll]
    exact List.nil_subset _
  | first :: rest => by
    rw [resolveAll, Symbol.parametersInAll]
    exact List.append_subset.mpr ⟨parametersIn_resolve first, parametersInAll_resolveAll rest⟩

end

/-- The type parameters that occur in a method are those of the declaration of the method. -/
theorem parametersInMethod_subset (declaration : MethodDecl) :
    m.parametersInMethod scope declaration ⊆ scope.typeParameters := by
  refine List.append_subset.mpr ⟨parametersIn_resolve _, fun name hname ↦ ?_⟩
  obtain ⟨p, -, hp⟩ := List.mem_flatMap.mp hname
  exact parametersIn_resolve p.type hp

end Scope

/-- The methods of a contract are those of a declared type that is used with type arguments: in the
declared methods each type parameter is replaced by its argument. -/
def IsInstantiated (m : Model) (d : TypeDecl) (arguments : List Symbol) (contract : Contract) : Prop :=
  contract.methods = d.methods.map (m.methodWith d contract.type (d.instantiation arguments))

/-- Each type parameter that occurs in a method is used with the type that it stands for by itself. -/
def KeepsParameters (m : Model) (d : TypeDecl) (arguments : List Symbol) (declaration : MethodDecl) :
    Prop :=
  ∀ name ∈ m.parametersInMethod d declaration, d.instantiation arguments name = .plain "" name

/-- How far the contract of a declared type is that of the type with its type arguments. -/
structure IsContractOf (m : Model) (d : TypeDecl) (arguments : List Symbol) (contract : Contract) :
    Prop where
  /-- The type has its arguments. -/
  type : contract.type = ⟨d.container, d.name, arguments.map Symbol.reference⟩
  /-- There is one method for each declared one, in order. It is that of the type with its arguments
  just when these keep its type parameters. -/
  method_eq_iff : List.Forall₂ (fun declaration method ↦
    method = m.methodWith d contract.type (d.instantiation arguments) declaration ↔
      m.KeepsParameters d arguments declaration) d.methods contract.methods
  /-- The methods are those of the type with its arguments just when these keep the type parameters of
  all of them. -/
  isInstantiated_iff : m.IsInstantiated d arguments contract ↔
    ∀ declaration ∈ d.methods, m.KeepsParameters d arguments declaration
  /-- Only type parameters of the type occur in its methods. -/
  parameters : ∀ declaration ∈ d.methods, m.parametersInMethod d declaration ⊆ d.typeParameters

variable {m : Model} {settings : Settings} {d : TypeDecl}

/-- Two choices of types make the same method of a declared one just when they agree on the type
parameters that occur in it. -/
theorem methodWith_eq_iff {declaration : MethodDecl} {types others : String → TypeRef}
    (declaringType : TypeRef) :
    m.methodWith d declaringType types declaration =
        m.methodWith d declaringType others declaration ↔
      ∀ name ∈ m.parametersInMethod d declaration, types name = others name := by
  rw [methodWith, methodWith, Method.mk.injEq, and_iff_right rfl, and_iff_right rfl,
    Symbol.referenceWith_eq_iff, List.map_inj_left, parametersInMethod, List.forall_mem_append,
    List.forall_mem_flatMap]
  refine and_congr_right fun _ ↦ forall₂_congr fun p _ ↦ ?_
  rw [Parameter.mk.injEq, and_iff_right rfl, Symbol.referenceWith_eq_iff]

/-- The contract of a declared type has the methods of the declaration, whatever the arguments are. -/
theorem extractContract_declared_eq_ok_iff {assembly : String} {arguments : List Symbol}
    {contract : Contract} :
    (m.host.extractContract (.declared assembly d arguments)).result = .ok contract ↔
      m.host.typeRef (.declared assembly d arguments) = .ok contract.type ∧
        (d.methods.map (m.methodSymbol d)).mapM (m.host.extractMethod contract.type) =
          .ok contract.methods := by
  have hmethods : (m.host.members (.declared assembly d arguments)).filterMap Member.method? =
      d.methods.map (m.methodSymbol d) := by
    show (d.members.map (m.memberSymbol d)).filterMap Member.method? =
      (d.members.filterMap MemberDecl.method?).map (m.methodSymbol d)
    rw [List.filterMap_map, List.map_filterMap]
    exact List.filterMap_congr fun member _ ↦ by cases member <;> rfl
  rw [Host.extractContract_eq_ok_iff, hmethods]

/-- A method is extracted with each type parameter for itself. -/
theorem methodWith_eq_of_extractMethod {declaringType : TypeRef} {declaration : MethodDecl}
    {method : Method}
    (h : m.host.extractMethod declaringType (m.methodSymbol d declaration) = .ok method) :
    m.methodWith d declaringType (TypeRef.plain "") declaration = method := by
  have htypeRef {s : Symbol} {r : TypeRef} (hr : m.host.typeRef s = .ok r) :
      s.referenceWith (TypeRef.plain "") = r := by
    rw [Symbol.referenceWith_plain]
    exact (typeRef_host_eq_ok_iff.mp hr).1
  have hparameter (p : ParameterSymbol Symbol) (parameter : Parameter)
      (hp : m.host.extractParameter p = .ok parameter) :
      (⟨p.name, p.type.referenceWith (TypeRef.plain "")⟩ : Parameter) = parameter := by
    obtain ⟨type, htype, hparameter⟩ := bind_eq_ok_iff.mp hp
    rw [htypeRef htype]
    exact Except.ok.inj hparameter
  rw [Host.extractMethod] at h
  obtain ⟨parameters, hparameters, hnext⟩ := bind_eq_ok_iff.mp h
  obtain ⟨returnType, hreturns, hmethod⟩ := bind_eq_ok_iff.mp hnext
  obtain rfl := Except.ok.inj hmethod
  rw [eq_map_of_mapM_eq_ok hparameter hparameters, ← htypeRef hreturns, methodWith, methodSymbol,
    List.map_map]
  rfl

/-- The contract of a declared type, if it can be extracted. -/
theorem isContractOf_of_extractContract {assembly : String} {arguments : List Symbol}
    {contract : Contract}
    (h : (m.host.extractContract (.declared assembly d arguments)).result = .ok contract) :
    m.IsContractOf d arguments contract := by
  obtain ⟨htypeRef, hextracted⟩ := extractContract_declared_eq_ok_iff.mp h
  rw [List.mapM_map] at hextracted
  have hmethods : contract.methods = d.methods.map (m.methodWith d contract.type (TypeRef.plain "")) :=
    eq_map_of_mapM_eq_ok (fun _ _ h ↦ methodWith_eq_of_extractMethod h) hextracted
  have heach (declaration : MethodDecl) :
      m.methodWith d contract.type (TypeRef.plain "") declaration =
          m.methodWith d contract.type (d.instantiation arguments) declaration ↔
        m.KeepsParameters d arguments declaration := by
    rw [methodWith_eq_iff]
    exact forall₂_congr fun name _ ↦ eq_comm
  constructor
  case type => rw [← (typeRef_host_eq_ok_iff.mp htypeRef).1, Symbol.reference_declared]
  case method_eq_iff =>
    rw [hmethods, List.forall₂_map_right_iff, List.forall₂_same]
    exact fun declaration _ ↦ heach declaration
  case isInstantiated_iff =>
    rw [IsInstantiated, hmethods, List.map_inj_left]
    exact forall₂_congr fun declaration _ ↦ heach declaration
  case parameters => exact fun declaration _ ↦ parametersInMethod_subset declaration

/-! ### Contracts of hubs -/

/-- The contracts of a hub class are its type argument and its interface. -/
theorem contracts_of_isHub {base server client : TypeExpr} (h : IsHub m settings d base server client)
    (assembly : String) :
    m.host.contracts settings (.declared assembly d []) =
      .ok (m.resolve d client, m.resolve d server) := by
  obtain ⟨declaration, arguments, hbase, hname, hdeclared⟩ := h.declared
  obtain rfl : arguments = [m.resolve d client] := m.arguments_eq_of_resolve h.rightmost hbase hname
  exact (contracts_declared_iff h.kind h.baseList).mpr
    ⟨⟨declaration, hbase, hname, hdeclared⟩, h.client_named, rfl, h.server_interface⟩

/-- Assumes: a hub class of the snapshot. It adds a hub when both of its contracts can be extracted. -/
theorem hub?_eq_some_iff_of_isHub {base server client : TypeExpr} {hub : Hub}
    (hd : d ∈ m.candidates) (h : IsHub m settings d base server client) :
    m.host.hub? settings d = some hub ↔
      hub.bridgeType = .plain d.container d.name ∧
        (m.host.extractContract (m.resolve d client)).result = .ok hub.client ∧
        (m.host.extractContract (m.resolve d server)).result = .ok hub.server := by
  obtain ⟨assembly, hsymbol⟩ := exists_declaredSymbol_eq hd
  have hbridge : m.host.typeRef (.declared assembly d []) = .ok (.plain d.container d.name) := rfl
  have hcandidate : m.host.isCandidate settings d = true :=
    isCandidate_iff.mpr ⟨h.kind, base, server, [client], h.baseList, h.rightmost⟩
  rw [Host.hub?_eq_some_iff, and_iff_right hcandidate, Host.extract_eq_ok_some_iff]
  constructor
  · rintro ⟨s, first, second, hs, hcontracts, hhub⟩
    obtain rfl := Option.some.inj (hsymbol.symm.trans hs)
    rw [contracts_of_isHub h] at hcontracts
    obtain ⟨rfl, rfl⟩ := Prod.mk.inj (Except.ok.inj hcontracts)
    rw [Host.extractHub_eq_ok_iff, hbridge] at hhub
    exact ⟨(Except.ok.inj hhub.1).symm, hhub.2⟩
  · rintro ⟨htype, hparts⟩
    refine ⟨_, _, _, hsymbol, contracts_of_isHub h assembly, ?_⟩
    rw [Host.extractHub_eq_ok_iff, hbridge, htype]
    exact ⟨rfl, hparts⟩

/-- Assumes: a hub that a declaration adds. Each of its contracts, where it is a declared type, has the
type arguments in its own type. It has the methods of the type with these arguments just when each type
parameter that occurs in them is used with the type that it stands for by itself. -/
theorem isInstantiated_contracts_iff {hub : Hub} (hhub : m.host.hub? settings d = some hub) :
    ∃ s client server, m.declaredSymbol d = some s ∧
      m.host.contracts settings s = .ok (client, server) ∧
      (∀ assembly declaration arguments, client = .declared assembly declaration arguments →
        m.IsContractOf declaration arguments hub.client) ∧
      ∀ assembly declaration arguments, server = .declared assembly declaration arguments →
        m.IsContractOf declaration arguments hub.server := by
  obtain ⟨-, hextract⟩ := Host.hub?_eq_some_iff.mp hhub
  obtain ⟨s, client, server, hs, hcontracts, hparts⟩ := Host.extract_eq_ok_some_iff.mp hextract
  obtain ⟨-, hclient, hserver⟩ := Host.extractHub_eq_ok_iff.mp hparts
  refine ⟨s, client, server, hs, hcontracts, ?_, ?_⟩
  · rintro assembly declaration arguments rfl
    exact isContractOf_of_extractContract hclient
  · rintro assembly declaration arguments rfl
    exact isContractOf_of_extractContract hserver

end Model

/-! ### A contract used with a type argument -/

namespace StringServer

open Model

/-- The hub base `Hub<T>`. -/
def base : TypeDecl := ⟨.classType, "", "Hub", ["T"], [], [], []⟩

/-- The interface `IServer<T>` with the method `void Send(T value)`. -/
def contract : TypeDecl := ⟨.interfaceType, "", "IServer", ["T"], [], [],
  [.method ⟨"Send", .keyword "void", [⟨"value", .simple "T"⟩]⟩]⟩

/-- The class `ChatHub : Hub<IClient>, IServer<string>`. -/
def hub : TypeDecl := ⟨.classType, "", "ChatHub", [], [],
  [.generic "Hub" [.simple "IClient"], .generic "IServer" [.keyword "string"]], []⟩

def snapshot : Snapshot := ⟨[⟨"Core", [base]⟩, ⟨"App", [contract, hub]⟩]⟩

def settings : Settings := { hubAssembly := "Core" }

/-- The hub that the class adds. -/
def found : Hub :=
  ⟨.plain "" "ChatHub", ⟨.plain "" "IClient", []⟩,
    ⟨⟨"", "IServer", [.plain "System" "String"]⟩,
      [⟨"Send", .plain "System" "Void", ⟨"", "IServer", [.plain "System" "String"]⟩,
        [⟨"value", .plain "" "T"⟩]⟩]⟩⟩

/-- The class is a hub class, and adds the hub `found`. -/
theorem exists_hub?_eq : ∃ m assembly, ofSnapshot snapshot = .ok m ∧ hub ∈ m.candidates ∧
    m.declaredSymbol hub = some (.declared assembly hub []) ∧
    m.host.contracts settings (.declared assembly hub []) = .ok (.external "" "IClient" [],
      .declared "App" contract [.external "System" "String" []]) ∧
    m.host.hub? settings hub = some found := by
  obtain ⟨m, hm, hsnapshot⟩ := exists_ofSnapshot_eq_ok (s := snapshot) (by decide)
  have hlookup := lookup_eq_of_snapshot_eq hsnapshot
  have hclient : m.resolve hub (.simple "IClient") = .external "" "IClient" [] := by
    unfold resolve resolveName resolvePath
    rw [hlookup]
    rfl
  have hbase : m.resolve hub (.generic "Hub" [.simple "IClient"]) =
      .declared "Core" base [.external "" "IClient" []] := by
    rw [resolve, resolveAll, resolveAll, hclient]
    unfold resolveName resolvePath
    rw [hlookup]
    rfl
  have hstring : m.resolve hub (.keyword "string") = .external "System" "String" [] := by
    unfold resolve named
    rw [hlookup]
    rfl
  have hserver : m.resolve hub (.generic "IServer" [.keyword "string"]) =
      .declared "App" contract [.external "System" "String" []] := by
    rw [resolve, resolveAll, resolveAll, hstring]
    unfold resolveName resolvePath
    rw [hlookup]
    rfl
  have hvoid : m.resolve contract (.keyword "void") = .external "System" "Void" [] := by
    unfold resolve named
    rw [hlookup]
    rfl
  have hmem : hub ∈ m.candidates := by
    rw [candidates, hsnapshot]
    decide
  have hhub : IsHub m settings hub (.generic "Hub" [.simple "IClient"])
      (.generic "IServer" [.keyword "string"]) (.simple "IClient") :=
    ⟨rfl, rfl, rfl, ⟨base, _, hbase, rfl, by decide⟩, by rw [hclient]; rfl, by rw [hserver]; rfl⟩
  -- The parameter of the method is the type parameter, whatever the model finds.
  have hsymbols : contract.methods.map (m.methodSymbol contract) =
      [⟨"Send", .external "System" "Void" [], [⟨"value", .typeParameter "T"⟩]⟩] := by
    rw [← hvoid]
    rfl
  have hextract : (m.host.extractContract
      (.declared "App" contract [.external "System" "String" []])).result = .ok found.server := by
    rw [extractContract_declared_eq_ok_iff, hsymbols]
    exact ⟨rfl, rfl⟩
  have hfound : m.host.hub? settings hub = some found :=
    (hub?_eq_some_iff_of_isHub hmem hhub).mpr
      ⟨rfl, by rw [hclient]; rfl, by rw [hserver]; exact hextract⟩
  obtain ⟨assembly, hsymbol⟩ := exists_declaredSymbol_eq hmem
  have hcontracts := contracts_of_isHub hhub assembly
  rw [hclient, hserver] at hcontracts
  exact ⟨m, assembly, hm, hmem, hsymbol, hcontracts, hfound⟩

end StringServer

namespace Model

open StringServer in
/-- The hub class `ChatHub` implements `IServer<string>`, and is found with a method that is not that of
`IServer<string>`, because the type parameter of `IServer<T>` occurs in it. -/
theorem isInstantiated_contracts_iff_stringServer :
    ∃ m, ofSnapshot StringServer.snapshot = .ok m ∧ m.host.hub? settings hub = some found ∧
      m.IsContractOf contract [.external "System" "String" []] found.server ∧
      ¬ m.IsInstantiated contract [.external "System" "String" []] found.server := by
  obtain ⟨m, assembly, hm, -, hsymbol, hcontracts, hfound⟩ := exists_hub?_eq
  obtain ⟨s, client, server, hs, hparts, -, hserver⟩ := isInstantiated_contracts_iff hfound
  obtain rfl := Option.some.inj (hsymbol.symm.trans hs)
  obtain ⟨-, rfl⟩ := Prod.mk.inj (Except.ok.inj (hcontracts.symm.trans hparts))
  have hcontract := hserver _ _ _ rfl
  refine ⟨m, hm, hfound, hcontract, fun hinstantiated ↦ ?_⟩
  have hkeeps := hcontract.isInstantiated_iff.mp hinstantiated _ List.mem_cons_self
  have hoccurs : "T" ∈ m.parametersInMethod contract
      ⟨"Send", .keyword "void", [⟨"value", .simple "T"⟩]⟩ :=
    List.mem_append_right _ List.mem_cons_self
  exact absurd (hkeeps "T" hoccurs) (by decide)

open StringServer in
/-- A hub class implements `IServer<string>`, and a method of `IServer<T>` has a parameter of the type
`T`. It is not extracted with `string`. -/
theorem not_forall_methods_eq_instantiated :
    ¬ ∀ (m : Model) (settings : Settings), ∀ d ∈ m.candidates, ∀ hub,
      m.host.hub? settings d = some hub → ∀ s client server, m.declaredSymbol d = some s →
        m.host.contracts settings s = .ok (client, server) → ∀ assembly declaration arguments,
          server = .declared assembly declaration arguments → declaration.kind = .interfaceType →
            hub.server.methods = declaration.methods.map
              (m.methodWith declaration hub.server.type (declaration.instantiation arguments)) := by
  intro h
  obtain ⟨m, assembly, -, hmem, hsymbol, hcontracts, hfound⟩ := exists_hub?_eq
  have hinstantiated := h m settings hub hmem found hfound _ _ _ hsymbol hcontracts _ _ _ rfl rfl
  have htypes := congrArg (List.map fun method ↦ method.parameters.map (·.type)) hinstantiated
  have hvalue : [[TypeRef.plain "" "T"]] = [[TypeRef.plain "System" "String"]] := htypes
  revert hvalue
  decide

end Model

end HubRelay
