import HubRelay.Discovery.Extraction
import HubRelay.Discovery.Snapshot
import HubRelay.Proofs.Snapshot.Acceptance
import Mathlib.Logic.Relation

/-!
# Symbols that are reached from a declaration

Discovery asks symbols for other symbols: for base types, interfaces and the types of members, which are
written in the declaration of the symbol, and for type arguments and the elements of arrays, which are
written where the symbol itself is. `Model.LeadsTo` is one such question, so what is reached from a
declaration are the occurrences that follow it by any number of these steps.

Every expression is resolved to a symbol that says the truth about the snapshot (`Model.IsResolved`): a
declared type is where it says and has a type argument for each type parameter, an external type is not
declared, and a type parameter is one of the declaration that it is written in. A step keeps this
(`Model.LeadsTo.isResolved`). It even establishes it, since the symbol of a declaration itself has no
type arguments, whatever its type parameters are; therefore all that is reached in at least one step is
resolved in this sense (`Model.isResolved_of_reached`). In particular no base type has one type parameter
and another number of type arguments, so no candidate is rejected for that.
-/

set_option autoImplicit false

namespace HubRelay

/-! ### Navigation -/

/-- The symbols of the types in a member. Members that are no methods show none. -/
def Member.types {σ : Type} : Member σ → List σ
  | method symbol => symbol.returnType :: symbol.parameters.map (·.type)
  | other _ => []

/-- A symbol with the declaration that it is written in. -/
structure Occurrence where
  scope : TypeDecl
  symbol : Symbol

namespace Model

/-- One step from a symbol to the next. Bases and members are written in the declaration of the symbol.
-/
inductive LeadsTo (m : Model) : Occurrence → Occurrence → Prop
  | baseType {scope d : TypeDecl} {s base : Symbol} (hs : s.declaration? = some d)
      (hbase : m.baseType s = some base) : LeadsTo m ⟨scope, s⟩ ⟨d, base⟩
  | interface {scope d : TypeDecl} {s contract : Symbol} (hs : s.declaration? = some d)
      (hcontract : contract ∈ m.interfaces s) : LeadsTo m ⟨scope, s⟩ ⟨d, contract⟩
  | member {scope d : TypeDecl} {s part : Symbol} {member : Member Symbol}
      (hs : s.declaration? = some d) (hmember : member ∈ m.members s) (hpart : part ∈ member.types) :
      LeadsTo m ⟨scope, s⟩ ⟨d, part⟩
  | argument {scope : TypeDecl} {s argument : Symbol} (hargument : argument ∈ s.typeArguments) :
      LeadsTo m ⟨scope, s⟩ ⟨scope, argument⟩
  | element {scope : TypeDecl} {element : Symbol} {rank : Nat} :
      LeadsTo m ⟨scope, .array element rank⟩ ⟨scope, element⟩

/-! ### Resolved symbols -/

/-- A symbol written in `scope` says the truth about the snapshot, in all its parts. -/
inductive IsResolved (m : Model) (scope : TypeDecl) : Symbol → Prop
  /-- The declaration stands in this assembly and in no other, and has a type parameter for each type
  argument. -/
  | declared {assembly : String} {d : TypeDecl} {arguments : List Symbol}
      (hassembly : ∀ other, (other, d) ∈ m.snapshot.declarations ↔ other = assembly)
      (hcount : arguments.length = d.typeParameters.length)
      (harguments : ∀ argument ∈ arguments, IsResolved m scope argument) :
      IsResolved m scope (.declared assembly d arguments)
  /-- No declaration has this name and this number of type parameters. -/
  | external {container name : String} {arguments : List Symbol}
      (hunknown : ∀ d ∈ m.candidates, d.key ≠ (container, name, arguments.length))
      (harguments : ∀ argument ∈ arguments, IsResolved m scope argument) :
      IsResolved m scope (.external container name arguments)
  /-- The declaration that the symbol is written in has a type parameter with this name. -/
  | typeParameter {name : String} (hname : name ∈ scope.typeParameters) :
      IsResolved m scope (.typeParameter name)
  | array {element : Symbol} {rank : Nat} (helement : IsResolved m scope element) :
      IsResolved m scope (.array element rank)

namespace IsResolved

variable {m : Model} {scope : TypeDecl}

/-- What a look-up finds is resolved if the type arguments are. -/
theorem of_lookup {container name assembly : String} {arguments : List Symbol} {d : TypeDecl}
    (h : m.lookup container name arguments.length = some (assembly, d))
    (harguments : ∀ argument ∈ arguments, m.IsResolved scope argument) :
    m.IsResolved scope (.declared assembly d arguments) := by
  obtain ⟨hmem, hkey⟩ := lookup_eq_some_iff.mp h
  refine .declared (fun other ↦ ⟨fun hother ↦ ?_, ?_⟩) (key_of_lookup h).2.2.symm harguments
  · have hsame := lookup_eq_some_iff.mpr ⟨hother, hkey⟩
    exact (Prod.mk.inj (Option.some.inj (hsame.symm.trans h))).1
  · rintro rfl
    exact hmem

/-- The type arguments of a resolved symbol are resolved. -/
theorem typeArguments {s : Symbol} (h : m.IsResolved scope s) :
    ∀ argument ∈ s.typeArguments, m.IsResolved scope argument := by
  cases h with
  | declared _ _ harguments => exact harguments
  | external _ harguments => exact harguments
  | typeParameter _ | array _ => exact List.forall_mem_nil _

/-- A resolved symbol has as many type arguments as type parameters. -/
theorem length_typeParameters {s : Symbol} (h : m.IsResolved scope s) :
    s.typeParameters.length = s.typeArguments.length := by
  cases h with
  | declared _ hcount _ => exact hcount.symm
  | @external container name arguments _ _ =>
    show ((List.range arguments.length).map _).length = arguments.length
    rw [List.length_map, List.length_range]
  | typeParameter _ | array _ => rfl

end IsResolved

section Resolution

variable {m : Model} {scope : TypeDecl}

/-- The type with a full name is resolved, declared or not. -/
theorem isResolved_named (container name : String) {arguments : List Symbol}
    (harguments : ∀ argument ∈ arguments, m.IsResolved scope argument) :
    m.IsResolved scope (m.named container name arguments) := by
  unfold named
  split
  · next h => exact .of_lookup h harguments
  · next h => exact .external (lookup_eq_none_iff.mp h) harguments

/-- A name is resolved if its type arguments are. -/
theorem isResolved_resolvePath (path : TypeExpr.Path) {arguments : List Symbol}
    (harguments : ∀ argument ∈ arguments, m.IsResolved scope argument) :
    m.IsResolved scope (m.resolvePath scope path arguments) := by
  unfold resolvePath
  dsimp only
  split
  · next hparameter =>
    simp only [Bool.and_eq_true, List.contains_iff_mem] at hparameter
    exact .typeParameter hparameter.2
  · split
    · next hfound =>
      obtain ⟨container, -, hlookup⟩ := List.exists_of_findSome?_eq_some hfound
      exact .of_lookup hlookup harguments
    · next hnowhere =>
      -- The name keeps the qualifier that it is written with, which has been searched in vain.
      have hnone := List.findSome?_eq_none_iff.mp hnowhere _ (qualifier_mem_searched scope path)
      exact .external (lookup_eq_none_iff.mp hnone) harguments

/-- An expression for a name is resolved if its type arguments are, whether it has a path or not. -/
theorem isResolved_resolveName (t : TypeExpr) {arguments : List Symbol}
    (harguments : ∀ argument ∈ arguments, m.IsResolved scope argument) :
    m.IsResolved scope (m.resolveName scope t arguments) := by
  unfold resolveName
  split
  · exact isResolved_resolvePath _ harguments
  · exact isResolved_named _ _ (List.forall_mem_nil _)

mutual

/-- Every type expression is resolved, at any depth of type arguments and arrays. -/
theorem isResolved_resolve : ∀ t : TypeExpr, m.IsResolved scope (m.resolve scope t)
  | .keyword word => by
    rw [resolve]
    exact isResolved_named _ _ (List.forall_mem_nil _)
  | .array element rank => by
    rw [resolve]
    exact .array (isResolved_resolve element)
  | .nullable inner => by
    have ih := isResolved_resolve inner
    rw [resolve]
    split
    · exact isResolved_named _ _ (List.forall_mem_singleton.mpr ih)
    · exact ih
  | .simple identifier => by
    rw [resolve]
    exact isResolved_resolveName _ (List.forall_mem_nil _)
  | .generic identifier arguments => by
    rw [resolve]
    exact isResolved_resolveName _ (isResolved_resolveAll arguments)
  | .qualified left right => by
    rw [resolve]
    exact isResolved_resolveName _ (isResolved_resolveArguments right)
  | .aliased label name => by
    rw [resolve]
    exact isResolved_resolveName _ (isResolved_resolveArguments name)

theorem isResolved_resolveArguments :
    ∀ t : TypeExpr, ∀ s ∈ m.resolveArguments scope t, m.IsResolved scope s
  | .generic identifier arguments => by
    rw [resolveArguments]
    exact isResolved_resolveAll arguments
  | .keyword _ | .array _ _ | .nullable _ | .simple _ | .qualified _ _ | .aliased _ _ => by
    simp [resolveArguments]

theorem isResolved_resolveAll :
    ∀ ts : List TypeExpr, ∀ s ∈ m.resolveAll scope ts, m.IsResolved scope s
  | [] => by
    rw [resolveAll]
    exact List.forall_mem_nil _
  | first :: rest => by
    rw [resolveAll]
    exact List.forall_mem_cons.mpr ⟨isResolved_resolve first, isResolved_resolveAll rest⟩

end

end Resolution

/-! ### Steps and runs -/

section Steps

variable {m : Model}

/-- The bases of a symbol are resolved in its declaration. -/
theorem isResolved_of_mem_bases {s : Symbol} {d : TypeDecl} (hs : s.declaration? = some d) :
    ∀ base ∈ m.bases s, m.IsResolved d base := by
  intro base hbase
  rw [bases, hs] at hbase
  obtain ⟨t, -, rfl⟩ := List.mem_map.mp hbase
  exact isResolved_resolve t

/-- The types of the members of a symbol are resolved in its declaration. -/
theorem isResolved_of_mem_members {s : Symbol} {d : TypeDecl} (hs : s.declaration? = some d)
    {member : Member Symbol} (hmember : member ∈ m.members s) :
    ∀ part ∈ member.types, m.IsResolved d part := by
  rw [members, hs] at hmember
  obtain ⟨declaration, -, rfl⟩ := List.mem_map.mp hmember
  cases declaration with
  | method declaration =>
    refine List.forall_mem_cons.mpr ⟨isResolved_resolve _, fun part hpart ↦ ?_⟩
    obtain ⟨parameter, hparameter, rfl⟩ := List.mem_map.mp hpart
    obtain ⟨p, -, rfl⟩ := List.mem_map.mp hparameter
    exact isResolved_resolve p.type
  | property _ | event _ => exact List.forall_mem_nil _

/-- The parts of an occurrence are resolved, and its declaration is one of the snapshot. The symbol of a
declaration has no type arguments, so it need not be resolved itself for that. -/
structure HasResolvedParts (m : Model) (o : Occurrence) : Prop where
  typeArguments : ∀ argument ∈ o.symbol.typeArguments, m.IsResolved o.scope argument
  element : ∀ element rank, o.symbol = .array element rank → m.IsResolved o.scope element
  declaration : ∀ d, o.symbol.declaration? = some d → d ∈ m.candidates
  scope : o.scope ∈ m.candidates

/-- A resolved symbol that is written in a declaration of the snapshot has resolved parts. -/
theorem IsResolved.hasResolvedParts {scope : TypeDecl} {s : Symbol} (h : m.IsResolved scope s)
    (hscope : scope ∈ m.candidates) : m.HasResolvedParts ⟨scope, s⟩ where
  typeArguments := h.typeArguments
  element := by
    rintro element rank rfl
    cases h with
    | array helement => exact helement
  declaration := by
    intro d hd
    cases h with
    | @declared assembly e arguments hassembly _ _ =>
      obtain rfl := Option.some.inj hd
      rw [candidates, ← Snapshot.map_snd_declarations]
      exact List.mem_map_of_mem (f := Prod.snd) ((hassembly assembly).mpr rfl)
    | external _ _ | typeParameter _ | array _ => cases hd
  scope := hscope

/-- The symbol of a declaration has resolved parts: it has none. -/
theorem hasResolvedParts_declared (assembly : String) {d : TypeDecl} (hd : d ∈ m.candidates) :
    m.HasResolvedParts ⟨d, .declared assembly d []⟩ where
  typeArguments := List.forall_mem_nil _
  element := fun _ _ h ↦ Symbol.noConfusion h
  declaration := by
    rintro e he
    rwa [← Option.some.inj he]
  scope := hd

/-- A step from an occurrence with resolved parts leads to a resolved symbol, which is written in a
declaration of the snapshot. -/
theorem LeadsTo.isResolved {o next : Occurrence} (h : m.LeadsTo o next) (ho : m.HasResolvedParts o) :
    next.scope ∈ m.candidates ∧ m.IsResolved next.scope next.symbol := by
  cases h with
  | baseType hs hbase =>
    exact ⟨ho.declaration _ hs, isResolved_of_mem_bases hs _ (mem_bases_of_baseType hbase)⟩
  | interface hs hcontract =>
    exact ⟨ho.declaration _ hs, isResolved_of_mem_bases hs _ (mem_bases_of_mem_interfaces hcontract)⟩
  | member hs hmember hpart =>
    exact ⟨ho.declaration _ hs, isResolved_of_mem_members hs hmember _ hpart⟩
  | argument hargument => exact ⟨ho.scope, ho.typeArguments _ hargument⟩
  | element => exact ⟨ho.scope, ho.element _ _ rfl⟩

/-- So does any number of steps, as long as there is one. -/
theorem isResolved_of_transGen {o last : Occurrence} (h : Relation.TransGen m.LeadsTo o last)
    (ho : m.HasResolvedParts o) : last.scope ∈ m.candidates ∧ m.IsResolved last.scope last.symbol := by
  induction h with
  | single hstep => exact hstep.isResolved ho
  | tail _ hstep ih =>
    obtain ⟨hscope, hresolved⟩ := ih
    exact hstep.isResolved (hresolved.hasResolvedParts hscope)

end Steps

end Model

/-! ### Rejections -/

namespace Traced

variable {α β : Type}

/-- What happens in a sequence of steps happens in the first, or in the next after it succeeds. -/
theorem mem_events_bind {first : Traced α} {next : α → Traced β} {event : Event}
    (h : event ∈ (first >>= next).events) :
    event ∈ first.events ∨ ∃ value, first.result = .ok value ∧ event ∈ (next value).events := by
  simp only [bind, andThen] at h
  split at h
  · next value hvalue =>
    exact (List.mem_append.mp h).imp_right fun hnext ↦ ⟨value, hvalue, hnext⟩
  · exact .inl h

end Traced

namespace Host

variable {ν σ : Type} {host : Host ν σ} {settings : Settings}

/-- While the methods of a contract are extracted, nothing is rejected. -/
theorem rejected_notMem_extractMethods {candidate : String} {reason : Rejection}
    (declaringType : TypeRef) (members : List (Member σ)) :
    .rejected candidate reason ∉ (host.extractMethods declaringType members).events := by
  induction members with
  | nil => exact List.not_mem_nil
  | cons member rest ih =>
    intro h
    cases member with
    | other name =>
      rw [extractMethods] at h
      obtain hskipped | ⟨-, -, hrest⟩ := Traced.mem_events_bind h
      · exact Event.noConfusion (List.mem_singleton.mp hskipped)
      · exact ih hrest
    | method symbol =>
      rw [extractMethods] at h
      obtain hquiet | ⟨method, -, hrest⟩ := Traced.mem_events_bind h
      · exact List.not_mem_nil hquiet
      · obtain hmethods | ⟨_, -, hnone⟩ := Traced.mem_events_bind hrest
        · exact ih hmethods
        · exact List.not_mem_nil hnone

/-- While a contract is extracted, nothing is rejected. -/
theorem rejected_notMem_extractContract {candidate : String} {reason : Rejection} (s : σ) :
    .rejected candidate reason ∉ (host.extractContract s).events := by
  intro h
  rw [extractContract] at h
  obtain hquiet | ⟨type, -, hrest⟩ := Traced.mem_events_bind h
  · exact List.not_mem_nil hquiet
  · obtain hmethods | ⟨_, -, hnone⟩ := Traced.mem_events_bind hrest
    · exact rejected_notMem_extractMethods _ _ hmethods
    · exact List.not_mem_nil hnone

/-- While a hub is extracted, nothing is rejected. -/
theorem rejected_notMem_extractHub {candidate : String} {reason : Rejection} (s client server : σ) :
    .rejected candidate reason ∉ (host.extractHub s client server).events := by
  intro h
  rw [extractHub] at h
  obtain hquiet | ⟨bridgeType, -, hclient⟩ := Traced.mem_events_bind h
  · exact List.not_mem_nil hquiet
  obtain hcontract | ⟨_, -, hserver⟩ := Traced.mem_events_bind hclient
  · exact rejected_notMem_extractContract _ hcontract
  obtain hcontract | ⟨_, -, hnone⟩ := Traced.mem_events_bind hserver
  · exact rejected_notMem_extractContract _ hcontract
  · exact List.not_mem_nil hnone

/-- A candidate is rejected for the reason that its symbol has no contracts for. -/
theorem contracts_eq_of_rejected {node : ν} {candidate : String} {reason : Rejection}
    (h : .rejected candidate reason ∈ (host.extract settings node).events) :
    ∃ s, host.symbol? node = some s ∧ host.contracts settings s = .error reason := by
  unfold extract at h
  split at h
  · obtain hnone | ⟨-, -, hnone⟩ := Traced.mem_events_bind h
    · exact Event.noConfusion (List.mem_singleton.mp hnone)
    · exact absurd hnone List.not_mem_nil
  · next s hs =>
    split at h
    · next found hcontracts =>
      obtain hrejected | ⟨-, -, hnone⟩ := Traced.mem_events_bind h
      · obtain ⟨-, rfl⟩ := Event.rejected.inj (List.mem_singleton.mp hrejected)
        exact ⟨s, hs, hcontracts⟩
      · exact absurd hnone List.not_mem_nil
    · obtain hhub | ⟨_, -, hnone⟩ := Traced.mem_events_bind h
      · exact absurd hhub (rejected_notMem_extractHub _ _ _)
      · exact absurd hnone List.not_mem_nil

/-- A symbol has no contracts for the number of its type arguments only if its base type has one type
parameter and not one type argument. -/
theorem length_ne_of_typeArgumentCount {s : σ}
    (h : host.contracts settings s = .error .typeArgumentCount) :
    ∃ base, host.baseType? s = some base ∧
      (host.typeParameters base).length ≠ (host.typeArguments base).length := by
  unfold contracts at h
  split at h
  · cases h
  · next base hbase =>
    refine ⟨base, hbase, fun hcount ↦ ?_⟩
    by_cases hassembly : host.assembly? base ≠ some settings.hubAssembly
    · rw [if_pos hassembly] at h
      cases h
    by_cases hname : host.name base ≠ settings.hubBaseName
    · rw [if_neg hassembly, if_pos hname] at h
      cases h
    by_cases hparameters : (host.typeParameters base).length ≠ 1
    · rw [if_neg hassembly, if_neg hname, if_pos hparameters] at h
      cases h
    obtain ⟨client, hclient⟩ := List.length_eq_one_iff.mp (hcount.symm.trans (not_not.mp hparameters))
    rw [if_neg hassembly, if_neg hname, if_neg hparameters, hclient] at h
    dsimp only at h
    split at h
    · cases h
    · split at h <;> cases h

end Host

namespace Model

variable {m : Model}

/-- Assumes: a declaration of the snapshot. Whatever is reached from its symbol in at least one step is
written in a declaration of the snapshot, says the truth about the snapshot, and has as many type
arguments as type parameters. So the declaration is never rejected for the number of type arguments. -/
theorem isResolved_of_reached {d : TypeDecl} (hd : d ∈ m.candidates) :
    ∃ assembly, m.declaredSymbol d = some (.declared assembly d []) ∧
      (∀ scope s, Relation.TransGen m.LeadsTo ⟨d, .declared assembly d []⟩ ⟨scope, s⟩ →
        scope ∈ m.candidates ∧ m.IsResolved scope s ∧
          s.typeParameters.length = s.typeArguments.length) ∧
      ∀ settings candidate,
        Event.rejected candidate .typeArgumentCount ∉ (m.host.extract settings d).events := by
  obtain ⟨assembly, hsymbol⟩ := exists_declaredSymbol_eq hd
  have hreached {scope : TypeDecl} {s : Symbol}
      (h : Relation.TransGen m.LeadsTo ⟨d, .declared assembly d []⟩ ⟨scope, s⟩) :
      scope ∈ m.candidates ∧ m.IsResolved scope s :=
    isResolved_of_transGen h (hasResolvedParts_declared assembly hd)
  refine ⟨assembly, hsymbol, fun scope s h ↦ ?_, fun settings candidate h ↦ ?_⟩
  · obtain ⟨hscope, hresolved⟩ := hreached h
    exact ⟨hscope, hresolved, hresolved.length_typeParameters⟩
  · obtain ⟨s, hs, hcontracts⟩ := Host.contracts_eq_of_rejected h
    obtain rfl := Option.some.inj (hsymbol.symm.trans hs)
    obtain ⟨base, hbase, hcount⟩ := Host.length_ne_of_typeArgumentCount hcontracts
    obtain ⟨-, hresolved⟩ := hreached (.single (.baseType rfl hbase))
    exact hcount hresolved.length_typeParameters

/-- From a class over `SignalR.Hub<T>`, the base type leads to an interface that the snapshot does not
declare, and to the type parameter that a method of `Hub` returns. -/
theorem isResolved_of_reached_hubMethod :
    let base : TypeDecl := ⟨.classType, "SignalR", "Hub", ["T"], [], [],
      [.method ⟨"Clients", .simple "T", []⟩]⟩
    let hub : TypeDecl := ⟨.classType, "Chat", "ChatHub", [], ["SignalR"],
      [.generic "Hub" [.simple "IClient"], .simple "IServer"], []⟩
    ∃ m, ofSnapshot ⟨[⟨"Core", [base]⟩, ⟨"Chat", [hub]⟩]⟩ = .ok m ∧ hub ∈ m.candidates ∧
      m.IsResolved hub (.external "" "IClient" []) ∧ m.IsResolved base (.typeParameter "T") ∧
      ∀ settings candidate,
        Event.rejected candidate .typeArgumentCount ∉ (m.host.extract settings hub).events := by
  intro base hub
  obtain ⟨m, hm, hsnapshot⟩ := exists_ofSnapshot_eq_ok
    (s := ⟨[⟨"Core", [base]⟩, ⟨"Chat", [hub]⟩]⟩) (by decide +kernel)
  have hmem : hub ∈ m.candidates := by
    rw [candidates, hsnapshot]
    exact List.mem_cons_of_mem _ List.mem_cons_self
  have hclient : m.resolve hub (.simple "IClient") = .external "" "IClient" [] := by
    have hfound : (searched hub ⟨none, [], "IClient", []⟩).findSome?
        (m.lookup · (withoutAt "IClient") 0) = none := by
      simp only [lookup_eq_find?, hsnapshot]
      decide +kernel
    rw [resolve, resolveName]
    show m.resolvePath hub ⟨none, [], "IClient", []⟩ [] = _
    rw [resolvePath, List.length_nil, hfound]
    rfl
  have hbase : m.resolve hub (.generic "Hub" [.simple "IClient"]) =
      .declared "Core" base [.external "" "IClient" []] := by
    have hfound : (searched hub ⟨none, [], "Hub", [.simple "IClient"]⟩).findSome?
        (m.lookup · (withoutAt "Hub") 1) = some ("Core", base) := by
      simp only [lookup_eq_find?, hsnapshot]
      decide +kernel
    rw [resolve, resolveName, resolveAll, hclient]
    show m.resolvePath hub ⟨none, [], "Hub", [.simple "IClient"]⟩ [.external "" "IClient" []] = _
    rw [resolvePath, List.length_singleton, hfound]
    rfl
  obtain ⟨assembly, -, hreached, hcount⟩ := isResolved_of_reached hmem
  have hhub : m.LeadsTo ⟨hub, .declared assembly hub []⟩
      ⟨hub, .declared "Core" base [.external "" "IClient" []]⟩ := by
    refine .baseType rfl ?_
    simp [baseType, bases, Symbol.declaration?, hub, hbase, Symbol.isInterface, base]
  have hmethod : m.LeadsTo ⟨hub, .declared "Core" base [.external "" "IClient" []]⟩
      ⟨base, .typeParameter "T"⟩ := by
    refine .member rfl List.mem_cons_self (List.mem_cons.mpr (.inl ?_))
    show _ = m.resolve base (.simple "T")
    rw [resolve, resolveName]
    show _ = m.resolvePath base ⟨none, [], "T", []⟩ []
    rw [resolvePath]
    rfl
  have hargument := Relation.TransGen.tail (.single hhub) (.argument List.mem_cons_self)
  have hparameter := Relation.TransGen.tail (.single hhub) hmethod
  exact ⟨m, hm, hmem, (hreached _ _ hargument).2.1, (hreached _ _ hparameter).2.1, hcount⟩

end Model

end HubRelay
