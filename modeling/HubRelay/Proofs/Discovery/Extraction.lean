import HubRelay.Discovery.Extraction
import HubRelay.Proofs.Steps

/-!
# What is extracted

A hub is extracted from a declaration when its symbol has contracts and nothing in the symbol, in the
client contract and in the server contract is refused (`Host.extract_eq_ok_some_iff`). A contract has
the reference of its symbol, and one method for each method among its members, in order
(`Host.extractContract_eq_ok_iff`). So later modules need not follow the extraction step by step.
-/

set_option autoImplicit false

namespace HubRelay

/-- The method that a member is, if it is one. -/
def Member.method? {σ : Type} : Member σ → Option (MethodSymbol σ)
  | method symbol => some symbol
  | other _ => none

namespace Host

variable {ν σ : Type} {host : Host ν σ} {settings : Settings}

/-- The methods of a contract are extracted one after the other, and other members are left out. -/
theorem result_extractMethods (declaringType : TypeRef) (members : List (Member σ)) :
    (host.extractMethods declaringType members).result =
      (members.filterMap Member.method?).mapM (host.extractMethod declaringType) := by
  induction members with
  | nil => rfl
  | cons member rest ih =>
    cases member with
    | other name =>
      have hother : (Member.other name : Member σ).method? = none := rfl
      rw [extractMethods, Traced.result_bind, List.filterMap_cons_none hother, ← ih]
      rfl
    | method symbol =>
      have hmethod : (Member.method symbol).method? = some symbol := rfl
      rw [extractMethods, Traced.result_bind, List.filterMap_cons_some hmethod, List.mapM_cons, ← ih]
      refine congrArg _ (funext fun method ↦ ?_)
      rw [Traced.result_bind]
      rfl

/-- A contract has the reference of its symbol and the methods among the members. -/
theorem extractContract_eq_ok_iff {s : σ} {contract : Contract} :
    (host.extractContract s).result = .ok contract ↔
      host.typeRef s = .ok contract.type ∧
        ((host.members s).filterMap Member.method?).mapM (host.extractMethod contract.type) =
          .ok contract.methods := by
  rw [extractContract, Traced.result_bind, Traced.result_quiet, bind_eq_ok_iff]
  simp only [Traced.result_bind, result_extractMethods, bind_eq_ok_iff]
  constructor
  · rintro ⟨type, htype, methods, hmethods, hcontract⟩
    obtain rfl := Except.ok.inj hcontract
    exact ⟨htype, hmethods⟩
  · rintro ⟨htype, hmethods⟩
    exact ⟨_, htype, _, hmethods, rfl⟩

/-- Assumes: hosts with the same views of symbols, and the same members of one symbol. They extract the
same contract from it, with the same events. -/
theorem extractContract_congr {other : Host ν σ} (hview : other.view = host.view) {s : σ}
    (hmembers : other.members s = host.members s) :
    other.extractContract s = host.extractContract s := by
  have hmethod : other.extractMethod = host.extractMethod := by
    funext declaringType method
    unfold extractMethod extractParameter typeRef
    rw [hview]
  have hmethods (declaringType : TypeRef) (members : List (Member σ)) :
      other.extractMethods declaringType members = host.extractMethods declaringType members := by
    induction members with
    | nil => rfl
    | cons member rest ih =>
      cases member with
      | method symbol => rw [extractMethods, extractMethods, ih, hmethod]
      | other name => rw [extractMethods, extractMethods, ih]
  unfold extractContract typeRef
  simp only [hview, hmembers, hmethods]

/-- A hub has the reference of its symbol and both contracts. -/
theorem extractHub_eq_ok_iff {s client server : σ} {hub : Hub} :
    (host.extractHub s client server).result = .ok hub ↔
      host.typeRef s = .ok hub.bridgeType ∧ (host.extractContract client).result = .ok hub.client ∧
        (host.extractContract server).result = .ok hub.server := by
  rw [extractHub]
  simp only [Traced.result_bind, Traced.result_quiet, bind_eq_ok_iff]
  constructor
  · rintro ⟨bridgeType, hbridge, first, hfirst, second, hsecond, hhub⟩
    obtain rfl := Except.ok.inj hhub
    exact ⟨hbridge, hfirst, hsecond⟩
  · rintro ⟨hbridge, hfirst, hsecond⟩
    exact ⟨_, hbridge, _, hfirst, _, hsecond, rfl⟩

/-- A hub is extracted from a declaration when its symbol has contracts and the hub is extracted from
the symbol and the contracts. -/
theorem extract_eq_ok_some_iff {node : ν} {hub : Hub} :
    (host.extract settings node).result = .ok (some hub) ↔
      ∃ s client server, host.symbol? node = some s ∧
        host.contracts settings s = .ok (client, server) ∧
        (host.extractHub s client server).result = .ok hub := by
  unfold extract
  constructor
  · intro h
    split at h
    · cases Except.ok.inj h
    · next s hs =>
      split at h
      · cases Except.ok.inj h
      · next client server hcontracts =>
        rw [Traced.result_bind] at h
        obtain ⟨found, hfound, hsome⟩ := bind_eq_ok_iff.mp h
        obtain rfl := Option.some.inj (Except.ok.inj hsome)
        exact ⟨s, client, server, hs, hcontracts, hfound⟩
  · rintro ⟨s, client, server, hs, hcontracts, hhub⟩
    rw [hs]
    dsimp only
    rw [hcontracts]
    dsimp only
    rw [Traced.result_bind, hhub]
    rfl

end Host

end HubRelay
