import HubRelay.Generation
import Mathlib.Data.List.Basic

/-!
# Candidates by themselves

What a candidate adds to a discovery is a hub (`Host.hub?`), or a failure with the position of the
candidate (`Host.failure?`), or nothing, and it depends on no other candidate. A discovery that is not
cancelled has the hubs and the failures of all its candidates, in order. One that is cancelled while a
candidate is handed out has no result at all, whatever the candidates before it have added
(`Host.result_discover`).
-/

set_option autoImplicit false

namespace HubRelay

namespace Host

variable {ν σ : Type} (host : Host ν σ) (settings : Settings)

/-! ### One candidate -/

/-- The hub that a candidate adds: the one that is extracted from it, if it passes the first look. -/
def hub? (node : ν) : Option Hub :=
  if host.isCandidate settings node then
    match (host.extract settings node).result with
    | .ok found => found
    | .error _ => none
  else none

/-- The failure that a candidate at a position adds: the error of the extraction, if the candidate
passes the first look. -/
def failure? (index : Nat) (node : ν) : Option CandidateFailure :=
  if host.isCandidate settings node then
    match (host.extract settings node).result with
    | .ok _ => none
    | .error reason => some ⟨index, host.candidateName index node, reason⟩
  else none

variable {host settings}

/-- A candidate adds a hub when it passes the first look and the hub is extracted from it. -/
theorem hub?_eq_some_iff {node : ν} {hub : Hub} :
    host.hub? settings node = some hub ↔
      host.isCandidate settings node = true ∧
        (host.extract settings node).result = .ok (some hub) := by
  unfold hub?
  cases host.isCandidate settings node with
  | false => simp
  | true => cases (host.extract settings node).result <;> simp

/-- A candidate adds a failure when it passes the first look and its extraction fails. -/
theorem failure?_eq_some_iff {index : Nat} {node : ν} {failure : CandidateFailure} :
    host.failure? settings index node = some failure ↔
      host.isCandidate settings node = true ∧
        ∃ reason, (host.extract settings node).result = .error reason ∧
          failure = ⟨index, host.candidateName index node, reason⟩ := by
  unfold failure?
  cases host.isCandidate settings node with
  | false => simp
  | true => cases (host.extract settings node).result <;> simp [eq_comm]

/-- A candidate that adds a failure adds no hub. -/
theorem hub?_eq_none_of_failure? {index : Nat} {node : ν} {failure : CandidateFailure}
    (h : host.failure? settings index node = some failure) : host.hub? settings node = none := by
  obtain ⟨-, reason, hreason, -⟩ := failure?_eq_some_iff.mp h
  rw [Option.eq_none_iff_forall_ne_some]
  intro hub hhub
  rw [(hub?_eq_some_iff.mp hhub).2] at hreason
  cases hreason

variable (host settings)

/-- What is found in a candidate is the hub and the failure that it adds. -/
theorem examine_hub?_and_failure? (index : Nat) (node : ν) :
    (host.examine settings index node).2.hub? = host.hub? settings node ∧
      (host.examine settings index node).2.failure? = host.failure? settings index node := by
  unfold examine hub? failure?
  dsimp only
  cases host.isCandidate settings node with
  | false => exact ⟨rfl, rfl⟩
  | true =>
    rcases (host.extract settings node).result with reason | _ | hub
    · exact ⟨rfl, rfl⟩
    · exact ⟨rfl, rfl⟩
    · exact ⟨rfl, rfl⟩

/-! ### All candidates -/

/-- The hubs that candidates add, in order. -/
def hubs (nodes : List ν) : List Hub := nodes.filterMap (host.hub? settings)

/-- The failures that candidates add, in order. The first candidate is at position `index`. -/
def failuresFrom (index : Nat) (nodes : List ν) : List CandidateFailure :=
  (nodes.zipIdx index).filterMap fun entry ↦ host.failure? settings entry.2 entry.1

/-- The findings of a discovery that is not cancelled are those of its candidates. -/
theorem result_findings_of_le (cancelAt : Option Nat) (index : Nat) (nodes : List ν)
    (h : ∀ k, cancelAt = some k → index + nodes.length ≤ k) :
    (host.findings settings cancelAt index nodes).result =
      .ok ((nodes.zipIdx index).map fun entry ↦ (host.examine settings entry.2 entry.1).2) := by
  induction nodes generalizing index with
  | nil => rfl
  | cons node rest ih =>
    rw [List.length_cons] at h
    have hpassed : cancelAt.any (· ≤ index) = false := by
      cases cancelAt with
      | none => rfl
      | some k =>
        have hk := h k rfl
        exact decide_eq_false (by omega)
    have hrest := ih (index + 1) fun k hk ↦ by have := h k hk; omega
    rw [findings, hpassed]
    simp only [Bool.false_eq_true, if_false, Traced.result_bind, hrest, Traced.result_pure]
    rfl

/-- A discovery that is cancelled while one of its candidates is handed out has no findings. -/
theorem result_findings_of_lt {k index : Nat} {nodes : List ν} (hnodes : nodes ≠ [])
    (hk : k < index + nodes.length) :
    (host.findings settings (some k) index nodes).result = .error .cancelled := by
  induction nodes generalizing index with
  | nil => exact absurd rfl hnodes
  | cons node rest ih =>
    rw [List.length_cons] at hk
    rw [findings]
    by_cases hpassed : k ≤ index
    · rw [Option.any_some, decide_eq_true hpassed, if_pos rfl]
    · have hrest : rest ≠ [] := by
        rintro rfl
        rw [List.length_nil] at hk
        omega
      have hlater := @ih (index + 1) hrest (by omega)
      rw [Option.any_some, decide_eq_false hpassed]
      simp only [Bool.false_eq_true, if_false, Traced.result_bind, hlater]
      rfl

/-- The findings of candidates give the hubs and the failures that the candidates add. -/
theorem ofFindings_eq (index : Nat) (nodes : List ν) :
    Discovery.ofFindings
        ((nodes.zipIdx index).map fun entry ↦ (host.examine settings entry.2 entry.1).2) =
      ⟨host.hubs settings nodes, host.failuresFrom settings index nodes⟩ := by
  have hhubs : nodes = (nodes.zipIdx index).map Prod.fst := (List.zipIdx_map_fst index nodes).symm
  rw [Discovery.ofFindings, List.filterMap_map, List.filterMap_map, hubs, failuresFrom]
  congr 1
  · conv_rhs => rw [hhubs, List.filterMap_map]
    exact List.filterMap_congr fun entry _ ↦ (host.examine_hub?_and_failure? settings _ _).1
  · exact List.filterMap_congr fun entry _ ↦ (host.examine_hub?_and_failure? settings _ _).2

/-- A failure is added by the candidate at its position. -/
theorem exists_failure?_of_mem {index : Nat} {nodes : List ν} {failure : CandidateFailure}
    (h : failure ∈ host.failuresFrom settings index nodes) :
    ∃ i node, nodes[i]? = some node ∧ failure.index = index + i ∧
      host.failure? settings failure.index node = some failure := by
  obtain ⟨⟨node, position⟩, hentry, hfailure⟩ := List.mem_filterMap.mp h
  obtain ⟨hle, hnode⟩ := List.mk_mem_zipIdx_iff_le_and_getElem?_sub.mp hentry
  obtain ⟨-, reason, -, rfl⟩ := failure?_eq_some_iff.mp hfailure
  exact ⟨position - index, node, hnode, (Nat.add_sub_cancel' hle).symm, hfailure⟩

/-- The positions of failures increase. -/
theorem pairwise_index_failuresFrom (index : Nat) (nodes : List ν) :
    (host.failuresFrom settings index nodes).Pairwise (·.index < ·.index) := by
  have hpositions : (nodes.zipIdx index).Pairwise (·.2 < ·.2) := by
    rw [← List.pairwise_map, List.zipIdx_map_snd]
    exact List.pairwise_lt_range'
  refine hpositions.filterMap _ fun first second hlt failure hfailure other hother ↦ ?_
  obtain ⟨-, _, -, rfl⟩ := failure?_eq_some_iff.mp hfailure
  obtain ⟨-, _, -, rfl⟩ := failure?_eq_some_iff.mp hother
  exact hlt

theorem hubs_append_cons (before : List ν) (node : ν) (after : List ν) :
    host.hubs settings (before ++ node :: after) =
      host.hubs settings before ++ (host.hub? settings node).toList ++ host.hubs settings after := by
  rw [hubs, List.filterMap_append, List.filterMap_cons, List.append_assoc]
  cases host.hub? settings node <;> rfl

theorem failuresFrom_append_cons (index : Nat) (before : List ν) (node : ν) (after : List ν) :
    host.failuresFrom settings index (before ++ node :: after) =
      host.failuresFrom settings index before ++
        (host.failure? settings (index + before.length) node).toList ++
        host.failuresFrom settings (index + before.length + 1) after := by
  rw [failuresFrom, List.zipIdx_append, List.filterMap_append, List.zipIdx_cons,
    List.filterMap_cons, List.append_assoc]
  cases host.failure? settings (index + before.length) node <;> rfl

/-- A discovery that is cancelled while one of its candidates is handed out has no result. -/
theorem result_discover_of_lt {k : Nat} {nodes : List ν} (hk : k < nodes.length) :
    (host.discover settings (some k) nodes).result = .error .cancelled := by
  have hnodes : nodes ≠ [] := List.ne_nil_of_length_pos (by omega)
  rw [discover, Traced.result_bind, host.result_findings_of_lt settings hnodes (by omega)]
  rfl

/-- A discovery that is not cancelled before its last candidate has the hubs and the failures that
its candidates add. -/
theorem result_discover_of_le {cancelAt : Option Nat} {nodes : List ν}
    (h : ∀ k, cancelAt = some k → nodes.length ≤ k) :
    (host.discover settings cancelAt nodes).result =
      .ok ⟨host.hubs settings nodes, host.failuresFrom settings 0 nodes⟩ := by
  have hlater : ∀ k, cancelAt = some k → 0 + nodes.length ≤ k := by
    simpa only [Nat.zero_add] using h
  rw [discover, Traced.result_bind, host.result_findings_of_le settings cancelAt 0 nodes hlater]
  exact congrArg Except.ok (host.ofFindings_eq settings 0 nodes)

/-- Discovery is cancelled just when it is cancelled while one of its candidates is handed out.
Otherwise its hubs and its failures are those that the candidates add by themselves, in order. The
positions of the failures increase, and the candidate at the position of a failure adds no hub. With
another candidate in the place of one, only what this one adds is different. -/
theorem result_discover (cancelAt : Option Nat) (nodes : List ν) :
    (host.discover settings cancelAt nodes).result =
        (if cancelAt.any (· < nodes.length) then .error .cancelled
        else .ok ⟨host.hubs settings nodes, host.failuresFrom settings 0 nodes⟩) ∧
      (host.failuresFrom settings 0 nodes).Pairwise (·.index < ·.index) ∧
      (∀ failure ∈ host.failuresFrom settings 0 nodes, ∃ node, nodes[failure.index]? = some node ∧
        host.failure? settings failure.index node = some failure ∧
        host.hub? settings node = none) ∧
      ∀ before node after,
        host.hubs settings (before ++ node :: after) =
            host.hubs settings before ++ (host.hub? settings node).toList ++
              host.hubs settings after ∧
          host.failuresFrom settings 0 (before ++ node :: after) =
            host.failuresFrom settings 0 before ++
              (host.failure? settings before.length node).toList ++
              host.failuresFrom settings (before.length + 1) after := by
  refine ⟨?_, host.pairwise_index_failuresFrom settings 0 nodes, ?_, ?_⟩
  · by_cases hcancelled : cancelAt.any (· < nodes.length) = true
    · obtain ⟨k, rfl, hk⟩ := (Option.any_eq_true _ _).mp hcancelled
      rw [if_pos hcancelled]
      exact host.result_discover_of_lt settings (of_decide_eq_true hk)
    · rw [if_neg hcancelled]
      refine host.result_discover_of_le settings ?_
      rintro k rfl
      simpa using hcancelled
  · intro failure hfailure
    obtain ⟨i, node, hnode, hindex, hadded⟩ := host.exists_failure?_of_mem settings hfailure
    rw [Nat.zero_add] at hindex
    exact ⟨node, hindex ▸ hnode, hadded, hub?_eq_none_of_failure? hadded⟩
  · intro before node after
    have hfailures := host.failuresFrom_append_cons settings 0 before node after
    rw [Nat.zero_add] at hfailures
    exact ⟨host.hubs_append_cons settings before node after, hfailures⟩

end Host

namespace Model

/-- The discovery of a snapshot has the hubs and the failures that its declarations add. -/
theorem discover_eq (m : Model) (settings : Settings) :
    m.discover settings =
      .ok ⟨m.host.hubs settings m.candidates, m.host.failuresFrom settings 0 m.candidates⟩ :=
  m.host.result_discover_of_le settings fun _ h ↦ nomatch h

end Model

end HubRelay
