import HubRelay.Discovery.Extraction

/-!
# Discovery

Discovery goes through candidates in order. Each one is looked at by itself: it adds a hub, or a
failure, or nothing, and a failure does not stop the others. A discovery can be cancelled, which is
noticed before the next candidate is looked at; then there is no result at all.
-/

set_option autoImplicit false

namespace HubRelay

/-- A candidate whose hub could not be extracted. -/
structure CandidateFailure where
  /-- The position of the candidate. -/
  index : Nat
  /-- The candidate's name for a reader. -/
  candidate : String
  error : ExtractionError
deriving DecidableEq, Repr

/-- What has been discovered. -/
structure Discovery where
  /-- The hubs, in order of the candidates. -/
  hubs : List Hub := []
  failures : List CandidateFailure := []
deriving DecidableEq, Repr

/-- What one candidate adds to a discovery. -/
inductive Finding
  | nothing
  | hub (hub : Hub)
  | failure (failure : CandidateFailure)
deriving DecidableEq, Repr

namespace Finding

/-- The hub of a finding. -/
def hub? : Finding → Option Hub
  | hub found => some found
  | nothing | failure _ => none

/-- The failure of a finding. -/
def failure? : Finding → Option CandidateFailure
  | failure found => some found
  | nothing | hub _ => none

end Finding

/-- The hubs and the failures of findings, in order. -/
def Discovery.ofFindings (findings : List Finding) : Discovery where
  hubs := findings.filterMap Finding.hub?
  failures := findings.filterMap Finding.failure?

namespace Host

variable {ν σ : Type}

/-- The name of a candidate in a failure: how its symbol is displayed, or else its position. -/
def candidateName (host : Host ν σ) (index : Nat) (node : ν) : String :=
  match host.symbol? node with
  | some s => host.display s
  | none => "#" ++ toString index

/-- What a candidate adds, and the events on the way. -/
def examine (host : Host ν σ) (settings : Settings) (index : Nat) (node : ν) :
    List Event × Finding :=
  let before := host.candidateEvents settings node
  if host.isCandidate settings node then
    let extraction := host.extract settings node
    let events := before ++ extraction.events
    match extraction.result with
    | .ok (some hub) => (events ++ [.found hub.bridgeType], .hub hub)
    | .ok none => (events, .nothing)
    | .error error =>
      let candidate := host.candidateName index node
      (events ++ [.skippedCandidate candidate error], .failure ⟨index, candidate, error⟩)
  else (before, .nothing)

/-- The findings of candidates, the first of which is at position `index`. With `cancelAt`, the
discovery is cancelled while the candidate at that position is handed out. -/
def findings (host : Host ν σ) (settings : Settings) (cancelAt : Option Nat) (index : Nat) :
    List ν → Traced (List Finding)
  | [] => pure []
  | node :: rest =>
    if cancelAt.any (· ≤ index) then ⟨[.cancelled index], .error .cancelled⟩
    else
      let (events, finding) := host.examine settings index node
      do
        let _ ← (⟨events, .ok ()⟩ : Traced Unit)
        return finding :: (← findings host settings cancelAt (index + 1) rest)

/-- Discovers the hubs among candidates. -/
def discover (host : Host ν σ) (settings : Settings) (cancelAt : Option Nat)
    (candidates : List ν) : Traced Discovery := do
  let discovery := Discovery.ofFindings (← host.findings settings cancelAt 0 candidates)
  Traced.emit (.finished discovery.hubs.length discovery.failures.length)
  return discovery

end Host

end HubRelay
