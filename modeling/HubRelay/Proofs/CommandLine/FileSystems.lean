import HubRelay.CommandLine.Run
import HubRelay.Proofs.CommandLine.FileTree

/-!
# File systems with a state

A run reads files and may write one. What it asks for is answered by a file system, which here has a
state of any kind: an answer can depend on the state, and can change it. Two laws say what is expected
of the answers. Reading leaves the state as it is (`FileSystem.UnchangedByReading`), and what has been
written at a path is read there (`FileSystem.ReadsBack`). The second law is about one path, because a
file system can have places that keep nothing of what is written to them.

A run is a sequence of steps, and stops at the first one that fails (`perform_bind_eq_ok_iff`). Steps
that only read can follow each other without changing the state (`OnlyReads.bind`).

A file tree has the first law, and the second one at every path
(`FileTree.unchangedByReading_fileSystem`, `FileTree.readsBack_fileSystem`).
-/

set_option autoImplicit false

namespace HubRelay

variable {σ α β : Type}

/-! ### Laws -/

/-- Reading a file, or asking whether there is one, leaves the state as it is. -/
structure FileSystem.UnchangedByReading (fs : FileSystem (StateM σ)) : Prop where
  read : ∀ (path : String) (s : σ), ((fs.read path).run s).2 = s
  isFile : ∀ (path : String) (s : σ), ((fs.isFile path).run s).2 = s

/-- What has been written at the path is read there. -/
def FileSystem.ReadsBack (fs : FileSystem (StateM σ)) (path : String) : Prop :=
  ∀ (content : String) (s after : σ), (fs.write path content).run s = (true, after) →
    ((fs.read path).run after).1 = some content

/-! ### Steps -/

/-- The result of a step from a state, and the state after it. -/
def perform (s : σ) (step : ExceptT CommandError (StateM σ) α) : Except CommandError α × σ :=
  step.run.run s

section Steps

variable {s after : σ}

/-- The second of two steps goes on with the value and the state of the first, unless that has failed. -/
theorem perform_bind (s : σ) (first : ExceptT CommandError (StateM σ) α)
    (next : α → ExceptT CommandError (StateM σ) β) :
    perform s (first >>= next) =
      match perform s first with
      | (.ok value, between) => perform between (next value)
      | (.error reason, between) => (.error reason, between) := by
  unfold perform
  rw [ExceptT.run_bind, StateT.run_bind]
  obtain ⟨reason | value, between⟩ := first.run.run s <;> rfl

/-- Two steps succeed when the first has a value and a state with which the second succeeds. -/
theorem perform_bind_eq_ok_iff {first : ExceptT CommandError (StateM σ) α}
    {next : α → ExceptT CommandError (StateM σ) β} {result : β} :
    perform s (first >>= next) = (.ok result, after) ↔
      ∃ value between, perform s first = (.ok value, between) ∧
        perform between (next value) = (.ok result, after) := by
  rw [perform_bind]
  obtain ⟨reason | value, between⟩ := perform s first
  · constructor
    · intro h
      cases h
    · rintro ⟨value, between, h, -⟩
      cases h
  · constructor
    · exact fun h ↦ ⟨value, between, rfl, h⟩
    · rintro ⟨other, otherState, h, hnext⟩
      cases h
      exact hnext

theorem perform_pure (value : α) (s : σ) : perform s (pure value) = (.ok value, s) := rfl

/-- What is asked of the file system does not fail as a step. -/
theorem perform_liftM (action : StateM σ α) (s : σ) :
    perform s (liftM action) = (.ok (action.run s).1, (action.run s).2) := rfl

theorem run_eq_of_perform_liftM {action : StateM σ α} {value : α}
    (h : perform s (liftM action) = (.ok value, after)) : action.run s = (value, after) := by
  rw [perform_liftM] at h
  obtain ⟨hvalue, hafter⟩ := Prod.mk.inj h
  exact Prod.ext (Except.ok.inj hvalue) hafter

/-! ### Steps that only read -/

/-- The step leaves every state as it is. -/
def OnlyReads (step : ExceptT CommandError (StateM σ) α) : Prop := ∀ s : σ, (perform s step).2 = s

theorem onlyReads_pure (value : α) :
    OnlyReads (pure value : ExceptT CommandError (StateM σ) α) := fun _ ↦ rfl

theorem onlyReads_throw (reason : CommandError) :
    OnlyReads (throw reason : ExceptT CommandError (StateM σ) α) := fun _ ↦ rfl

/-- Steps that only read can follow each other. -/
theorem OnlyReads.bind {first : ExceptT CommandError (StateM σ) α}
    {next : α → ExceptT CommandError (StateM σ) β} (hfirst : OnlyReads first)
    (hnext : ∀ value, OnlyReads (next value)) : OnlyReads (first >>= next) := by
  intro s
  have hsame := hfirst s
  rw [perform_bind]
  generalize perform s first = performed at hsame ⊢
  obtain ⟨reason | value, between⟩ := performed
  · exact hsame
  · obtain rfl : between = s := hsame
    exact hnext value between

theorem OnlyReads.eq_of_perform {step : ExceptT CommandError (StateM σ) α} {result}
    (h : OnlyReads step) (hperform : perform s step = (result, after)) : after = s := by
  rw [← h s, hperform]

theorem FileSystem.UnchangedByReading.onlyReads_read {fs : FileSystem (StateM σ)}
    (h : fs.UnchangedByReading) (path : String) :
    OnlyReads (liftM (fs.read path) : ExceptT CommandError (StateM σ) (Option String)) := h.read path

theorem FileSystem.UnchangedByReading.onlyReads_isFile {fs : FileSystem (StateM σ)}
    (h : fs.UnchangedByReading) (path : String) :
    OnlyReads (liftM (fs.isFile path) : ExceptT CommandError (StateM σ) Bool) := h.isFile path

end Steps

/-! ### File trees -/

namespace FileTree

/-- Writing a file says whether it has been written, and leaves the tree with it. -/
theorem run_write (t : FileTree) (path content : String) :
    (fileSystem.write path content).run t =
      (t.write path content).elim (false, t) fun written ↦ (true, written) := by
  simp only [fileSystem, StateT.run_bind, StateT.run_get, pure_bind]
  cases t.write path content <;> rfl

theorem unchangedByReading_fileSystem : fileSystem.UnchangedByReading :=
  ⟨fun _ _ ↦ rfl, fun _ _ ↦ rfl⟩

theorem readsBack_fileSystem (path : String) : fileSystem.ReadsBack path := by
  intro content t after h
  rw [run_write] at h
  cases hwrite : t.write path content with
  | none =>
    rw [hwrite] at h
    cases h
  | some written =>
    rw [hwrite] at h
    cases h
    exact read_of_write hwrite

end FileTree

end HubRelay
