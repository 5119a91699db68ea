import StoreTheIndex.Daemon.Loop

/-!
# The reload deadlock

The SIGHUP case and the tick case of the loop put `nil` on `reloadErrsChan` with a blocking send.
The channel holds one request and the loop is its only receiver, so when the buffer is already
full, the send never completes: the loop handles no channel again, a later cancellation
included, and the request in the buffer is never answered. The buffer is full when an admin
request waits in it, and also when the nil of an earlier SIGHUP does: two SIGHUPs delivered
before the loop takes the first reload request are enough.

* `Deadlocked`: the loop waits in that send while the buffer is full;
* `step_deadlocked`, `run_deadlocked`: no step and no run leaves such a state, and none changes
  the buffer or the replies;
* **`reloadSig_deadlocks`**: from every state in which the loop is in its `select`, SIGHUPs
  alone drive it into such a state.
-/

namespace StoreTheIndex

/-- The loop waits in `reloadErrsChan <- nil` with the buffer full. -/
def Deadlocked (s : Daemon) : Prop := s.pc = .sendNil ∧ s.reloadErrs.isSome

instance : DecidablePred Deadlocked := fun s => by unfold Deadlocked; infer_instance

section Stuck

variable {S : Setup} {s s' : Daemon}

/-- **No step leaves a deadlock**: only the environment's own buffers change (a signal, a tick,
a server error, the cancellation); the loop takes none of them. -/
theorem step_deadlocked {e : Event} (h : Deadlocked s) (hs : step S s e = some s') :
    Deadlocked s' ∧ s'.reloadErrs = s.reloadErrs ∧ s'.replies = s.replies := by
  obtain ⟨hpc, hbuf⟩ := h
  obtain ⟨r, hr⟩ := Option.isSome_iff_exists.mp hbuf
  cases e <;> simp [step, hpc, hr] at hs
  all_goals first | subst hs | obtain ⟨-, rfl⟩ := hs
  all_goals simp [Deadlocked, hpc, hr]

/-- **No run leaves a deadlock.** -/
theorem run_deadlocked {evs : List Event} (h : Deadlocked s) (hr : run S s evs = some s') :
    Deadlocked s' ∧ s'.reloadErrs = s.reloadErrs ∧ s'.replies = s.replies :=
  run_invariant S (fun t => Deadlocked t ∧ t.reloadErrs = s.reloadErrs ∧ t.replies = s.replies)
    (fun _ _ _ ⟨ht, hb, hrep⟩ hs =>
      let h' := step_deadlocked ht hs
      ⟨h'.1, h'.2.1.trans hb, h'.2.2.trans hrep⟩)
    ⟨h, rfl, rfl⟩ hr

/-- A SIGHUP that the loop takes brings it to the send. -/
theorem run_sighup_signal (hpc : s.pc = .select) :
    run S s [.sighup, .signal] = some { s with sig := false, pc := .sendNil } := by
  simp [run_cons, step, hpc]

end Stuck

/-- **Two SIGHUPs deadlock the loop**: from any state in its `select`, some run of SIGHUPs reaches
a deadlock that no later run moves or gets an answer from. -/
theorem reloadSig_deadlocks (S : Setup) (s : Daemon) (h : s.pc = .select) :
    ∃ evs s', run S s evs = some s' ∧ Deadlocked s' ∧
      ∀ evs' s'', run S s' evs' = some s'' → s''.pc = .sendNil ∧ s''.replies = s'.replies := by
  have hfill : ∃ evs t, run S s evs = some t ∧ t.pc = .select ∧ t.reloadErrs.isSome := by
    cases hr : s.reloadErrs with
    | none =>
      exact ⟨[.sighup, .signal, .sendNil], { s with pc := .select, sig := false, reloadErrs := some none },
        by simp [run_cons, step, h, hr], rfl, rfl⟩
    | some r => exact ⟨[], s, rfl, h, by simp [hr]⟩
  obtain ⟨evs, t, ht, hpc, hbuf⟩ := hfill
  refine ⟨evs ++ [.sighup, .signal], { t with sig := false, pc := .sendNil }, ?_, ⟨rfl, hbuf⟩,
    fun evs' s'' hr => ?_⟩
  · rw [run_append, ht, Option.some_bind, run_sighup_signal hpc]
  · have hd : Deadlocked { t with sig := false, pc := .sendNil } := ⟨rfl, hbuf⟩
    obtain ⟨⟨hpc', -⟩, -, hrep⟩ := run_deadlocked hd hr
    exact ⟨hpc', hrep⟩

theorem sampleDaemon_deadlocks :
    (Daemon.init sampleSetup (sampleConfig 1 []) sampleRuntime none []).pc = .select ∧
      ∃ evs s', run sampleSetup (Daemon.init sampleSetup (sampleConfig 1 []) sampleRuntime none [])
          evs = some s' ∧ Deadlocked s' ∧
        ∀ evs' s'', run sampleSetup s' evs' = some s'' →
          s''.pc = .sendNil ∧ s''.replies = s'.replies :=
  ⟨rfl, reloadSig_deadlocks sampleSetup _ rfl⟩

end StoreTheIndex
