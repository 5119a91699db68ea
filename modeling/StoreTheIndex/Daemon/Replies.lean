import StoreTheIndex.Daemon.Loop

/-!
# Answers to admin reload requests

An admin reload request sends its reply channel on `reloadErrsChan` and waits on it. The loop
takes one request at a time from that one-slot buffer and, in the reload case, writes exactly one
answer to the request's channel: `could not reload configuration`, `could not reload peering
service` or `nil`. A SIGHUP or a changed file puts `nil` in the buffer instead, which gets no
answer. The one exception is a reload with `cfg` nil, which panics before it answers.

So requests behave as a FIFO: the requests answered, in order, followed by the one still in the
buffer, are the one buffered at the start followed by the requests sent, along every run that
does not panic. No request is answered twice, none out of order, and none is lost.

* `Event.request`, `pendingRequest`: the requests a run sends, and the one in the buffer;
* `handleReload_cases`: a reload panics, or answers the request it took once and changes neither
  the buffer nor the earlier answers;
* `step_panicked`: a panicked loop stays so;
* `step_requests`, **`run_requests`**: the conservation law for one step and for every run.

The daemon's settings change only at a reload, as `reloadConfig` leaves them, failing or not,
and at the admin server's allow and block, which change the registry policy.

* `Event.settings`, `handleReload_runtime`, `step_runtime`;
* `run_runtime`: along every run that does not end panicked, the settings are those its events,
  in order, left.
-/

namespace StoreTheIndex

/-- The reply channel an event sends on `reloadErrsChan`: only an admin request has one. -/
def Event.request : Event → Option Nat
  | .adminReload id => some id
  | _ => none

/-- The admin request waiting in `reloadErrsChan`; a `nil` there is no request. -/
def pendingRequest (s : Daemon) : List Nat :=
  match s.reloadErrs with
  | some r => r.toList
  | none => []

/-- The reply channels answered so far, in order. -/
def answered (s : Daemon) : List Nat := s.replies.map Prod.fst

section Reload

variable {S : Setup} {s : Daemon} {file : Option Config} {o : PeeringOutcome} {r : ReloadReq}

/-- **A reload panics, or answers once**: its state is `reply r msg t` for a `t` with the loop's
position, the buffer and the answers of before. -/
theorem handleReload_cases :
    handleReload S file o r s = { s with pc := .panicked } ∨
      ∃ msg t, handleReload S file o r s = reply r msg t ∧ t.pc = s.pc ∧
        t.reloadErrs = s.reloadErrs ∧ t.replies = s.replies := by
  by_cases hc0 : s.cfg = none
  · exact .inl (handleReload_nil hc0)
  · obtain ⟨c, hc⟩ := Option.ne_none_iff_exists'.mp hc0
    right
    cases he : (reloadConfig S.ck file S.ingester S.sth s.runtime).1 with
    | error e => exact ⟨_, _, handleReload_error hc he, rfl, rfl, rfl⟩
    | ok c' =>
      rw [handleReload_ok hc he]
      dsimp only
      split <;>
      · have h := reloadPeers_frame ‹reloadPeers _ _ _ _ = (_, _)›
        exact ⟨_, _, rfl, by rw [h], by rw [h], by rw [h]⟩

end Reload

/-- A panicked loop stays panicked: every case of the loop needs it in its `select` or its
send. -/
theorem step_panicked {S : Setup} {s s' : Daemon} {e : Event} (hp : s.pc = .panicked)
    (hs : step S s e = some s') : s'.pc = .panicked := by
  cases e <;> simp only [step, hp] at hs <;> (try split at hs) <;> cases hs <;> first
    | exact hp
    | simp_all

theorem run_panicked {S : Setup} {evs : List Event} {s s' : Daemon} (hp : s.pc = .panicked)
    (h : run S s evs = some s') : s'.pc = .panicked :=
  run_invariant S (fun t => t.pc = .panicked) (fun _ _ _ => step_panicked) hp h

/-- **One step keeps the conservation law**: answers, buffer and the request the event sends
are the answers and buffer after the step, unless it panics. -/
theorem step_requests {S : Setup} {s s' : Daemon} {e : Event} (hs : step S s e = some s')
    (hp : s'.pc ≠ .panicked) :
    answered s ++ pendingRequest s ++ e.request.toList = answered s' ++ pendingRequest s' := by
  cases e with
  | reload file o =>
    simp only [step] at hs
    split at hs
    · cases hs
      rename_i errChan hpc hr
      rcases @handleReload_cases S { s with reloadErrs := none } file o errChan with h | ⟨msg, t, h, -, hb, ha⟩
      · exact absurd (by rw [h]) hp
      · rw [h, reply_eq]
        cases errChan <;> simp [answered, pendingRequest, Event.request, hb, ha, *]
    · cases hs
  | timer stat =>
    simp only [step] at hs
    split at hs
    · cases hs
      cases stat <;> simp [answered, pendingRequest, Event.request, handleTick]
    · cases hs
  | _ =>
    simp only [step] at hs
    (try split at hs) <;> cases hs
    all_goals simp_all [answered, pendingRequest, Event.request]

/-- **No admin request is lost or answered twice**: along every run that does not panic, the
answers and the buffer are the buffer at the start and the requests sent, in order. -/
theorem run_requests (S : Setup) :
    ∀ {evs : List Event} {s s' : Daemon}, run S s evs = some s' → s'.pc ≠ .panicked →
      answered s ++ pendingRequest s ++ evs.filterMap Event.request =
        answered s' ++ pendingRequest s'
  | [], s, s', h, _ => by cases h; simp
  | e :: es, s, s', h, hp => by
    rw [run_cons] at h
    obtain ⟨t, ht, hr⟩ := Option.bind_eq_some.mp h
    have htp : t.pc ≠ .panicked := fun h' => hp (run_panicked h' hr)
    have hrest := run_requests S hr hp
    rw [← hrest, ← step_requests ht htp]
    cases he : e.request <;> simp [List.filterMap_cons, he]

/-! ## The settings a run leaves -/

/-- What an event does to the settings: a reload leaves them as `reloadConfig` does, and the
admin server's allow and block change the registry policy. -/
def Event.settings (S : Setup) : Event → Runtime → Runtime
  | .reload file _, rt => (reloadConfig S.ck file S.ingester S.sth rt).2
  | .adminAllow peer, rt => { rt with policy := rt.policy.allowPeer peer }
  | .adminBlock peer, rt => { rt with policy := rt.policy.blockPeer peer }
  | _, rt => rt

/-- A reload that does not panic leaves the settings `reloadConfig` leaves. -/
theorem handleReload_runtime {S : Setup} {s : Daemon} {file : Option Config} {o : PeeringOutcome}
    {r : ReloadReq} (hp : (handleReload S file o r s).pc ≠ .panicked) :
    (handleReload S file o r s).runtime = (reloadConfig S.ck file S.ingester S.sth s.runtime).2 := by
  cases hc : s.cfg with
  | none => exact absurd (by simp [handleReload_nil hc]) hp
  | some c =>
    cases he : (reloadConfig S.ck file S.ingester S.sth s.runtime).1 with
    | error e => simp [handleReload_error hc he, reply_eq]
    | ok c' =>
      rw [handleReload_ok hc he]
      dsimp only
      split <;> (have h := reloadPeers_frame ‹reloadPeers _ _ _ _ = (_, _)›; rw [h]; simp [reply_eq])

/-- One step changes the settings as `Event.settings` says. -/
theorem step_runtime {S : Setup} {s s' : Daemon} {e : Event} (hs : step S s e = some s')
    (hp : s'.pc ≠ .panicked) : s'.runtime = e.settings S s.runtime := by
  cases e with
  | reload file o =>
    simp only [step] at hs
    split at hs
    · cases hs
      exact handleReload_runtime hp
    · cases hs
  | timer stat =>
    simp only [step] at hs
    split at hs <;> cases hs
    cases stat <;> rfl
  | _ =>
    simp only [step] at hs
    (try split at hs) <;> cases hs
    all_goals rfl

/-- **The settings are those the run's reloads and admin policy changes left**, applied in order,
along every run that does not end panicked. -/
theorem run_runtime (S : Setup) :
    ∀ {evs : List Event} {s s' : Daemon}, run S s evs = some s' → s'.pc ≠ .panicked →
      s'.runtime = evs.foldl (fun rt e => e.settings S rt) s.runtime
  | [], s, s', h, _ => by cases h; rfl
  | e :: es, s, s', h, hp => by
    rw [run_cons] at h
    obtain ⟨t, ht, hr⟩ := Option.bind_eq_some.mp h
    have htp : t.pc ≠ .panicked := fun h' => hp (run_panicked h' hr)
    rw [run_runtime S hr hp, step_runtime ht htp, List.foldl_cons]

end StoreTheIndex
