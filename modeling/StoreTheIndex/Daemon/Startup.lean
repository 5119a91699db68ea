import StoreTheIndex.Daemon.Replies
import StoreTheIndex.Daemon.PeeringSafety

/-!
# From start-up to every reachable state

`daemonAction` loads the configuration, sets the log levels, creates the value store, datastore,
registry and servers, and, with a libp2p host, starts the peering service with
`reloadPeering(cfg.Peering, nil, p2pHost)`; an error in any of these ends the command. The loop
then starts with `cfg`, that peering service, and nothing in its channels.

`startDaemon` models this start-up as far as the loop depends on it; the components it creates
are described by the `Setup` and their settings come from the configuration. Its state is where
the run invariants of the loop start, so they hold of every state the daemon reaches.

* `startDaemon`, `startDaemon_ok`: the start-up and the state the loop starts in;
* **`startDaemon_requests`**: in every run from start-up that does not panic, admin reload
  requests are answered in the order sent, each once;
* **`startDaemon_peeringSafe`**: in every run from start-up whose peering reloads cannot fail, at
  most one peering service runs and the shutdown path stops it.
-/

namespace StoreTheIndex

/-- `daemonAction` up to its loop: `loadConfig`, `setLoggingConfig` on the registered loggers,
and with a host `reloadPeering(cfg.Peering, nil, p2pHost)`. -/
def startDaemon (S : Setup) (o : PeeringOutcome) (file : Option Config)
    (levels : List (String × String)) : Except String Daemon :=
  match loadConfig file with
  | .error e => .error e
  | .ok cfg =>
    match setLoggingConfig S.ck cfg levels with
    | (some e, _) => .error e
    | (none, levels) =>
      let rt : Runtime := ⟨cfg.policy, cfg.rateLimit, cfg.ingestWorkerCount, levels,
        cfg.corePutConcurrency, cfg.sthFileCacheSize⟩
      if S.host then
        match reloadPeering S.peerAddrs o cfg.peers none [] with
        | ((peering, none), services) => .ok (Daemon.init S cfg rt peering services)
        | ((_, some e), _) => .error ("error loading peering service: " ++ e)
      else .ok (Daemon.init S cfg rt none [])

/-- **The state the loop starts in**: in its `select`, with no request buffered or answered, and
at most one peering service running, the one it refers to. -/
theorem startDaemon_ok {S : Setup} {o : PeeringOutcome} {file : Option Config}
    {levels : List (String × String)} {s : Daemon} (h : startDaemon S o file levels = .ok s) :
    s.pc = .select ∧ answered s = [] ∧ pendingRequest s = [] ∧ PeeringSafe s := by
  unfold startDaemon at h
  cases hl : loadConfig file with
  | error e => rw [hl] at h; cases h
  | ok cfg =>
    rw [hl] at h
    dsimp only at h
    revert h
    rcases setLoggingConfig S.ck cfg levels with ⟨_ | e, lv⟩ <;> intro h
    · cases hhost : S.host
      · simp only [hhost, Bool.false_eq_true, if_false, Except.ok.injEq] at h
        subst h
        exact ⟨rfl, rfl, rfl, fun i hi => absurd hi (Nat.not_lt_zero i)⟩
      · simp only [hhost, if_true] at h
        have hsafe := @reloadPeering_onlyRunning none [] S.peerAddrs o cfg.peers
          (fun i hi => absurd hi (Nat.not_lt_zero i)) (.inr rfl)
        generalize reloadPeering S.peerAddrs o cfg.peers none [] = r at hsafe h
        rcases r with ⟨⟨peering, _ | e⟩, services⟩
        · cases h
          exact ⟨rfl, rfl, rfl, hsafe⟩
        · cases h
    · cases h

section Reachable

variable {S : Setup} {o : PeeringOutcome} {file : Option Config} {levels : List (String × String)}
  {s₀ s : Daemon} {evs : List Event}

/-- **Admin reload requests are answered in order, each once**, in every run from a successful
start-up that does not panic. -/
theorem startDaemon_requests (h₀ : startDaemon S o file levels = .ok s₀)
    (h : run S s₀ evs = some s) (hp : s.pc ≠ .panicked) :
    answered s ++ pendingRequest s = evs.filterMap Event.request := by
  obtain ⟨-, ha, hq, -⟩ := startDaemon_ok h₀
  simpa [ha, hq] using (run_requests S h hp).symm

/-- **At most one peering service runs** in every run from start-up whose peering reloads cannot
fail, and the shutdown path leaves none running. -/
theorem startDaemon_peeringSafe (h₀ : startDaemon S o file levels = .ok s₀)
    (hclean : ∀ e ∈ evs, CleanPeering S e) (h : run S s₀ evs = some s) :
    PeeringSafe s ∧ ∀ i (hi : i < (shutdown s).length), (shutdown s)[i].state ≠ .running := by
  have hs := run_peeringSafe S hclean (startDaemon_ok h₀).2.2.2 h
  exact ⟨hs, shutdown_stops_all hs⟩

end Reachable

/-- The loop's first state for `sampleConfig 1 ["a"]`: peering service `0` runs for peer `a`. -/
def startedDaemon : Daemon :=
  Daemon.init sampleSetup (sampleConfig 1 ["a"]) sampleRuntime (some 0) [⟨[⟨"a", []⟩], .running⟩]

/-- Admin request `7`, a reload adding peer `b`, and admin request `8`. -/
def requestRun : List Event :=
  [.adminReload 7, .reload (some (sampleConfig 1 ["a", "b"])) .ok, .adminReload 8]

/-- The state `requestRun` reaches from `startedDaemon`. -/
def requestedDaemon : Daemon := (run sampleSetup startedDaemon requestRun).getD startedDaemon

theorem startedDaemon_start :
    startDaemon sampleSetup .ok (some (sampleConfig 1 ["a"])) [("indexer", "info")] =
      .ok startedDaemon := rfl

theorem requestRun_run : run sampleSetup startedDaemon requestRun = some requestedDaemon := rfl

/-- Request `7` is answered and `8` is buffered. -/
theorem requestRun_answers :
    startDaemon sampleSetup .ok (some (sampleConfig 1 ["a"])) [("indexer", "info")] =
        .ok startedDaemon ∧
      run sampleSetup startedDaemon requestRun = some requestedDaemon ∧
      requestedDaemon.pc ≠ .panicked ∧
      answered requestedDaemon ++ pendingRequest requestedDaemon =
        requestRun.filterMap Event.request :=
  ⟨startedDaemon_start, requestRun_run, by decide,
    startDaemon_requests startedDaemon_start requestRun_run (by decide)⟩

/-- Every event of `requestRun` is clean: `Stop` succeeds and every peer address parses. -/
theorem requestRun_clean : ∀ e ∈ requestRun, CleanPeering sampleSetup e := by
  intro e he
  simp only [requestRun, List.mem_cons, List.not_mem_nil, or_false] at he
  rcases he with rfl | rfl | rfl <;> simp [CleanPeering, PeeringOutcome.ok, sampleSetup, sampleConfig]

theorem requestRun_peeringSafe :
    startDaemon sampleSetup .ok (some (sampleConfig 1 ["a"])) [("indexer", "info")] =
        .ok startedDaemon ∧
      (∀ e ∈ requestRun, CleanPeering sampleSetup e) ∧
      run sampleSetup startedDaemon requestRun = some requestedDaemon ∧
      PeeringSafe requestedDaemon ∧ ∀ i (hi : i < (shutdown requestedDaemon).length),
        (shutdown requestedDaemon)[i].state ≠ .running :=
  ⟨startedDaemon_start, requestRun_clean, requestRun_run,
    startDaemon_peeringSafe startedDaemon_start requestRun_clean requestRun_run⟩

end StoreTheIndex
