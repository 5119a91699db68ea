import StoreTheIndex.Daemon.Loop

/-!
# What a reload leaves behind

Two results on the reload case of the loop, over every setup and every start-up configuration:

* **`failed_reload_then_reload_panics`**: the case assigns `cfg, err = reloadConfig(...)`, so a
  reload that fails leaves `cfg` nil, and the next reload the loop takes dereferences it to read
  `cfg.Indexer.ConfigCheckInterval`, whatever the file holds by then.
* **`ticker_keeps_start_interval`**: the guard of `ticker.Reset` compares the old interval with
  itself, so along every run the ticker keeps the interval read at start-up, also after a
  reload that succeeds with another one. A reload asked for by an admin request whose peering
  part fails also skips `SetTotalAddend` (`handleReload_peering_error_addend`).
-/

namespace StoreTheIndex

section Steps

variable {S : Setup} {s : Daemon}

/-- A SIGHUP taken while the buffer is empty, and the reload it asks for. -/
theorem run_sighup_reload {file : Option Config} {o : PeeringOutcome} (hpc : s.pc = .select)
    (hr : s.reloadErrs = none) :
    run S s [.sighup, .signal, .sendNil, .reload file o] =
      some (handleReload S file o none { s with pc := .select, sig := false, reloadErrs := none }) := by
  simp [run_cons, step, hpc, hr]

/-- A reload asked for by an admin request whose peering part fails answers the request and
skips `SetTotalAddend`, although `reloadConfig` succeeded. -/
theorem handleReload_peering_error_addend {file : Option Config} {o : PeeringOutcome}
    {c c' : Config} {id : Nat} {err : String} {t : Daemon}
    (hc : s.cfg = some c) (he : (reloadConfig S.ck file S.ingester S.sth s.runtime).1 = .ok c')
    (hp : reloadPeers S o c'
      { s with runtime := (reloadConfig S.ck file S.ingester S.sth s.runtime).2, cfg := some c',
               shutdownTimeout := c'.shutdownTimeout } = (some err, t)) :
    (handleReload S file o (some id) s).addend = s.addend ∧
      (handleReload S file o (some id) s).cfg = some c' := by
  rw [handleReload_ok hc he]
  dsimp only
  rw [hp, reloadPeers_frame hp]
  simp [reply_eq]

end Steps

/-- **A failed reload makes the next one panic**: it leaves `cfg` nil, and the next reload
dereferences it whatever the file holds. -/
theorem failed_reload_then_reload_panics (S : Setup) (cfg : Config) (rt : Runtime)
    (ps : Option Nat) (svcs : Services) (o o' : PeeringOutcome) (file : Option Config) :
    ∃ s, run S (Daemon.init S cfg rt ps svcs) [.sighup, .signal, .sendNil, .reload none o] =
        some s ∧ s.pc = .select ∧ s.cfg = none ∧
      run S s [.sighup, .signal, .sendNil, .reload file o'] = some { s with pc := .panicked } := by
  refine ⟨{ Daemon.init S cfg rt ps svcs with cfg := none }, ?_, rfl, rfl, ?_⟩
  · rw [run_sighup_reload rfl rfl,
      @handleReload_error S _ none o none cfg "cannot load config file" rfl rfl]
    simp [Daemon.init, reply, reloadConfig_none]
  · rw [run_sighup_reload rfl rfl, handleReload_nil rfl]
    rfl

/-- **The ticker keeps its start-up interval** along every run, whatever the reloads loaded
since. -/
theorem ticker_keeps_start_interval (S : Setup) (cfg : Config) (rt : Runtime) (ps : Option Nat)
    (svcs : Services) (evs : List Event) (s : Daemon)
    (h : run S (Daemon.init S cfg rt ps svcs) evs = some s) :
    s.ticker = if S.watch then some cfg.configCheckInterval else none :=
  run_invariant S (fun t => t.ticker = if S.watch then some cfg.configCheckInterval else none)
    (fun _ _ _ ht hs => (step_ticker hs).trans ht) rfl h

/-- `sampleConfig 2 [""]` with the addend `5`: its one peer address does not parse. -/
def addendConfig : Config := { sampleConfig 2 [""] with indexCountTotalAddend := 5 }

/-- A SIGHUP reload to interval `2` keeps the ticker at `1`; an admin reload of `addendConfig`,
whose peering part fails, keeps the addend at `0`. -/
theorem sampleReload_keeps_ticker :
    (∃ s, run sampleSetup (Daemon.init sampleSetup (sampleConfig 1 ["a"]) sampleRuntime none [])
        [.sighup, .signal, .sendNil, .reload (some (sampleConfig 2 ["a"])) .ok] = some s ∧
      s.cfg = some (sampleConfig 2 ["a"]) ∧ s.ticker = some 1) ∧
    (handleReload sampleSetup (some addendConfig) .ok (some 7)
        (Daemon.init sampleSetup (sampleConfig 1 ["a"]) sampleRuntime none [])).addend = 0 ∧
      (handleReload sampleSetup (some addendConfig) .ok (some 7)
        (Daemon.init sampleSetup (sampleConfig 1 ["a"]) sampleRuntime none [])).cfg =
        some addendConfig :=
  ⟨⟨_, rfl, rfl, ticker_keeps_start_interval sampleSetup (sampleConfig 1 ["a"]) sampleRuntime
    none [] [.sighup, .signal, .sendNil, .reload (some (sampleConfig 2 ["a"])) .ok] _ rfl⟩,
    handleReload_peering_error_addend rfl rfl rfl⟩

end StoreTheIndex
