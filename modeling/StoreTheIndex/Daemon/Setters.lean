import StoreTheIndex.Daemon.Config

/-!
# A reload as a run of setters

`reloadConfig` is a sequence of setters: the registry policy, the ingester's rate limit and
worker count (with an ingester), the overall log level and each logger's, and the storethehash
put concurrency and file-cache size (with a storethehash store). Each either takes effect or
fails, and the first failure ends the reload. Nothing is undone: a failed reload leaves in force
what the setters before the failing one set.

This module states that design, `runSetters` over `reloadSetters`, and proves that
`reloadConfig` is that run (`reloadConfig_eq_runSetters`).

* `Setter`, `runSetters`, `runSetters_append`, `runSetters_error`: setters run in order, and a
  failed run is a successful run of a prefix followed by the failing setter;
* `policySetter`, `ingestSetter`, `levelSetter`, `sthSetter`, `reloadSetters`;
* **`reloadConfig_eq_runSetters`**: the refinement;
* `reloadConfig_error_sth`: a failed reload leaves the storethehash settings as they were;
* **`reloadConfig_error_keeps_earlier_setters`**: what a failed reload leaves;
* `lastLevel`, `setLogLevel_ok`, `setLoggerLevels_ok`, `setLoggingConfig_ok`: the level each
  logger ends with is that of the last `SetLogLevel` call naming it or `*`;
* **`setLoggingConfig_levels`**: when no key of `Logging.Loggers` is `*`, the levels do not
  depend on the order the map is ranged over.
-/

namespace StoreTheIndex

/-! ## Setters -/

/-- A setter of the reload: the settings it leaves, or the error that ends the reload. -/
abbrev Setter := Runtime → Except String Runtime

/-- Run setters in order: the first that fails ends the run with its error and the settings the
setters before it left. -/
def runSetters : List Setter → Runtime → Option String × Runtime
  | [], rt => (none, rt)
  | s :: ss, rt =>
    match s rt with
    | .error e => (some e, rt)
    | .ok rt => runSetters ss rt

/-- Running two lists of setters is running the first, then, if it did not fail, the second. -/
theorem runSetters_append (ss ss' : List Setter) (rt : Runtime) :
    runSetters (ss ++ ss') rt =
      match runSetters ss rt with
      | (none, rt) => runSetters ss' rt
      | (some e, rt) => (some e, rt) := by
  induction ss generalizing rt with
  | nil => rfl
  | cons s ss ih =>
    simp only [List.cons_append, runSetters]
    cases s rt with
    | error e => rfl
    | ok rt => exact ih rt

@[simp] theorem runSetters_singleton (s : Setter) (rt : Runtime) :
    runSetters [s] rt = match s rt with
      | .error e => (some e, rt)
      | .ok rt => (none, rt) := by
  simp only [runSetters]

/-- **A failed run is a successful run of a prefix, then the failing setter.** -/
theorem runSetters_error {ss : List Setter} {rt rt' : Runtime} {e : String}
    (h : runSetters ss rt = (some e, rt')) :
    ∃ k, ∃ hk : k < ss.length, runSetters (ss.take k) rt = (none, rt') ∧ ss[k] rt' = .error e := by
  induction ss generalizing rt with
  | nil => cases h
  | cons s ss ih =>
    simp only [runSetters] at h
    split at h
    · cases h
      exact ⟨0, by simp, rfl, ‹_›⟩
    · obtain ⟨k, hk, hrun, hfail⟩ := ih h
      refine ⟨k + 1, by simpa using hk, ?_, hfail⟩
      simp only [List.take_succ_cons, runSetters, ‹s rt = _›, hrun]

/-! ## The setters of `reloadConfig` -/

/-- `reg.SetPolicy(cfg.Discovery.Policy)`. -/
def policySetter (ck : Checks) (cfg : Config) : Setter := fun rt =>
  if ck.policy cfg.policy then .ok { rt with policy := cfg.policy }
  else .error "failed to set policy config"

/-- `ingester.SetRateLimit(cfg.Ingest.RateLimit)`, then `ingester.RunWorkers`. -/
def ingestSetter (ck : Checks) (cfg : Config) : Setter := fun rt =>
  if ck.rateLimit cfg.rateLimit then
    .ok { rt with rateLimit := cfg.rateLimit, workers := cfg.ingestWorkerCount }
  else .error "failed to set rate limit config"

/-- One `logging.SetLogLevel` of `setLoggingConfig`. -/
def levelSetter (ck : Checks) (name level : String) : Setter := fun rt =>
  match setLogLevel ck name level rt.levels with
  | .error _ => .error "failed to configure logging"
  | .ok levels => .ok { rt with levels := levels }

/-- `SetPutConcurrency`, then `SetFileCacheSize`; they cannot fail. -/
def sthSetter (cfg : Config) : Setter := fun rt =>
  .ok { rt with putConcurrency := cfg.corePutConcurrency, fileCacheSize := cfg.sthFileCacheSize }

/-- The setters of a reload of `cfg`, in the order `reloadConfig` calls them. -/
def reloadSetters (ck : Checks) (cfg : Config) (ingester sth : Bool) : List Setter :=
  [policySetter ck cfg] ++ (if ingester then [ingestSetter ck cfg] else []) ++
    (("*", cfg.logLevel) :: cfg.loggers).map (fun l => levelSetter ck l.1 l.2) ++
    (if sth then [sthSetter cfg] else [])

/-! ## The refinement -/

/-- The logger loop is the run of one setter per logger. -/
theorem runSetters_levels (ck : Checks) (loggers : List (String × String)) (rt : Runtime) :
    runSetters (loggers.map fun l => levelSetter ck l.1 l.2) rt =
      match setLoggerLevels ck loggers rt.levels with
      | (none, levels) => (none, { rt with levels := levels })
      | (some _, levels) => (some "failed to configure logging", { rt with levels := levels }) := by
  induction loggers generalizing rt with
  | nil => rfl
  | cons l loggers ih =>
    simp only [List.map_cons, runSetters, levelSetter, setLoggerLevels]
    cases setLogLevel ck l.1 l.2 rt.levels with
    | error e => rfl
    | ok levels => exact ih _

/-- `setLoggingConfig` is the run of its level setters. -/
theorem runSetters_logging (ck : Checks) (cfg : Config) (rt : Runtime) :
    runSetters ((("*", cfg.logLevel) :: cfg.loggers).map fun l => levelSetter ck l.1 l.2) rt =
      match setLoggingConfig ck cfg rt.levels with
      | (none, levels) => (none, { rt with levels := levels })
      | (some _, levels) => (some "failed to configure logging", { rt with levels := levels }) := by
  simp only [List.map_cons, runSetters, levelSetter, setLoggingConfig]
  cases setLogLevel ck "*" cfg.logLevel rt.levels with
  | error e => rfl
  | ok levels => exact runSetters_levels ck cfg.loggers _

/-- **`reloadConfig` runs the setters of the file's configuration, in order.** -/
theorem reloadConfig_eq_runSetters (ck : Checks) (file : Option Config) (ingester sth : Bool)
    (rt : Runtime) :
    reloadConfig ck file ingester sth rt =
      match loadConfig file with
      | .error e => (.error e, rt)
      | .ok cfg =>
        match runSetters (reloadSetters ck cfg ingester sth) rt with
        | (none, rt) => (.ok cfg, rt)
        | (some e, rt) => (.error e, rt) := by
  unfold reloadConfig
  cases loadConfig file with
  | error e => rfl
  | ok cfg =>
    simp only [reloadSetters, runSetters_append, runSetters_singleton, runSetters_logging]
    by_cases hp : ck.policy cfg.policy = true
    · cases ingester <;> cases sth <;> by_cases hr : ck.rateLimit cfg.rateLimit = true <;>
        simp [hp, hr, policySetter, ingestSetter, runSetters] <;> split <;> simp [*, sthSetter]
    · simp [hp, policySetter]

/-! ## A failed reload -/

/-- A failed reload either did not load the file, or is a failed run of the file's setters. -/
theorem reloadConfig_error_run {ck : Checks} {file : Option Config} {ingester sth : Bool}
    {rt rt' : Runtime} {e : String} (h : reloadConfig ck file ingester sth rt = (.error e, rt')) :
    ((∃ err, loadConfig file = .error err) ∧ rt' = rt) ∨ ∃ cfg, loadConfig file = .ok cfg ∧
      runSetters (reloadSetters ck cfg ingester sth) rt = (some e, rt') := by
  rw [reloadConfig_eq_runSetters] at h
  cases hl : loadConfig file with
  | error e' => rw [hl] at h; cases h; exact .inl ⟨⟨_, rfl⟩, rfl⟩
  | ok cfg =>
    rw [hl] at h
    dsimp only at h
    refine .inr ⟨cfg, rfl, ?_⟩
    revert h
    rcases runSetters (reloadSetters ck cfg ingester sth) rt with ⟨_ | e'', rt''⟩ <;> intro h <;>
      cases h
    rfl

/-- A failed reload leaves the storethehash settings, set last, as they were. -/
theorem reloadConfig_error_sth {ck : Checks} {file : Option Config} {ingester sth : Bool}
    {rt rt' : Runtime} {e : String} (h : reloadConfig ck file ingester sth rt = (.error e, rt')) :
    rt'.putConcurrency = rt.putConcurrency ∧ rt'.fileCacheSize = rt.fileCacheSize := by
  unfold reloadConfig at h
  split at h
  · cases h; exact ⟨rfl, rfl⟩
  · split at h
    · cases h; exact ⟨rfl, rfl⟩
    · split at h
      · cases h; exact ⟨rfl, rfl⟩
      · cases ingester <;> simp only [Bool.false_eq_true, if_false, if_true] at h <;>
          split at h <;> cases h <;> exact ⟨rfl, rfl⟩

/-- **What a failed reload leaves**: the storethehash settings as they were, and either no change
when the file does not load, or the settings the setters before the failing one set. -/
theorem reloadConfig_error_keeps_earlier_setters {ck : Checks} {file : Option Config}
    {ingester sth : Bool} {rt rt' : Runtime} {e : String}
    (h : reloadConfig ck file ingester sth rt = (.error e, rt')) :
    rt'.putConcurrency = rt.putConcurrency ∧ rt'.fileCacheSize = rt.fileCacheSize ∧
      ((∃ err, loadConfig file = .error err) ∧ rt' = rt ∨
        ∃ cfg, loadConfig file = .ok cfg ∧
          ∃ k, ∃ hk : k < (reloadSetters ck cfg ingester sth).length,
            runSetters ((reloadSetters ck cfg ingester sth).take k) rt = (none, rt') ∧
            (reloadSetters ck cfg ingester sth)[k] rt' = .error e) := by
  refine ⟨(reloadConfig_error_sth h).1, (reloadConfig_error_sth h).2, ?_⟩
  rcases reloadConfig_error_run h with hl | ⟨cfg, hl, hrun⟩
  · exact .inl hl
  · exact .inr ⟨cfg, hl, runSetters_error hrun⟩

/-- A configuration whose policy differs from `policyRuntime`'s. -/
def denyConfig : Config where
  datastoreType := "levelds"
  policy := ⟨false, [], false, []⟩
  rateLimit := ⟨true, [], 10, 10⟩
  ingestWorkerCount := 2
  logLevel := "info"
  loggers := []
  corePutConcurrency := 4
  sthFileCacheSize := 512
  configCheckInterval := 0
  shutdownTimeout := 0
  indexCountTotalAddend := 0
  peers := []

/-- The settings before the reload: every provider allowed. -/
def policyRuntime : Runtime := ⟨⟨true, [], true, []⟩, ⟨false, [], 0, 0⟩, 1, [], 1, 1⟩

/-- Setters that accept every value but the rate limit. -/
def rateLimitRejected : Checks := ⟨fun _ => true, fun _ => false, fun _ => true⟩

/-- A reload whose rate limit is rejected fails, but the registry policy has already changed. -/
theorem reloadConfig_rateLimit_error_sets_policy :
    reloadConfig rateLimitRejected (some denyConfig) true true policyRuntime =
        (.error "failed to set rate limit config", { policyRuntime with policy := denyConfig.policy }) ∧
      denyConfig.policy ≠ policyRuntime.policy :=
  ⟨rfl, by decide⟩

/-- The same reload: the policy setter ran before the failing rate-limit setter. -/
theorem denyConfig_keeps_policy :
    reloadConfig rateLimitRejected (some denyConfig) true true policyRuntime =
        (.error "failed to set rate limit config", { policyRuntime with policy := denyConfig.policy }) ∧
      ({ policyRuntime with policy := denyConfig.policy } : Runtime).putConcurrency =
          policyRuntime.putConcurrency ∧
        ({ policyRuntime with policy := denyConfig.policy } : Runtime).fileCacheSize =
          policyRuntime.fileCacheSize ∧
        ((∃ err, loadConfig (some denyConfig) = .error err) ∧
            ({ policyRuntime with policy := denyConfig.policy } : Runtime) = policyRuntime ∨
          ∃ cfg, loadConfig (some denyConfig) = .ok cfg ∧
            ∃ k, ∃ hk : k < (reloadSetters rateLimitRejected cfg true true).length,
              runSetters ((reloadSetters rateLimitRejected cfg true true).take k) policyRuntime =
                (none, { policyRuntime with policy := denyConfig.policy }) ∧
              (reloadSetters rateLimitRejected cfg true true)[k]
                { policyRuntime with policy := denyConfig.policy } =
                .error "failed to set rate limit config") :=
  ⟨rfl, reloadConfig_error_keeps_earlier_setters rfl⟩

/-! ## The log levels `setLoggingConfig` leaves -/

/-- The level a logger at `level` ends with after the `SetLogLevel` calls `calls`: that of the
last call naming it or `*`. -/
def lastLevel (calls : List (String × String)) (name level : String) : String :=
  calls.foldl (fun lv c => if c.1 = "*" ∨ c.1 = name then c.2 else lv) level

/-- One successful `SetLogLevel` sets the loggers it names. -/
theorem setLogLevel_ok {ck : Checks} {name level : String} {levels levels' : List (String × String)}
    (h : setLogLevel ck name level levels = .ok levels') :
    levels' = levels.map fun l => (l.1, if name = "*" ∨ name = l.1 then level else l.2) := by
  unfold setLogLevel at h
  split_ifs at h with hv hs <;> cases h
  · simp [hs]
  · refine List.map_congr_left fun l _ => ?_
    by_cases hl : l.1 = name
    · simp [hl, hs]
    · simp [hl, Ne.symm hl, hs]

theorem setLoggerLevels_ok {ck : Checks} : ∀ {calls levels levels' : List (String × String)},
    setLoggerLevels ck calls levels = (none, levels') →
      levels' = levels.map fun l => (l.1, lastLevel calls l.1 l.2)
  | [], _, _, h => by cases h; simp [lastLevel]
  | (name, level) :: rest, levels, levels', h => by
    simp only [setLoggerLevels] at h
    split at h
    · cases h
    · rename_i hset
      rw [setLoggerLevels_ok h, setLogLevel_ok hset, List.map_map]; rfl

/-- **A successful `setLoggingConfig`** leaves every registered logger at the level of the last
call naming it or `*`, the overall level being the first call. -/
theorem setLoggingConfig_ok {ck : Checks} {cfg : Config} {levels levels' : List (String × String)}
    (h : setLoggingConfig ck cfg levels = (none, levels')) :
    levels' = levels.map fun l => (l.1, lastLevel (("*", cfg.logLevel) :: cfg.loggers) l.1 l.2) := by
  unfold setLoggingConfig at h
  split at h
  · cases h
  · rename_i hset
    rw [setLoggerLevels_ok h, setLogLevel_ok hset, List.map_map]; rfl

/-- Without a `*` call and with each logger named once, the last call naming a logger is its
only one. -/
theorem lastLevel_lookup : ∀ {calls : List (String × String)}, (∀ c ∈ calls, c.1 ≠ "*") →
    (calls.map Prod.fst).Nodup → ∀ name level,
      lastLevel calls name level = (calls.lookup name).getD level
  | [], _, _, _, _ => rfl
  | (m, lv) :: rest, hstar, hnd, name, level => by
    have hm : m ≠ "*" := hstar _ (List.mem_cons_self _ _)
    obtain ⟨hmr, hnd⟩ := List.nodup_cons.mp hnd
    have ih := lastLevel_lookup (fun c hc => hstar c (List.mem_cons_of_mem _ hc)) hnd
    show lastLevel rest name (if m = "*" ∨ m = name then lv else level) = _
    by_cases hmn : m = name
    · subst hmn
      have hnone : rest.lookup m = none :=
        List.lookup_eq_none_iff.mpr fun p hp =>
          bne_iff_ne.mpr fun e => hmr (List.mem_map.mpr ⟨p, hp, e.symm⟩)
      simp [ih, hnone]
    · simp [ih, hm, hmn, List.lookup_cons, beq_false_of_ne (Ne.symm hmn)]

/-- **The levels do not depend on the order the loggers map is ranged over**: each logger ends
with its level in `Logging.Loggers`, or `Logging.Level`. -/
theorem setLoggingConfig_levels {ck : Checks} {cfg : Config} {levels levels' : List (String × String)}
    (h : setLoggingConfig ck cfg levels = (none, levels')) (hstar : ∀ c ∈ cfg.loggers, c.1 ≠ "*")
    (hkeys : (cfg.loggers.map Prod.fst).Nodup) :
    levels' = levels.map fun l => (l.1, (cfg.loggers.lookup l.1).getD cfg.logLevel) := by
  rw [setLoggingConfig_ok h]
  refine List.map_congr_left fun l _ => ?_
  simp only [lastLevel, List.foldl_cons, true_or, if_true]
  exact congrArg _ (lastLevel_lookup hstar hkeys l.1 cfg.logLevel)

/-- `denyConfig` with the `carwriter` logger at `debug`. -/
def debugConfig : Config := { denyConfig with loggers := [("carwriter", "debug")] }

theorem debugConfig_levels :
    setLoggingConfig rateLimitRejected debugConfig [("indexer", "warn"), ("carwriter", "warn")] =
        (none, [("indexer", "info"), ("carwriter", "debug")]) ∧
      (∀ c ∈ debugConfig.loggers, c.1 ≠ "*") ∧ (debugConfig.loggers.map Prod.fst).Nodup ∧
      [("indexer", "info"), ("carwriter", "debug")] =
        [("indexer", "warn"), ("carwriter", "warn")].map
          fun l => (l.1, (debugConfig.loggers.lookup l.1).getD debugConfig.logLevel) :=
  ⟨rfl, by decide, by decide,
    @setLoggingConfig_levels rateLimitRejected debugConfig _ _ rfl (by decide) (by decide)⟩

end StoreTheIndex
