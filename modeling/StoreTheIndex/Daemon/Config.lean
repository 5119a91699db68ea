import Mathlib.Data.List.Basic

/-!
# Reloading the configuration

`reloadConfig` (`command/daemon.go`) loads the configuration file and pushes its reloadable
values into the running daemon one setter after another: the registry policy, the ingester's
rate limit and worker count, the log levels, and the storethehash put concurrency and file-cache
size. A setter that rejects its value ends the reload with an error; the setters before it
have already taken effect.

The setters' own checks live outside this repository; `Checks` takes them as parameters.

* `Config`, `Policy`, `RateLimit`: the fields of `config.Config` the daemon reads;
* `Policy.allowed`, `Policy.allowPeer`, `Policy.blockPeer`: the registry policy's `Allowed`,
  `Allow` and `Block`;
* `Runtime`: the settings `reloadConfig` changes;
* `loadConfig`, `setLogLevel`, `setLoggingConfig`, `reloadConfig`.
-/

namespace StoreTheIndex

/-- `config.Policy`. -/
structure Policy where
  allow : Bool
  except : List String
  publish : Bool
  publishExcept : List String
  deriving DecidableEq, Repr

/-! ## The registry policy

The policy package is not in this repository; `TestPolicyAccess` pins what its calls do. A peer
is allowed when `Allow` differs from its membership in `Except`, and `Allow(id)` and `Block(id)`
change that membership so that `id` ends allowed or blocked. -/

/-- `Policy.Allowed(id)`. -/
def Policy.allowed (p : Policy) (peer : String) : Bool := p.allow != decide (peer ∈ p.except)

/-- `except` with `peer` as a member when `mem`, and without it otherwise. -/
def setExcept (except : List String) (peer : String) (mem : Bool) : List String :=
  if mem then (if peer ∈ except then except else except ++ [peer])
  else except.filter (· != peer)

/-- `Policy.Allow(id)`. -/
def Policy.allowPeer (p : Policy) (peer : String) : Policy :=
  { p with except := setExcept p.except peer !p.allow }

/-- `Policy.Block(id)`. -/
def Policy.blockPeer (p : Policy) (peer : String) : Policy :=
  { p with except := setExcept p.except peer p.allow }

theorem mem_setExcept {except : List String} {peer q : String} {mem : Bool} :
    q ∈ setExcept except peer mem ↔ if q = peer then mem = true else q ∈ except := by
  unfold setExcept
  by_cases hq : q = peer <;> cases mem <;> split_ifs <;> simp_all

/-- **`Allow(id)` allows `id`**, and no other peer's access changes. -/
theorem allowed_allowPeer (p : Policy) (peer q : String) :
    (p.allowPeer peer).allowed q = if q = peer then true else p.allowed q := by
  by_cases hq : q = peer <;> cases hp : p.allow <;>
    simp [Policy.allowed, Policy.allowPeer, mem_setExcept, hq, hp]

/-- **`Block(id)` blocks `id`**, and no other peer's access changes. -/
theorem allowed_blockPeer (p : Policy) (peer q : String) :
    (p.blockPeer peer).allowed q = if q = peer then false else p.allowed q := by
  by_cases hq : q = peer <;> cases hp : p.allow <;>
    simp [Policy.allowed, Policy.blockPeer, mem_setExcept, hq, hp]

/-- `config.RateLimit`. -/
structure RateLimit where
  apply : Bool
  except : List String
  blocksPerSecond : Nat
  burstSize : Nat
  deriving DecidableEq, Repr

/-- The fields of `config.Config` the daemon reads after start-up, flattened; the source path
of each is in its docstring. -/
structure Config where
  /-- `Datastore.Type` -/
  datastoreType : String
  /-- `Discovery.Policy` -/
  policy : Policy
  /-- `Ingest.RateLimit` -/
  rateLimit : RateLimit
  /-- `Ingest.IngestWorkerCount` -/
  ingestWorkerCount : Nat
  /-- `Logging.Level` -/
  logLevel : String
  /-- `Logging.Loggers`, in the order the map is ranged over -/
  loggers : List (String × String)
  /-- `Indexer.CorePutConcurrency` -/
  corePutConcurrency : Nat
  /-- `Indexer.STHFileCacheSize` -/
  sthFileCacheSize : Nat
  /-- `Indexer.ConfigCheckInterval` -/
  configCheckInterval : Nat
  /-- `Indexer.ShutdownTimeout` -/
  shutdownTimeout : Nat
  /-- `Indexer.IndexCountTotalAddend` -/
  indexCountTotalAddend : Nat
  /-- `Peering.Peers` -/
  peers : List String
  deriving DecidableEq, Repr

/-- The settings of the running daemon that `reloadConfig` changes. `levels` lists the
registered loggers with their levels. -/
structure Runtime where
  policy : Policy
  rateLimit : RateLimit
  workers : Nat
  levels : List (String × String)
  putConcurrency : Nat
  fileCacheSize : Nat
  deriving DecidableEq, Repr

/-- What the setters accept: `reg.SetPolicy`, `ingester.SetRateLimit`, and the level names of
`logging.SetLogLevel`. -/
structure Checks where
  policy : Policy → Bool
  rateLimit : RateLimit → Bool
  level : String → Bool

/-- `loadConfig`: the file, `none` when `config.Load` fails to read or parse it. -/
def loadConfig (file : Option Config) : Except String Config :=
  match file with
  | none => .error "cannot load config file"
  | some cfg =>
    if cfg.datastoreType ≠ "levelds" then
      .error ("only levelds datastore type supported, " ++ cfg.datastoreType ++ " not supported")
    else .ok cfg

/-- `logging.SetLogLevel(name, level)`: `*` sets every logger; another name must be
registered. -/
def setLogLevel (ck : Checks) (name level : String) (levels : List (String × String)) :
    Except String (List (String × String)) :=
  if !ck.level level then .error "invalid log level"
  else if name = "*" then .ok (levels.map fun l => (l.1, level))
  else if levels.any (fun l => l.1 == name) then
    .ok (levels.map fun l => if l.1 = name then (l.1, level) else l)
  else .error "no such logger"

/-- The loop of `setLoggingConfig` over `Logging.Loggers`: it stops at the first error, with the
levels set so far. -/
def setLoggerLevels (ck : Checks) :
    List (String × String) → List (String × String) → Option String × List (String × String)
  | [], levels => (none, levels)
  | (name, level) :: rest, levels =>
    match setLogLevel ck name level levels with
    | .error e => (some e, levels)
    | .ok levels => setLoggerLevels ck rest levels

/-- `setLoggingConfig`: the overall level, then each logger's; the error, if any, and the log
levels it leaves. -/
def setLoggingConfig (ck : Checks) (cfg : Config) (levels : List (String × String)) :
    Option String × List (String × String) :=
  match setLogLevel ck "*" cfg.logLevel levels with
  | .error e => (some e, levels)
  | .ok levels => setLoggerLevels ck cfg.loggers levels

/-- `reloadConfig`: the new configuration or the error, and the settings it leaves. `ingester`
is whether the daemon has an ingester, `sth` whether its value store is a storethehash one. -/
def reloadConfig (ck : Checks) (file : Option Config) (ingester sth : Bool) (rt : Runtime) :
    Except String Config × Runtime :=
  match loadConfig file with
  | .error e => (.error e, rt)
  | .ok cfg =>
    if !ck.policy cfg.policy then (.error "failed to set policy config", rt)
    else
      let rt := { rt with policy := cfg.policy }
      if ingester && !ck.rateLimit cfg.rateLimit then
        (.error "failed to set rate limit config", rt)
      else
        let rt := if ingester then
            { rt with rateLimit := cfg.rateLimit, workers := cfg.ingestWorkerCount }
          else rt
        match setLoggingConfig ck cfg rt.levels with
        | (some _, levels) => (.error "failed to configure logging", { rt with levels := levels })
        | (none, levels) =>
          let rt := { rt with levels := levels }
          (.ok cfg, if sth then
            { rt with putConcurrency := cfg.corePutConcurrency,
                      fileCacheSize := cfg.sthFileCacheSize }
            else rt)

/-- A reload that succeeds returns the file's configuration. -/
theorem reloadConfig_ok {ck : Checks} {file : Option Config} {ingester sth : Bool}
    {rt : Runtime} {cfg : Config} (h : (reloadConfig ck file ingester sth rt).1 = .ok cfg) :
    file = some cfg := by
  rcases file with _ | c
  · cases h
  · unfold reloadConfig loadConfig at h
    by_cases hd : c.datastoreType = "levelds"
    · simp only [hd, ne_eq, not_true_eq_false, if_false] at h
      split_ifs at h <;> revert h <;> split <;> intro h <;> cases h <;> rfl
    · simp [hd] at h

theorem reloadConfig_none {ck : Checks} {ingester sth : Bool} {rt : Runtime} :
    reloadConfig ck none ingester sth rt = (.error "cannot load config file", rt) := rfl

end StoreTheIndex
