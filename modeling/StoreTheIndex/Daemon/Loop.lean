import StoreTheIndex.Daemon.Config
import StoreTheIndex.Daemon.Peering

/-!
# The daemon's event loop

After start-up `daemonAction` (`command/daemon.go`) runs one loop that `select`s over five
channels: the command's cancellation, `svrErrChan` (capacity 3), `reloadSig` (SIGHUP, capacity 1),
`reloadErrsChan` (capacity 1, filled by the SIGHUP and tick cases with `nil` and by the admin
server with a reply channel), and the config-check ticker's channel when the configuration file
is watched. The loop is the only receiver on `reloadErrsChan`.

The state `Daemon` holds the loop's variables and the buffers of those channels; `Event` lists
what can happen next: a step of the environment (a signal, an admin request, a tick, a server
error, a cancellation) or one of the loop's cases, which runs only when its channel is ready.
`step` is executable and `run` folds it over a list of events, so reachable states are computed.

The admin server (`server/admin/http`, daemon.go:314) is not in this repository. As the spec
describes it, its reload handler sends its reply channel on `reloadErrsChan`, which completes
only when the buffer is empty, and waits for the reply; it also holds the registry, whose policy
its allow and block handlers change at any time, outside the loop. Whether the file changed at
a tick is an input of the tick case, and so is the configuration file's content at a reload.

* `Pc`, `Setup`, `Daemon`, `Daemon.init`, `Event`, `handleReload`, `handleTick`, `step`, `run`;
* `run_invariant`, `run_invariant_of`: a property that every step (of some kind) keeps holds
  along every run (of such steps);
* `handleReload_nil`, `handleReload_error`, `handleReload_ok`: the three ways a reload goes;
  `step_ticker`: no step resets the ticker; `step_peers`: what a step does to the peering
  services;
* `shutdown`: the peering service the shutdown path stops;
* `sampleSetup`, `sampleConfig`, `sampleRuntime`: a daemon to run the loop on.
-/

namespace StoreTheIndex

/-- Where the loop is. -/
inductive Pc
  /-- in the `select` -/
  | select
  /-- in `reloadErrsChan <- nil`, in the SIGHUP or the tick case -/
  | sendNil
  /-- out of the loop -/
  | ended
  /-- stopped by a run-time panic -/
  | panicked
  deriving DecidableEq, Repr

/-- A reload request on `reloadErrsChan`: `nil`, or the reply channel of an admin request,
named by a number. -/
abbrev ReloadReq := Option Nat

/-- What the daemon fixed before its loop: the setters' checks, `cfg.PeerAddrs`, and whether there
is a watched file, a libp2p host, an ingester and a storethehash value store. -/
structure Setup where
  ck : Checks
  peerAddrs : List String → Option (List AddrInfo)
  watch : Bool
  host : Bool
  ingester : Bool
  sth : Bool

/-- The loop's variables and the buffers of the channels it receives from. -/
structure Daemon where
  pc : Pc
  /-- `cfg`, `nil` after a failed reload -/
  cfg : Option Config
  /-- the buffer of `reloadErrsChan` -/
  reloadErrs : Option ReloadReq
  /-- a SIGHUP in `reloadSig` -/
  sig : Bool
  /-- a tick in the ticker's channel -/
  tick : Bool
  /-- the errors in `svrErrChan` -/
  svrErrs : Nat
  /-- `cctx.Done()` is closed -/
  cancelled : Bool
  /-- the ticker's period; `none` when the file is not watched -/
  ticker : Option Nat
  /-- the index counts' total addend -/
  addend : Nat
  shutdownTimeout : Nat
  /-- `peeringService`, an index into `services` -/
  peering : Option Nat
  services : Services
  runtime : Runtime
  /-- what each admin request received on its reply channel, in order -/
  replies : List (Nat × Option String)
  finalErr : Option String
  deriving DecidableEq, Repr

/-- The state in which the loop starts: `cfg` was loaded at start-up, `peering` is the service
start-up's `reloadPeering` returned, and no channel holds anything yet. -/
def Daemon.init (S : Setup) (cfg : Config) (rt : Runtime) (peering : Option Nat)
    (services : Services) : Daemon where
  pc := .select
  cfg := some cfg
  reloadErrs := none
  sig := false
  tick := false
  svrErrs := 0
  cancelled := false
  ticker := if S.watch then some cfg.configCheckInterval else none
  addend := cfg.indexCountTotalAddend
  shutdownTimeout := cfg.shutdownTimeout
  peering := peering
  services := services
  runtime := rt
  replies := []
  finalErr := none

/-- What `fsutil.FileChanged` reports at a tick. -/
inductive FileStat
  | error
  | unchanged
  | changed
  deriving DecidableEq, Repr

/-- The next thing that happens: a step of the environment or a case of the loop. -/
inductive Event
  /-- a SIGHUP is delivered to `reloadSig` -/
  | sighup
  /-- an admin reload request sends its reply channel `id` on `reloadErrsChan` -/
  | adminReload (id : Nat)
  /-- the admin server allows `peer` in the registry policy -/
  | adminAllow (peer : String)
  /-- the admin server blocks `peer` in the registry policy -/
  | adminBlock (peer : String)
  /-- the ticker ticks -/
  | tick
  /-- a server's `Start` returns -/
  | serverError
  /-- the command is cancelled -/
  | cancel
  /-- the loop takes `<-cctx.Done()` -/
  | done
  /-- the loop takes `<-svrErrChan` -/
  | serverFailed
  /-- the loop takes `<-reloadSig` -/
  | signal
  /-- the loop takes `<-reloadErrsChan`; the file holds `file`, the peering calls end as `o` -/
  | reload (file : Option Config) (o : PeeringOutcome)
  /-- the loop takes `<-timeChan` -/
  | timer (stat : FileStat)
  /-- the loop's pending `reloadErrsChan <- nil` completes -/
  | sendNil
  deriving DecidableEq, Repr

/-- `errChan <- msg` when the request has a reply channel. -/
def reply (errChan : ReloadReq) (msg : Option String) (s : Daemon) : Daemon :=
  match errChan with
  | none => s
  | some id => { s with replies := s.replies ++ [(id, msg)] }

/-- The peering part of a reload: `reloadPeering` when there is a host. -/
def reloadPeers (S : Setup) (o : PeeringOutcome) (cfg : Config) (s : Daemon) :
    Option String × Daemon :=
  if S.host then
    let ((ps, err), svcs) := reloadPeering S.peerAddrs o cfg.peers s.peering s.services
    (err, { s with peering := ps, services := svcs })
  else (none, s)

/-- The case `errChan := <-reloadErrsChan`; reading the interval of a nil `cfg` panics, and the
guard of `ticker.Reset` compares that interval with itself. -/
def handleReload (S : Setup) (file : Option Config) (o : PeeringOutcome) (errChan : ReloadReq)
    (s : Daemon) : Daemon :=
  match s.cfg with
  | none => { s with pc := .panicked }
  | some cfg =>
    let prevCfgChk := cfg.configCheckInterval
    let s := if prevCfgChk ≠ cfg.configCheckInterval then
        { s with ticker := s.ticker.map fun _ => cfg.configCheckInterval } else s
    let (res, rt) := reloadConfig S.ck file S.ingester S.sth s.runtime
    let s := { s with runtime := rt }
    match res with
    | .error _ => reply errChan (some "could not reload configuration") { s with cfg := none }
    | .ok cfg =>
      let s := { s with cfg := some cfg, shutdownTimeout := cfg.shutdownTimeout }
      match reloadPeers S o cfg s, errChan with
      | (some _, s), some _ => reply errChan (some "could not reload peering service") s
      | (_, s), _ => reply errChan none { s with addend := cfg.indexCountTotalAddend }

/-- The case `<-timeChan`: a changed file puts `nil` on `reloadErrsChan`. -/
def handleTick (stat : FileStat) (s : Daemon) : Daemon :=
  match stat with
  | .changed => { s with pc := .sendNil }
  | _ => s

/-- One step, `none` when the event cannot happen now: a loop case whose channel is empty, an
admin request while the buffer is full, a tick of a ticker that does not exist. -/
def step (S : Setup) (s : Daemon) : Event → Option Daemon
  | .sighup => some { s with sig := true }
  | .adminReload id => if s.reloadErrs = none then some { s with reloadErrs := some (some id) }
      else none
  | .adminAllow peer =>
    some { s with runtime := { s.runtime with policy := s.runtime.policy.allowPeer peer } }
  | .adminBlock peer =>
    some { s with runtime := { s.runtime with policy := s.runtime.policy.blockPeer peer } }
  | .tick => if S.watch then some { s with tick := true } else none
  | .serverError => if s.svrErrs < 3 then some { s with svrErrs := s.svrErrs + 1 } else none
  | .cancel => some { s with cancelled := true }
  | .done => if s.pc = .select ∧ s.cancelled then some { s with pc := .ended } else none
  | .serverFailed =>
    if s.pc = .select ∧ 0 < s.svrErrs then
      some { s with pc := .ended, svrErrs := s.svrErrs - 1,
                    finalErr := some "daemon did not start correctly" }
    else none
  | .signal => if s.pc = .select ∧ s.sig then some { s with sig := false, pc := .sendNil }
      else none
  | .reload file o =>
    match s.pc, s.reloadErrs with
    | .select, some errChan => some (handleReload S file o errChan { s with reloadErrs := none })
    | _, _ => none
  | .timer stat => if s.pc = .select ∧ s.tick then some (handleTick stat { s with tick := false })
      else none
  | .sendNil => if s.pc = .sendNil ∧ s.reloadErrs = none then
      some { s with pc := .select, reloadErrs := some none } else none

/-- The state after a list of events, `none` when one of them cannot happen. -/
def run (S : Setup) (s : Daemon) : List Event → Option Daemon
  | [] => some s
  | e :: es => (step S s e).bind fun s => run S s es

@[simp] theorem run_nil (S : Setup) (s : Daemon) : run S s [] = some s := rfl

theorem run_cons (S : Setup) (s : Daemon) (e : Event) (es : List Event) :
    run S s (e :: es) = (step S s e).bind fun s => run S s es := rfl

theorem run_append (S : Setup) (s : Daemon) (es es' : List Event) :
    run S s (es ++ es') = (run S s es).bind fun s => run S s es' := by
  induction es generalizing s with
  | nil => rfl
  | cons e es ih =>
    simp only [List.cons_append, run_cons, ih, Option.bind_assoc]

/-- **Invariants hold along runs**: a property that every step of some kind keeps holds after
every run of such steps. -/
theorem run_invariant_of (S : Setup) (P : Daemon → Prop) (Q : Daemon → Event → Prop)
    (hstep : ∀ s e s', P s → Q s e → step S s e = some s' → P s') :
    ∀ {evs s s'}, (∀ e ∈ evs, ∀ t, Q t e) → P s → run S s evs = some s' → P s'
  | [], _, _, _, hs, h => by cases h; exact hs
  | e :: es, s, s', hq, hs, h => by
    rw [run_cons] at h
    obtain ⟨t, ht, hr⟩ := Option.bind_eq_some.mp h
    exact run_invariant_of S P Q hstep (fun e' he' => hq e' (List.mem_cons_of_mem _ he'))
      (hstep s e t hs (hq e (List.mem_cons_self _ _) s) ht) hr

/-- **Invariants hold along runs**: a property that every step keeps holds after every run. -/
theorem run_invariant (S : Setup) (P : Daemon → Prop)
    (hstep : ∀ s e s', P s → step S s e = some s' → P s') {evs : List Event} {s s' : Daemon}
    (hs : P s) (h : run S s evs = some s') : P s' :=
  run_invariant_of S P (fun _ _ => True) (fun s e s' hs _ => hstep s e s' hs) (fun _ _ _ => trivial)
    hs h

/-- The shutdown path: `peeringService.Stop()` on the service the loop refers to. -/
def shutdown (s : Daemon) : Services :=
  match s.peering with
  | none => s.services
  | some i => s.services.modify stopService i

/-! ## One reload -/

section Reload

variable {S : Setup} {s : Daemon} {file : Option Config} {o : PeeringOutcome} {r : ReloadReq}

@[simp] theorem reply_replies (msg : Option String) :
    (reply r msg s).replies = s.replies ++ r.toList.map (·, msg) := by
  cases r <;> simp [reply]

/-- `reply` only appends to `replies`. -/
theorem reply_eq (msg : Option String) :
    reply r msg s = { s with replies := s.replies ++ r.toList.map (·, msg) } := by
  cases r <;> simp [reply]

/-- The peering part of a reload: what `reloadPeering` returns, when there is a host. -/
theorem reloadPeers_snd {c : Config} :
    (reloadPeers S o c s).2 = if S.host then
      { s with peering := (reloadPeering S.peerAddrs o c.peers s.peering s.services).1.1,
               services := (reloadPeering S.peerAddrs o c.peers s.peering s.services).2 }
      else s := by
  unfold reloadPeers
  split <;> rfl

/-- The peering part of a reload only changes `peering` and `services`. -/
theorem reloadPeers_frame {c : Config} {e : Option String} {t : Daemon}
    (h : reloadPeers S o c s = (e, t)) :
    t = { s with peering := t.peering, services := t.services } := by
  unfold reloadPeers at h
  split at h <;> cases h <;> rfl

theorem step_reload (hpc : s.pc = .select) (hr : s.reloadErrs = some r) :
    step S s (.reload file o) = some (handleReload S file o r { s with reloadErrs := none }) := by
  simp [step, hpc, hr]

/-- A reload with `cfg` nil panics. -/
theorem handleReload_nil (hc : s.cfg = none) :
    handleReload S file o r s = { s with pc := .panicked } := by
  simp [handleReload, hc]

/-- A reload whose `reloadConfig` fails sets `cfg` to nil, keeps the settings the setters
changed before the failing one, and answers the request. -/
theorem handleReload_error {c : Config} {e : String} (hc : s.cfg = some c)
    (he : (reloadConfig S.ck file S.ingester S.sth s.runtime).1 = .error e) :
    handleReload S file o r s = reply r (some "could not reload configuration")
      { s with runtime := (reloadConfig S.ck file S.ingester S.sth s.runtime).2, cfg := none } := by
  rw [handleReload, hc]
  simp only [ne_eq, not_true_eq_false, if_false]
  rw [← Prod.mk.eta (p := reloadConfig _ _ _ _ _), he]

/-- A reload whose `reloadConfig` succeeds. -/
theorem handleReload_ok {c c' : Config} (hc : s.cfg = some c)
    (he : (reloadConfig S.ck file S.ingester S.sth s.runtime).1 = .ok c') :
    handleReload S file o r s =
      let s := { s with runtime := (reloadConfig S.ck file S.ingester S.sth s.runtime).2,
                        cfg := some c', shutdownTimeout := c'.shutdownTimeout }
      match reloadPeers S o c' s, r with
      | (some _, s), some _ => reply r (some "could not reload peering service") s
      | (_, s), _ => reply r none { s with addend := c'.indexCountTotalAddend } := by
  rw [handleReload, hc]
  simp only [ne_eq, not_true_eq_false, if_false]
  rw [← Prod.mk.eta (p := reloadConfig _ _ _ _ _), he]

/-- The guard of `ticker.Reset` never holds: a reload leaves the ticker as it was. -/
@[simp] theorem handleReload_ticker : (handleReload S file o r s).ticker = s.ticker := by
  cases hc : s.cfg with
  | none => simp [handleReload_nil hc]
  | some c =>
    cases he : (reloadConfig S.ck file S.ingester S.sth s.runtime).1 with
    | error e => simp [handleReload_error hc he, reply_eq]
    | ok c' =>
      rw [handleReload_ok hc he]
      dsimp only
      split <;> (have h := reloadPeers_frame ‹reloadPeers _ _ _ _ = (_, _)›; rw [h]; simp [reply_eq])

/-- **What a reload does to the peering services**: nothing, or what `reloadPeering` does with
the configuration the reload loaded, when there is a host. -/
theorem handleReload_peers :
    ((handleReload S file o r s).peering = s.peering ∧
      (handleReload S file o r s).services = s.services) ∨
    ∃ c, file = some c ∧ S.host = true ∧
      (handleReload S file o r s).peering =
        (reloadPeering S.peerAddrs o c.peers s.peering s.services).1.1 ∧
      (handleReload S file o r s).services =
        (reloadPeering S.peerAddrs o c.peers s.peering s.services).2 := by
  cases hc : s.cfg with
  | none => simp [handleReload_nil hc]
  | some c =>
    cases he : (reloadConfig S.ck file S.ingester S.sth s.runtime).1 with
    | error e => left; simp [handleReload_error hc he, reply_eq]
    | ok c' =>
      obtain rfl := reloadConfig_ok he
      rw [handleReload_ok hc he]
      dsimp only
      split <;>
      · have ht := (congrArg Prod.snd ‹reloadPeers _ _ _ _ = (_, _)›).symm
        rw [reloadPeers_snd] at ht
        subst ht
        by_cases hh : S.host
        · exact .inr ⟨c', rfl, hh, by simp [hh, reply_eq], by simp [hh, reply_eq]⟩
        · exact .inl (by simp [hh, reply_eq])

end Reload

@[simp] theorem handleTick_ticker (stat : FileStat) (s : Daemon) :
    (handleTick stat s).ticker = s.ticker := by
  cases stat <;> rfl

/-- **What a step does to the peering services**: nothing, or what `reloadPeering` does on a
reload that loaded a configuration, when there is a host. -/
theorem step_peers {S : Setup} {s s' : Daemon} {e : Event} (hs : step S s e = some s') :
    (s'.peering = s.peering ∧ s'.services = s.services) ∨
    ∃ c o, e = .reload (some c) o ∧ S.host = true ∧
      s'.peering = (reloadPeering S.peerAddrs o c.peers s.peering s.services).1.1 ∧
      s'.services = (reloadPeering S.peerAddrs o c.peers s.peering s.services).2 := by
  cases e with
  | reload file o =>
    simp only [step] at hs
    split at hs
    · cases hs
      rcases @handleReload_peers S { s with reloadErrs := none } file o _ with h | ⟨c, rfl, hh, h⟩
      · exact .inl h
      · exact .inr ⟨c, o, rfl, hh, h⟩
    · cases hs
  | timer stat =>
    simp only [step] at hs
    split at hs <;> cases hs
    cases stat <;> exact .inl ⟨rfl, rfl⟩
  | _ =>
    simp only [step] at hs
    (try split at hs) <;> cases hs
    all_goals exact .inl ⟨rfl, rfl⟩

/-- No step changes the ticker. -/
theorem step_ticker {S : Setup} {s s' : Daemon} {e : Event} (hs : step S s e = some s') :
    s'.ticker = s.ticker := by
  cases e <;> simp only [step] at hs <;> (try split at hs) <;> cases hs <;> simp

/-! ## A daemon to run the loop on -/

/-- Setters that accept every value; every peer address parses unless one is empty. -/
def sampleSetup : Setup where
  ck := ⟨fun _ => true, fun _ => true, fun _ => true⟩
  peerAddrs := fun peers => if peers.any (· == "") then none else some (peers.map (⟨·, []⟩))
  watch := true
  host := true
  ingester := true
  sth := true

/-- A configuration with the given config-check interval and peers. -/
def sampleConfig (interval : Nat) (peers : List String) : Config where
  datastoreType := "levelds"
  policy := ⟨true, [], true, []⟩
  rateLimit := ⟨false, [], 0, 0⟩
  ingestWorkerCount := 1
  logLevel := "info"
  loggers := []
  corePutConcurrency := 1
  sthFileCacheSize := 1
  configCheckInterval := interval
  shutdownTimeout := 0
  indexCountTotalAddend := 0
  peers := peers

/-- The settings of `sampleConfig`, with one logger. -/
def sampleRuntime : Runtime := ⟨⟨true, [], true, []⟩, ⟨false, [], 0, 0⟩, 1, [("indexer", "info")], 1, 1⟩

end StoreTheIndex
