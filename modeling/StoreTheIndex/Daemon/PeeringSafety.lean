import StoreTheIndex.Daemon.Loop

/-!
# Which peering services run

The daemon means to run at most one peering service, the one `peeringService` refers to, so
that the shutdown path stops it (`PeeringSafe`). Every step keeps this except one:
`reloadPeering` returns a nil service with its error in two cases where the service it was
given is still running, a peer address of the new configuration that does not parse, or no
peers and a failing `Stop`. The loop assigns the nil to `peeringService` either way, so the
running service is no longer referred to: the shutdown path does not stop it, and the next
reload with valid peers starts a second one.

* `PeeringSafe`, `shutdown_stops_all`: with it, the shutdown path leaves no service running;
* `CleanPeering`, `step_peeringSafe`, **`run_peeringSafe`**: a run whose reloads cannot make
  `reloadPeering` fail keeps it;
* `reloadPeers_of_error`: the peering part of a failing reload only drops the reference;
* **`reload_orphans_peering`**: such a reload leaves the loop in its `select` with a running
  service that it no longer refers to and that `shutdown` leaves running;
* `peeringDaemon_orphans`: a configuration with an empty peer address does it.
-/

namespace StoreTheIndex

/-- Every running service is the one `peeringService` refers to, so at most one runs and the
shutdown path stops it. -/
def PeeringSafe (s : Daemon) : Prop :=
  ∀ i (h : i < s.services.length), s.services[i].state = .running → s.peering = some i

instance : DecidablePred PeeringSafe := fun s => by unfold PeeringSafe; infer_instance

theorem peeringSafe_iff (s : Daemon) : PeeringSafe s ↔ OnlyRunning s.peering s.services := Iff.rfl

/-- With `PeeringSafe`, the shutdown path leaves no service running. -/
theorem shutdown_stops_all {s : Daemon} (h : PeeringSafe s) (i : Nat)
    (hi : i < (shutdown s).length) : (shutdown s)[i].state ≠ .running := by
  rw [peeringSafe_iff] at h
  cases hp : s.peering with
  | none =>
    simp only [shutdown, hp] at hi ⊢
    exact (hp ▸ h).none_running i hi
  | some j =>
    simp only [shutdown, hp] at hi ⊢
    exact (hp ▸ h : OnlyRunning (some j) s.services).stop.none_running i hi

/-! ## Runs that keep it -/

/-- An event whose peering calls cannot fail: a reload whose `Stop` succeeds and whose
configuration's peer addresses all parse, or any other event. -/
def CleanPeering (S : Setup) : Event → Prop
  | .reload (some c) o => o.stopFails = false ∧ (c.peers ≠ [] → (S.peerAddrs c.peers).isSome)
  | _ => True

/-- **A step whose peering calls cannot fail keeps `PeeringSafe`.** -/
theorem step_peeringSafe {S : Setup} {s s' : Daemon} {e : Event} (h : PeeringSafe s)
    (hc : CleanPeering S e) (hs : step S s e = some s') : PeeringSafe s' := by
  rw [peeringSafe_iff] at h ⊢
  rcases step_peers hs with ⟨hp, hsv⟩ | ⟨c, o, rfl, -, hp, hsv⟩
  · rw [hp, hsv]; exact h
  · rw [hp, hsv]
    refine reloadPeering_onlyRunning h ?_
    cases hps : s.peering with
    | none => exact .inr rfl
    | some i => exact .inl (reloadPeering_ok_of_clean hc.1 hc.2)

/-- **Without a failing peering reload, the daemon loses no service**: at most one service
runs, the one the loop refers to. -/
theorem run_peeringSafe (S : Setup) {evs : List Event} (hclean : ∀ e ∈ evs, CleanPeering S e)
    {s s' : Daemon} (h : PeeringSafe s) (hr : run S s evs = some s') : PeeringSafe s' :=
  run_invariant_of S PeeringSafe (fun _ e => CleanPeering S e)
    (fun _ _ _ h hc hs => step_peeringSafe h hc hs) (fun e he _ => hclean e he) h hr

/-! ## The failing reload -/

/-- The peering part of a reload whose `reloadPeering` fails on the service the loop refers to
only drops the reference. -/
theorem reloadPeers_of_error {S : Setup} {o : PeeringOutcome} {c : Config} {s : Daemon} {i : Nat}
    (hhost : S.host = true) (hps : s.peering = some i)
    (h : (reloadPeering S.peerAddrs o c.peers (some i) s.services).1.2.isSome) :
    (reloadPeers S o c s).2 = { s with peering := none } := by
  unfold reloadPeers
  rw [if_pos hhost, hps, reloadPeering_error_keeps_services h]

/-- **A failed peering reload orphans the running service**: the loop refers to no service
while that one still runs, and the shutdown path leaves it running. -/
theorem reload_orphans_peering (S : Setup) (hhost : S.host = true) (s : Daemon)
    (r : ReloadReq) (c file : Config) (o : PeeringOutcome) (i : Nat) (hi : i < s.services.length)
    (hsel : s.pc = .select) (hreq : s.reloadErrs = some r) (hcfg : s.cfg = some c)
    (hps : s.peering = some i) (hrun : s.services[i].state = .running)
    (hok : (reloadConfig S.ck (some file) S.ingester S.sth s.runtime).1 = .ok file)
    (hfail : (reloadPeering S.peerAddrs o file.peers (some i) s.services).1.2.isSome) :
    ∃ s', step S s (.reload (some file) o) = some s' ∧ s'.pc = .select ∧ s'.peering = none ∧
      s'.services = s.services ∧ ¬ PeeringSafe s' ∧ shutdown s' = s.services := by
  refine ⟨_, step_reload hsel hreq, ?_⟩
  rw [@handleReload_ok S { s with reloadErrs := none } (some file) o r c file hcfg hok]
  dsimp only
  split <;>
  · have h := ‹reloadPeers _ _ _ _ = (_, _)›
    have ht := (congrArg Prod.snd h).symm.trans (reloadPeers_of_error hhost hps hfail)
    subst ht
    simp only [reply_eq, shutdown, PeeringSafe, hsel, true_and, and_true]
    exact fun h => by simpa using h i hi hrun

/-- The daemon of `sampleSetup` running peering service `0` for peer `a`, with a reload request
in the buffer. -/
def peeringDaemon : Daemon :=
  { Daemon.init sampleSetup (sampleConfig 1 ["a"]) sampleRuntime (some 0) [⟨[⟨"a", []⟩], .running⟩]
    with reloadErrs := some none }

theorem peeringDaemon_orphans :
    ∃ s', step sampleSetup peeringDaemon (.reload (some (sampleConfig 1 [""])) .ok) = some s' ∧
      s'.pc = .select ∧ s'.peering = none ∧ s'.services = peeringDaemon.services ∧
      ¬ PeeringSafe s' ∧ shutdown s' = peeringDaemon.services :=
  reload_orphans_peering sampleSetup rfl peeringDaemon none (sampleConfig 1 ["a"])
    (sampleConfig 1 [""]) .ok 0 (by decide) rfl rfl rfl rfl rfl rfl rfl

end StoreTheIndex
