import StoreTheIndex.Peer
import Mathlib.Data.List.Nodup

/-!
# Reloading the peering service

`reloadPeering` (`command/daemon.go`) brings the libp2p peering service in line with the
configuration's `Peering.Peers`: with no peers it stops the service it is given; otherwise it
starts a new service with the configured peers, or, given one, removes the peers no longer
listed and adds or updates the listed ones.

The peering service itself is kubo's (outside this repository). Its peer table and its state
follow the library's documented effect; whether `Start` and `Stop` fail is an input,
`PeeringOutcome`, and the services the daemon ever created are kept in a list, `Services`, so
that a service that is no longer referenced but still running can be seen.

* `PeeringService`, `addPeer`, `removePeer`, `startService`, `stopService`;
* `reloadPeering`;
* `reloadPeering_error_keeps_services`: when it fails on a service it was given, it returns nil
  and changes no service;
* `OnlyRunning`, **`reloadPeering_onlyRunning`**: otherwise at most one service runs afterwards,
  the one it returns;
* `addPeer_ids`, `mem_foldl_addPeer`, `mem_foldl_removePeer`, `updatePeers_peers`: the two loops
  on a given service leave exactly the configured peer IDs, each with a configured entry;
* `RunsWithPeers`, **`reloadPeering_reconciles`**: a successful reload of a running service keeps
  it running with exactly the configured peers, or stops it when no peer is configured.
-/

namespace StoreTheIndex

/-- The states of kubo's peering service. -/
inductive PeeringState
  | init
  | running
  | stopped
  deriving DecidableEq, Repr

/-- A peering service: its peers, keyed by ID, and its state. -/
structure PeeringService where
  peers : List AddrInfo
  state : PeeringState
  deriving DecidableEq, Repr

/-- The peering services the daemon has created; `reloadPeering` refers to one by index. -/
abbrev Services := List PeeringService

/-- Whether the calls to `Stop` and `Start` that a reload makes fail. -/
structure PeeringOutcome where
  stopFails : Bool
  startFails : Bool
  deriving DecidableEq, Repr

/-- The outcome where both calls succeed. -/
def PeeringOutcome.ok : PeeringOutcome := ⟨false, false⟩

/-- `PeeringService.AddPeer`: update the addresses of a known peer, or add it. -/
def addPeer (peers : List AddrInfo) (p : AddrInfo) : List AddrInfo :=
  if peers.any (fun q => q.id == p.id) then
    peers.map fun q => if q.id = p.id then p else q
  else peers ++ [p]

/-- `PeeringService.RemovePeer`. -/
def removePeer (peers : List AddrInfo) (id : String) : List AddrInfo :=
  peers.filter fun q => q.id != id

/-- `PeeringService.Stop` that succeeds. -/
def stopService (svc : PeeringService) : PeeringService := { svc with state := .stopped }

/-- `PeeringService.Start` that succeeds. -/
def startService (svc : PeeringService) : PeeringService := { svc with state := .running }

/-- The two loops of `reloadPeering` on a service it was given: remove every previous peer whose
ID is not among `curPeers`, then add every current one. -/
def updatePeers (curPeers : List AddrInfo) (prevPeers : List AddrInfo) : List AddrInfo :=
  curPeers.foldl addPeer
    (prevPeers.foldl (fun ps prev =>
      if curPeers.any (fun cur => cur.id == prev.id) then ps else removePeer ps prev.id) prevPeers)

/-- `reloadPeering(cfg.Peering, peeringService, p2pHost)`: the service index it returns, its error
and the services it leaves; `peerAddrs` is `cfg.PeerAddrs()`. -/
def reloadPeering (peerAddrs : List String → Option (List AddrInfo)) (o : PeeringOutcome)
    (peers : List String) (ps : Option Nat) (svcs : Services) :
    (Option Nat × Option String) × Services :=
  if peers.length = 0 then
    match ps with
    | none => ((none, none), svcs)
    | some i =>
      if o.stopFails then ((none, some "error stopping peering service"), svcs)
      else ((none, none), svcs.modify stopService i)
  else
    match peerAddrs peers with
    | none => ((none, some "bad peering peer"), svcs)
    | some curPeers =>
      match ps with
      | none =>
        let svc : PeeringService := ⟨curPeers.foldl addPeer [], .init⟩
        if o.startFails then ((none, some "failed to start peering service"), svcs ++ [svc])
        else ((some svcs.length, none), svcs ++ [startService svc])
      | some i =>
        ((some i, none), svcs.modify (fun s => { s with peers := updatePeers curPeers s.peers }) i)

/-- A reload that fails on a service it was given (a peer address that does not parse, or a
failing `Stop`) returns nil and leaves every service, the given one included, as it was. -/
theorem reloadPeering_error_keeps_services {peerAddrs : List String → Option (List AddrInfo)}
    {o : PeeringOutcome} {peers : List String} {i : Nat} {svcs : Services}
    (h : (reloadPeering peerAddrs o peers (some i) svcs).1.2.isSome) :
    reloadPeering peerAddrs o peers (some i) svcs =
      ((none, (reloadPeering peerAddrs o peers (some i) svcs).1.2), svcs) := by
  by_cases hp : peers.length = 0
  · cases hs : o.stopFails <;> simp_all [reloadPeering]
  · cases ha : peerAddrs peers <;> simp_all [reloadPeering]

/-! ## Which services run -/

/-- Every running service is the one `ps` refers to. -/
def OnlyRunning (ps : Option Nat) (svcs : Services) : Prop :=
  ∀ i (h : i < svcs.length), svcs[i].state = .running → ps = some i

section Safe

variable {ps : Option Nat} {svcs : Services}

/-- With no service referred to, none runs. -/
theorem OnlyRunning.none_running (h : OnlyRunning none svcs) (i : Nat) (hi : i < svcs.length) :
    svcs[i].state ≠ .running := fun hr => by simpa using h i hi hr

/-- Changing a service without starting it keeps the property. -/
theorem OnlyRunning.modify {f : PeeringService → PeeringService} {i : Nat}
    (h : OnlyRunning ps svcs) (hf : ∀ s, (f s).state = .running → s.state = .running) :
    OnlyRunning ps (svcs.modify f i) := by
  intro j hj hr
  rw [List.getElem_modify] at hr
  split at hr
  · exact h j (by simpa using hj) (hf _ hr)
  · exact h j (by simpa using hj) hr

/-- Stopping the service referred to leaves none running. -/
theorem OnlyRunning.stop {i : Nat} (h : OnlyRunning (some i) svcs) :
    OnlyRunning none (svcs.modify stopService i) := by
  intro j hj hr
  rw [List.getElem_modify] at hr
  split at hr
  · simp [stopService] at hr
  · exact absurd (Option.some.inj (h j (by simpa using hj) hr)) ‹_›

/-- A new service, with no service referred to before, is the only one that may run. -/
theorem OnlyRunning.append {svc : PeeringService} (h : OnlyRunning none svcs) :
    OnlyRunning (if svc.state = .running then some svcs.length else none) (svcs ++ [svc]) := by
  intro j hj hr
  rw [List.getElem_append] at hr
  split at hr
  · exact absurd hr (h.none_running j ‹_›)
  · have : j = svcs.length := by simp at hj; omega
    subst this
    simp_all

/-- **A reload that does not fail on a service it was given keeps at most one service running,
the one it returns.** -/
theorem reloadPeering_onlyRunning {peerAddrs : List String → Option (List AddrInfo)}
    {o : PeeringOutcome} {peers : List String} (h : OnlyRunning ps svcs)
    (hok : (reloadPeering peerAddrs o peers ps svcs).1.2 = none ∨ ps = none) :
    OnlyRunning (reloadPeering peerAddrs o peers ps svcs).1.1
      (reloadPeering peerAddrs o peers ps svcs).2 := by
  by_cases hp : peers.length = 0
  · cases ps with
    | none => simpa [reloadPeering, hp] using h
    | some i =>
      cases hs : o.stopFails
      · simpa [reloadPeering, hp, hs] using h.stop
      · simp [reloadPeering, hp, hs] at hok
  · cases ha : peerAddrs peers with
    | none =>
      obtain rfl : ps = none := by simpa [reloadPeering, hp, ha] using hok
      simpa [reloadPeering, hp, ha] using h
    | some cur =>
      cases ps with
      | none =>
        cases hs : o.startFails
        · simpa [reloadPeering, hp, ha, hs, startService] using
            @OnlyRunning.append svcs (startService ⟨cur.foldl addPeer [], .init⟩) h
        · simpa [reloadPeering, hp, ha, hs] using
            @OnlyRunning.append svcs ⟨cur.foldl addPeer [], .init⟩ h
      | some i =>
        simpa [reloadPeering, hp, ha] using
          @OnlyRunning.modify (some i) svcs (fun s => { s with peers := updatePeers cur s.peers }) i h
            fun _ hs => hs

/-- With `Stop` succeeding and every configured address parsing, a reload on a service it is
given does not fail. -/
theorem reloadPeering_ok_of_clean {peerAddrs : List String → Option (List AddrInfo)}
    {o : PeeringOutcome} {peers : List String} {i : Nat} (hs : o.stopFails = false)
    (hp : peers ≠ [] → (peerAddrs peers).isSome) :
    (reloadPeering peerAddrs o peers (some i) svcs).1.2 = none := by
  by_cases h0 : peers.length = 0
  · simp [reloadPeering, h0, hs]
  · obtain ⟨cur, hc⟩ := Option.isSome_iff_exists.mp (hp (by simpa using h0))
    simp [reloadPeering, h0, hc]

end Safe

/-! ## The peers after a reload -/

section Reconcile

/-- The IDs after `addPeer`: the same, or the new ID at the end. -/
theorem addPeer_map_id (ps : List AddrInfo) (p : AddrInfo) :
    (addPeer ps p).map AddrInfo.id =
      if ps.any (fun q => q.id == p.id) then ps.map AddrInfo.id else ps.map AddrInfo.id ++ [p.id] := by
  unfold addPeer
  split
  · rw [List.map_map]
    exact List.map_congr_left fun q _ => by by_cases hq : q.id = p.id <;> simp [hq]
  · simp

/-- `addPeer` adds the peer's ID and no other. -/
theorem addPeer_ids (ps : List AddrInfo) (p : AddrInfo) (id : PeerId) :
    id ∈ (addPeer ps p).map AddrInfo.id ↔ id ∈ ps.map AddrInfo.id ∨ id = p.id := by
  rw [addPeer_map_id]
  split
  · rename_i h
    obtain ⟨q, hq, hqp⟩ := List.any_eq_true.mp h
    have hp : p.id ∈ ps.map AddrInfo.id := List.mem_map.mpr ⟨q, hq, by simpa using hqp⟩
    exact ⟨.inl, fun h' => h'.elim (fun h => h) (· ▸ hp)⟩
  · simp

/-- An entry after `addPeer` is the peer added, or an entry of another ID that was there. -/
theorem mem_addPeer {ps : List AddrInfo} {p q : AddrInfo} (hq : q ∈ addPeer ps p) :
    q = p ∨ (q ∈ ps ∧ q.id ≠ p.id) := by
  unfold addPeer at hq
  split at hq
  · obtain ⟨r, hr, rfl⟩ := List.mem_map.mp hq
    by_cases h : r.id = p.id <;> simp_all
  · rcases List.mem_append.mp hq with h | h
    · exact .inr ⟨h, fun he => by simp_all⟩
    · exact .inl (List.mem_singleton.mp h)

/-- The IDs after adding peers in order are those before and those added. -/
theorem foldl_addPeer_ids (cur ps : List AddrInfo) (id : PeerId) :
    id ∈ (cur.foldl addPeer ps).map AddrInfo.id ↔
      id ∈ ps.map AddrInfo.id ∨ id ∈ cur.map AddrInfo.id := by
  induction cur generalizing ps with
  | nil => simp
  | cons p cur ih => simp only [List.foldl_cons, ih, addPeer_ids, List.map_cons, List.mem_cons,
      or_assoc]

/-- An entry after adding peers in order is one of them, or an earlier entry of an ID none of
them has. -/
theorem mem_foldl_addPeer {cur ps : List AddrInfo} {q : AddrInfo}
    (hq : q ∈ cur.foldl addPeer ps) : q ∈ cur ∨ (q ∈ ps ∧ q.id ∉ cur.map AddrInfo.id) := by
  induction cur generalizing ps with
  | nil => exact .inr ⟨hq, by simp⟩
  | cons p cur ih =>
    rcases ih hq with h | ⟨h, hn⟩
    · exact .inl (.tail _ h)
    · rcases mem_addPeer h with rfl | ⟨h', hne⟩
      · exact .inl (.head _)
      · exact .inr ⟨h', by simpa [hne] using hn⟩

/-- The first loop of a reload keeps only entries that were there, and none with the ID of a
previous peer that is no longer configured. -/
theorem mem_foldl_removePeer {cur l ps : List AddrInfo} {q : AddrInfo}
    (hq : q ∈ l.foldl (fun ps prev =>
      if cur.any (fun c => c.id == prev.id) then ps else removePeer ps prev.id) ps) :
    q ∈ ps ∧ ∀ p ∈ l, p.id ∉ cur.map AddrInfo.id → q.id ≠ p.id := by
  induction l generalizing ps with
  | nil => exact ⟨hq, by simp⟩
  | cons p l ih =>
    obtain ⟨hq', hl⟩ := ih hq
    dsimp only at hq'
    have hp : q ∈ ps ∧ (p.id ∉ cur.map AddrInfo.id → q.id ≠ p.id) := by
      by_cases hc : cur.any (fun c => c.id == p.id) = true
      · rw [if_pos hc] at hq'
        obtain ⟨c, hcm, hcp⟩ := List.any_eq_true.mp hc
        exact ⟨hq', fun hn => absurd (List.mem_map.mpr ⟨c, hcm, by simpa using hcp⟩) hn⟩
      · rw [if_neg hc] at hq'
        obtain ⟨hq', hne⟩ := List.mem_filter.mp hq'
        exact ⟨hq', fun _ => by simpa using hne⟩
    exact ⟨hp.1, fun r hr => (List.mem_cons.mp hr).elim (· ▸ hp.2) (hl r)⟩

/-- A service runs with exactly the configured peers: it is running, its peer IDs are the
configured ones, and each of its entries is a configured one, addresses included. -/
def RunsWithPeers (cur : List AddrInfo) (svc : PeeringService) : Prop :=
  svc.state = .running ∧ (∀ id, id ∈ svc.peers.map AddrInfo.id ↔ id ∈ cur.map AddrInfo.id) ∧
    ∀ q ∈ svc.peers, q ∈ cur

/-- After the two loops, the peer IDs are the configured ones and every entry is a configured
one: previous peers no longer listed are gone, listed ones are added or updated. -/
theorem updatePeers_peers (cur prev : List AddrInfo) :
    (∀ id, id ∈ (updatePeers cur prev).map AddrInfo.id ↔ id ∈ cur.map AddrInfo.id) ∧
      ∀ q ∈ updatePeers cur prev, q ∈ cur := by
  have hkept : ∀ q ∈ prev.foldl (fun ps prev =>
      if cur.any (fun c => c.id == prev.id) then ps else removePeer ps prev.id) prev,
      q.id ∈ cur.map AddrInfo.id := fun q hq => by
    obtain ⟨hq, hl⟩ := mem_foldl_removePeer hq
    by_contra hn
    exact hl q hq hn rfl
  refine ⟨fun id => ?_, fun q hq => ?_⟩
  · rw [updatePeers, foldl_addPeer_ids]
    refine ⟨fun h => h.elim (fun h => ?_) (fun h => h), .inr⟩
    obtain ⟨q, hq, rfl⟩ := List.mem_map.mp h
    exact hkept q hq
  · rcases mem_foldl_addPeer hq with h | ⟨h, hn⟩
    · exact h
    · exact absurd (hkept q h) hn

/-- **A reload that succeeds on a running service reconciles its peers**, or, with none
configured, stops the service and returns none. -/
theorem reloadPeering_reconciles {peerAddrs : List String → Option (List AddrInfo)}
    {o : PeeringOutcome} {peers : List String} {i : Nat} {svcs : Services} (hi : i < svcs.length)
    (hrun : svcs[i].state = .running)
    (hok : (reloadPeering peerAddrs o peers (some i) svcs).1.2 = none) :
    (peers ≠ [] → ∃ cur, peerAddrs peers = some cur ∧
      (reloadPeering peerAddrs o peers (some i) svcs).1.1 = some i ∧
      ∃ svc, (reloadPeering peerAddrs o peers (some i) svcs).2[i]? = some svc ∧
        RunsWithPeers cur svc) ∧
    (peers = [] → (reloadPeering peerAddrs o peers (some i) svcs).1.1 = none ∧
      ∃ svc, (reloadPeering peerAddrs o peers (some i) svcs).2[i]? = some svc ∧
        svc.state = .stopped ∧ svc.peers = svcs[i].peers) := by
  constructor
  · intro hp
    have h0 : ¬ peers.length = 0 := by simpa using hp
    cases ha : peerAddrs peers with
    | none => simp [reloadPeering, h0, ha] at hok
    | some cur =>
      refine ⟨cur, rfl, by simp [reloadPeering, h0, ha],
        { svcs[i] with peers := updatePeers cur svcs[i].peers }, ?_, hrun,
        updatePeers_peers cur svcs[i].peers⟩
      simp [reloadPeering, h0, ha, List.getElem?_modify, hi]
  · rintro rfl
    cases hs : o.stopFails
    · exact ⟨by simp [reloadPeering, hs], stopService svcs[i],
        by simp [reloadPeering, hs, List.getElem?_modify, hi], rfl, rfl⟩
    · simp [reloadPeering, hs] at hok

/-- Every peer address parses, to a peer of that ID with no addresses. -/
def parsePeers (peers : List String) : Option (List AddrInfo) := some (peers.map fun s => ⟨s, []⟩)

/-- A running service with peers `a` and `b`. -/
def abService : PeeringService := ⟨[⟨"a", []⟩, ⟨"b", ["/ip4/10.0.0.2/tcp/4001"]⟩], .running⟩

/-- Reloading `abService` with peers `b` and `c` (`a` is removed, `b` updated, `c` added), and
with no peers (the service is stopped). -/
theorem abService_reconciled :
    (0 < [abService].length ∧ [abService][0].state = .running ∧
      (reloadPeering parsePeers .ok ["b", "c"] (some 0) [abService]).1.2 = none ∧
      ∃ cur, parsePeers ["b", "c"] = some cur ∧
        (reloadPeering parsePeers .ok ["b", "c"] (some 0) [abService]).1.1 = some 0 ∧
        ∃ svc, (reloadPeering parsePeers .ok ["b", "c"] (some 0) [abService]).2[0]? = some svc ∧
          RunsWithPeers cur svc) ∧
    ((reloadPeering parsePeers .ok [] (some 0) [abService]).1.2 = none ∧
      (reloadPeering parsePeers .ok [] (some 0) [abService]).1.1 = none ∧
      ∃ svc, (reloadPeering parsePeers .ok [] (some 0) [abService]).2[0]? = some svc ∧
        svc.state = .stopped ∧ svc.peers = [abService][0].peers) :=
  ⟨⟨by decide, rfl, rfl,
    (@reloadPeering_reconciles parsePeers .ok ["b", "c"] 0 [abService] (by decide) rfl rfl).1
      (by decide)⟩,
    rfl, (@reloadPeering_reconciles parsePeers .ok [] 0 [abService] (by decide) rfl rfl).2 rfl⟩

example : (reloadPeering parsePeers .ok ["b", "c"] (some 0) [abService]).2 =
    [⟨[⟨"b", []⟩, ⟨"c", []⟩], .running⟩] := rfl

end Reconcile

end StoreTheIndex
