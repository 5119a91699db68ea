import StoreTheIndex.CarWriter.Delete

/-!
# `WriteExisting`

`WriteExisting` finds the staged advertisements (`findAds`, in the datastore's query order) and
writes them one after another with `Write(ctx, adCid, false)`. A `*WriteError` stops the loop,
any other error skips the advertisement, and cancellation stops it before the next one.

Each `Write` deletes what it archived, so a later advertisement that shares entry blocks with an
earlier one no longer finds them. With a shared entries root it gets a CAR without entries
(`sharedStore_loses_entries`); with a shared chain suffix its walk hits the deleted chunk and
**`write_deletes_ad_without_car`**: the advertisement leaves the datastore with no CAR file
(`suffixStore_deletes_ad`). When no block is shared, every staged advertisement ends up in a
CAR holding exactly its staged blocks (`writeExisting_archives_disjoint`).

* `findAds`, `writeLoop`, `writeExisting`;
* `BrokenChain`: a chain whose walk reaches a chunk that does not load;
* `Staged`: an advertisement whose entry blocks are present and decodable;
* `write_staged`: `Write` of a staged advertisement without a CAR file succeeds;
* `Pending`, `Pending.write_head`, `writeLoop_archives`: the loop's invariant, its step and its
  run.
-/

namespace StoreTheIndex

/-- `findAds`: in query order, the keys whose value is non-empty and decodes as an
advertisement (`isAdvertisement`: the `Signature` field the schema requires). -/
def findAds (ds : Datastore) : List Cid :=
  ds.entries.filterMap fun e => if e.2.data.isEmpty then none else e.2.ad.map fun _ => e.1

/-- How the `WriteExisting` goroutine ends: it sends the count on `done`, or a `Write` panics. -/
inductive LoopEnd
  | sent (count : Nat)
  | panic
  deriving DecidableEq, Repr

/-- The loop of the `WriteExisting` goroutine over `adCids`, at index `i` with `count` files
written; `cancelled i` is `ctx.Err() != nil` before the `i`-th advertisement. -/
def writeLoop (f : Faults) (fuel : Nat) (cancelled : Nat → Bool) :
    List Cid → Nat → Nat → CarWriter → Option (LoopEnd × CarWriter)
  | [], _, count, cw => some (.sent count, cw)
  | adCid :: adCids, i, count, cw =>
    if cancelled i then some (.sent count, cw)
    else
      match write f fuel cw adCid false with
      | none => none
      | some (.ok _, cw) => writeLoop f fuel cancelled adCids (i + 1) (count + 1) cw
      | some (.error e, cw) =>
        -- error writing to car file; stop writing ads
        if e.isWriteError then some (.sent count, cw)
        else writeLoop f fuel cancelled adCids (i + 1) count cw
      | some (.panic, cw) => some (.panic, cw)

/-- `WriteExisting`; `none` is the `done` channel closed without a count. -/
def writeExisting (f : Faults) (fuel : Nat) (cancelled : Nat → Bool) (cw : CarWriter) :
    Option (Option LoopEnd × CarWriter) :=
  if (findAds cw.dstore).isEmpty then some (none, cw)
  else (writeLoop f fuel cancelled (findAds cw.dstore) 0 0 cw).map fun r => (some r.1, r.2)

/-! ## Shared entry blocks -/

/-- Two staged advertisements `1` and `2` with the same entries root, the chunk `3`. -/
def sharedStore : Datastore :=
  ⟨[(1, ⟨[1], none, some ⟨.link 3⟩, none, by simp⟩),
    (2, ⟨[2], none, some ⟨.link 3⟩, none, by simp⟩),
    (3, ⟨[3], some ⟨false⟩, none, some ⟨none⟩, by simp⟩)], by decide⟩

/-- With no failure and no cancellation, the second advertisement's CAR has lost the shared
chunk `3`, which was staged and decodable at the start. -/
theorem sharedStore_loses_entries :
    Chain sharedStore 3 [3] ∧
      writeExisting Faults.none 0 (fun _ => false) ⟨sharedStore, ⟨[]⟩⟩ =
        some (some (.sent 2), ⟨deleteCids (deleteCids sharedStore [1, 3, 3]) [2, 3, 3],
          FileStore.put (FileStore.put ⟨[]⟩ 1 ⟨[1, 3], [(1, [1]), (3, [3])]⟩) 2
            ⟨[2, 3], [(2, [2])]⟩⟩) :=
  ⟨.last rfl, rfl⟩

/-- `BrokenChain ds c n`: following at most `n` `Next` links from `c` reaches a chunk that does
not load, such as one an earlier `Write` deleted. -/
inductive BrokenChain (ds : Datastore) : Cid → Nat → Prop
  | here {c : Cid} {n : Nat} {e : LoadErr} : loadEntryChunk ds c = .error e → BrokenChain ds c n
  | next {c c' : Cid} {n : Nat} {data : Bytes} :
      loadEntryChunk ds c = .ok (⟨some c'⟩, data) → BrokenChain ds c' n →
      BrokenChain ds c (n + 1)

/-- A fault-free chunk loop over a broken chain ends in `loadFailed`, its delete list extended by
the links it followed. -/
theorem writeChunks_of_broken {ds : Datastore} {adCid c : Cid} {n : Nat}
    (h : BrokenChain ds c n) : ∀ {fuel car d}, n ≤ fuel →
      ∃ d', writeChunks Faults.none ds adCid fuel c car d = some (.loadFailed (d ++ d')) := by
  induction h with
  | here hl =>
    intro fuel car d _
    cases fuel <;> exact ⟨[], by simp [writeChunks, writeStep, hl]⟩
  | @next c c' n data hl _ ih =>
    intro fuel car d hfuel
    cases fuel with
    | zero => omega
    | succ m =>
      obtain ⟨d', h⟩ := @ih m (car.put c data) (d ++ [c']) (by omega)
      exact ⟨c' :: d', by simpa [writeChunks, writeStep, hl, Faults.none] using h⟩

/-- **`Write` deletes an advertisement it could not archive**: with a broken entry chain and no
failing call, it writes no file and removes the advertisement. -/
theorem write_deletes_ad_without_car {fuel n : Nat} {cw : CarWriter} {adCid e : Cid}
    {ad : Advertisement} {data d : Bytes} {node : Node}
    (had : loadAd cw.dstore adCid = .ok (ad, data)) (hnew : cw.fileStore.head adCid = none)
    (hroot : entriesRoot ad false = some e)
    (hload : loadNode cw.dstore e Block.node = .ok (node, d)) (hd : d ≠ [])
    (hn : isHAMT node = false) (hbroken : BrokenChain cw.dstore e n) (hfuel : n ≤ fuel) :
    ∃ cw', write Faults.none fuel cw adCid false = some (.error .loadEntries, cw') ∧
      cw'.fileStore.head adCid = none ∧ cw'.dstore.get adCid = none := by
  obtain ⟨d', hw⟩ := @writeChunks_of_broken cw.dstore adCid e n hbroken fuel
    ((Car.mk [adCid, e] []).put adCid data) [adCid, e, e] hfuel
  have hne : d.isEmpty = false := by cases d <;> simp_all
  refine ⟨⟨deleteCids cw.dstore ([adCid, e, e] ++ d'), cw.fileStore⟩, ?_, hnew, by simp⟩
  rw [write_slow had (by simpa [Faults.none] using hnew)]
  simp only [Faults.none] at hw ⊢
  simp [hroot, writeEntries, hload, hne, hn, hw, Faults.deleted]

/-- Two staged advertisements sharing the chunk `3`: `2` links to it, and `1` to the chunk `4`
whose `Next` is `3`; the query finds `2` first. -/
def suffixStore : Datastore :=
  ⟨[(2, ⟨[2], none, some ⟨.link 3⟩, none, by simp⟩),
    (1, ⟨[1], none, some ⟨.link 4⟩, none, by simp⟩),
    (4, ⟨[4], some ⟨false⟩, none, some ⟨some 3⟩, by simp⟩),
    (3, ⟨[3], some ⟨false⟩, none, some ⟨none⟩, by simp⟩)], by decide⟩

/-- The writer after the `Write` of `2` in the run over `suffixStore`. -/
def suffixWriter : CarWriter :=
  ⟨deleteCids suffixStore [2, 3, 3], FileStore.put ⟨[]⟩ 2 ⟨[2, 3], [(2, [2]), (3, [3])]⟩⟩

/-- With no failure and no cancellation, the run over `suffixStore` archives `2`, and the
`Write` of `1`, whose chain `4, 3` was complete at the start, removes `1` with no CAR file. -/
theorem suffixStore_deletes_ad :
    writeExisting Faults.none 1 (fun _ => false) ⟨suffixStore, ⟨[]⟩⟩ =
        some (some (.sent 1), ⟨deleteCids suffixWriter.dstore [1, 4, 4, 3],
          suffixWriter.fileStore⟩) ∧
      Chain suffixStore 4 [4, 3] ∧
      ∃ cw', write Faults.none 1 suffixWriter 1 false = some (.error .loadEntries, cw') ∧
        cw'.fileStore.head 1 = none ∧ cw'.dstore.get 1 = none :=
  ⟨rfl, .next rfl (.last rfl),
    write_deletes_ad_without_car (e := 4) rfl rfl rfl rfl (by simp) rfl (.next rfl (.here rfl))
      le_rfl⟩

/-! ## Staged advertisements -/

theorem EntriesWritten.unique {ds : Datastore} {root : Option Cid} {w w' : List Cid}
    (h : EntriesWritten ds root w) (h' : EntriesWritten ds root w') : w = w' := by
  cases h with
  | noRoot => cases h'; rfl
  | missing hg => cases h' <;> simp_all
  | empty hg hd hn => cases h' <;> simp_all
  | hamt hg hd hn hh => cases h' <;> simp_all
  | chunks hg hd hn hh hch =>
    cases h' with
    | chunks hg' _ hn' _ hch' => exact hch.unique hch'
    | _ => simp_all

/-- `EntriesWritten` only depends on the values of the root and of the blocks written. -/
theorem EntriesWritten.congr {ds ds' : Datastore} {root : Option Cid} {w : List Cid}
    (h : EntriesWritten ds root w) (hag : ∀ x ∈ root.toList ++ w, ds'.get x = ds.get x) :
    EntriesWritten ds' root w := by
  cases h with
  | noRoot => exact .noRoot
  | missing hg => exact .missing ((hag _ (by simp)).trans hg)
  | empty hg hd hn => exact .empty ((hag _ (by simp)).trans hg) hd hn
  | hamt hg hd hn hh => exact .hamt ((hag _ (by simp)).trans hg) hd hn hh
  | chunks hg hd hn hh hch =>
    exact .chunks ((hag _ (by simp)).trans hg) hd hn hh
      (hch.congr fun x hx => hag x (by simp [hx]))

/-- An advertisement whose entry blocks are present and decodable, `cs` being its HAMT root or
its whole chunk chain (`[]` without an entries root). -/
def Staged (ds : Datastore) (a : Cid) (cs : List Cid) : Prop :=
  ∃ ad data, loadAd ds a = .ok (ad, data) ∧ EntriesWritten ds (entriesRoot ad false) cs ∧
    ∀ e ∈ entriesRoot ad false, ∃ b, ds.get e = some b ∧ b.data ≠ []

theorem EntriesWritten.root_mem {ds : Datastore} {root : Option Cid} {w : List Cid}
    (h : EntriesWritten ds root w) (hp : ∀ e ∈ root, ∃ b, ds.get e = some b ∧ b.data ≠ []) :
    ∀ e ∈ root, e ∈ w := by
  cases h with
  | noRoot => simp
  | missing hg => simp_all
  | empty hg hd => simp_all
  | hamt => simp
  | chunks _ _ _ _ hch => intro e he; cases he; rw [hch.head_eq]; simp

/-- Whether an advertisement is staged only depends on the values of its own blocks. -/
theorem Staged.congr {ds ds' : Datastore} {a : Cid} {cs : List Cid} (h : Staged ds a cs)
    (hag : ∀ x ∈ a :: cs, ds'.get x = ds.get x) : Staged ds' a cs := by
  obtain ⟨ad, data, had, hw, hp⟩ := h
  have hroot := hw.root_mem hp
  refine ⟨ad, data, (loadNode_congr (hag a (by simp))).trans had,
    hw.congr fun x hx => hag x ?_, fun e he => ?_⟩
  · rcases List.mem_append.mp hx with hx | hx
    · exact List.mem_cons_of_mem _ (hroot x (by simpa using hx))
    · exact List.mem_cons_of_mem _ hx
  · rw [hag e (List.mem_cons_of_mem _ (hroot e he))]; exact hp e he

theorem writeEntries_staged {fuel : Nat} {ds : Datastore} {adCid : Cid} {car : Car}
    {roots : List Cid} {root : Option Cid} {cs : List Cid} (hw : EntriesWritten ds root cs)
    (hp : ∀ e ∈ root, ∃ b, ds.get e = some b ∧ b.data ≠ []) (hfuel : cs.length ≤ fuel + 1) :
    ∃ car' dels, writeEntries Faults.none fuel ds adCid car roots root = some (.ok car', dels) := by
  cases hw with
  | noRoot => exact ⟨_, _, rfl⟩
  | missing hg => simp_all
  | empty hg hd => simp_all
  | @hamt e b n hg hd hn hh =>
    have hload : loadNode ds e Block.node = .ok (n, b.data) := by simp [loadNode, hg, hn]
    have hne : b.data.isEmpty = false := by cases h : b.data <;> simp_all
    exact ⟨car.put e b.data, roots ++ [e],
      by simp [writeEntries, hload, hne, isHAMT, hh, Faults.none, finish]⟩
  | @chunks e b n cs hg hd hn hh hch =>
    have hload : loadNode ds e Block.node = .ok (n, b.data) := by simp [loadNode, hg, hn]
    have hne : b.data.isEmpty = false := by cases h : b.data <;> simp_all
    obtain ⟨car', d', hwc⟩ := @writeChunks_of_chain ds adCid e cs hch fuel car (roots ++ [e]) hfuel
    exact ⟨car', d', by simp [writeEntries, hload, hne, isHAMT, hh, hwc]⟩

/-- **`Write` of a staged advertisement without a CAR file succeeds** when every call succeeds
and the fuel covers its chain. -/
theorem write_staged {fuel : Nat} {cw : CarWriter} {a : Cid} {cs : List Cid}
    (hs : Staged cw.dstore a cs) (hnew : cw.fileStore.head a = none)
    (hfuel : cs.length ≤ fuel + 1) :
    ∃ car cw', write Faults.none fuel cw a false = some (.ok car, cw') := by
  obtain ⟨ad, data, had, hw, hp⟩ := hs
  obtain ⟨car', dels, he⟩ := @writeEntries_staged fuel cw.dstore a
    ((Car.mk (a :: (entriesRoot ad false).toList) []).put a data)
    (a :: (entriesRoot ad false).toList) _ cs hw hp hfuel
  rw [write_slow had (by simpa [Faults.none]), he]
  exact ⟨car', ⟨deleteCids cw.dstore dels, cw.fileStore.put a car'⟩,
    by simp [Faults.none, Faults.deleted]⟩

theorem Staged.unique {ds : Datastore} {a : Cid} {cs cs' : List Cid} (h : Staged ds a cs)
    (h' : Staged ds a cs') : cs = cs' := by
  obtain ⟨ad, data, had, hw, -⟩ := h
  obtain ⟨ad', data', had', hw', -⟩ := h'
  rw [had] at had'
  cases had'
  exact hw.unique hw'

theorem Car.Holds.congr {ds ds' : Datastore} {car : Car} {S : List Cid} (h : car.Holds ds S)
    (hag : ∀ x ∈ S, ds'.get x = ds.get x) : car.Holds ds' S := by
  intro c b
  rw [h c b]
  exact ⟨fun ⟨hc, hs⟩ => ⟨hc, by simpa [Stored, hag c hc] using hs⟩,
    fun ⟨hc, hs⟩ => ⟨hc, by simpa [Stored, hag c hc] using hs⟩⟩

theorem findAds_nodup (ds : Datastore) : (findAds ds).Nodup := by
  have h : ∀ l : List (Cid × Block),
      List.Sublist (l.filterMap fun e => if e.2.data.isEmpty then none else e.2.ad.map fun _ => e.1)
        (l.map Prod.fst) := by
    intro l
    induction l with
    | nil => simp
    | cons e l ih =>
      simp only [List.filterMap_cons, List.map_cons]
      split
      · exact ih.cons _
      · rename_i b hb
        have hbe : b = e.1 := by
          split at hb
          · cases hb
          · obtain ⟨_, -, h⟩ := Option.map_eq_some'.mp hb; exact h.symm
        exact hbe ▸ ih.cons₂ _
  exact (h ds.entries).nodup ds.nodup

/-! ## The run over advertisements that share no block -/

section Loop

variable {ds₀ : Datastore} {fuel : Nat}

/-- The advertisements still to write, against the datastore `ds₀` they were staged in: staged,
sharing no block, within the fuel, unchanged since, and without a CAR file. -/
structure Pending (ds₀ : Datastore) (fuel : Nat) (rest : List Cid) (cw : CarWriter) : Prop where
  nodup : rest.Nodup
  staged : ∀ a ∈ rest, ∃ cs, Staged ds₀ a cs
  disjoint : ∀ a ∈ rest, ∀ a' ∈ rest, a ≠ a' → ∀ cs cs', Staged ds₀ a cs → Staged ds₀ a' cs' →
    ∀ x ∈ a :: cs, x ∉ a' :: cs'
  fuel_le : ∀ a ∈ rest, ∀ cs, Staged ds₀ a cs → cs.length ≤ fuel + 1
  agree : ∀ a ∈ rest, ∀ cs, Staged ds₀ a cs → ∀ x ∈ a :: cs, cw.dstore.get x = ds₀.get x
  fresh : ∀ a ∈ rest, cw.fileStore.head a = none

/-- **One write of the loop**: the first pending advertisement goes into a CAR holding exactly
its staged blocks, and the others are still pending. -/
theorem Pending.write_head {a : Cid} {rest : List Cid} {cw : CarWriter}
    (h : Pending ds₀ fuel (a :: rest) cw) :
    ∃ car cw₁, write Faults.none fuel cw a false = some (.ok car, cw₁) ∧
      cw₁.fileStore = cw.fileStore.put a car ∧
      (∀ cs, Staged ds₀ a cs → car.Holds ds₀ (a :: cs)) ∧ Pending ds₀ fuel rest cw₁ := by
  have ha : a ∈ a :: rest := List.mem_cons_self _ _
  have hnot : a ∉ rest := (List.nodup_cons.mp h.nodup).1
  have hmem : ∀ a' ∈ rest, a' ∈ a :: rest := fun a' h => List.mem_cons_of_mem _ h
  obtain ⟨cs, hs⟩ := h.staged a ha
  have hs' : Staged cw.dstore a cs := hs.congr (h.agree a ha cs hs)
  obtain ⟨car, cw₁, hw⟩ := write_staged hs' (h.fresh a ha) (h.fuel_le a ha cs hs)
  obtain ⟨ad, data, had, hew, hp⟩ := hs'
  obtain ⟨-, hfs, written, hwr, hblocks, hget⟩ := write_new_ok had (h.fresh a ha) hw
  obtain rfl : written = cs := hwr.unique hew
  have hroot := hew.root_mem hp
  refine ⟨car, cw₁, hw, hfs, fun cs' hs'' => ?_, ⟨(List.nodup_cons.mp h.nodup).2,
    fun a' h' => h.staged a' (hmem a' h'),
    fun a' h' a'' h'' => h.disjoint a' (hmem a' h') a'' (hmem a'' h''),
    fun a' h' => h.fuel_le a' (hmem a' h'), fun a' h' cs' hs'' x hx => ?_, fun a' h' => ?_⟩⟩
  · obtain rfl := hs.unique hs''
    exact Car.Holds.congr (fun c b => by simpa [Stored] using hblocks c b)
      (fun x hx => (h.agree a ha written hs x hx).symm)
  · -- a block of a later advertisement is none of the written ones, so it is not deleted
    have hxa : x ∉ a :: written :=
      h.disjoint a' (hmem a' h') a ha (fun e => hnot (e ▸ h')) cs' written hs'' hs x hx
    have hxd : x ∉ a :: ((entriesRoot ad false).toList ++ written) := by
      simp only [List.mem_cons, List.mem_append, not_or] at hxa ⊢
      exact ⟨hxa.1, fun hr => hxa.2 (hroot x (Option.mem_toList.mp hr)), hxa.2⟩
    rw [hget x, if_neg (fun hk => hxd hk.1), h.agree a' (hmem a' h') cs' hs'' x hx]
  · rw [hfs, FileStore.head_put, if_neg (fun (e : a' = a) => hnot (e ▸ h'))]
    exact h.fresh a' (hmem a' h')

/-- **The loop over pending advertisements**: every one is written, each into a CAR holding
exactly its blocks as staged in `ds₀`, and no other file changes. -/
theorem writeLoop_archives : ∀ (rest : List Cid) (i count : Nat) (cw : CarWriter),
    Pending ds₀ fuel rest cw →
    ∃ n cw', writeLoop Faults.none fuel (fun _ => false) rest i count cw = some (.sent n, cw') ∧
      (∀ a ∈ rest, ∀ cs, Staged ds₀ a cs →
        ∃ car, cw'.fileStore.head a = some car ∧ car.Holds ds₀ (a :: cs)) ∧
      ∀ k, k ∉ rest → cw'.fileStore.head k = cw.fileStore.head k
  | [], _, count, cw, _ => ⟨count, cw, rfl, by simp, fun _ _ => rfl⟩
  | a :: rest, i, count, cw, h => by
    obtain ⟨car, cw₁, hw, hfs, hcar, h₁⟩ := h.write_head
    have hnot : a ∉ rest := (List.nodup_cons.mp h.nodup).1
    obtain ⟨n, cw', hloop, hres, hframe⟩ := writeLoop_archives rest (i + 1) (count + 1) cw₁ h₁
    refine ⟨n, cw', by simp [writeLoop, hw, hloop], fun a' h' cs hs => ?_, fun k hk => ?_⟩
    · rcases List.mem_cons.mp h' with rfl | h'
      · exact ⟨car, by rw [hframe a' hnot, hfs]; simp, hcar cs hs⟩
      · exact hres a' h' cs hs
    · rw [hframe k (fun h => hk (List.mem_cons_of_mem _ h)), hfs, FileStore.head_put,
        if_neg (fun (e : k = a) => hk (e ▸ List.mem_cons_self _ _))]

end Loop

/-- **`WriteExisting` over staged advertisements that share no block** ends, with no failure,
with each in a CAR holding exactly its blocks as staged, in any query order. -/
theorem writeExisting_archives_disjoint (fuel : Nat) (cw : CarWriter)
    (hst : ∀ a ∈ findAds cw.dstore, ∃ cs, Staged cw.dstore a cs)
    (hdis : ∀ a ∈ findAds cw.dstore, ∀ a' ∈ findAds cw.dstore, a ≠ a' → ∀ cs cs',
      Staged cw.dstore a cs → Staged cw.dstore a' cs' → ∀ x ∈ a :: cs, x ∉ a' :: cs')
    (hnew : ∀ a ∈ findAds cw.dstore, cw.fileStore.head a = none)
    (hfuel : ∀ a ∈ findAds cw.dstore, ∀ cs, Staged cw.dstore a cs → cs.length ≤ fuel + 1) :
    ∃ r cw', writeExisting Faults.none fuel (fun _ => false) cw = some (r, cw') ∧
      ∀ a ∈ findAds cw.dstore, ∀ cs, Staged cw.dstore a cs →
        ∃ car, cw'.fileStore.head a = some car ∧ car.Holds cw.dstore (a :: cs) := by
  unfold writeExisting
  split
  · rename_i hempty
    exact ⟨_, _, rfl, fun a ha => by simp_all⟩
  · obtain ⟨n, cw', hloop, hres, -⟩ := writeLoop_archives (findAds cw.dstore) 0 0 cw
      ⟨findAds_nodup _, hst, hdis, hfuel, fun _ _ _ _ _ _ => rfl, hnew⟩
    exact ⟨some (.sent n), cw', by simp [hloop], hres⟩

end StoreTheIndex
