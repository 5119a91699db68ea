import StoreTheIndex.CarWriter.FastPath

/-!
# A successful `Write`

What a CAR written by `Write` holds, stated without the loops: the entry chain is the relation
`Chain`, the blocks a CAR holds are described by `Car.Holds`, and `EntriesWritten` says which
entry blocks go into the CAR, case by case as the spec's step 4 lists them.

* `Chain`, `Car.Holds`, `EntriesWritten`;
* `writeChunks_done`: a chunk loop that ends at a chunk without `Next` has walked a `Chain`;
* **`write_ok_spec`**: on a new file, a successful `Write` uploads a CAR with the roots
  `[adCid]` or `[adCid, entriesCid]`, holding exactly the stored bytes of the advertisement and of
  its written entry blocks, and removes those of these keys whose `Delete` does not fail;
* `chainStore_delete_fails`: `Write` returns success with the advertisement still staged when
  its `Delete` fails.
-/

namespace StoreTheIndex

/-- `Chain ds c cs`: from the chunk `c`, following `Next` links visits the chunks `cs`, each of
which loads as an entry chunk, up to the first one without `Next`. -/
inductive Chain (ds : Datastore) : Cid → List Cid → Prop
  | last {c : Cid} {data : Bytes} :
      loadEntryChunk ds c = .ok (⟨none⟩, data) → Chain ds c [c]
  | next {c c' : Cid} {cs : List Cid} {data : Bytes} :
      loadEntryChunk ds c = .ok (⟨some c'⟩, data) → Chain ds c' cs → Chain ds c (c :: cs)

theorem Chain.head_eq {ds : Datastore} {c : Cid} {cs : List Cid} (h : Chain ds c cs) :
    cs = c :: cs.tail := by
  cases h <;> rfl

/-- The value stored under `c` has the bytes `b`. -/
def Stored (ds : Datastore) (c : Cid) (b : Bytes) : Prop := (ds.get c).map Block.data = some b

theorem Stored.unique {ds : Datastore} {c : Cid} {b b' : Bytes} (h : Stored ds c b)
    (h' : Stored ds c b') : b = b' := by
  unfold Stored at h h'; rw [h] at h'; exact Option.some.inj h'

theorem stored_of_loadNode {α : Type} {ds : Datastore} {c : Cid} {view : Block → Option α}
    {n : α} {data : Bytes} (h : loadNode ds c view = .ok (n, data)) : Stored ds c data := by
  obtain ⟨b, hb, -, rfl⟩ := loadNode_ok h
  simp [Stored, hb]

/-- The blocks of `car` are exactly the stored bytes of the CIDs in `S`. -/
def Car.Holds (ds : Datastore) (car : Car) (S : List Cid) : Prop :=
  ∀ c b, (c, b) ∈ car.blocks ↔ c ∈ S ∧ Stored ds c b

@[simp] theorem Car.put_roots (car : Car) (c : Cid) (d : Bytes) :
    (car.put c d).roots = car.roots := by
  unfold Car.put; split <;> rfl

theorem Car.Holds.put {ds : Datastore} {car : Car} {S : List Cid} {c : Cid} {d : Bytes}
    (h : car.Holds ds S) (hd : Stored ds c d) : (car.put c d).Holds ds (S ++ [c]) := by
  intro x b
  unfold Car.put
  split
  · rename_i hin
    obtain ⟨⟨y, b'⟩, hy, hyc⟩ := List.any_eq_true.mp hin
    have hyS : c ∈ S := by
      simp only [beq_iff_eq] at hyc; subst hyc; exact ((h _ _).mp hy).1
    rw [h x b]
    simp only [List.mem_append, List.mem_singleton]
    constructor
    · exact fun ⟨hx, hs⟩ => ⟨.inl hx, hs⟩
    · rintro ⟨hx | rfl, hs⟩
      · exact ⟨hx, hs⟩
      · exact ⟨hyS, hs⟩
  · simp only [List.mem_append, List.mem_singleton, Prod.mk.injEq, h x b]
    constructor
    · rintro (⟨hx, hs⟩ | ⟨rfl, rfl⟩)
      · exact ⟨.inl hx, hs⟩
      · exact ⟨.inr rfl, hd⟩
    · rintro ⟨hx | rfl, hs⟩
      · exact .inl ⟨hx, hs⟩
      · exact .inr ⟨rfl, (hd.unique hs).symm⟩

/-! ## The chunk loop -/

/-- **A completed chunk loop walked a `Chain`**: it appended the chain's links to the delete
list and put every chunk of the chain in the CAR. -/
theorem writeChunks_done {f : Faults} {ds : Datastore} {adCid : Cid} :
    ∀ {fuel c car d car' d'} {S : List Cid}, car.Holds ds S →
      writeChunks f ds adCid fuel c car d = some (.done car' d') →
      ∃ cs, Chain ds c cs ∧ d' = d ++ cs.tail ∧ car'.Holds ds (S ++ cs) ∧
        car'.roots = car.roots := by
  intro fuel
  induction fuel with
  | zero =>
    intro c car d car' d' S hcar h
    rw [writeChunks] at h
    rcases writeStep_cases h with ⟨_, _, h⟩ | ⟨_, h⟩ | ⟨data, hl, _, h⟩ | ⟨_, _, _, _, h⟩
    · cases h
    · cases h
    · cases h
      exact ⟨[c], .last hl, by simp, hcar.put (stored_of_loadNode hl), by simp⟩
    · cases h
  | succ n ih =>
    intro c car d car' d' S hcar h
    rw [writeChunks] at h
    rcases writeStep_cases h with ⟨_, _, h⟩ | ⟨_, h⟩ | ⟨data, hl, _, h⟩ | ⟨next, data, hl, _, h⟩
    · cases h
    · cases h
    · cases h
      exact ⟨[c], .last hl, by simp, hcar.put (stored_of_loadNode hl), by simp⟩
    · obtain ⟨cs, hch, rfl, hh, hr⟩ := ih (hcar.put (stored_of_loadNode hl)) h
      refine ⟨c :: cs, .next hl hch, ?_, by simpa using hh, by simpa using hr⟩
      rw [hch.head_eq]; simp

theorem Chain.unique {ds : Datastore} {c : Cid} {cs cs' : List Cid} (h : Chain ds c cs)
    (h' : Chain ds c cs') : cs = cs' := by
  induction h generalizing cs' with
  | last hl =>
    cases h' with
    | last => rfl
    | next hl' => rw [hl] at hl'; cases hl'
  | next hl _ ih =>
    cases h' with
    | last hl' => rw [hl] at hl'; cases hl'
    | next hl' h'' =>
      rw [hl] at hl'
      simp only [Except.ok.injEq, Prod.mk.injEq, EntryChunk.mk.injEq, Option.some.injEq] at hl'
      rw [ih (hl'.1 ▸ h'')]

/-- A chain only depends on the values of its own chunks. -/
theorem Chain.congr {ds ds' : Datastore} {c : Cid} {cs : List Cid} (h : Chain ds c cs)
    (hag : ∀ x ∈ cs, ds'.get x = ds.get x) : Chain ds' c cs := by
  induction h with
  | last hl => exact .last ((loadNode_congr (hag _ (List.mem_singleton_self _))).trans hl)
  | next hl _ ih =>
    exact .next ((loadNode_congr (hag _ (List.mem_cons_self _ _))).trans hl)
      (ih fun x hx => hag x (List.mem_cons_of_mem _ hx))

/-- **A chain is walked to its end** by a fault-free chunk loop with enough fuel. -/
theorem writeChunks_of_chain {ds : Datastore} {adCid c : Cid} {cs : List Cid} (h : Chain ds c cs) :
    ∀ {fuel car d}, cs.length ≤ fuel + 1 →
      ∃ car' d', writeChunks Faults.none ds adCid fuel c car d = some (.done car' d') := by
  induction h with
  | @last c data hl =>
    intro fuel car d _
    cases fuel <;> exact ⟨car.put c data, d, by simp [writeChunks, writeStep, hl, Faults.none]⟩
  | @next c c' _ data hl hch ih =>
    intro fuel car d hlen
    cases fuel with
    | zero => rw [hch.head_eq] at hlen; simp at hlen
    | succ n =>
      obtain ⟨car', d', h⟩ := @ih n (car.put c data) (d ++ [c']) (by simpa using hlen)
      exact ⟨car', d', by simpa [writeChunks, writeStep, hl, Faults.none] using h⟩

/-! ## The entries of a successful `Write` -/

/-- The entry blocks a successful `Write` puts in the CAR: none for a missing or empty root, the
root alone for a HAMT root, every chunk of the chain otherwise. -/
inductive EntriesWritten (ds : Datastore) : Option Cid → List Cid → Prop
  | noRoot : EntriesWritten ds none []
  | missing {e : Cid} : ds.get e = none → EntriesWritten ds (some e) []
  | empty {e : Cid} {b : Block} {n : Node} :
      ds.get e = some b → b.data = [] → b.node = some n → EntriesWritten ds (some e) []
  | hamt {e : Cid} {b : Block} {n : Node} :
      ds.get e = some b → b.data ≠ [] → b.node = some n → n.hamt = true →
        EntriesWritten ds (some e) [e]
  | chunks {e : Cid} {b : Block} {n : Node} {cs : List Cid} :
      ds.get e = some b → b.data ≠ [] → b.node = some n → n.hamt = false → Chain ds e cs →
        EntriesWritten ds (some e) cs

theorem finish_ok {f : Faults} {adCid : Cid} {car car' : Car} {d d' : List Cid}
    (h : finish f adCid car d = (.ok car', d')) : car' = car ∧ d' = d := by
  unfold finish at h
  split_ifs at h <;> simp_all

theorem writeEntries_ok {f : Faults} {fuel : Nat} {ds : Datastore} {adCid : Cid} {car car' : Car}
    {roots dels : List Cid} {S : List Cid} {root : Option Cid} (hcar : car.Holds ds S)
    (h : writeEntries f fuel ds adCid car roots root = some (.ok car', dels)) :
    ∃ written, EntriesWritten ds root written ∧ car'.Holds ds (S ++ written) ∧
      car'.roots = car.roots ∧ ∀ k, k ∈ dels ↔ k ∈ roots ∨ k ∈ root.toList ∨ k ∈ written := by
  cases root with
  | none =>
    obtain ⟨rfl, rfl⟩ := finish_ok (Option.some.inj h)
    exact ⟨[], .noRoot, by simpa using hcar, rfl, by simp⟩
  | some e =>
    simp only [writeEntries] at h
    split at h
    · cases h
    · obtain ⟨rfl, rfl⟩ := finish_ok (Option.some.inj h)
      exact ⟨[], .missing (loadNode_notFound.mp ‹_›), by simpa using hcar, rfl, by simp⟩
    · rename_i node data hload
      obtain ⟨b, hb, hn, rfl⟩ := loadNode_ok hload
      split at h
      · obtain ⟨rfl, rfl⟩ := finish_ok (Option.some.inj h)
        exact ⟨[], .empty hb (List.isEmpty_iff.mp ‹_›) hn, by simpa using hcar, rfl, by simp⟩
      · have hne : b.data ≠ [] := fun h' => by simp_all
        split at h
        · split at h
          · cases h
          · obtain ⟨rfl, rfl⟩ := finish_ok (Option.some.inj h)
            exact ⟨[e], .hamt hb hne hn ‹_›, hcar.put (stored_of_loadNode hload), by simp,
              by simp⟩
        · obtain ⟨w, hw, h⟩ := Option.map_eq_some'.mp h
          cases w with
          | done car'' d'' =>
            obtain ⟨rfl, rfl⟩ := finish_ok h
            obtain ⟨cs, hch, rfl, hh, hr⟩ := writeChunks_done hcar hw
            refine ⟨cs, .chunks hb hne hn (by simpa [isHAMT] using ‹¬isHAMT node = true›) hch, hh,
              hr, fun k => ?_⟩
            rw [hch.head_eq]; simp
          | loadFailed => cases h
          | writeFailed => cases h

/-- The effects of a successful `Write` of a new file, with the upload as the file store's
`Put`. -/
theorem write_new_ok {f : Faults} {fuel : Nat} {cw cw' : CarWriter} {adCid : Cid}
    {skipEntries : Bool} {ad : Advertisement} {data : Bytes} {car : Car}
    (had : loadAd cw.dstore adCid = .ok (ad, data)) (hnew : cw.fileStore.head adCid = none)
    (hw : write f fuel cw adCid skipEntries = some (.ok car, cw')) :
    car.roots = adCid :: (entriesRoot ad skipEntries).toList ∧
      cw'.fileStore = cw.fileStore.put adCid car ∧
      ∃ written, EntriesWritten cw.dstore (entriesRoot ad skipEntries) written ∧
        (∀ c b, (c, b) ∈ car.blocks ↔
          c ∈ adCid :: written ∧ (cw.dstore.get c).map Block.data = some b) ∧
        ∀ k, cw'.dstore.get k =
          if k ∈ adCid :: ((entriesRoot ad skipEntries).toList ++ written) ∧
            f.delete adCid k = false then none
          else cw.dstore.get k := by
  rw [write_slow had (by split <;> simp [hnew])] at hw
  split at hw
  · cases hw
  split at hw
  · cases hw
  obtain ⟨⟨r, dels⟩, he, hw⟩ := Option.map_eq_some'.mp hw
  simp only [Prod.mk.injEq] at hw
  obtain ⟨rfl, rfl⟩ := hw
  have h0 : (Car.mk (adCid :: (entriesRoot ad skipEntries).toList) []).Holds cw.dstore [] :=
    fun c b => by simp
  obtain ⟨written, hwr, hh, hr, hdel⟩ := writeEntries_ok (h0.put (stored_of_loadNode had)) he
  refine ⟨by simpa using hr, rfl, written, hwr, fun c b => by simpa [Stored] using hh c b,
    fun k => ?_⟩
  simp only [get_deleteCids, Faults.mem_deleted, hdel, List.mem_cons, List.mem_append, or_assoc,
    or_self_left]

/-- **A successful `Write` of a new file** uploads `<adCid>.car` with the staged blocks, and the
datastore loses exactly those of these keys whose `Delete` did not fail. -/
theorem write_ok_spec (f : Faults) (fuel : Nat) (cw cw' : CarWriter) (adCid : Cid)
    (skipEntries : Bool) (ad : Advertisement) (data : Bytes) (car : Car)
    (had : loadAd cw.dstore adCid = .ok (ad, data)) (hnew : cw.fileStore.head adCid = none)
    (hw : write f fuel cw adCid skipEntries = some (.ok car, cw')) :
    car.roots = adCid :: (entriesRoot ad skipEntries).toList ∧
      cw'.fileStore.head adCid = some car ∧
      (∀ k ≠ adCid, cw'.fileStore.head k = cw.fileStore.head k) ∧
      ∃ written, EntriesWritten cw.dstore (entriesRoot ad skipEntries) written ∧
        (∀ c b, (c, b) ∈ car.blocks ↔
          c ∈ adCid :: written ∧ (cw.dstore.get c).map Block.data = some b) ∧
        ∀ k, cw'.dstore.get k =
          if k ∈ adCid :: ((entriesRoot ad skipEntries).toList ++ written) ∧
            f.delete adCid k = false then none
          else cw.dstore.get k := by
  obtain ⟨hr, hfs, hrest⟩ := write_new_ok had hnew hw
  exact ⟨hr, by simp [hfs], fun k hk => by simp [hfs, hk], hrest⟩

theorem chainStore_write_ok :
    write Faults.none 1 ⟨chainStore, ⟨[]⟩⟩ 1 false =
        some (.ok chainCar, ⟨deleteCids chainStore [1, 2, 2, 3], FileStore.put ⟨[]⟩ 1 chainCar⟩) ∧
      chainCar.roots = [1, 2] :=
  ⟨rfl, (write_ok_spec Faults.none 1 ⟨chainStore, ⟨[]⟩⟩ _ 1 false ⟨.link 2⟩ [1] chainCar rfl rfl
    rfl).1⟩

/-- `Write` of `chainStore`'s advertisement succeeds while the `Delete` of `1` fails: the
advertisement stays staged. -/
theorem chainStore_delete_fails :
    write { Faults.none with delete := fun _ c => c == 1 } 1 ⟨chainStore, ⟨[]⟩⟩ 1 false =
        some (.ok chainCar, ⟨deleteCids chainStore [2, 2, 3], FileStore.put ⟨[]⟩ 1 chainCar⟩) ∧
      (deleteCids chainStore [2, 2, 3]).get 1 ≠ none :=
  ⟨rfl, by decide⟩

end StoreTheIndex
