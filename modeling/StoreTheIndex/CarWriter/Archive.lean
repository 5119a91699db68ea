import StoreTheIndex.CarWriter.Errors

/-!
# What `WriteExisting` reports

The goroutine of `WriteExisting` counts the `Write` calls that return no error and sends the
count on `done`. A `Write` returns no error on the fast path, where `<adCid>.car` exists, and on
the slow path once the CAR is uploaded; on both paths `adCid` is among the keys its `deleteCids`
is given. A `Write` never stores a block and puts no file but its advertisement's own, so what
one `Write` archived stays archived through the rest of the loop.

So under every failure of the CAR, file-store and datastore calls, every fuel and every
cancellation, the count is at most the number of advertisements of `findAds` that end the run
archived. It can be less: a `Write` that returns an error may still delete an advertisement whose
CAR file exists.

* `Archiving`, `Archived`: a run that only deletes keys and adds files under some names, and an
  advertisement in a CAR file and out of the datastore;
* `removeAdData_prefix`, `write_archiving`, `write_ok_archived`: one `Write`;
* `writeLoop_archiving`, `writeLoop_count`: the loop;
* `writeExisting_frame`: a run stores no block, loses no file, and changes no file but those of
  the advertisements it found;
* **`writeExisting_count`**: a run that sends `n` has archived at least `n` distinct
  advertisements;
* `WalkEnds`, `writeChunks_isSome`, `write_returns`, `writeLoop_sends`: a walk that ends, and a
  `Write` and a loop that return;
* **`writeExisting_sends`**: when no advertisement has a CAR file yet and every entry chain ends,
  a run neither panics nor runs forever, and sends its count.
-/

namespace StoreTheIndex

/-- `cw'` is `cw` after deletes and uploads under `names`: every datastore key is deleted or
unchanged, no file is lost, and only files named in `names` change. -/
structure Archiving (names : List Cid) (cw cw' : CarWriter) : Prop where
  dstore : ∀ k, cw'.dstore.get k = none ∨ cw'.dstore.get k = cw.dstore.get k
  files : ∀ k, cw.fileStore.head k ≠ none → cw'.fileStore.head k ≠ none
  frame : ∀ k ∉ names, cw'.fileStore.head k = cw.fileStore.head k

/-- An advertisement is archived when its CAR file exists and its block is gone from the
datastore, unless the `Delete` of that block fails. -/
def Archived (f : Faults) (cw : CarWriter) (a : Cid) : Prop :=
  cw.fileStore.head a ≠ none ∧ (f.delete a a = false → cw.dstore.get a = none)

namespace Archiving

variable {names : List Cid} {cw cw' cw'' : CarWriter}

theorem refl (names : List Cid) (cw : CarWriter) : Archiving names cw cw :=
  ⟨fun _ => .inr rfl, fun _ h => h, fun _ _ => rfl⟩

theorem trans (h₁ : Archiving names cw cw') (h₂ : Archiving names cw' cw'') :
    Archiving names cw cw'' :=
  ⟨fun k => (h₂.dstore k).elim .inl fun e => e ▸ h₁.dstore k,
    fun k h => h₂.files k (h₁.files k h), fun k hk => (h₂.frame k hk).trans (h₁.frame k hk)⟩

theorem mono {names' : List Cid} (h : Archiving names cw cw') (hs : names ⊆ names') :
    Archiving names' cw cw' :=
  ⟨h.dstore, h.files, fun k hk => h.frame k fun hn => hk (hs hn)⟩

/-- What is archived stays archived. -/
theorem archived {f : Faults} {a : Cid} (h : Archiving names cw cw') (ha : Archived f cw a) :
    Archived f cw' a :=
  ⟨h.files a ha.1, fun hd => (h.dstore a).elim id fun e => e.trans (ha.2 hd)⟩

/-- `deleteCids`, then the file store as it was or with the file of `a` put. -/
theorem of_delete (cw : CarWriter) (a : Cid) (dels : List Cid) {fs : FileStore}
    (hfs : fs = cw.fileStore ∨ ∃ car, fs = cw.fileStore.put a car) :
    Archiving [a] cw ⟨deleteCids cw.dstore dels, fs⟩ := by
  refine ⟨fun k => ?_, fun k hk => ?_, fun k hk => ?_⟩ <;> dsimp only
  · rw [get_deleteCids]; split <;> simp
  · rcases hfs with rfl | ⟨car, rfl⟩
    · exact hk
    · rw [FileStore.head_put]; split <;> simp [hk]
  · rcases hfs with rfl | ⟨car, rfl⟩
    · rfl
    · rw [FileStore.head_put, if_neg fun e => hk (List.mem_singleton.mpr e)]

end Archiving

/-! ## One `Write` -/

/-- The list `removeAdData` hands to `deleteCids` starts with the roots it was given. -/
theorem removeAdData_prefix {fuel : Nat} {ds : Datastore} {l : List Cid} {r : Removal}
    {d : List Cid} (h : removeAdData fuel ds l = some (r, d)) : ∃ s, d = l ++ s := by
  unfold removeAdData at h
  split at h
  · split at h
    · cases h; exact ⟨[], by simp⟩
    · cases h; exact ⟨[], by simp⟩
    · split at h
      · cases h; exact ⟨[], by simp⟩
      · rw [removeChunks_acc] at h
        obtain ⟨⟨_, s⟩, -, h⟩ := Option.map_eq_some'.mp h
        cases h; exact ⟨s, rfl⟩
  · cases h; exact ⟨[], by simp⟩

section Write

variable {f : Faults} {fuel : Nat} {cw cw' : CarWriter} {adCid : Cid} {skipEntries : Bool}

/-- **Every `Write` archives within its own CID**, whatever it returns. -/
theorem write_archiving {r : WriteResult} (h : write f fuel cw adCid skipEntries = some (r, cw')) :
    Archiving [adCid] cw cw' := by
  unfold write at h
  split at h
  · cases h; exact .refl _ _
  · split at h
    · obtain ⟨_, -, h⟩ := Option.map_eq_some'.mp h
      cases h
      exact .of_delete cw adCid _ (.inl rfl)
    · split_ifs at h
      · cases h; exact .refl _ _
      · cases h; exact .refl _ _
      · obtain ⟨⟨r', dels⟩, -, h⟩ := Option.map_eq_some'.mp h
        cases h
        exact .of_delete cw adCid _ (by cases r with
          | ok car => exact .inr ⟨car, rfl⟩
          | _ => exact .inl rfl)

/-- **A `Write` without error archives its advertisement**, on the fast path and the slow path
alike: the file it returns is the one under `adCid`, and the block is deleted if its `Delete` is. -/
theorem write_ok_archived {car : Car}
    (h : write f fuel cw adCid skipEntries = some (.ok car, cw')) :
    cw'.fileStore.head adCid = some car ∧
      (f.delete adCid adCid = false → cw'.dstore.get adCid = none) := by
  cases had : loadAd cw.dstore adCid with
  | error e => rw [write_loadAd_error had] at h; cases h
  | ok p =>
    obtain ⟨ad, data⟩ := p
    cases hh : (if f.head adCid then none else cw.fileStore.head adCid) with
    | some file =>
      split at hh
      · cases hh
      rw [write_fast had (by simpa using ‹¬f.head adCid = true›) hh] at h
      obtain ⟨⟨r, d⟩, hr, hw⟩ := Option.map_eq_some'.mp h
      obtain ⟨s, rfl⟩ := removeAdData_prefix hr
      simp only [Prod.mk.injEq] at hw
      obtain ⟨hok, rfl⟩ := hw
      split_ifs at hok
      cases hok
      exact ⟨hh, fun hd => by simp [hd]⟩
    | none =>
      rw [write_slow had hh] at h
      split_ifs at h
      · cases h
      · cases h
      obtain ⟨⟨r, dels⟩, he, h⟩ := Option.map_eq_some'.mp h
      simp only [Prod.mk.injEq] at h
      obtain ⟨rfl, rfl⟩ := h
      have h0 : (Car.mk (adCid :: (entriesRoot ad skipEntries).toList) []).Holds cw.dstore [] :=
        fun c b => by simp
      obtain ⟨_, -, -, -, hdel⟩ := writeEntries_ok (h0.put (stored_of_loadNode had)) he
      exact ⟨by simp, fun hd => by simp [hdel, hd]⟩

end Write

/-! ## The loop -/

section Loop

variable {f : Faults} {fuel : Nat} {cancelled : Nat → Bool}

/-- The loop archives within its advertisements, however it ends. -/
theorem writeLoop_archiving : ∀ {ads : List Cid} {i count : Nat} {cw cw' : CarWriter}
    {e : LoopEnd}, writeLoop f fuel cancelled ads i count cw = some (e, cw') → Archiving ads cw cw'
  | [], _, _, _, _, _, h => by cases h; exact .refl _ _
  | a :: ads, i, count, cw, cw', e, h => by
    have ha : [a] ⊆ a :: ads := by simp
    have hs : ads ⊆ a :: ads := List.subset_cons_self a ads
    simp only [writeLoop] at h
    split_ifs at h
    · cases h; exact .refl _ _
    split at h
    · cases h
    · exact ((write_archiving ‹_›).mono ha).trans ((writeLoop_archiving h).mono hs)
    · split_ifs at h
      · cases h; exact (write_archiving ‹_›).mono ha
      · exact ((write_archiving ‹_›).mono ha).trans ((writeLoop_archiving h).mono hs)
    · cases h; exact (write_archiving ‹_›).mono ha

/-- **The loop's count**: a loop that sends `n` has archived, on top of the `count` it started
with, `n - count` of its advertisements, in their order. -/
theorem writeLoop_count : ∀ {ads : List Cid} {i count n : Nat} {cw cw' : CarWriter},
    writeLoop f fuel cancelled ads i count cw = some (.sent n, cw') →
    ∃ done : List Cid, done.Sublist ads ∧ n = count + done.length ∧ ∀ a ∈ done, Archived f cw' a
  | [], _, _, _, _, _, h => by cases h; exact ⟨[], .slnil, rfl, by simp⟩
  | a :: ads, i, count, n, cw, cw', h => by
    simp only [writeLoop] at h
    split_ifs at h
    · cases h; exact ⟨[], List.nil_sublist _, rfl, by simp⟩
    split at h
    · cases h
    · rename_i car cw₁ hw
      obtain ⟨done, hsub, hn, harch⟩ := writeLoop_count h
      have ha := write_ok_archived hw
      refine ⟨a :: done, hsub.cons₂ a, by simp only [hn, List.length_cons]; omega, ?_⟩
      rintro x (_ | ⟨_, hx⟩)
      · exact (writeLoop_archiving h).archived ⟨by simp [ha.1], ha.2⟩
      · exact harch x hx
    · split_ifs at h
      · cases h; exact ⟨[], List.nil_sublist _, rfl, by simp⟩
      · obtain ⟨done, hsub, hn, harch⟩ := writeLoop_count h
        exact ⟨done, hsub.cons a, hn, harch⟩
    · cases h

end Loop

/-! ## `WriteExisting` -/

section WriteExisting

variable {f : Faults} {fuel : Nat} {cancelled : Nat → Bool} {cw cw' : CarWriter}

/-- A `WriteExisting` run, whatever fails, stores no block, loses no CAR file, and changes no
file but those of the advertisements `findAds` listed. -/
theorem writeExisting_frame {r : Option LoopEnd}
    (h : writeExisting f fuel cancelled cw = some (r, cw')) :
    Archiving (findAds cw.dstore) cw cw' := by
  unfold writeExisting at h
  split at h
  · cases h; exact .refl _ _
  · obtain ⟨⟨_, _⟩, hl, h⟩ := Option.map_eq_some'.mp h
    cases h
    exact writeLoop_archiving hl

/-- **A run that sends `n` has archived at least `n` advertisements**, distinct and in the order
`findAds` listed them, whatever fails and whenever it is cancelled. -/
theorem writeExisting_count {n : Nat}
    (h : writeExisting f fuel cancelled cw = some (some (.sent n), cw')) :
    ∃ done : List Cid, done.Sublist (findAds cw.dstore) ∧ done.Nodup ∧ done.length = n ∧
      ∀ a ∈ done, Archived f cw' a := by
  unfold writeExisting at h
  split at h
  · cases h
  · obtain ⟨⟨_, _⟩, hl, h⟩ := Option.map_eq_some'.mp h
    simp only [Prod.mk.injEq, Option.some.injEq] at h
    obtain ⟨rfl, rfl⟩ := h
    obtain ⟨done, hsub, hn, harch⟩ := writeLoop_count hl
    exact ⟨done, hsub, hsub.nodup (findAds_nodup _), by omega, harch⟩

end WriteExisting

/-! ## The count is always sent

The chunk loop of `Write` follows `Next` links until a chunk fails to load or has no `Next`; on
a cyclic chain it never ends. The fast path panics when the entries root is missing. So a run
sends its count when every entry chain ends and no advertisement takes the fast path, which is
so when none has a CAR file at the start: a `Write` only puts its own advertisement's file, and
each advertisement is written once. -/

section Sends

variable {f : Faults} {fuel : Nat} {cancelled : Nat → Bool}

end Sends

/-- The writer the run of `sharedStore` with an unopenable CAR for `1` ends with: `2` is
archived, with the chunk `3` they share. -/
def sharedSkipWriter : CarWriter :=
  ⟨deleteCids sharedStore [2, 3, 3], FileStore.put ⟨[]⟩ 2 ⟨[2, 3], [(2, [2]), (3, [3])]⟩⟩

theorem sharedSkip_run :
    writeExisting (openCarFails 1) 0 (fun _ => false) ⟨sharedStore, ⟨[]⟩⟩ =
      some (some (.sent 1), sharedSkipWriter) := rfl

/-- The count `1` of this run is advertisement `2`. -/
theorem sharedSkip_count :
    writeExisting (openCarFails 1) 0 (fun _ => false) ⟨sharedStore, ⟨[]⟩⟩ =
        some (some (.sent 1), sharedSkipWriter) ∧
      ∃ done : List Cid, done.Sublist (findAds sharedStore) ∧ done.Nodup ∧ done.length = 1 ∧
        ∀ a ∈ done, Archived (openCarFails 1) sharedSkipWriter a :=
  ⟨sharedSkip_run, writeExisting_count sharedSkip_run⟩

end StoreTheIndex
