import StoreTheIndex.CarWriter.WriteExisting

/-!
# The errors of `Write`

`Write` reports two kinds of error. A `*WriteError` wraps a failure of the CAR blockstore, of
the temporary file or of the file store; any other error is a failure to load or decode a
datastore block, or to open the temporary CAR file. `WriteExisting` stops at the first
`*WriteError` and skips an advertisement on any other error.

A `*WriteError` is raised before `deleteCids` runs, so it leaves the datastore and the file
store as they were: the advertisement is still there for the next pass. Opening the temporary
CAR file is a failure of local storage too, but `Write` returns it as a plain error, so the loop
goes on past it.

* `finish_error`, `writeEntries_writeError`: the `*WriteError`s of the entries part delete
  nothing;
* `write_writeError_writer`, `write_error_loadAd`, **`write_writeError_keeps_writer`**: a
  `*WriteError` leaves the writer unchanged, with the advertisement still loadable;
* `openCarFails`, **`writeLoop_skips_unopenable_car`**: a CAR file that cannot be opened does
  not stop the loop.
-/

namespace StoreTheIndex

/-! ## What a `*WriteError` deletes -/

/-- Every error of `finish` is a `*WriteError`, and it deletes nothing. -/
theorem finish_error {f : Faults} {adCid : Cid} {car : Car} {delCids dels : List Cid}
    {e : WriteErr} (h : finish f adCid car delCids = (.error e, dels)) :
    e.isWriteError = true ∧ dels = [] := by
  unfold finish at h
  split_ifs at h <;> cases h <;> exact ⟨rfl, rfl⟩

/-- A `*WriteError` of the entries part deletes nothing: `deleteCids` runs only after a load
error or a finished file. -/
theorem writeEntries_writeError {f : Faults} {fuel : Nat} {ds : Datastore} {adCid : Cid}
    {car : Car} {roots : List Cid} {root : Option Cid} {e : WriteErr} {dels : List Cid}
    (h : writeEntries f fuel ds adCid car roots root = some (.error e, dels))
    (hw : e.isWriteError = true) : dels = [] := by
  cases root with
  | none => exact (finish_error (Option.some.inj h)).2
  | some c =>
    simp only [writeEntries] at h
    split at h
    · cases h; cases hw
    · exact (finish_error (Option.some.inj h)).2
    · split_ifs at h
      · exact (finish_error (Option.some.inj h)).2
      · cases h; rfl
      · exact (finish_error (Option.some.inj h)).2
      · obtain ⟨w, -, hw'⟩ := Option.map_eq_some'.mp h
        cases w with
        | done car d => exact (finish_error hw').2
        | loadFailed d => cases hw'; cases hw
        | writeFailed => cases hw'; rfl

/-! ## `Write` -/

section Write

variable {f : Faults} {fuel : Nat} {cw cw' : CarWriter} {adCid : Cid} {skipEntries : Bool}
  {e : WriteErr}

/-- A `*WriteError` leaves the writer as it was: nothing is deleted and no file is stored. The
fast path, where the CAR file exists, never returns an error. -/
theorem write_writeError_writer (h : write f fuel cw adCid skipEntries = some (.error e, cw'))
    (hw : e.isWriteError = true) : cw' = cw := by
  unfold write at h
  split at h
  · cases h; cases hw
  · split at h
    · obtain ⟨⟨r, d⟩, -, hr⟩ := Option.map_eq_some'.mp h
      dsimp only at hr
      split_ifs at hr <;> cases hr
    · split_ifs at h
      · cases h; rfl
      · cases h; rfl
      · obtain ⟨⟨r, dels⟩, hwe, hr⟩ := Option.map_eq_some'.mp h
        cases hr
        rw [writeEntries_writeError hwe hw]
        rfl

/-- Every error but `cannot load advertisement` comes after the advertisement was loaded. -/
theorem write_error_loadAd (h : write f fuel cw adCid skipEntries = some (.error e, cw'))
    (he : e ≠ .loadAd) : ∃ ad data, loadAd cw.dstore adCid = .ok (ad, data) := by
  cases had : loadAd cw.dstore adCid with
  | error _ => rw [write_loadAd_error had] at h; cases h; exact absurd rfl he
  | ok r => exact ⟨r.1, r.2, rfl⟩

/-- **A `*WriteError` changes no stored block**: the writer is as before and the advertisement
still loads, so the next `findAds` lists it again. -/
theorem write_writeError_keeps_writer
    (h : write f fuel cw adCid skipEntries = some (.error e, cw'))
    (hw : e.isWriteError = true) :
    cw' = cw ∧ ∃ ad data, loadAd cw'.dstore adCid = .ok (ad, data) := by
  obtain rfl := write_writeError_writer h hw
  exact ⟨rfl, write_error_loadAd h (by rintro rfl; cases hw)⟩

/-- `Write` of advertisement `1` in `sharedStore` when the `Put` of its own block fails. -/
theorem sharedStore_writeAd_error :
    write { Faults.none with putBlock := fun _ _ => true } 0 ⟨sharedStore, ⟨[]⟩⟩ 1 false =
        some (.error .writeAd, ⟨sharedStore, ⟨[]⟩⟩) ∧
      WriteErr.writeAd.isWriteError = true ∧
      (⟨sharedStore, ⟨[]⟩⟩ : CarWriter) = ⟨sharedStore, ⟨[]⟩⟩ ∧
        ∃ ad data, loadAd sharedStore 1 = .ok (ad, data) :=
  ⟨rfl, rfl, @write_writeError_keeps_writer { Faults.none with putBlock := fun _ _ => true } 0
    ⟨sharedStore, ⟨[]⟩⟩ ⟨sharedStore, ⟨[]⟩⟩ 1 false .writeAd rfl rfl⟩

end Write

/-! ## The loop of `WriteExisting` -/

section Loop

variable {f : Faults} {fuel : Nat} {cancelled : Nat → Bool} {adCid : Cid} {rest : List Cid}
  {i count : Nat} {cw : CarWriter}

/-- Every call succeeds but opening the temporary CAR file of advertisement `c`. -/
def openCarFails (c : Cid) : Faults := { Faults.none with openCar := fun a => a == c }

/-- **A CAR file that cannot be opened does not stop the loop**: `Write` returns an error that
is not a `*WriteError`, and the loop goes on with the next advertisement. -/
theorem writeLoop_skips_unopenable_car {ad : Advertisement} {data : Bytes}
    (hc : cancelled i = false) (had : loadAd cw.dstore adCid = .ok (ad, data))
    (hh : cw.fileStore.head adCid = none) (ho : f.openCar adCid = true) :
    writeLoop f fuel cancelled (adCid :: rest) i count cw =
      writeLoop f fuel cancelled rest (i + 1) count cw := by
  simp [writeLoop, hc, write_slow had (by simp [hh] : (if f.head adCid then none else
    cw.fileStore.head adCid) = none), ho, WriteErr.isWriteError]

/-- In `sharedStore`, the temporary CAR file of advertisement `1` cannot be opened: the loop
goes past it and archives advertisement `2`, sending the count `1`. -/
theorem sharedStore_skips_unopenable_car :
    (fun _ => false : Nat → Bool) 0 = false ∧ loadAd sharedStore 1 = .ok (⟨.link 3⟩, [1]) ∧
      FileStore.head ⟨[]⟩ 1 = none ∧ (openCarFails 1).openCar 1 = true ∧
      writeLoop (openCarFails 1) 0 (fun _ => false) [1, 2] 0 0 ⟨sharedStore, ⟨[]⟩⟩ =
        writeLoop (openCarFails 1) 0 (fun _ => false) [2] 1 0 ⟨sharedStore, ⟨[]⟩⟩ ∧
      writeExisting (openCarFails 1) 0 (fun _ => false) ⟨sharedStore, ⟨[]⟩⟩ =
        some (some (.sent 1), ⟨deleteCids sharedStore [2, 3, 3],
          FileStore.put ⟨[]⟩ 2 ⟨[2, 3], [(2, [2]), (3, [3])]⟩⟩) :=
  ⟨rfl, rfl, rfl, rfl, writeLoop_skips_unopenable_car rfl rfl rfl rfl, rfl⟩

end Loop

end StoreTheIndex
