import StoreTheIndex.CarWriter.Basic

/-!
# `CarWriter.Write`

`Write` loads the advertisement, picks the CAR roots, and then takes one of two paths. If the
file `<adCid>.car` already exists it calls `removeAdData`, whose deferred `deleteCids` removes
the advertisement and its entries from the datastore. Otherwise it writes the advertisement
block and walks the entries into a temporary CAR, uploads it, and deletes what it wrote.

Each Go `for` loop over `Next` links is a function with `fuel`, the number of links it may
follow; `none` is a walk that has not ended, as on a chain with a cycle, where Go loops forever.
Each path returns the list it hands to `deleteCids`; `write` then applies it, and a key whose
`Delete` fails (`Faults.deleted`) stays.

* `entriesRoot`, `writeChunks`, `writeEntries`, `finish`: the slow path; `writeStep_cases`: what
  one iteration of its chunk loop can do;
* `removeChunks`, `removeAdData`: the fast path;
* `write`: `CarWriter.Write`.
-/

namespace StoreTheIndex

/-- The `CarWriter` state: the staging datastore and the file store. -/
structure CarWriter where
  dstore : Datastore
  fileStore : FileStore

/-- What `Write` returns; `panic` is the runtime panic of `isHAMT` on a nil node. -/
inductive WriteResult
  | ok (file : Car)
  | error (e : WriteErr)
  | panic
  deriving DecidableEq, Repr

/-- The entries CID `Write` adds as a second root: `ad.Entries`, unless entries are skipped,
absent or `NoEntries`. -/
def entriesRoot (ad : Advertisement) (skipEntries : Bool) : Option Cid :=
  if skipEntries then none
  else
    match ad.entries with
    | .link c => some c
    | .absent | .noEntries => none

/-! ## The slow path -/

/-- How the chunk loop of `Write` ends. -/
inductive Walk
  /-- The chain ended at a chunk without `Next`. -/
  | done (car : Car) (delCids : List Cid)
  /-- A chunk did not load; `deleteCids(delCids)` runs. -/
  | loadFailed (delCids : List Cid)
  /-- `writeBlock` failed. -/
  | writeFailed

/-- The keys a walk hands to `deleteCids`. -/
def Walk.dels : Walk → List Cid
  | .done _ d | .loadFailed d => d
  | .writeFailed => []

/-- One iteration of the chunk loop of `Write`: load the chunk, put it in the CAR, and go on
with `loop` from its `Next`, appended to the delete list. -/
def writeStep (f : Faults) (ds : Datastore) (adCid entriesCid : Cid) (car : Car)
    (delCids : List Cid) (loop : Cid → Car → List Cid → Option Walk) : Option Walk :=
  match loadEntryChunk ds entriesCid with
  | .error _ => some (.loadFailed delCids)
  | .ok (chunk, data) =>
    if f.putBlock adCid entriesCid then some .writeFailed
    else
      match chunk.next with
      | none => some (.done (car.put entriesCid data) delCids)
      | some next => loop next (car.put entriesCid data) (delCids ++ [next])

/-- The chunk loop of `Write`, following at most `fuel` links. -/
def writeChunks (f : Faults) (ds : Datastore) (adCid : Cid) :
    Nat → Cid → Car → List Cid → Option Walk
  | 0 => fun c car d => writeStep f ds adCid c car d fun _ _ _ => none
  | fuel + 1 => fun c car d => writeStep f ds adCid c car d (writeChunks f ds adCid fuel)

/-- **What one iteration of the chunk loop can do**: stop at a chunk that does not load, at a
failed block write or at the last chunk, or go on from the next link. -/
theorem writeStep_cases {f : Faults} {ds : Datastore} {adCid c : Cid} {car : Car}
    {d : List Cid} {loop : Cid → Car → List Cid → Option Walk} {w : Walk}
    (h : writeStep f ds adCid c car d loop = some w) :
    (∃ e, loadEntryChunk ds c = .error e ∧ w = .loadFailed d) ∨
    (f.putBlock adCid c = true ∧ w = .writeFailed) ∨
    (∃ data, loadEntryChunk ds c = .ok (⟨none⟩, data) ∧ f.putBlock adCid c = false ∧
      w = .done (car.put c data) d) ∨
    (∃ next data, loadEntryChunk ds c = .ok (⟨some next⟩, data) ∧ f.putBlock adCid c = false ∧
      loop next (car.put c data) (d ++ [next]) = some w) := by
  unfold writeStep at h
  split at h
  · exact .inl ⟨_, ‹_›, (Option.some.inj h).symm⟩
  · rename_i chunk data hload
    split at h
    · exact .inr (.inl ⟨‹_›, (Option.some.inj h).symm⟩)
    · rename_i hp
      have hp : f.putBlock adCid c = false := by simpa using hp
      rcases chunk with ⟨_ | next⟩
      · exact .inr (.inr (.inl ⟨data, hload, hp, (Option.some.inj h).symm⟩))
      · exact .inr (.inr (.inr ⟨next, data, hload, hp, h⟩))

/-- `Finalize`, reopen the temporary file and `Put` it; the result and the keys to delete. -/
def finish (f : Faults) (adCid : Cid) (car : Car) (delCids : List Cid) :
    WriteResult × List Cid :=
  if f.finalize adCid then (.error .finalize, [])
  else if f.reopen adCid then (.error .reopen, [])
  else if f.upload adCid then (.error .upload, [])
  else (.ok car, delCids)

@[simp] theorem finish_none (adCid : Cid) (car : Car) (delCids : List Cid) :
    finish Faults.none adCid car delCids = (.ok car, delCids) := by
  simp [finish, Faults.none]

/-- The slow path once the advertisement block is in the CAR: the entries, then `finish`.
`delCids` starts as a copy of the roots and gets the entries CID appended once more. -/
def writeEntries (f : Faults) (fuel : Nat) (ds : Datastore) (adCid : Cid) (car : Car)
    (roots : List Cid) : Option Cid → Option (WriteResult × List Cid)
  | none => some (finish f adCid car roots)
  | some entriesCid =>
    let delCids := roots ++ [entriesCid]
    match loadNode ds entriesCid Block.node with
    | .error .decode => some (.error .loadFirstEntry, delCids)
    -- `ErrNotFound` is let through with empty `data`, so nothing more is written
    | .error .notFound => some (finish f adCid car delCids)
    | .ok (node, data) =>
      if data.isEmpty then some (finish f adCid car delCids)
      else if isHAMT node then
        if f.putBlock adCid entriesCid then some (.error .writeHamt, [])
        else some (finish f adCid (car.put entriesCid data) delCids)
      else
        (writeChunks f ds adCid fuel entriesCid car delCids).map fun
          | .done car delCids => finish f adCid car delCids
          | .loadFailed delCids => (.error .loadEntries, delCids)
          | .writeFailed => (.error .writeEntries, [])

/-! ## The fast path -/

/-- How `removeAdData` ends. -/
inductive Removal
  | ok
  | error (e : WriteErr)
  | panic
  deriving DecidableEq, Repr

/-- One iteration of the chunk loop of `removeAdData`: load the chunk and go on with `loop`
from its `Next`, appended to the delete list. -/
def removeStep (ds : Datastore) (entriesCid : Cid) (delCids : List Cid)
    (loop : Cid → List Cid → Option (Removal × List Cid)) : Option (Removal × List Cid) :=
  match loadEntryChunk ds entriesCid with
  | .error _ => some (.error .loadEntries, delCids)
  | .ok (chunk, _) =>
    match chunk.next with
    | none => some (.ok, delCids)
    | some next => loop next (delCids ++ [next])

/-- The chunk loop of `removeAdData`, following at most `fuel` links. -/
def removeChunks (ds : Datastore) : Nat → Cid → List Cid → Option (Removal × List Cid)
  | 0 => fun c d => removeStep ds c d fun _ _ => none
  | fuel + 1 => fun c d => removeStep ds c d (removeChunks ds fuel)

/-- `removeAdData`: how it ends, and the list its deferred `deleteCids` runs on (the deferred
call runs on a panic too). -/
def removeAdData (fuel : Nat) (ds : Datastore) (delCids : List Cid) :
    Option (Removal × List Cid) :=
  match delCids with
  | _ :: entriesCid :: _ =>
    match loadNode ds entriesCid Block.node with
    | .error .decode => some (.error .loadFirstEntry, delCids)
    -- `ErrNotFound` is let through with a nil node, and `isHAMT(nil)` panics
    | .error .notFound => some (.panic, delCids)
    | .ok (node, _) =>
      if isHAMT node then some (.ok, delCids) else removeChunks ds fuel entriesCid delCids
  | _ => some (.ok, delCids)

/-! ## `Write` -/

/-- `Write(ctx, adCid, skipEntries)`. -/
def write (f : Faults) (fuel : Nat) (cw : CarWriter) (adCid : Cid) (skipEntries : Bool) :
    Option (WriteResult × CarWriter) :=
  match loadAd cw.dstore adCid with
  | .error _ => some (.error .loadAd, cw)
  | .ok (ad, data) =>
    let entriesCid := entriesRoot ad skipEntries
    let roots := adCid :: entriesCid.toList
    match (if f.head adCid then none else cw.fileStore.head adCid) with
    | some fileInfo =>
      (removeAdData fuel cw.dstore roots).map fun (r, delCids) =>
        (if r = .panic then .panic else .ok fileInfo,
          { cw with dstore := deleteCids cw.dstore (f.deleted adCid delCids) })
    | none =>
      if f.openCar adCid then some (.error .openCar, cw)
      else if f.putBlock adCid adCid then some (.error .writeAd, cw)
      else
        (writeEntries f fuel cw.dstore adCid ((Car.mk roots []).put adCid data) roots
            entriesCid).map fun (r, delCids) =>
          (r, ⟨deleteCids cw.dstore (f.deleted adCid delCids),
            match r with
            | .ok car => cw.fileStore.put adCid car
            | _ => cw.fileStore⟩)

section Paths

variable {f : Faults} {fuel : Nat} {cw : CarWriter} {adCid : Cid} {skipEntries : Bool}
  {ad : Advertisement} {data : Bytes}

theorem write_loadAd_error {e : LoadErr} (had : loadAd cw.dstore adCid = .error e) :
    write f fuel cw adCid skipEntries = some (.error .loadAd, cw) := by
  simp [write, had]

/-- `Write` when `<adCid>.car` exists: `removeAdData` on the roots. -/
theorem write_fast (had : loadAd cw.dstore adCid = .ok (ad, data)) (hh : f.head adCid = false)
    {file : Car} (hf : cw.fileStore.head adCid = some file) :
    write f fuel cw adCid skipEntries =
      (removeAdData fuel cw.dstore (adCid :: (entriesRoot ad skipEntries).toList)).map
        fun r => (if r.1 = .panic then .panic else .ok file,
          { cw with dstore := deleteCids cw.dstore (f.deleted adCid r.2) }) := by
  simp [write, had, hh, hf]

/-- `Write` when `Head` fails: the slow path. -/
theorem write_slow (had : loadAd cw.dstore adCid = .ok (ad, data))
    (hf : (if f.head adCid then none else cw.fileStore.head adCid) = none) :
    write f fuel cw adCid skipEntries =
      if f.openCar adCid then some (.error .openCar, cw)
      else if f.putBlock adCid adCid then some (.error .writeAd, cw)
      else
        (writeEntries f fuel cw.dstore adCid
            ((Car.mk (adCid :: (entriesRoot ad skipEntries).toList) []).put adCid data)
            (adCid :: (entriesRoot ad skipEntries).toList) (entriesRoot ad skipEntries)).map
          fun r => (r.1, ⟨deleteCids cw.dstore (f.deleted adCid r.2),
            match r.1 with
            | .ok car => cw.fileStore.put adCid car
            | _ => cw.fileStore⟩) := by
  simp only [write, had, hf]

end Paths

end StoreTheIndex
