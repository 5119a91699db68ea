import StoreTheIndex.CarWriter.Write

/-!
# The fast path of `Write`

When `<adCid>.car` is already in the file store, `Write` does not rewrite it and only removes
the staged data with `removeAdData`. Two results:

* **`write_panics_of_root_missing`**: `removeAdData` lets `ErrNotFound` through for the entries
  root and then calls `isHAMT` on the nil node, so a state where the root is gone but the
  advertisement is still staged (a crash between the two deletes of an earlier `Write`) makes
  `Write` panic. The slow path guards the same call with `len(data) != 0`.
* **`write_fast_slow_same_deletes`**: when the entries root is present, the fast path and the
  fault-free slow path delete the same keys, although they build their delete lists with two
  different loops and the slow one holds the entries CID twice.
-/

namespace StoreTheIndex

section Panic

variable {f : Faults} {fuel : Nat} {cw : CarWriter} {adCid e : Cid} {skipEntries : Bool}
  {ad : Advertisement} {data : Bytes} {file : Car}

/-- **`Write` panics on a staged advertisement whose entries root is gone**, once its CAR file
exists; the deferred `deleteCids` of `removeAdData` has run first. -/
theorem write_panics_of_root_missing (had : loadAd cw.dstore adCid = .ok (ad, data))
    (hroot : entriesRoot ad skipEntries = some e) (hh : f.head adCid = false)
    (hf : cw.fileStore.head adCid = some file) (hmiss : cw.dstore.get e = none) :
    write f fuel cw adCid skipEntries =
      some (.panic, { cw with dstore := deleteCids cw.dstore (f.deleted adCid [adCid, e]) }) := by
  rw [write_fast had hh hf, hroot]
  simp [removeAdData, loadNode_notFound.mpr hmiss]

end Panic

/-- A staged advertisement `1` whose entries root `2` is gone, with `1.car` in the file store. -/
def crashedWriter : CarWriter where
  dstore := ⟨[(1, ⟨[1], none, some ⟨.link 2⟩, none, fun _ => rfl⟩)], by decide⟩
  fileStore := ⟨[(1, ⟨[1, 2], [(1, [1])]⟩)]⟩

theorem crashedWriter_panics :
    crashedWriter.dstore.get 2 = none ∧
      write Faults.none 0 crashedWriter 1 false =
        some (.panic, { crashedWriter with dstore := deleteCids crashedWriter.dstore [1, 2] }) :=
  ⟨rfl, @write_panics_of_root_missing Faults.none 0 crashedWriter 1 2 false ⟨.link 2⟩ [1] _
    rfl rfl rfl rfl rfl⟩

/-! ## The two chunk loops in step -/

section Walks

variable (ds : Datastore)

theorem removeChunks_acc (fuel : Nat) (c : Cid) (d : List Cid) :
    removeChunks ds fuel c d = (removeChunks ds fuel c []).map fun r => (r.1, d ++ r.2) := by
  induction fuel generalizing c d with
  | zero =>
    simp only [removeChunks, removeStep]
    split
    · simp
    · split <;> simp
  | succ n ih =>
    simp only [removeChunks, removeStep]
    split
    · simp
    · split
      · simp
      · rename_i next _
        rw [ih next (d ++ [next]), ih next ([] ++ [next])]
        simp [Option.map_map, Function.comp_def]

/-- When every `writeBlock` succeeds the two loops load the same chunks and append the same
`Next` links. -/
theorem writeChunks_dels_eq {f : Faults} {adCid : Cid} (hp : ∀ c, f.putBlock adCid c = false)
    (fuel : Nat) (c : Cid) (car : Car) (d : List Cid) :
    (writeChunks f ds adCid fuel c car d).map Walk.dels =
      (removeChunks ds fuel c d).map Prod.snd := by
  induction fuel generalizing c car d with
  | zero =>
    simp only [writeChunks, removeChunks, writeStep, removeStep]
    split
    · rfl
    · simp only [hp, Bool.false_eq_true, if_false]
      split <;> rfl
  | succ n ih =>
    simp only [writeChunks, removeChunks, writeStep, removeStep]
    split
    · rfl
    · simp only [hp, Bool.false_eq_true, if_false]
      split
      · rfl
      · exact ih ..

end Walks

/-- An entries root stored with empty bytes does not load as an entry chunk. -/
theorem loadEntryChunk_of_empty {ds : Datastore} {e : Cid} {node : Node}
    (h : loadNode ds e Block.node = .ok (node, [])) :
    ∃ err, loadEntryChunk ds e = .error err := by
  obtain ⟨b, hb, -, hd⟩ := loadNode_ok h
  exact ⟨.decode, by simp [loadEntryChunk, loadNode, hb, b.empty_chunk hd]⟩

/-- **The fast and the slow path of `Write` remove the same keys**, when the entries root is
present and the slow path's CAR and file-store calls succeed. -/
theorem write_fast_slow_same_deletes (f : Faults) (fuel : Nat) (ds : Datastore)
    (fs fs' : FileStore) (adCid : Cid) (skipEntries : Bool) (ad : Advertisement) (data : Bytes)
    (file : Car) (had : loadAd ds adCid = .ok (ad, data))
    (hroot : ∀ e, entriesRoot ad skipEntries = some e → ds.get e ≠ none)
    (hh : f.head adCid = false) (hf : fs.head adCid = some file) (hf' : fs'.head adCid = none) :
    (write f fuel ⟨ds, fs⟩ adCid skipEntries).map (fun r => r.2.dstore) =
      (write { Faults.none with delete := f.delete } fuel ⟨ds, fs'⟩ adCid skipEntries).map
        (fun r => r.2.dstore) := by
  have hdel : Faults.deleted { Faults.none with delete := f.delete } adCid = f.deleted adCid :=
    rfl
  rw [@write_fast f fuel ⟨ds, fs⟩ adCid skipEntries ad data had hh file hf,
    @write_slow _ fuel ⟨ds, fs'⟩ adCid skipEntries ad data had (by simpa [Faults.none]), hdel]
  simp only [Faults.none, finish, Bool.false_eq_true, if_false, Option.map_map,
    Function.comp_def]
  cases hr : entriesRoot ad skipEntries with
  | none => simp [removeAdData, writeEntries, finish]
  | some e =>
    have hpair : ∀ s, deleteCids ds (f.deleted adCid (adCid :: e :: s)) =
        deleteCids ds (f.deleted adCid ([adCid, e, e] ++ s)) :=
      fun s => deleteCids_congr ds fun k => by simp
    simp only [Option.toList_some, List.cons_append, List.nil_append, removeAdData, writeEntries]
    cases hload : loadNode ds e Block.node with
    | error err =>
      cases err with
      | notFound => exact absurd (loadNode_notFound.mp hload) (hroot e hr)
      | decode => simpa using hpair []
    | ok p =>
      obtain ⟨node, d⟩ := p
      by_cases hd : d = []
      · subst hd
        obtain ⟨err, herr⟩ := loadEntryChunk_of_empty hload
        cases hn : isHAMT node <;> cases fuel <;> simp [removeChunks, removeStep, herr, finish, hn, hpair []]
      · have hne : d.isEmpty = false := by cases d <;> simp_all
        cases hn : isHAMT node
        · simp only [hne, hn, Bool.false_eq_true, if_false, Option.map_map]
          rw [show (fun x : WriteResult × List Cid => deleteCids ds (f.deleted adCid x.2)) ∘ _ =
              (deleteCids ds ∘ f.deleted adCid) ∘ Walk.dels from
                funext fun w => by cases w <;> simp [Walk.dels, finish],
            ← Option.map_map _ Walk.dels, writeChunks_dels_eq ds (fun _ => rfl), removeChunks_acc,
            removeChunks_acc ds fuel e [adCid, e, e]]
          cases removeChunks ds fuel e [] with
          | none => rfl
          | some r => simp [hpair r.2]
        · simp [hne, hn, finish, hpair []]

/-- A staged advertisement `1` whose entries root `2` links to the last chunk `3`. -/
def chainStore : Datastore :=
  ⟨[(1, ⟨[1], none, some ⟨.link 2⟩, none, by simp⟩),
    (2, ⟨[2], some ⟨false⟩, none, some ⟨some 3⟩, by simp⟩),
    (3, ⟨[3], some ⟨false⟩, none, some ⟨none⟩, by simp⟩)], by decide⟩

/-- The CAR of `chainStore`'s advertisement. -/
def chainCar : Car := ⟨[1, 2], [(1, [1]), (2, [2]), (3, [3])]⟩

theorem chainStore_same_deletes :
    (write Faults.none 1 ⟨chainStore, ⟨[(1, chainCar)]⟩⟩ 1 false).map (fun r => r.2.dstore) =
      (write Faults.none 1 ⟨chainStore, ⟨[]⟩⟩ 1 false).map (fun r => r.2.dstore) :=
  write_fast_slow_same_deletes Faults.none 1 chainStore _ _ 1 false ⟨.link 2⟩ [1] chainCar rfl
    (fun e he => by cases he; decide) rfl rfl rfl

end StoreTheIndex
