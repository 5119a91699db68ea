import Mathlib.Data.List.Nodup

/-!
# The staging datastore and the CAR files

`CarWriter` (`carwriter/carwriter.go`) reads advertisements and their entry blocks from the
staging datastore, writes each advertisement with its entries into one CAR file of the file
store, and deletes what it wrote from the datastore.

A datastore value is kept with what `decodeIPLDNode` builds from it under each prototype the
code uses; the code only ever looks at the `hamt` field of a node, the `Entries` link of an
advertisement and the `Next` link of an entry chunk, so that is what a decoded view holds.

* `Block`, `Datastore` with `get`, `delete` and `deleteCids`;
* `loadNode`, `loadAd`, `loadEntryChunk`, `isHAMT`;
* `Car`, `FileStore`, `Faults`: the CAR blockstore, the file store and the outcomes of their
  calls and of the datastore's `Delete`; `Faults.deleted`: the keys a `deleteCids` removes;
* `WriteErr`: the error sites of `Write`, their texts, and which of them are a `*WriteError`.
-/

namespace StoreTheIndex

/-- Content identifiers. The model only compares them, so it numbers them. -/
abbrev Cid := Nat

/-- Raw block bytes. -/
abbrev Bytes := List UInt8

/-- What `isHAMT` reads of an IPLD node: whether it has a field named `hamt`. -/
structure Node where
  hamt : Bool
  deriving DecidableEq, Repr

/-- The `Entries` field of an advertisement: absent (`nil`), the `schema.NoEntries` link, or a
link to an entries root. -/
inductive Entries
  | absent
  | noEntries
  | link (c : Cid)
  deriving DecidableEq, Repr

/-- The field of a `schema.Advertisement` that `Write` reads. -/
structure Advertisement where
  entries : Entries
  deriving DecidableEq, Repr

/-- The field of a `schema.EntryChunk` that the chain walks read. -/
structure EntryChunk where
  next : Option Cid
  deriving DecidableEq, Repr

/-- A datastore value: its bytes and what they decode to as a node, an advertisement and an
entry chunk (`none` where decoding fails); empty bytes never decode as a chunk. -/
structure Block where
  data : Bytes
  node : Option Node
  ad : Option Advertisement
  chunk : Option EntryChunk
  empty_chunk : data = [] → chunk = none
  deriving DecidableEq

/-- The staging datastore, keyed by `datastore.NewKey(c.String())`; a key is held once. -/
structure Datastore where
  entries : List (Cid × Block)
  nodup : (entries.map Prod.fst).Nodup

namespace Datastore

@[ext] theorem ext {a b : Datastore} (h : a.entries = b.entries) : a = b := by
  cases a; cases b; cases h; rfl

/-- `Get`: the value under a key, `none` for `ErrNotFound`. -/
def get (ds : Datastore) (c : Cid) : Option Block := ds.entries.lookup c

/-- `Delete`: drop the key. -/
def delete (ds : Datastore) (c : Cid) : Datastore :=
  ⟨ds.entries.filter (fun e => e.1 != c), ((List.filter_sublist _).map _).nodup ds.nodup⟩

theorem lookup_filter (l : List (Cid × Block)) (p : Cid → Bool) (k : Cid) :
    (l.filter (fun e => p e.1)).lookup k = if p k then l.lookup k else none := by
  induction l with
  | nil => simp
  | cons e l ih =>
    obtain ⟨c, b⟩ := e
    by_cases hc : k = c
    · subst hc; by_cases hp : p k <;> simp [List.filter_cons, hp, ih]
    · have hkc : (k == c) = false := beq_false_of_ne hc
      by_cases hp : p c <;> simp [List.filter_cons, hp, ih, List.lookup_cons, hkc]

@[simp] theorem get_delete (ds : Datastore) (c k : Cid) :
    (ds.delete c).get k = if k = c then none else ds.get k := by
  simp only [get, delete, lookup_filter _ (fun x => x != c)]
  by_cases h : k = c <;> simp [h]

end Datastore

/-- `deleteCids`: delete the keys from the last one to the first. A failed `Delete` is only
logged; here every `Delete` removes its key (see `DeleteRun` for the failing ones). -/
def deleteCids (ds : Datastore) (delCids : List Cid) : Datastore :=
  delCids.foldr (fun c ds => ds.delete c) ds

@[simp] theorem get_deleteCids (ds : Datastore) (delCids : List Cid) (k : Cid) :
    (deleteCids ds delCids).get k = if k ∈ delCids then none else ds.get k := by
  induction delCids with
  | nil => simp [deleteCids]
  | cons c l ih =>
    simp only [deleteCids, List.foldr_cons] at ih ⊢
    by_cases h : k = c <;> simp [h, ih]

theorem deleteCids_entries (ds : Datastore) (delCids : List Cid) :
    (deleteCids ds delCids).entries = ds.entries.filter (fun e => e.1 ∉ delCids) := by
  induction delCids with
  | nil => simp [deleteCids]
  | cons c l ih =>
    show ((deleteCids ds l).delete c).entries = _
    simp only [Datastore.delete, ih, List.filter_filter]
    congr 1; funext e
    by_cases h₁ : e.1 = c <;> by_cases h₂ : e.1 ∈ l <;> simp [h₁, h₂]

/-- `deleteCids` depends only on the set of keys it is given. -/
theorem deleteCids_congr (ds : Datastore) {l l' : List Cid} (h : ∀ k, k ∈ l ↔ k ∈ l') :
    deleteCids ds l = deleteCids ds l' := by
  ext1; simp only [deleteCids_entries, h]

/-- Why `loadNode` fails: `datastore.ErrNotFound`, or the bytes do not decode. -/
inductive LoadErr
  | notFound
  | decode
  deriving DecidableEq, Repr

/-- `loadNode`: get the value and decode it under a prototype, here the view it selects. -/
def loadNode {α : Type} (ds : Datastore) (c : Cid) (view : Block → Option α) :
    Except LoadErr (α × Bytes) :=
  match ds.get c with
  | none => .error .notFound
  | some b =>
    match view b with
    | none => .error .decode
    | some n => .ok (n, b.data)

/-- `loadAd`. -/
def loadAd (ds : Datastore) (c : Cid) : Except LoadErr (Advertisement × Bytes) :=
  loadNode ds c Block.ad

/-- `loadEntryChunk`. -/
def loadEntryChunk (ds : Datastore) (c : Cid) : Except LoadErr (EntryChunk × Bytes) :=
  loadNode ds c Block.chunk

/-- `isHAMT`: the node has a field named `hamt`. -/
def isHAMT (n : Node) : Bool := n.hamt

theorem loadNode_ok {α : Type} {ds : Datastore} {c : Cid} {view : Block → Option α}
    {n : α} {data : Bytes} (h : loadNode ds c view = .ok (n, data)) :
    ∃ b, ds.get c = some b ∧ view b = some n ∧ b.data = data := by
  unfold loadNode at h
  split at h
  · cases h
  · rename_i b _
    split at h
    · cases h
    · cases h; exact ⟨b, ‹_›, ‹_›, rfl⟩

theorem loadNode_congr {α : Type} {ds ds' : Datastore} {c : Cid} {view : Block → Option α}
    (h : ds'.get c = ds.get c) : loadNode ds' c view = loadNode ds c view := by
  simp [loadNode, h]

theorem loadNode_notFound {α : Type} {ds : Datastore} {c : Cid} {view : Block → Option α} :
    loadNode ds c view = .error .notFound ↔ ds.get c = none := by
  unfold loadNode
  split
  · simp [*]
  · split <;> simp [*]

/-! ## CAR files and the file store -/

/-- A CAR file: its roots and its blocks in the order they were put. -/
structure Car where
  roots : List Cid
  blocks : List (Cid × Bytes)
  deriving DecidableEq, Repr

/-- `Put` on the read-write CAR blockstore: a CID already in the file is not written again. -/
def Car.put (car : Car) (c : Cid) (data : Bytes) : Car :=
  if car.blocks.any (fun b => b.1 == c) then car else { car with blocks := car.blocks ++ [(c, data)] }

/-- The file store, by advertisement: the file `<adCid>.car`. -/
structure FileStore where
  files : List (Cid × Car)

/-- `Head`: the file, if it exists. -/
def FileStore.head (fs : FileStore) (c : Cid) : Option Car := fs.files.lookup c

/-- `Put`: store the file under its name. -/
def FileStore.put (fs : FileStore) (c : Cid) (car : Car) : FileStore := ⟨(c, car) :: fs.files⟩

@[simp] theorem FileStore.head_put (fs : FileStore) (c k : Cid) (car : Car) :
    (fs.put c car).head k = if k = c then some car else fs.head k := by
  by_cases h : k = c
  · simp [FileStore.head, FileStore.put, h]
  · simp [FileStore.head, FileStore.put, List.lookup_cons, h, beq_false_of_ne h]

/-- Which calls to the CAR blockstore, the temporary file, the file store and the datastore
fail, by advertisement (and block, for `writeBlock` and `Delete`). -/
structure Faults where
  head : Cid → Bool
  openCar : Cid → Bool
  putBlock : Cid → Cid → Bool
  finalize : Cid → Bool
  reopen : Cid → Bool
  upload : Cid → Bool
  delete : Cid → Cid → Bool

/-- Every call succeeds. -/
def Faults.none : Faults := ⟨fun _ => false, fun _ => false, fun _ _ => false, fun _ => false,
  fun _ => false, fun _ => false, fun _ _ => false⟩

/-- The keys of `delCids` that `deleteCids` removes in the `Write` of `adCid`: a failed
`Delete` is logged and its key stays (carwriter.go:214-221). -/
def Faults.deleted (f : Faults) (adCid : Cid) (delCids : List Cid) : List Cid :=
  delCids.filter fun c => !f.delete adCid c

@[simp] theorem Faults.mem_deleted {f : Faults} {adCid k : Cid} {delCids : List Cid} :
    k ∈ f.deleted adCid delCids ↔ k ∈ delCids ∧ f.delete adCid k = false := by
  simp [Faults.deleted]

@[simp] theorem Faults.none_deleted (adCid : Cid) (delCids : List Cid) :
    Faults.none.deleted adCid delCids = delCids := by
  simp [Faults.deleted, Faults.none]

/-! ## Errors -/

/-- The error returns of `Write`, in source order. -/
inductive WriteErr
  | loadAd
  | openCar
  | writeAd
  | loadFirstEntry
  | writeHamt
  | loadEntries
  | writeEntries
  | finalize
  | reopen
  | upload
  deriving DecidableEq, Repr

/-- `errors.As(err, &werr)` with `werr *WriteError`: the sites that wrap a `WriteError`. -/
def WriteErr.isWriteError : WriteErr → Bool
  | .writeAd | .writeHamt | .writeEntries | .finalize | .reopen | .upload => true
  | .loadAd | .openCar | .loadFirstEntry | .loadEntries => false

/-- The text each site puts before the wrapped cause; the two bare `WriteError{err}` sites
add none. -/
def WriteErr.msg : WriteErr → String
  | .loadAd => "cannot load advertisement"
  | .openCar => "cannot open advertisement car file"
  | .writeAd => "cannot write advertisement data to car file"
  | .loadFirstEntry => "failed to load first entry"
  | .writeHamt => "cannot write entries hamt to car file"
  | .loadEntries => "cannot load entries block"
  | .writeEntries => "cannot write entries block to car file"
  | .finalize => "cannot finalize advertisement car file"
  | .reopen => ""
  | .upload => ""

end StoreTheIndex
