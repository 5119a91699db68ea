import StoreTheIndex.CarWriter.Success
import Mathlib.Logic.Relation

/-!
# The deletion loop, one `Delete` at a time

`deleteCids` deletes its keys from the last to the first, logs a failed `Delete` and goes on.
`DeleteStep` is one iteration, with either outcome of the `Delete`; the states reachable by
`DeleteStep` are the points where the process may stop. The deletion `write` models, where the
`Delete`s `Faults.delete` marks fail, is one of these runs (`deleteReach_deleted`).

The delete lists `Write` and `removeAdData` build list the chain `adCid, c₁, …, cₙ` in order,
`Write`'s with the entries root twice (`Stutter`).

* `deleteReach_inv`: a reachable state has removed exactly the keys whose `Delete` succeeded,
  all of them among the keys already visited;
* **`deleteCids_survivors`**: at every point, the chain blocks still present are those of a
  prefix `adCid, c₁, …, cⱼ` of the chain together with the ones whose `Delete` failed;
* `deleteRun_orphans_chunk`: a failed `Delete` of the last chunk leaves it behind after the
  advertisement is gone, so the survivors need not be a prefix;
* `write_deleteRun`, `write_survivors`: the same for the datastore a `Write` leaves.
-/

namespace StoreTheIndex

/-- The `deleteCids` loop, stopped: the datastore, the number `i` of keys still to delete (the
next is `delCids[i - 1]`), and, as a ghost, the keys some `Delete` has removed. -/
structure DeleteState where
  ds : Datastore
  i : Nat
  gone : List Cid

/-- One iteration of `deleteCids(delCids)`. -/
inductive DeleteStep (delCids : List Cid) : DeleteState → DeleteState → Prop
  /-- `Delete(delCids[i])` removes the key. -/
  | ok {ds : Datastore} {i : Nat} {gone : List Cid} {c : Cid} :
      delCids[i]? = some c → DeleteStep delCids ⟨ds, i + 1, gone⟩ ⟨ds.delete c, i, c :: gone⟩
  /-- `Delete(delCids[i])` returns an error; it is logged and the loop goes on. -/
  | error {ds : Datastore} {i : Nat} {gone : List Cid} {c : Cid} :
      delCids[i]? = some c → DeleteStep delCids ⟨ds, i + 1, gone⟩ ⟨ds, i, gone⟩

/-- The states of a `deleteCids(delCids)` call on `ds`, for every outcome of each `Delete`. -/
def DeleteReach (ds : Datastore) (delCids : List Cid) : DeleteState → Prop :=
  Relation.ReflTransGen (DeleteStep delCids) ⟨ds, delCids.length, []⟩

/-- **`Write`'s deletion is one of these runs**: the one in which the `Delete`s that
`Faults.delete` marks fail and the others succeed. -/
theorem deleteReach_deleted (ds : Datastore) (delCids : List Cid) (f : Faults) (adCid : Cid) :
    DeleteReach ds delCids
      ⟨deleteCids ds (f.deleted adCid delCids), 0, f.deleted adCid delCids⟩ := by
  have key : ∀ k i, i + k = delCids.length → DeleteReach ds delCids
      ⟨deleteCids ds (f.deleted adCid (delCids.drop i)), i, f.deleted adCid (delCids.drop i)⟩ := by
    intro k
    induction k with
    | zero =>
      intro i hi
      simp only [Nat.add_zero] at hi; subst hi
      simp [DeleteReach, deleteCids, Faults.deleted, Relation.ReflTransGen.refl]
    | succ k ih =>
      intro i hi
      have hlt : i < delCids.length := by omega
      have hget := List.getElem?_eq_getElem hlt
      refine (ih (i + 1) (by omega)).tail ?_
      rw [List.drop_eq_getElem_cons hlt]
      cases hd : f.delete adCid delCids[i]
      · simp only [Faults.deleted, List.filter_cons, hd, Bool.not_false, if_true]
        exact .ok hget
      · simp only [Faults.deleted, List.filter_cons, hd, Bool.not_true, Bool.false_eq_true,
          if_false]
        exact .error hget
  simpa using key delCids.length 0 (by simp)

/-- When every `Delete` succeeds the run ends in `deleteCids`. -/
theorem deleteReach_deleteCids (ds : Datastore) (delCids : List Cid) :
    DeleteReach ds delCids ⟨deleteCids ds delCids, 0, delCids⟩ := by
  simpa using deleteReach_deleted ds delCids Faults.none 0

/-- What a stopped run has done: it removed exactly the keys whose `Delete` succeeded, and
only keys it has visited. -/
structure DeleteInv (ds : Datastore) (delCids : List Cid) (s : DeleteState) : Prop where
  le : s.i ≤ delCids.length
  get : ∀ k, s.ds.get k = if k ∈ s.gone then none else ds.get k
  visited : ∀ k ∈ s.gone, k ∈ delCids.drop s.i

theorem deleteReach_inv {ds : Datastore} {delCids : List Cid} {s : DeleteState}
    (h : DeleteReach ds delCids s) : DeleteInv ds delCids s := by
  induction h with
  | refl => exact ⟨le_rfl, by simp, by simp⟩
  | tail _ hstep ih =>
    cases hstep with
    | @ok _ i _ c hc =>
      have hlt : i < delCids.length := (List.getElem?_eq_some_iff.mp hc).1
      have hdrop : delCids.drop i = c :: delCids.drop (i + 1) := by
        rw [List.drop_eq_getElem_cons hlt, (List.getElem?_eq_some_iff.mp hc).2]
      refine ⟨by simp only; omega, fun k => ?_, fun k hk => ?_⟩
      · by_cases hk : k = c <;> simp [hk, ih.get k]
      · rw [hdrop]
        rcases List.mem_cons.mp hk with rfl | hk
        · exact List.mem_cons_self _ _
        · exact List.mem_cons_of_mem _ (ih.visited k hk)
    | @error _ i _ c hc =>
      have hlt : i < delCids.length := (List.getElem?_eq_some_iff.mp hc).1
      refine ⟨by simp only; omega, ih.get, fun k hk => ?_⟩
      rw [List.drop_eq_getElem_cons hlt]
      exact List.mem_cons_of_mem _ (ih.visited k hk)

/-! ## Delete lists that follow a chain -/

/-- `Stutter chain delCids`: `delCids` lists `chain` in order, an entry possibly repeated in
place; `removeAdData` builds `adCid :: cs`, `Write` repeats the entries root. -/
inductive Stutter : List Cid → List Cid → Prop
  | nil : Stutter [] []
  | cons {x : Cid} {l d : List Cid} : Stutter l d → Stutter (x :: l) (x :: d)
  | dup {x : Cid} {l d : List Cid} : Stutter (x :: l) (x :: d) → Stutter (x :: l) (x :: x :: d)

theorem Stutter.mem_iff {l d : List Cid} (h : Stutter l d) : ∀ x, x ∈ d ↔ x ∈ l := by
  induction h with
  | nil => simp
  | cons _ ih => simp [ih]
  | dup _ ih => intro x; rw [← ih x]; simp

/-- A visited suffix of a stuttered list holds the same keys as a suffix of the chain. -/
theorem Stutter.drop_mem {l d : List Cid} (h : Stutter l d) :
    ∀ i, ∃ j, ∀ x, x ∈ d.drop i ↔ x ∈ l.drop j := by
  induction h with
  | nil => exact fun _ => ⟨0, by simp⟩
  | cons hs ih =>
    intro i
    cases i with
    | zero => exact ⟨0, by simpa using (Stutter.cons hs).mem_iff⟩
    | succ i => obtain ⟨j, hj⟩ := ih i; exact ⟨j + 1, by simpa using hj⟩
  | dup hs ih =>
    intro i
    cases i with
    | zero => exact ⟨0, by simpa using (Stutter.dup hs).mem_iff⟩
    | succ i => simpa using ih i

theorem Stutter.refl : ∀ l : List Cid, Stutter l l
  | [] => .nil
  | _ :: l => .cons (Stutter.refl l)

theorem writeChunks_dels {f : Faults} {ds : Datastore} {adCid : Cid} :
    ∀ {fuel c car d w}, writeChunks f ds adCid fuel c car d = some w →
      w = .writeFailed ∨ ∃ s, w.dels = d ++ s := by
  intro fuel
  induction fuel with
  | zero =>
    intro c car d w h
    rw [writeChunks] at h
    rcases writeStep_cases h with ⟨_, _, rfl⟩ | ⟨_, rfl⟩ | ⟨_, _, _, rfl⟩ | ⟨_, _, _, _, h⟩
    · exact .inr ⟨[], by simp [Walk.dels]⟩
    · exact .inl rfl
    · exact .inr ⟨[], by simp [Walk.dels]⟩
    · cases h
  | succ n ih =>
    intro c car d w h
    rw [writeChunks] at h
    rcases writeStep_cases h with ⟨_, _, rfl⟩ | ⟨_, rfl⟩ | ⟨_, _, _, rfl⟩ | ⟨next, _, _, _, h⟩
    · exact .inr ⟨[], by simp [Walk.dels]⟩
    · exact .inl rfl
    · exact .inr ⟨[], by simp [Walk.dels]⟩
    · rcases ih h with hw | ⟨s, hs⟩
      · exact .inl hw
      · exact .inr ⟨next :: s, by simp [hs]⟩

/-- The list `removeAdData` hands to `deleteCids` is the chain it walked from the roots. -/
theorem removeAdData_stutter {fuel : Nat} {ds : Datastore} {adCid e : Cid} {r : Removal}
    {dels : List Cid} (h : removeAdData fuel ds [adCid, e] = some (r, dels)) :
    ∃ s, Stutter (adCid :: e :: s) dels := by
  simp only [removeAdData] at h
  split at h
  · cases h; exact ⟨[], .refl _⟩
  · cases h; exact ⟨[], .refl _⟩
  · split at h
    · cases h; exact ⟨[], .refl _⟩
    · rw [removeChunks_acc] at h
      obtain ⟨⟨r', s⟩, -, h⟩ := Option.map_eq_some'.mp h
      cases h; exact ⟨s, by simpa using Stutter.refl _⟩

/-- The list `Write` hands to `deleteCids` on a `[adCid, e]` root pair is the chain it walked,
with `e` twice, or nothing. -/
theorem writeEntries_stutter {f : Faults} {fuel : Nat} {ds : Datastore} {adCid e : Cid}
    {car : Car} {r : WriteResult} {dels : List Cid}
    (h : writeEntries f fuel ds adCid car [adCid, e] (some e) = some (r, dels)) :
    dels = [] ∨ ∃ s, Stutter (adCid :: e :: s) dels := by
  have hdup : ∀ s, Stutter (adCid :: e :: s) ([adCid, e, e] ++ s) :=
    fun s => .cons (.dup (.cons (.refl s)))
  have hfin : ∀ car d, finish f adCid car d = (r, dels) → dels = [] ∨ dels = d := by
    intro car d h; unfold finish at h; split_ifs at h <;> simp_all
  simp only [writeEntries, List.cons_append, List.nil_append] at h
  split at h
  · cases h; exact .inr ⟨[], hdup []⟩
  · rcases hfin _ _ (Option.some.inj h) with h | h
    · exact .inl h
    · exact .inr ⟨[], h ▸ hdup []⟩
  · split at h
    · rcases hfin _ _ (Option.some.inj h) with h | h
      · exact .inl h
      · exact .inr ⟨[], h ▸ hdup []⟩
    · split at h
      · split at h
        · cases h; exact .inl rfl
        · rcases hfin _ _ (Option.some.inj h) with h | h
          · exact .inl h
          · exact .inr ⟨[], h ▸ hdup []⟩
      · obtain ⟨w, hw, h⟩ := Option.map_eq_some'.mp h
        rcases writeChunks_dels hw with rfl | ⟨s, hs⟩
        · cases h; exact .inl rfl
        · cases w with
          | done car' d =>
            rcases hfin _ _ h with h | h
            · exact .inl h
            · simp only [Walk.dels] at hs
              exact .inr ⟨s, h ▸ hs ▸ hdup s⟩
          | loadFailed d =>
            cases h; simp only [Walk.dels] at hs
            exact .inr ⟨s, hs ▸ hdup s⟩
          | writeFailed => cases h; exact .inl rfl

theorem mem_take_iff_not_mem_drop {l : List Cid} (hl : l.Nodup) {x : Cid} (hx : x ∈ l) (j : Nat) :
    x ∈ l.take j ↔ x ∉ l.drop j := by
  have hdis := (List.nodup_append.mp (List.take_append_drop j l ▸ hl)).2.2
  rw [← List.take_append_drop j l, List.mem_append] at hx
  exact ⟨fun ht hd => hdis ht hd, hx.resolve_right⟩

theorem mem_take_min (l : List Cid) (x : Cid) (j m : Nat) :
    x ∈ l.take (min j m) ↔ x ∈ l.take j ∧ x ∈ l.take m := by
  rcases le_total j m with h | h
  · rw [Nat.min_eq_left h]
    exact ⟨fun hx => ⟨hx, List.take_subset_take_left l h hx⟩, And.left⟩
  · rw [Nat.min_eq_right h]
    exact ⟨fun hx => ⟨List.take_subset_take_left l h hx, hx⟩, And.right⟩

/-- The survivors of a stopped `deleteCids` run over a list that follows a chain. -/
theorem survivors_of_stutter {ds : Datastore} {chain delCids : List Cid} (hnd : chain.Nodup)
    (hst : Stutter chain delCids) {m : Nat}
    (hpre : ∀ x ∈ chain, ds.get x ≠ none ↔ x ∈ chain.take m) {s : DeleteState}
    (hrun : DeleteReach ds delCids s) :
    ∃ j, ∀ x ∈ chain, s.ds.get x ≠ none ↔
      x ∈ chain.take j ∨ (x ∈ delCids.drop s.i ∧ x ∉ s.gone ∧ ds.get x ≠ none) := by
  have inv := deleteReach_inv hrun
  obtain ⟨j, hj⟩ := hst.drop_mem s.i
  refine ⟨min j m, fun x hx => ?_⟩
  have hG : x ∈ s.gone → x ∈ delCids.drop s.i := inv.visited x
  have hT : x ∈ chain.take j ↔ x ∉ delCids.drop s.i := by
    rw [hj x]; exact mem_take_iff_not_mem_drop hnd hx j
  have hP := hpre x hx
  rw [inv.get x, mem_take_min]
  by_cases hg : x ∈ s.gone
  · -- a deleted block was reached by the run, so it is past the prefix
    simp only [hg, if_true, ne_eq, not_true_eq_false, false_and, and_false, or_false, false_iff,
      not_and]
    exact fun h => absurd (hG hg) (hT.mp h)
  · simp only [hg, if_false, not_false_eq_true, true_and]
    by_cases hd : x ∈ delCids.drop s.i
    · simp [hd, show x ∉ chain.take j from fun h => hT.mp h hd]
    · simp [hd, hT.mpr hd, hP]

/-- **At every point of `deleteCids`, the chain's surviving blocks are a prefix of it and the
blocks whose `Delete` failed**, from a datastore holding a prefix of the chain. -/
theorem deleteCids_survivors {ds : Datastore} {chain delCids : List Cid} (hnd : chain.Nodup)
    (hst : Stutter chain delCids) {m : Nat}
    (hpre : ∀ x ∈ chain, ds.get x ≠ none ↔ x ∈ chain.take m) {s : DeleteState}
    (hrun : DeleteReach ds delCids s) :
    ∃ j, ∀ x ∈ chain, s.ds.get x ≠ none ↔
      x ∈ chain.take j ∨ (x ∈ delCids.drop s.i ∧ x ∉ s.gone ∧ ds.get x ≠ none) :=
  survivors_of_stutter hnd hst hpre hrun

theorem chainStore_survivors :
    ∃ j, ∀ x ∈ [1, 2, 3], (deleteCids chainStore [1, 2, 2, 3]).get x ≠ none ↔
      x ∈ [1, 2, 3].take j ∨ (x ∈ [1, 2, 2, 3].drop 0 ∧ x ∉ [1, 2, 2, 3] ∧
        chainStore.get x ≠ none) :=
  @deleteCids_survivors chainStore [1, 2, 3] [1, 2, 2, 3] (by decide)
    (.cons (.dup (.cons (.cons .nil)))) 3 (by decide) _
    (deleteReach_deleteCids chainStore [1, 2, 2, 3])

/-- `chainStore`'s delete list `[1, 2, 2, 3]` where the `Delete` of the last chunk `3` fails
and the three others succeed. -/
theorem deleteRun_orphans_chunk :
    DeleteReach chainStore [1, 2, 2, 3]
        ⟨((chainStore.delete 2).delete 2).delete 1, 0, [1, 2, 2]⟩ ∧
      ¬ ∃ j, ∀ x ∈ [1, 2, 3], (((chainStore.delete 2).delete 2).delete 1).get x ≠ none ↔
        x ∈ [1, 2, 3].take j := by
  refine ⟨?_, fun ⟨j, hj⟩ => ?_⟩
  · exact ((((Relation.ReflTransGen.refl.tail (.error rfl)).tail (.ok rfl)).tail
      (.ok rfl)).tail (.ok rfl))
  · have h1 := hj 1 (by simp)
    have h3 := hj 3 (by simp)
    cases j with
    | zero => exact absurd h3 (by decide)
    | succ j => simp at h1

/-! ## The delete lists of `Write` -/

section Write

variable {f : Faults} {fuel : Nat} {cw cw' : CarWriter} {adCid e : Cid} {skipEntries : Bool}
  {ad : Advertisement} {data : Bytes} {r : WriteResult}

/-- **A `Write` leaves the datastore unchanged or as a `deleteCids` run over its own delete
list**, which follows a chain `adCid, e, …`, and in which the `Delete`s `f` marks fail. -/
theorem write_deleteRun (had : loadAd cw.dstore adCid = .ok (ad, data))
    (hroot : entriesRoot ad skipEntries = some e)
    (hw : write f fuel cw adCid skipEntries = some (r, cw')) :
    cw'.dstore = cw.dstore ∨ ∃ dels s, Stutter (adCid :: e :: s) dels ∧
      DeleteReach cw.dstore dels ⟨cw'.dstore, 0, f.deleted adCid dels⟩ := by
  cases hh : (if f.head adCid then none else cw.fileStore.head adCid) with
  | some file =>
    split at hh
    · cases hh
    rw [write_fast had (by simpa using ‹¬f.head adCid = true›) hh, hroot] at hw
    obtain ⟨⟨r', dels⟩, hr, hw⟩ := Option.map_eq_some'.mp hw
    cases hw
    obtain ⟨s, hst⟩ := removeAdData_stutter hr
    exact .inr ⟨dels, s, hst, deleteReach_deleted _ _ f adCid⟩
  | none =>
    rw [write_slow had hh, hroot] at hw
    split_ifs at hw
    · cases hw; exact .inl rfl
    · cases hw; exact .inl rfl
    obtain ⟨⟨r', dels⟩, he, hw⟩ := Option.map_eq_some'.mp hw
    cases hw
    rcases writeEntries_stutter he with rfl | ⟨s, hst⟩
    · exact .inl rfl
    · exact .inr ⟨dels, s, hst, deleteReach_deleted _ _ f adCid⟩

/-- **After a `Write`, the chain's surviving blocks are a prefix of it and the blocks whose
`Delete` failed**, from a datastore holding a prefix of the chain. -/
theorem write_survivors (had : loadAd cw.dstore adCid = .ok (ad, data))
    (hroot : entriesRoot ad skipEntries = some e)
    (hw : write f fuel cw adCid skipEntries = some (r, cw')) :
    cw'.dstore = cw.dstore ∨ ∃ s, (adCid :: e :: s).Nodup → ∀ m,
      (∀ x ∈ adCid :: e :: s, cw.dstore.get x ≠ none ↔ x ∈ (adCid :: e :: s).take m) →
      ∃ j, ∀ x ∈ adCid :: e :: s, cw'.dstore.get x ≠ none ↔
        x ∈ (adCid :: e :: s).take j ∨ (f.delete adCid x = true ∧ cw.dstore.get x ≠ none) := by
  rcases write_deleteRun had hroot hw with h | ⟨dels, s, hst, hrun⟩
  · exact .inl h
  refine .inr ⟨s, fun hnd m hpre => ?_⟩
  obtain ⟨j, hj⟩ := survivors_of_stutter hnd hst hpre hrun
  exact ⟨j, fun x hx => (hj x hx).trans (by simp [(hst.mem_iff x).mpr hx])⟩

end Write

end StoreTheIndex
