import StoreTheIndex.Finder.Handler
import Mathlib.Data.List.Nodup

/-!
# The providers of a find response

The inner loop of `MakeFindResponse` looks up each provider the first time one of its values
is seen (`providerSeen`) and appends the registry's address info when there is a record. So the
`seen` list is the list of provider IDs of the results with duplicates removed, first occurrence
first (`List.eraseDups`), and `Providers` is that list's registry records.

The registry stores each record under the ID of its address info (the finder tests check
`AddrInfo.ID` against the ID asked for); `RegistryState` carries that as a field, and with it
no two providers of a response share a peer ID.

* `RegistryState`, `providerIds`;
* `eraseDups_loop_append`, `eraseDups_nodup`: the library's dedup, run in two parts, and that it
  has no duplicates;
* `addProviders_seen`: the inner loop is the dedup loop, with the registry looked up on what it
  keeps;
* `ProvidersOk`, `findLoop_providersOk`: the outer loop's invariant, and that it holds of the
  state the loop ends in;
* **`findProviders_distinct`**: the providers of every response are the registry records of the
  distinct provider IDs of its results, in order of first occurrence, with no peer ID twice.
-/

namespace StoreTheIndex

/-- A registry state: its `ProviderInfo` lookup, where every record is stored under the ID of
its own address info. -/
structure RegistryState where
  lookup : Registry
  keyed : ∀ p a, lookup p = some a → a.id = p

/-- The provider IDs of the values of the results, in order. -/
def providerIds (results : List MultihashResult) : List PeerId :=
  (results.flatMap MultihashResult.values).map Value.providerID

@[simp] theorem providerIds_append (rs rs' : List MultihashResult) :
    providerIds (rs ++ rs') = providerIds rs ++ providerIds rs' := by
  simp [providerIds]

/-! ## First occurrences -/

section EraseDups

variable {α : Type} [BEq α] [LawfulBEq α]

/-- The dedup loop over a concatenation is the loop over the second part, started from what the
first part kept. -/
theorem eraseDups_loop_append (l₁ l₂ bs : List α) :
    List.eraseDups.loop (l₁ ++ l₂) bs =
      List.eraseDups.loop l₂ (List.eraseDups.loop l₁ bs).reverse := by
  induction l₁ generalizing bs with
  | nil => simp [List.eraseDups.loop]
  | cons a l ih => by_cases h : a ∈ bs <;> simp [List.eraseDups.loop, h, ih]

theorem eraseDups_loop_nodup (l : List α) {bs : List α} (h : bs.Nodup) :
    (List.eraseDups.loop l bs).Nodup := by
  induction l generalizing bs with
  | nil => simpa [List.eraseDups.loop, List.nodup_reverse] using h
  | cons a l ih =>
    by_cases ha : a ∈ bs
    · simpa [List.eraseDups.loop, ha] using ih h
    · simpa [List.eraseDups.loop, ha] using ih (List.nodup_cons.mpr ⟨ha, h⟩)

/-- The library's dedup keeps one copy of each element. -/
theorem eraseDups_nodup (l : List α) : l.eraseDups.Nodup :=
  eraseDups_loop_nodup l List.nodup_nil

end EraseDups

/-! ## The inner loop -/

/-- With the providers found so far being the registry records of the IDs seen, the inner loop
runs the dedup loop on the values' provider IDs and keeps that relation. -/
theorem addProviders_seen (registry : Registry) (vs : List Value) (seen : List PeerId) :
    addProviders registry vs (seen.filterMap registry, seen) =
      ((List.eraseDups.loop (vs.map Value.providerID) seen.reverse).filterMap registry,
        List.eraseDups.loop (vs.map Value.providerID) seen.reverse) := by
  induction vs generalizing seen with
  | nil => simp [addProviders, List.eraseDups.loop]
  | cons v vs ih =>
    by_cases hv : v.providerID ∈ seen
    · simp [addProviders, List.eraseDups.loop, hv, ih]
    · have hloop := ih (seen ++ [v.providerID])
      simp only [List.reverse_append, List.reverse_singleton, List.singleton_append] at hloop
      cases hr : registry v.providerID <;>
        simp [addProviders, List.eraseDups.loop, hv, hr, ← hloop, List.filterMap_append]

/-! ## The outer loop -/

/-- The invariant of the outer loop: the IDs seen are the distinct provider IDs of the results,
first occurrence first, and the providers are their registry records. -/
def ProvidersOk (registry : Registry) (st : FindState) : Prop :=
  st.seen = (providerIds st.results).eraseDups ∧ st.providers = st.seen.filterMap registry

/-- One found multihash keeps the invariant. -/
theorem ProvidersOk.add {registry : Registry} {st : FindState} (h : ProvidersOk registry st)
    (mh : Multihash) (values : List Value) :
    ProvidersOk registry ⟨st.results ++ [⟨mh, values⟩],
      (addProviders registry values (st.providers, st.seen)).1,
      (addProviders registry values (st.providers, st.seen)).2⟩ := by
  obtain ⟨hs, hp⟩ := h
  rw [hp, addProviders_seen]
  refine ⟨?_, rfl⟩
  simp only [providerIds_append, hs, List.eraseDups, eraseDups_loop_append]
  simp [providerIds]

/-- **The invariant holds of the state the outer loop ends in.** -/
theorem findLoop_providersOk (indexer : Indexer) (registry : Registry) :
    ∀ (mhashes : List Multihash) (st st' : FindState), ProvidersOk registry st →
      findLoop indexer registry mhashes st = .ok st' → ProvidersOk registry st'
  | [], st, st', h, hl => by cases hl; exact h
  | mh :: rest, st, st', h, hl => by
    simp only [findLoop] at hl
    split at hl
    · cases hl
    · exact findLoop_providersOk indexer registry rest st st' h hl
    · exact findLoop_providersOk indexer registry rest _ st' (h.add mh _) hl

/-- With records keyed by their own ID, the IDs of the records of a list come from it, in order. -/
theorem filterMap_lookup_ids (reg : RegistryState) (l : List PeerId) :
    ((l.filterMap reg.lookup).map AddrInfo.id).Sublist l := by
  induction l with
  | nil => simp
  | cons p l ih =>
    cases h : reg.lookup p with
    | none => simpa [List.filterMap_cons, h] using ih.cons p
    | some a => simpa [List.filterMap_cons, h, reg.keyed p a h] using ih.cons₂ p

/-- **The providers of a response** are the registry records of the distinct providers of its
values, in order of first occurrence, no two with the same peer ID. -/
theorem findProviders_distinct (indexer : Indexer) (reg : RegistryState)
    (mhashes : List Multihash) {resp : FindResponse}
    (h : makeFindResponse indexer reg.lookup mhashes = .ok resp) :
    (resp.providers.map AddrInfo.id).Nodup ∧
      resp.providers = (providerIds resp.multihashResults).eraseDups.filterMap reg.lookup := by
  unfold makeFindResponse at h
  cases hl : findLoop indexer reg.lookup mhashes ⟨[], [], []⟩ with
  | error e => rw [hl] at h; cases h
  | ok st =>
    rw [hl] at h
    cases h
    dsimp only
    obtain ⟨hs, hp⟩ := findLoop_providersOk indexer reg.lookup mhashes _ st ⟨rfl, rfl⟩ hl
    have hprov : st.providers = (providerIds st.results).eraseDups.filterMap reg.lookup := by
      rw [hp, hs]
    refine ⟨?_, hprov⟩
    rw [hprov]
    exact (filterMap_lookup_ids reg _).nodup (eraseDups_nodup _)

/-- A registry with records for `p` and `q`. -/
def pqRegistry : RegistryState where
  lookup p := if p = "p" ∨ p = "q" then some ⟨p, ["/ip4/127.0.0.1/tcp/3003"]⟩ else none
  keyed p a h := by
    by_cases hp : p = "p" ∨ p = "q"
    · simp only [hp, if_true, Option.some.injEq] at h
      exact h ▸ rfl
    · simp [hp] at h

/-- An index where `mh0` holds values of `p` and `q`, and `mh1` values of `q`, `r` and `p`. -/
def pqrIndexer : Indexer := fun mh =>
  if mh = "mh0" then .ok (some [⟨"p", [0], []⟩, ⟨"q", [0], []⟩])
  else if mh = "mh1" then .ok (some [⟨"q", [1], []⟩, ⟨"r", [1], []⟩, ⟨"p", [1], []⟩])
  else .ok none

/-- The response to `mh0`, `mh1`, `mh2`: `p` and `q` once each, and `r`, with no record, not at
all. -/
theorem pqrIndexer_providers :
    makeFindResponse pqrIndexer pqRegistry.lookup ["mh0", "mh1", "mh2"] =
        .ok ⟨[⟨"mh0", [⟨"p", [0], []⟩, ⟨"q", [0], []⟩]⟩,
          ⟨"mh1", [⟨"q", [1], []⟩, ⟨"r", [1], []⟩, ⟨"p", [1], []⟩]⟩],
          [⟨"p", ["/ip4/127.0.0.1/tcp/3003"]⟩, ⟨"q", ["/ip4/127.0.0.1/tcp/3003"]⟩]⟩ ∧
      ([⟨"p", ["/ip4/127.0.0.1/tcp/3003"]⟩, ⟨"q", ["/ip4/127.0.0.1/tcp/3003"]⟩].map
        AddrInfo.id).Nodup ∧
      [⟨"p", ["/ip4/127.0.0.1/tcp/3003"]⟩, ⟨"q", ["/ip4/127.0.0.1/tcp/3003"]⟩] =
        (providerIds [⟨"mh0", [⟨"p", [0], []⟩, ⟨"q", [0], []⟩]⟩,
          ⟨"mh1", [⟨"q", [1], []⟩, ⟨"r", [1], []⟩, ⟨"p", [1], []⟩]⟩]).eraseDups.filterMap
            pqRegistry.lookup :=
  ⟨rfl, findProviders_distinct pqrIndexer pqRegistry ["mh0", "mh1", "mh2"] rfl⟩

end StoreTheIndex
