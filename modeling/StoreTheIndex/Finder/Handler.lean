import StoreTheIndex.Peer

/-!
# The find handler

`FinderHandler.MakeFindResponse` (`internal/handler/finder_handler.go`) looks up each requested
multihash in the indexer core. A multihash that is found goes into the response's
`MultihashResults` with all its values; the provider of each value, the first time it is seen,
is looked up in the registry, and its address info goes into `Providers` when the registry has a
record for it. The first failing lookup ends the request with a 500 error.

The indexer core and the registry are outside this repository; their lookups are inputs.

* `Indexer`, `Registry`, `MultihashResult`, `FindResponse`, `SysErr`;
* `addProviders`, `findLoop`, `makeFindResponse`: the two loops and the handler;
* `foundResults`: what the results are, without the registry;
* `makeFindResponse_results`: the handler's results are `foundResults`;
* **`findResults_ignore_registry`**: they are the same for every registry;
* `foundResult`, `foundResults_outcome`, **`makeFindResponse_outcome`**: a request succeeds
  exactly when every lookup does, with the found multihashes in request order; otherwise the
  error names the first multihash whose lookup failed.
-/

namespace StoreTheIndex

/-- A multihash, in its string form. -/
abbrev Multihash := String

/-- The indexer core's `Get`: the values of a multihash, `none` when it is not found, or the
error of the lookup. -/
abbrev Indexer := Multihash → Except String (Option (List Value))

/-- The registry's `ProviderInfo`, reduced to the address info the handler reads. -/
abbrev Registry := PeerId → Option AddrInfo

/-- `model.MultihashResult`. -/
structure MultihashResult where
  multihash : Multihash
  values : List Value
  deriving DecidableEq, Repr

/-- `model.FindResponse`. -/
structure FindResponse where
  multihashResults : List MultihashResult
  providers : List AddrInfo
  deriving DecidableEq, Repr

/-- `syserr.SysErr`: an error with an HTTP status. -/
structure SysErr where
  err : String
  status : Nat
  deriving DecidableEq, Repr

/-- The error of a failed lookup. -/
def queryError (mh : Multihash) (e : String) : SysErr :=
  ⟨"failed to query \"" ++ mh ++ "\": " ++ e, 500⟩

/-- The variables of the handler's loop: `results`, `providerResults` and the keys of
`providerSeen`. -/
structure FindState where
  results : List MultihashResult
  providers : List AddrInfo
  seen : List PeerId
  deriving DecidableEq, Repr

/-- The inner loop, over the values of a found multihash: each provider not seen before is
marked seen and looked up in the registry. -/
def addProviders (registry : Registry) : List Value → List AddrInfo × List PeerId →
    List AddrInfo × List PeerId
  | [], acc => acc
  | v :: vs, (provs, seen) =>
    if v.providerID ∈ seen then addProviders registry vs (provs, seen)
    else
      match registry v.providerID with
      | none => addProviders registry vs (provs, seen ++ [v.providerID])
      | some pinfo => addProviders registry vs (provs ++ [pinfo], seen ++ [v.providerID])

/-- The outer loop, over the requested multihashes. -/
def findLoop (indexer : Indexer) (registry : Registry) :
    List Multihash → FindState → Except SysErr FindState
  | [], st => .ok st
  | mh :: rest, st =>
    match indexer mh with
    | .error e => .error (queryError mh e)
    | .ok none => findLoop indexer registry rest st
    | .ok (some values) =>
      let (provs, seen) := addProviders registry values (st.providers, st.seen)
      findLoop indexer registry rest ⟨st.results ++ [⟨mh, values⟩], provs, seen⟩

/-- `MakeFindResponse(mhashes)`. -/
def makeFindResponse (indexer : Indexer) (registry : Registry) (mhashes : List Multihash) :
    Except SysErr FindResponse :=
  (findLoop indexer registry mhashes ⟨[], [], []⟩).map fun st => ⟨st.results, st.providers⟩

/-! ## The results -/

/-- The results of a request: every requested multihash the index finds, with all its values,
in request order, or the error of the first failing lookup. -/
def foundResults (indexer : Indexer) : List Multihash → Except SysErr (List MultihashResult)
  | [] => .ok []
  | mh :: rest =>
    match indexer mh with
    | .error e => .error (queryError mh e)
    | .ok none => foundResults indexer rest
    | .ok (some values) => (foundResults indexer rest).map (⟨mh, values⟩ :: ·)

/-- The outer loop appends `foundResults` to the results it starts with. -/
theorem findLoop_results (indexer : Indexer) (registry : Registry) (mhashes : List Multihash) :
    ∀ st : FindState, (findLoop indexer registry mhashes st).map FindState.results =
      (foundResults indexer mhashes).map (st.results ++ ·) := by
  induction mhashes with
  | nil => intro st; simp [findLoop, foundResults, Except.map]
  | cons mh rest ih =>
    intro st
    simp only [findLoop, foundResults]
    cases indexer mh with
    | error e => rfl
    | ok r =>
      cases r with
      | none => exact ih st
      | some values =>
        rw [ih]
        cases foundResults indexer rest <;> simp [Except.map]

/-- The handler's results are `foundResults`. -/
theorem makeFindResponse_results (indexer : Indexer) (registry : Registry)
    (mhashes : List Multihash) :
    (makeFindResponse indexer registry mhashes).map FindResponse.multihashResults =
      foundResults indexer mhashes := by
  have h := findLoop_results indexer registry mhashes ⟨[], [], []⟩
  rw [makeFindResponse]
  revert h
  cases findLoop indexer registry mhashes ⟨[], [], []⟩ <;> cases foundResults indexer mhashes <;>
    simp [Except.map]

/-- **The results do not depend on the registry**: a value whose provider has no record, or was
removed, is returned like any other. -/
theorem findResults_ignore_registry (indexer : Indexer) (registry registry' : Registry)
    (mhashes : List Multihash) :
    (makeFindResponse indexer registry mhashes).map FindResponse.multihashResults =
      (makeFindResponse indexer registry' mhashes).map FindResponse.multihashResults := by
  rw [makeFindResponse_results, makeFindResponse_results]

/-- A value of provider `p`. -/
def valueOfP : Value := ⟨"p", [1], []⟩

/-- An index holding `valueOfP` under `mh0`. -/
def indexOfP : Indexer := fun mh => .ok (if mh = "mh0" then some [valueOfP] else none)

/-- A registry with no record for `p` returns `valueOfP` as one with `p` registered does. -/
theorem unregistered_value_returned :
    makeFindResponse indexOfP (fun _ => none) ["mh0"] = .ok ⟨[⟨"mh0", [valueOfP]⟩], []⟩ ∧
      (makeFindResponse indexOfP (fun _ => none) ["mh0"]).map FindResponse.multihashResults =
        (makeFindResponse indexOfP (fun id => some ⟨id, []⟩) ["mh0"]).map
          FindResponse.multihashResults :=
  ⟨rfl, findResults_ignore_registry indexOfP _ _ ["mh0"]⟩

/-! ## Success and failure -/

/-- What one lookup adds to the results: the multihash with all its values, when found. -/
def foundResult (indexer : Indexer) (mh : Multihash) : Option MultihashResult :=
  match indexer mh with
  | .ok (some values) => some ⟨mh, values⟩
  | _ => none

/-- `foundResults` succeeds exactly when every lookup does, with the found multihashes in request
order, and otherwise fails with the error of the first failing lookup. -/
theorem foundResults_outcome (indexer : Indexer) :
    ∀ mhashes : List Multihash,
      ((∀ mh ∈ mhashes, ∃ r, indexer mh = .ok r) ∧
        foundResults indexer mhashes = .ok (mhashes.filterMap (foundResult indexer))) ∨
      ∃ pre mh rest e, mhashes = pre ++ mh :: rest ∧ (∀ m ∈ pre, ∃ r, indexer m = .ok r) ∧
        indexer mh = .error e ∧ foundResults indexer mhashes = .error (queryError mh e)
  | [] => .inl ⟨by simp, rfl⟩
  | mh :: rest => by
    cases hmh : indexer mh with
    | error e => exact .inr ⟨[], mh, rest, e, rfl, by simp, hmh, by simp [foundResults, hmh]⟩
    | ok r =>
      rcases foundResults_outcome indexer rest with ⟨hok, hres⟩ | ⟨pre, m, rest', e, rfl, hpre, he, hres⟩
      · refine .inl ⟨List.forall_mem_cons.mpr ⟨⟨r, hmh⟩, hok⟩, ?_⟩
        cases r <;> simp [foundResults, foundResult, hmh, hres, Except.map]
      · refine .inr ⟨mh :: pre, m, rest', e, rfl, List.forall_mem_cons.mpr ⟨⟨r, hmh⟩, hpre⟩, he, ?_⟩
        cases r <;> simp [foundResults, hmh, hres, Except.map]

/-- **A find request succeeds exactly when every lookup does**, with the found multihashes in
request order; otherwise the error names the first failing lookup. -/
theorem makeFindResponse_outcome (indexer : Indexer) (registry : Registry)
    (mhashes : List Multihash) :
    (∃ resp, makeFindResponse indexer registry mhashes = .ok resp ∧
      (∀ mh ∈ mhashes, ∃ r, indexer mh = .ok r) ∧
      resp.multihashResults = mhashes.filterMap (foundResult indexer)) ∨
    ∃ pre mh rest e, mhashes = pre ++ mh :: rest ∧ (∀ m ∈ pre, ∃ r, indexer m = .ok r) ∧
      indexer mh = .error e ∧ makeFindResponse indexer registry mhashes = .error (queryError mh e) := by
  have h := makeFindResponse_results indexer registry mhashes
  rcases foundResults_outcome indexer mhashes with ⟨hok, hres⟩ | ⟨pre, mh, rest, e, hm, hpre, he, hres⟩ <;>
    rw [hres] at h <;> cases hr : makeFindResponse indexer registry mhashes <;> rw [hr] at h
  · cases h
  · exact .inl ⟨_, rfl, hok, by simpa [Except.map] using h⟩
  · cases h
    exact .inr ⟨pre, mh, rest, e, hm, hpre, he, rfl⟩
  · cases h

end StoreTheIndex
