import Backlog.Proofs.Freshen
import Backlog.Proofs.Outcome
import Backlog.Proofs.Referenced
import Backlog.Proofs.Shape
/-!
# Looking ids up

Ids of cached kinds are read in the caches, as these are, and ids of the
other kinds are fetched one by one. Seen from the outside both give one list
of outcomes (`Resolver.outcomes`), about the ids that were to be looked up,
each once, and about no others (`Resolver.pairsOf_outcomes`).
-/

namespace Backlog

/-- What the answer to fetching an entity is recorded as. -/
def Lookup.ofAnswer (id : Atom) : Except Fault Value → Lookup
  | .ok entity => if entity.isNull then .notFound id else .found entity
  | .error fault => .failure id fault.message

namespace Lookup

variable {id : Atom} {outcome : Except Fault Value}

theorem ofAnswer_eq_found_iff {v : Value} :
    ofAnswer id outcome = .found v ↔ outcome = .ok v ∧ v.isNull = false := by
  cases outcome with
  | error fault => simp [ofAnswer]
  | ok w =>
    rw [ofAnswer]
    cases hnull : w.isNull with
    | true =>
      constructor
      · intro h; cases h
      · rintro ⟨⟨⟩, hv⟩
        rw [hnull] at hv
        cases hv
    | false =>
      constructor
      · intro h
        cases h
        exact ⟨rfl, hnull⟩
      · rintro ⟨⟨⟩, -⟩
        rfl

theorem ofAnswer_eq_notFound_iff : ofAnswer id outcome = .notFound id ↔ outcome = .ok .null := by
  cases outcome with
  | error fault => simp [ofAnswer]
  | ok w =>
    rw [ofAnswer]
    cases hnull : w.isNull with
    | true => simp [Value.eq_null_of_isNull hnull]
    | false =>
      constructor
      · intro h; cases h
      · rintro ⟨⟩
        cases hnull

theorem ofAnswer_eq_failure_iff {text : String} :
    ofAnswer id outcome = .failure id text ↔
      ∃ fault, outcome = .error fault ∧ text = fault.message := by
  cases outcome with
  | error fault => simp [ofAnswer, eq_comm]
  | ok w =>
    rw [ofAnswer]
    split <;> simp

theorem ofAnswer_exhausts (id : Atom) (outcome : Except Fault Value) :
    (∃ v, ofAnswer id outcome = .found v) ∨ ofAnswer id outcome = .notFound id ∨
      ∃ text, ofAnswer id outcome = .failure id text := by
  cases outcome with
  | error fault => exact .inr (.inr ⟨_, rfl⟩)
  | ok w =>
    rw [ofAnswer]
    split
    · exact .inr (.inl rfl)
    · exact .inl ⟨w, rfl⟩

end Lookup

namespace Resolver

/-! ## Fetching -/

/-- Fetching never fails. -/
theorem fetch_apply (kind : Kind) (id : Atom) (remote : Remote) (s : Session) :
    ∃ log, fetch kind id remote s =
      (.ok (Lookup.ofAnswer id ((Ask.fetch kind id).answer remote s.client s.exchanges)),
        { s.asked remote (.fetch kind id) with log }) := by
  rw [fetch, Run.bind_apply, Run.attempt_apply, Api.getEntity_apply]
  cases (Ask.fetch kind id).answer remote s.client s.exchanges with
  | ok entity => exact ⟨s.log, rfl⟩
  | error fault => cases fault <;> exact ⟨_, rfl⟩

/-- What fetching ids one after the other gives. -/
def fetched (remote : Remote) (client : Client) (past : List Http.Exchange) :
    List (Kind × Atom) → List Outcome
  | [] => []
  | (kind, id) :: rest =>
    (kind, id, Lookup.ofAnswer id ((Ask.fetch kind id).answer remote client past)) ::
      fetched remote client (past ++ (Ask.fetch kind id).exchanges remote client past) rest

theorem pairsOf_fetched (remote : Remote) (client : Client) (past : List Http.Exchange)
    (pairs : List (Kind × Atom)) : pairsOf (fetched remote client past pairs) = pairs := by
  induction pairs generalizing past with
  | nil => rfl
  | cons pair rest ih =>
    rw [fetched, pairsOf, List.map_cons, ← pairsOf, ih]

/-- The asks that fetch some ids. -/
def fetches (pairs : List (Kind × Atom)) : List Ask := pairs.map fun pair => .fetch pair.1 pair.2

theorem mem_fetches {pairs : List (Kind × Atom)} {ask : Ask} :
    ask ∈ fetches pairs ↔ ∃ kind id, (kind, id) ∈ pairs ∧ ask = .fetch kind id := by
  rw [fetches, List.mem_map]
  constructor
  · rintro ⟨⟨kind, id⟩, hmem, rfl⟩
    exact ⟨kind, id, hmem, rfl⟩
  · rintro ⟨kind, id, hmem, rfl⟩
    exact ⟨(kind, id), hmem, rfl⟩

/-- The ids of a kind that are fetched. -/
theorem filterMap_fetchedId?_fetches (pairs : List (Kind × Atom)) (k : Kind) :
    (fetches pairs).filterMap (Ask.fetchedId? k) = idsAmong pairs k := by
  induction pairs with
  | nil => rfl
  | cons pair rest ih =>
    rw [fetches, List.map_cons, List.filterMap_cons, ← fetches, ih, idsAmong_cons, Ask.fetchedId?]
    cases pair.1 == k <;> rfl

/-- What fetching ids gives for one of them: what is recorded of it, after the
fetches of those before it. -/
theorem exists_of_mem_fetched {remote : Remote} {client : Client} {past : List Http.Exchange}
    {pairs : List (Kind × Atom)} {kind : Kind} {id : Atom} {lookup : Lookup}
    (h : (kind, id, lookup) ∈ fetched remote client past pairs) :
    ∃ first rest, pairs = first ++ (kind, id) :: rest ∧
      lookup = Lookup.ofAnswer id ((Ask.fetch kind id).answer remote client
        (Ask.run remote client past (fetches first))) := by
  induction pairs generalizing past with
  | nil => cases h
  | cons pair others ih =>
    obtain ⟨kind', id'⟩ := pair
    rcases List.mem_cons.1 h with heq | h
    · cases heq
      exact ⟨[], others, rfl, rfl⟩
    · obtain ⟨first, rest, rfl, rfl⟩ := ih h
      exact ⟨(kind', id') :: first, rest, rfl, rfl⟩

/-- The session after some ids have been fetched. -/
def afterFetches (remote : Remote) (pairs : List (Kind × Atom)) (s : Session) : Session :=
  { s with exchanges := Ask.run remote s.client s.exchanges (fetches pairs) }

/-- **Fetching ids** one after the other. -/
theorem fetchAll_apply (refs : Refs) (pairs : List (Kind × Atom)) (remote : Remote)
    (s : Session) :
    ∃ log, fetchAll refs pairs remote s =
      (.ok (refs.recordAll (fetched remote s.client s.exchanges pairs)),
        { afterFetches remote pairs s with log }) := by
  induction pairs generalizing refs s with
  | nil => exact ⟨s.log, rfl⟩
  | cons pair rest ih =>
    obtain ⟨kind, id⟩ := pair
    obtain ⟨log, hfetch⟩ := fetch_apply kind id remote s
    obtain ⟨log', hrest⟩ := ih
      (refs.record kind id
        (Lookup.ofAnswer id ((Ask.fetch kind id).answer remote s.client s.exchanges)))
      { s.asked remote (.fetch kind id) with log }
    refine ⟨log', ?_⟩
    rw [fetchAll, Run.bind_of_ok _ hfetch, hrest]
    rfl

/-! ## Reading caches -/

/-- What reading the caches of a session gives for some ids. -/
def cachedOutcomes (s : Session) (pairs : List (Kind × Atom)) : List Outcome :=
  pairs.map fun pair => (pair.1, pair.2, cachedLookup (s.cacheOf pair.1) pair.2)

theorem pairsOf_cachedOutcomes (s : Session) (pairs : List (Kind × Atom)) :
    pairsOf (cachedOutcomes s pairs) = pairs := by
  rw [pairsOf, cachedOutcomes, List.map_map]
  exact List.map_id pairs

/-- The ids of some kinds, kind by kind. -/
def pairsIn (ids : IdsByKind) (kinds : List Kind) : List (Kind × Atom) :=
  kinds.flatMap fun kind => (idsOf ids kind).map fun id => (kind, id)

theorem pairsIn_cons (ids : IdsByKind) (kind : Kind) (kinds : List Kind) :
    pairsIn ids (kind :: kinds) =
      (idsOf ids kind).map (fun id => (kind, id)) ++ pairsIn ids kinds := List.flatMap_cons

theorem pairsIn_append (ids : IdsByKind) (kinds others : List Kind) :
    pairsIn ids (kinds ++ others) = pairsIn ids kinds ++ pairsIn ids others :=
  List.flatMap_append

/-- The kind of an id among the ids of some kinds. -/
theorem kind_mem_of_mem_pairsIn {ids : IdsByKind} {kinds : List Kind} {pair : Kind × Atom}
    (h : pair ∈ pairsIn ids kinds) : pair.1 ∈ kinds := by
  obtain ⟨kind, hkind, hpair⟩ := List.mem_flatMap.1 h
  obtain ⟨id, -, rfl⟩ := List.mem_map.1 hpair
  exact hkind

/-- Reading one cache for ids that have not been looked up. -/
theorem foldl_addCached {refs : Refs} {kind : Kind} {ids : List Atom}
    (h : refs.NewTo (ids.map fun id => (kind, id))) (c : Cache) :
    ids.foldl (addCached kind c) refs =
      refs.recordAll (ids.map fun id => (kind, id, cachedLookup c id)) := by
  induction ids generalizing refs with
  | nil => rfl
  | cons id rest ih =>
    have hsplit : refs.NewTo ([(kind, id)] ++ rest.map fun id => (kind, id)) := h
    have hhead : refs.NewTo [(kind, id)] := hsplit.left
    have hnew : (refs.ofKind kind).contains id = false := by
      refine hhead.contains_eq_false ?_
      simp [idsAmong]
    have hstep : addCached kind c refs id = refs.recordAll [(kind, id, cachedLookup c id)] := by
      rw [addCached, hnew, if_neg Bool.false_ne_true]
      rfl
    have htail : (refs.recordAll [(kind, id, cachedLookup c id)]).NewTo
        (rest.map fun id => (kind, id)) := Refs.NewTo.right hsplit
    rw [List.foldl_cons, hstep, ih htail]
    rfl

/-- **Reading caches** for ids that have not been looked up. -/
theorem readCaches_apply {ids : IdsByKind} {kinds : List Kind}
    (hc : ∀ kind ∈ kinds, kind ∈ Kind.cached) {refs : Refs}
    (h : refs.NewTo (pairsIn ids kinds)) (remote : Remote) (s : Session) :
    readCaches ids refs kinds remote s =
      (.ok (refs.recordAll (cachedOutcomes s (pairsIn ids kinds))), s) := by
  induction kinds generalizing refs with
  | nil => rfl
  | cons kind rest ih =>
    rw [pairsIn_cons] at h ⊢
    have hone : cachedOutcomes s ((idsOf ids kind).map fun id => (kind, id)) =
        (idsOf ids kind).map fun id => (kind, id, cachedLookup (s.cacheOf kind) id) := by
      rw [cachedOutcomes, List.map_map]
      rfl
    have hpairs := pairsOf_cachedOutcomes s ((idsOf ids kind).map fun id => (kind, id))
    rw [← hpairs] at h
    have hrest := h.right
    rw [hone] at hrest
    rw [readCaches, Run.bind_of_ok _ (cache_apply (hc kind List.mem_cons_self) remote s),
      foldl_addCached (hpairs ▸ h.left),
      ih (fun j hj => hc j (List.mem_cons_of_mem _ hj)) hrest, ← Refs.recordAll_append, ← hone,
      cachedOutcomes, cachedOutcomes, cachedOutcomes, ← List.map_append]

/-! ## Both -/

/-- Kinds without ids have no part in it. -/
theorem pairsIn_cachedKindsOf (ids : IdsByKind) :
    pairsIn ids (cachedKindsOf ids) = pairsIn ids Kind.cached := by
  rw [cachedKindsOf]
  induction Kind.cached with
  | nil => rfl
  | cons kind rest ih =>
    rw [List.filter_cons, pairsIn_cons, ← ih]
    split
    · exact pairsIn_cons ids kind _
    · next hempty =>
      have hnone : idsOf ids kind = [] := by simpa using hempty
      rw [hnone]
      rfl

/-- Among the ids of distinct kinds, those of a kind are its own. -/
theorem idsAmong_pairsIn (ids : IdsByKind) {kinds : List Kind} (hd : Distinct kinds) (k : Kind) :
    idsAmong (pairsIn ids kinds) k = if kinds.contains k then idsOf ids k else [] := by
  induction kinds with
  | nil => rfl
  | cons kind rest ih =>
    obtain ⟨hne, hrest⟩ := Distinct.cons_iff.1 hd
    have hown : idsAmong ((idsOf ids kind).map fun id => (kind, id)) k =
        if kind == k then idsOf ids kind else [] := by
      rw [idsAmong, List.filter_map, List.map_map]
      cases hk : kind == k <;> simp [Function.comp_def, hk]
    rw [pairsIn_cons, idsAmong_append, hown, ih hrest, List.contains_cons,
      BEq.comm]
    by_cases hk : (k == kind) = true
    · -- none of the other kinds compares equal, so the rest adds nothing
      have hkind : (kind == k) = true := BEq.symm hk
      have hnot : rest.contains k = false := by
        refine Distinct.contains_eq_false_iff.2 fun j hj => ?_
        rw [BEq.congr_left hk]
        exact hne j hj
      rw [if_pos hk, hnot, hk, if_neg Bool.false_ne_true, List.append_nil, Bool.true_or, if_pos rfl,
        IdsByKind.idsOf_congr ids hkind]
    · rw [if_neg hk, List.nil_append, Bool.eq_false_iff.2 hk, Bool.false_or]

/-- The fetches to be made are all ids of the fetched kinds, when none of
them has been looked up. -/
theorem fetchJobs_eq {ids : IdsByKind} {refs : Refs} (h : refs.NewTo (pairsIn ids Kind.fetched)) :
    fetchJobs ids refs = pairsIn ids Kind.fetched := by
  have hd : Distinct Kind.fetched := by decide
  rw [fetchJobs, pairsIn]
  refine List.flatMap_congr fun kind hkind => ?_
  have hall : ((idsOf ids kind).filter fun id => !(refs.ofKind kind).contains id) =
      idsOf ids kind := by
    refine List.filter_eq_self.2 fun id hid => ?_
    have hno : (refs.ofKind kind).contains id = false := by
      refine h.contains_eq_false ?_
      rw [idsAmong_pairsIn ids hd, if_pos (Distinct.contains_of_mem hkind)]
      exact hid
    rw [hno]
    rfl
  rw [hall]

/-- What looking ids up gives, in the order in which it is recorded. -/
def outcomes (remote : Remote) (s : Session) (ids : IdsByKind) : List Outcome :=
  cachedOutcomes s (pairsIn ids Kind.cached) ++
    fetched remote s.client s.exchanges (pairsIn ids Kind.fetched)

/-- The outcomes are about the ids. -/
theorem pairsOf_outcomes (remote : Remote) (s : Session) (ids : IdsByKind) :
    pairsOf (outcomes remote s ids) = pairsIn ids (Kind.cached ++ Kind.fetched) := by
  rw [outcomes, pairsOf, List.map_append, ← pairsOf, ← pairsOf, pairsOf_cachedOutcomes,
    pairsOf_fetched, pairsIn_append]

/-- **Looking ids up** that were not looked up before records the outcomes,
fetches what is not cached, and leaves the caches alone. -/
theorem lookUp_apply {ids : IdsByKind} {refs : Refs}
    (h : refs.NewTo (pairsIn ids (Kind.cached ++ Kind.fetched))) (remote : Remote) (s : Session) :
    ∃ log, lookUp ids refs remote s =
      (.ok (refs.recordAll (outcomes remote s ids)),
        { afterFetches remote (pairsIn ids Kind.fetched) s with log }) := by
  rw [pairsIn_append] at h
  have hcached : refs.NewTo (pairsIn ids (cachedKindsOf ids)) := by
    rw [pairsIn_cachedKindsOf]
    exact h.left
  have hkinds : ∀ kind ∈ cachedKindsOf ids, kind ∈ Kind.cached :=
    fun kind hk => (List.mem_filter.1 hk).1
  rw [lookUp, Run.bind_of_ok _ (readCaches_apply hkinds hcached remote s), pairsIn_cachedKindsOf]
  -- what the caches gave does not make a fetch superfluous
  rw [← pairsOf_cachedOutcomes s (pairsIn ids Kind.cached)] at h
  rw [fetchJobs_eq h.right]
  obtain ⟨log, hfetch⟩ := fetchAll_apply
    (refs.recordAll (cachedOutcomes s (pairsIn ids Kind.cached))) (pairsIn ids Kind.fetched)
    remote s
  refine ⟨log, ?_⟩
  rw [hfetch, outcomes, Refs.recordAll_append]

end Resolver

end Backlog
