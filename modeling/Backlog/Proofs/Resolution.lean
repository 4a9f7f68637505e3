import Backlog.Proofs.Round
import Mathlib.Data.List.Nodup
/-!
# Resolving references

Resolving takes the given ids in a first round and what the epics and teams
found refer to in a second one. A run of it that ends in references is
described by `Resolver.Resolved`: which ids the second round takes, and which
outcomes and which session come of the two. A run that has nothing to do in a
second round goes through one without ids. From the description it is read
which ids are recorded (`Resolved.keys_ofKind`), that what is recorded of
cached kinds stands in the caches at the end
(`Resolved.lookup_eq_cachedLookup`), what became of each cache
(`Resolved.served`), and what was asked (`Resolved.exchanges_eq`).
-/

namespace Backlog

namespace Resolver

/-- What is recorded after the first round. -/
def firstRefs (remote : Remote) (ids : IdsByKind) (s : Session) : Refs :=
  Refs.recordAll {} (outcomesOfRound remote ids [] s)

/-- The kinds whose caches the first round sees to. -/
def early (ids : IdsByKind) : List Kind := unchecked ids []

/-- The kinds whose caches only the second round sees to. -/
def late (ids further : IdsByKind) : List Kind := unchecked further (early ids)

/-- **What resolving ids did**, but for the log. `further` are the ids of the
second round. -/
structure Resolved (remote : Remote) (s : Session) (ids further : IdsByKind) (refs : Refs)
    (t : Session) : Prop where
  /-- The ids can be taken on. -/
  due : Due {} ids
  /-- The second round takes what the first leaves unresolved. -/
  unresolved : IdsByKind.unresolved (firstRefs remote ids s) = .ok further
  /-- It was found out which caches are stale. -/
  isStale : ∀ kind ∈ early ids ++ late ids further, s.isStale kind = .ok (s.knownStale kind)
  /-- The outcomes of the second round stand behind those of the first. -/
  refs_eq : refs = (firstRefs remote ids s).recordAll
    (outcomesOfRound remote further (early ids) (afterRound remote ids [] s))
  /-- The session is the one after both rounds. -/
  session : ∃ log, t =
    { afterRound remote further (early ids) (afterRound remote ids [] s) with log }

section

variable {remote : Remote} {s t : Session} {ids further : IdsByKind} {refs : Refs}

/-! ## What a round leaves -/

theorem client_afterRound (remote : Remote) (ids : IdsByKind) (checked : List Kind) (s : Session) :
    (afterRound remote ids checked s).client = s.client :=
  Session.client_freshened remote _ s

theorem clock_afterRound (ids : IdsByKind) (checked : List Kind) (s : Session) :
    (afterRound remote ids checked s).clock = s.clock :=
  Session.clock_freshened remote _ s

theorem cacheOf_afterRound_of_not_mem {checked : List Kind} {k : Kind}
    (h : k ∉ unchecked ids checked) (s : Session) :
    (afterRound remote ids checked s).cacheOf k = s.cacheOf k :=
  Session.cacheOf_freshened_of_not_mem h remote s

theorem isStale_afterRound_of_not_mem (remote : Remote) {checked : List Kind} {k : Kind}
    (h : k ∉ unchecked ids checked) (s : Session) :
    (afterRound remote ids checked s).isStale k = s.isStale k :=
  Session.isStale_congr (cacheOf_afterRound_of_not_mem h s) (clock_afterRound ids checked s)

theorem knownStale_afterRound_of_not_mem (remote : Remote) {checked : List Kind} {k : Kind}
    (h : k ∉ unchecked ids checked) (s : Session) :
    (afterRound remote ids checked s).knownStale k = s.knownStale k := by
  rw [Session.knownStale, isStale_afterRound_of_not_mem remote h, Session.knownStale]

/-- What a round asks: the lists of the stale kinds among those that it sees
to, and then the entities of the fetched kinds. -/
def asksOfRound (s : Session) (ids : IdsByKind) (checked : List Kind) : List Ask :=
  ((unchecked ids checked).filter s.knownStale).map .list ++ fetches (pairsIn ids Kind.fetched)

/-- A round asks for the list of a kind if its cache is stale. -/
theorem list_mem_asksOfRound {checked : List Kind} {k : Kind} :
    .list k ∈ asksOfRound s ids checked ↔
      k ∈ unchecked ids checked ∧ s.knownStale k = true := by
  rw [asksOfRound, List.mem_append, ← List.mem_filter]
  constructor
  · rintro (hlist | hfetch)
    · obtain ⟨kind, hmem, heq⟩ := List.mem_map.1 hlist
      cases heq
      exact hmem
    · obtain ⟨kind, id, -, heq⟩ := mem_fetches.1 hfetch
      cases heq
  · intro hmem
    exact .inl (List.mem_map_of_mem hmem)

theorem count_list_asksOfRound (s : Session) (ids : IdsByKind) (checked : List Kind) (k : Kind) :
    (asksOfRound s ids checked).count (.list k) =
      (((unchecked ids checked).filter s.knownStale).map Ask.list).count (.list k) := by
  have hnone : (fetches (pairsIn ids Kind.fetched)).count (.list k) = 0 := by
    refine List.count_eq_zero.2 fun hfetch => ?_
    obtain ⟨kind, id, -, heq⟩ := mem_fetches.1 hfetch
    cases heq
  rw [asksOfRound, List.count_append, hnone, Nat.add_zero]

/-- A round fetches its ids of the fetched kinds, each once. -/
theorem fetchedIds_asksOfRound (s : Session) (ids : IdsByKind) (checked : List Kind) {k : Kind}
    (hk : k ∈ Kind.fetched) :
    (asksOfRound s ids checked).filterMap (Ask.fetchedId? k) = idsOf ids k := by
  have hlists : (((unchecked ids checked).filter s.knownStale).map Ask.list).filterMap
      (Ask.fetchedId? k) = [] := by
    refine List.filterMap_eq_nil_iff.2 fun ask hask => ?_
    obtain ⟨kind, -, rfl⟩ := List.mem_map.1 hask
    rfl
  rw [asksOfRound, List.filterMap_append, hlists, List.nil_append, filterMap_fetchedId?_fetches,
    idsAmong_pairsIn ids (by decide), if_pos (Distinct.contains_of_mem hk)]

/-- A round asks for lists of cached kinds and entities of fetched ones. -/
theorem of_mem_asksOfRound {checked : List Kind} {ask : Ask} (h : ask ∈ asksOfRound s ids checked) :
    (∃ k ∈ Kind.cached, ask = .list k) ∨ ∃ k ∈ Kind.fetched, ∃ id, ask = .fetch k id := by
  rcases List.mem_append.1 h with hlist | hfetch
  · obtain ⟨kind, hmem, rfl⟩ := List.mem_map.1 hlist
    exact .inl ⟨kind, mem_cached_of_mem_unchecked (List.mem_filter.1 hmem).1, rfl⟩
  · obtain ⟨kind, id, hpair, rfl⟩ := mem_fetches.1 hfetch
    obtain ⟨kind', hkind, hid⟩ := List.mem_flatMap.1 hpair
    obtain ⟨id', -, heq⟩ := List.mem_map.1 hid
    cases heq
    exact .inr ⟨kind, hkind, id, rfl⟩

theorem exchanges_afterRound (ids : IdsByKind) (checked : List Kind) (s : Session) :
    (afterRound remote ids checked s).exchanges =
      Ask.run remote s.client s.exchanges (asksOfRound s ids checked) := by
  rw [asksOfRound, Ask.run_append, ← Session.exchanges_freshened (nodup_unchecked ids checked),
    ← Session.client_freshened remote (unchecked ids checked) s]
  rfl

theorem prefix_exchanges_afterRound (ids : IdsByKind) (checked : List Kind) (s : Session) :
    s.exchanges <+: (afterRound remote ids checked s).exchanges := by
  rw [exchanges_afterRound]
  exact Ask.prefix_run _

/-- What is logged has no part in it. -/
theorem afterRound_log (ids : IdsByKind) (checked : List Kind) (s : Session) (log : List LogLine) :
    afterRound remote ids checked { s with log } =
      { afterRound remote ids checked s with log } := by
  rw [afterRound, Session.freshened_log]
  rfl

theorem outcomesOfRound_log (ids : IdsByKind) (checked : List Kind) (s : Session)
    (log : List LogLine) :
    outcomesOfRound remote ids checked { s with log } = outcomesOfRound remote ids checked s := by
  rw [outcomesOfRound, Session.freshened_log]
  rfl

/-! ## A run in two rounds -/

theorem mem_early_iff {k : Kind} (hk : k ∈ Kind.cached) : k ∈ early ids ↔ idsOf ids k ≠ [] := by
  rw [early, unchecked, List.mem_filter, mem_cachedKindsOf]
  simp [hk]

theorem not_mem_late_of_mem_early {k : Kind} (h : k ∈ early ids) : k ∉ late ids further := by
  intro hlate
  have hnot := (List.mem_filter.1 hlate).2
  rw [Distinct.contains_of_mem h] at hnot
  cases hnot

theorem not_mem_early_of_mem_late {k : Kind} (h : k ∈ late ids further) : k ∉ early ids :=
  fun hearly => not_mem_late_of_mem_early hearly h

/-- The caches that are seen to are those of the kinds that have ids. -/
theorem mem_checked_iff {k : Kind} (hk : k ∈ Kind.cached) :
    k ∈ early ids ++ late ids further ↔ idsOf ids k ≠ [] ∨ idsOf further k ≠ [] := by
  rw [List.mem_append, mem_early_iff hk]
  constructor
  · rintro (hids | hlate)
    · exact .inl hids
    · exact .inr (mem_cachedKindsOf.1 (List.mem_filter.1 hlate).1).2
  · intro h
    by_cases hids : idsOf ids k = []
    · refine .inr (List.mem_filter.2 ⟨mem_cachedKindsOf.2 ⟨hk, h.resolve_left (· hids)⟩, ?_⟩)
      -- a kind without ids in the first round has not been seen to
      cases hc : (early ids).contains k with
      | false => rfl
      | true =>
        have hearly := mem_of_contains (fun _ hj => mem_cached_of_mem_unchecked hj) hk hc
        exact absurd hids ((mem_early_iff hk).1 hearly)
    · exact .inl hids

/-- What both rounds ask. -/
def asks (s : Session) (ids further : IdsByKind) : List Ask :=
  asksOfRound s ids [] ++ asksOfRound s further (early ids)

/-- What the second round asks does not depend on what the first has left. -/
theorem asksOfRound_afterRound (remote : Remote) (s : Session) (ids further : IdsByKind) :
    asksOfRound (afterRound remote ids [] s) further (early ids) =
      asksOfRound s further (early ids) := by
  have hstale : (late ids further).filter (afterRound remote ids [] s).knownStale =
      (late ids further).filter s.knownStale := by
    refine List.filter_congr fun k hk => ?_
    exact knownStale_afterRound_of_not_mem remote (not_mem_early_of_mem_late hk) s
  rw [asksOfRound, asksOfRound, ← late, hstale]

/-- **The list of a kind is asked for** if its cache is stale and there are ids
of the kind in one of the rounds. -/
theorem list_mem_asks_iff {k : Kind} (hk : k ∈ Kind.cached) :
    .list k ∈ asks s ids further ↔
      s.isStale k = .ok true ∧ (idsOf ids k ≠ [] ∨ idsOf further k ≠ []) := by
  rw [asks, List.mem_append, list_mem_asksOfRound, list_mem_asksOfRound, ← or_and_right,
    Session.knownStale_iff, and_comm, ← mem_checked_iff hk, List.mem_append]
  exact Iff.rfl

/-- **No list is asked for twice.** -/
theorem count_list_asks_le_one (s : Session) (ids further : IdsByKind) (k : Kind) :
    (asks s ids further).count (.list k) ≤ 1 := by
  have hcheck : (early ids ++ late ids further).Nodup := by
    refine List.nodup_append.2 ⟨nodup_unchecked ids [], nodup_unchecked further _, ?_⟩
    rintro a ha b hb rfl
    exact not_mem_late_of_mem_early ha hb
  have hlists : (((early ids ++ late ids further).filter s.knownStale).map Ask.list).Nodup :=
    List.Nodup.map (fun _ _ hab => Ask.list.inj hab) (hcheck.filter _)
  rw [asks, List.count_append, count_list_asksOfRound, count_list_asksOfRound, ← List.count_append,
    ← List.map_append, ← List.filter_append]
  exact List.nodup_iff_count_le_one.1 hlists _

/-- The ids of the first round are recorded, each once. -/
theorem keys_ofKind_firstRefs (hdue : Due {} ids) (remote : Remote) (s : Session) (k : Kind) :
    ((firstRefs remote ids s).ofKind k).keys = idsOf ids k :=
  keys_ofKind_round hdue remote [] s k

theorem distinct_keys_firstRefs (hdue : Due {} ids) (k : Kind) :
    Distinct ((firstRefs remote ids s).ofKind k).keys := by
  rw [keys_ofKind_firstRefs hdue]
  exact hdue.distinct k

/-- **Resolving ids that ends in references** goes through two rounds, the
second of which may be without ids. -/
theorem resolveRefs_eq_ok (hdue : Due {} ids) (h : resolveRefs ids remote s = (.ok refs, t)) :
    ∃ further, Resolved remote s ids further refs t := by
  obtain ⟨⟨first, checked⟩, m, hround, h⟩ := Run.bind_eq_ok.1 h
  obtain ⟨rfl, hstale, rfl, log, rfl⟩ := round_eq_ok hdue hround
  obtain ⟨further, hfurther, h⟩ := Run.lift_bind_eq_ok.1 h
  refine ⟨further, ?_⟩
  have hdue' := due_unresolved (distinct_keys_firstRefs hdue) hfurther
  split at h
  · next hempty =>
    cases List.isEmpty_iff.1 hempty
    cases h
    refine ⟨hdue, hfurther, fun kind hk => ?_, rfl, log, rfl⟩
    rcases List.mem_append.1 hk with hk | hk
    · exact hstale kind hk
    · cases hk
  · obtain ⟨⟨refs', checked'⟩, n, hround', h⟩ := Run.bind_eq_ok.1 h
    cases h
    obtain ⟨-, hstale', rfl, log', rfl⟩ := round_eq_ok hdue' hround'
    rw [List.nil_append] at hstale' ⊢
    refine ⟨hdue, hfurther, fun kind hk => ?_, ?_, log', ?_⟩
    · rcases List.mem_append.1 hk with hk | hk
      · exact hstale kind hk
      · have hnot := not_mem_early_of_mem_late hk
        rw [← isStale_afterRound_of_not_mem remote hnot s,
          ← knownStale_afterRound_of_not_mem remote hnot s]
        exact hstale' kind hk
    · rw [outcomesOfRound_log]
      rfl
    · rw [afterRound_log]
      rfl

namespace Resolved

/-- The ids of the second round can be taken on. -/
theorem due_further (h : Resolved remote s ids further refs t) :
    Due (firstRefs remote ids s) further :=
  due_unresolved (distinct_keys_firstRefs h.due) h.unresolved

/-! ## Which ids are recorded -/

/-- **What is recorded** are the outcomes of both rounds, those of the first
before those of the second. -/
theorem ofKind_eq (h : Resolved remote s ids further refs t) (k : Kind) :
    refs.ofKind k = outcomesOf (outcomesOfRound remote ids [] s) k ++
      outcomesOf (outcomesOfRound remote further (early ids) (afterRound remote ids [] s)) k := by
  have hnone : ({} : Refs).ofKind k = [] := rfl
  rw [h.refs_eq, ofKind_round h.due_further, firstRefs, ofKind_round h.due, hnone, List.nil_append]

/-- **The ids of both rounds are recorded**, those of the first before those
of the second. -/
theorem keys_ofKind (h : Resolved remote s ids further refs t) (k : Kind) :
    (refs.ofKind k).keys = idsOf ids k ++ idsOf further k := by
  rw [h.refs_eq, keys_ofKind_round h.due_further, keys_ofKind_firstRefs h.due]

/-- No id is recorded twice. -/
theorem distinct_keys (h : Resolved remote s ids further refs t) (k : Kind) :
    Distinct (refs.ofKind k).keys := by
  rw [h.keys_ofKind, ← keys_ofKind_firstRefs h.due remote s]
  exact h.due_further.distinct k

/-- No kind is recorded twice. -/
theorem distinct_kinds (h : Resolved remote s ids further refs t) :
    Distinct refs.lookups.keys := by
  rw [h.refs_eq]
  refine Refs.distinct_kinds_recordAll ?_ _
  have hnone : Distinct ({} : Refs).lookups.keys := Distinct.nil
  exact Refs.distinct_kinds_recordAll hnone _

/-- Only kinds that are looked up are recorded, and only those that have ids in
one of the rounds. -/
theorem of_mem_kinds (h : Resolved remote s ids further refs t) {k : Kind}
    (hk : k ∈ refs.lookups.keys) :
    k ∈ Kind.lookedUp ∧ (idsOf ids k ≠ [] ∨ idsOf further k ≠ []) := by
  rw [h.refs_eq] at hk
  rcases Refs.of_mem_kinds_recordAll hk with hk | ⟨outcome, hmem, rfl⟩
  · rcases Refs.of_mem_kinds_recordAll hk with hk | ⟨outcome, hmem, rfl⟩
    · cases hk
    · obtain ⟨hkind, hid⟩ := of_mem_outcomesOfRound hmem
      exact ⟨hkind, .inl (List.ne_nil_of_mem hid)⟩
  · obtain ⟨hkind, hid⟩ := of_mem_outcomesOfRound hmem
    exact ⟨hkind, .inr (List.ne_nil_of_mem hid)⟩

/-- The second round takes objectives, users and workflows only. -/
theorem idsOf_further_eq_nil (h : Resolved remote s ids further refs t) {k : Kind}
    (hk : [Kind.objectives, .users, .workflows].contains k = false) : idsOf further k = [] := by
  rw [IdsByKind.idsOf_unresolved h.unresolved, referenced_eq_nil _ hk]
  rfl

/-- **The second round finds no epics and no teams**, so what the related
entities refer to is settled by the first. -/
theorem ofKind_eq_of_mem_sources (h : Resolved remote s ids further refs t) {source : Kind}
    (hmem : source ∈ Kind.secondarySources) :
    refs.ofKind source = (firstRefs remote ids s).ofKind source := by
  have hno : ∀ j ∈ Kind.secondarySources,
      [Kind.objectives, .users, .workflows].contains j = false := by decide
  rw [h.refs_eq]
  exact ofKind_round_of_idsOf_eq_nil h.due_further _ _ _ (h.idsOf_further_eq_nil (hno source hmem))

theorem referenced_eq (h : Resolved remote s ids further refs t) (k : Kind) :
    refs.referenced k = (firstRefs remote ids s).referenced k := by
  rw [Refs.referenced, Refs.referenced]
  exact List.flatMap_congr fun source hmem => by rw [h.ofKind_eq_of_mem_sources hmem]

/-- **The second round takes what the related entities found refer to** and
the first has not taken. -/
theorem idsOf_further (h : Resolved remote s ids further refs t) (k : Kind) :
    idsOf further k =
      ((refs.referenced k).filter fun id => !(idsOf ids k).contains id).eraseDups := by
  rw [IdsByKind.idsOf_unresolved h.unresolved, h.referenced_eq, IdsByKind.missing]
  congr 1
  refine List.filter_congr fun id _ => ?_
  rw [Table.contains_eq_contains_keys, keys_ofKind_firstRefs h.due]

/-- **Two rounds are enough**: nothing that is referred to is left. -/
theorem unresolved_eq_nil (h : Resolved remote s ids further refs t) :
    IdsByKind.unresolved refs = .ok [] := by
  refine IdsByKind.unresolved_eq_nil ?_ fun k id hid => ?_
  · intro source hmem entity hfound
    rw [h.ofKind_eq_of_mem_sources hmem] at hfound
    exact IdsByKind.readable_of_unresolved h.unresolved source hmem entity hfound
  · rw [Table.contains_eq_contains_keys, h.keys_ofKind, List.contains_append, h.idsOf_further,
      Distinct.contains_eraseDups]
    cases hknown : (idsOf ids k).contains id with
    | true => rfl
    | false =>
      rw [Bool.false_or]
      refine Distinct.contains_of_mem (List.mem_filter.2 ⟨hid, ?_⟩)
      rw [hknown]
      rfl

/-! ## What becomes of the caches -/

/-- A cache that the first round has seen to is left alone by the second. -/
theorem cacheOf_of_not_mem_late (h : Resolved remote s ids further refs t) {k : Kind}
    (hk : k ∉ late ids further) : t.cacheOf k = (afterRound remote ids [] s).cacheOf k := by
  obtain ⟨log, rfl⟩ := h.session
  exact cacheOf_afterRound_of_not_mem hk _

/-- **What is recorded of a cached kind stands in the cache** at the end. -/
theorem lookup_eq_cachedLookup (h : Resolved remote s ids further refs t) {k : Kind}
    (hk : k ∈ Kind.cached) {id : Atom} {lookup : Lookup} (hmem : (id, lookup) ∈ refs.ofKind k) :
    lookup = cachedLookup (t.cacheOf k) id := by
  rw [h.ofKind_eq] at hmem
  rcases List.mem_append.1 hmem with hfirst | hsecond
  · obtain ⟨hids, hlookup⟩ := mem_outcomesOfRound hk hfirst
    -- the first round has read the cache, so the second does not refill it
    have hearly : k ∈ early ids := (mem_early_iff hk).2 hids
    rw [h.cacheOf_of_not_mem_late (not_mem_late_of_mem_early hearly)]
    exact hlookup
  · obtain ⟨log, rfl⟩ := h.session
    exact (mem_outcomesOfRound hk hsecond).2

/-- **What becomes of the caches that are read.** -/
theorem served (h : Resolved remote s ids further refs t) {k : Kind}
    (hk : k ∈ early ids ++ late ids further) : Session.Served remote k s t := by
  have hdecided := h.isStale k hk
  obtain ⟨log, rfl⟩ := h.session
  rcases List.mem_append.1 hk with hearly | hlate
  · have hfirst := Session.served_freshened (nodup_unchecked ids [])
      (fun _ hj => mem_cached_of_mem_unchecked hj) hearly remote hdecided
    have hlog : (s.freshened remote (unchecked ids [])).exchanges <+:
        (afterRound remote ids [] s).exchanges := Ask.prefix_run _
    refine hfirst.later ?_ ?_ (hlog.trans (prefix_exchanges_afterRound further _ _))
    · exact cacheOf_afterRound_of_not_mem (not_mem_late_of_mem_early hearly) _
    · exact clock_afterRound further _ _
  · -- the first round has not touched the cache
    have hnot := not_mem_early_of_mem_late hlate
    have hdecided' : (afterRound remote ids [] s).isStale k =
        .ok ((afterRound remote ids [] s).knownStale k) := by
      rw [isStale_afterRound_of_not_mem remote hnot, knownStale_afterRound_of_not_mem remote hnot,
        hdecided]
    have hsecond := Session.served_freshened (nodup_unchecked further (early ids))
      (fun _ hj => mem_cached_of_mem_unchecked hj) hlate remote hdecided'
    refine (hsecond.earlier ?_ ?_ ?_ ?_).later rfl rfl (Ask.prefix_run _)
    · exact cacheOf_afterRound_of_not_mem hnot s
    · exact clock_afterRound ids _ s
    · exact client_afterRound remote ids _ s
    · exact prefix_exchanges_afterRound ids _ s

/-! ## What is asked -/

/-- **What both rounds ask.** -/
theorem exchanges_eq (h : Resolved remote s ids further refs t) :
    t.exchanges = Ask.run remote s.client s.exchanges (asks s ids further) := by
  obtain ⟨log, rfl⟩ := h.session
  rw [asks, Ask.run_append, ← exchanges_afterRound, ← asksOfRound_afterRound remote,
    ← client_afterRound remote ids [] s]
  exact exchanges_afterRound further _ _

end Resolved

end

end Resolver

end Backlog
