import Backlog.Proofs.LookUp
/-!
# Resolving in two rounds

A round sees to the caches of the kinds of which there are ids, unless that
has been done, and then looks the ids up. Resolving takes the given ids in a
first round and what the epics and teams found refer to in a second one. A
run that ends in references is described by `Resolver.Resolved`: which ids the
second round takes, and which outcomes and which session come of it. When
there is nothing for a second round to do, that is a round without ids.
-/

namespace Backlog

/-- The kinds that ids are looked up for. -/
def Kind.lookedUp : List Kind := Kind.cached ++ Kind.fetched

/-- Kinds that are looked up are told apart by comparing them. -/
theorem Kind.eq_of_beq_of_mem_lookedUp {a b : Kind} (ha : a ∈ lookedUp) (hb : b ∈ lookedUp)
    (h : (a == b) = true) : a = b := by
  have heq : ∀ a ∈ lookedUp, ∀ b ∈ lookedUp, (a == b) = true → a = b := by decide
  exact heq a ha b hb h

/-- No kind is both cached and fetched. -/
theorem Kind.not_mem_cached_of_mem_fetched {kind : Kind} (h : kind ∈ fetched) :
    kind ∉ cached := by
  have hdisjoint : ∀ a ∈ fetched, ∀ b ∈ cached, a ≠ b := by decide
  exact fun hcached => hdisjoint kind h kind hcached rfl

namespace Resolver

/-! ## One round -/

/-- Ids that a round can take on: of kinds that are looked up, each once, and
none looked up before. -/
structure Due (refs : Refs) (ids : IdsByKind) : Prop where
  /-- No id comes twice. -/
  distinct : ∀ k, Distinct ((refs.ofKind k).keys ++ idsOf ids k)
  /-- Other kinds have no ids. -/
  covered : ∀ k, Kind.lookedUp.contains k = false → idsOf ids k = []

namespace Due

variable {refs : Refs} {ids : IdsByKind}

/-- The ids of a kind among those that are looked up. -/
theorem idsAmong_eq (h : Due refs ids) (k : Kind) :
    idsAmong (pairsIn ids Kind.lookedUp) k = idsOf ids k := by
  rw [idsAmong_pairsIn ids (by decide) k]
  cases hk : Kind.lookedUp.contains k with
  | true => exact if_pos rfl
  | false => rw [h.covered k hk, if_neg Bool.false_ne_true]

theorem newTo (h : Due refs ids) : refs.NewTo (pairsIn ids Kind.lookedUp) := by
  intro k
  rw [h.idsAmong_eq k]
  exact h.distinct k

end Due

/-- The kinds whose caches a round sees to. -/
def unchecked (ids : IdsByKind) (checked : List Kind) : List Kind :=
  (cachedKindsOf ids).filter fun kind => !checked.contains kind

theorem nodup_cachedKindsOf (ids : IdsByKind) : (cachedKindsOf ids).Nodup := by
  have hcached : Kind.cached.Nodup := by decide
  exact hcached.filter _

theorem nodup_unchecked (ids : IdsByKind) (checked : List Kind) :
    (unchecked ids checked).Nodup :=
  (nodup_cachedKindsOf ids).filter _

theorem mem_cachedKindsOf {ids : IdsByKind} {k : Kind} :
    k ∈ cachedKindsOf ids ↔ k ∈ Kind.cached ∧ idsOf ids k ≠ [] := by
  rw [cachedKindsOf, List.mem_filter]
  simp

theorem mem_cached_of_mem_unchecked {ids : IdsByKind} {checked : List Kind} {k : Kind}
    (h : k ∈ unchecked ids checked) : k ∈ Kind.cached :=
  (mem_cachedKindsOf.1 (List.mem_filter.1 h).1).1

/-- Cached kinds are told apart by comparing them. -/
theorem eq_of_beq_of_mem_cached {a b : Kind} (ha : a ∈ Kind.cached) (hb : b ∈ Kind.cached)
    (h : (a == b) = true) : a = b := by
  have heq : ∀ a ∈ Kind.cached, ∀ b ∈ Kind.cached, (a == b) = true → a = b := by decide
  exact heq a ha b hb h

theorem mem_of_contains {kinds : List Kind} (hkinds : ∀ kind ∈ kinds, kind ∈ Kind.cached)
    {k : Kind} (hk : k ∈ Kind.cached) (h : kinds.contains k = true) : k ∈ kinds := by
  obtain ⟨j, hj, hjk⟩ := List.contains_iff_exists_mem_beq.1 h
  exact eq_of_beq_of_mem_cached hk (hkinds j hj) hjk ▸ hj

/-- The session after a round. -/
def afterRound (remote : Remote) (ids : IdsByKind) (checked : List Kind) (s : Session) : Session :=
  afterFetches remote (pairsIn ids Kind.fetched) (s.freshened remote (unchecked ids checked))

/-- The outcomes of a round. -/
def outcomesOfRound (remote : Remote) (ids : IdsByKind) (checked : List Kind) (s : Session) :
    List Outcome :=
  outcomes remote (s.freshened remote (unchecked ids checked)) ids

/-- **What a round does** that ends well, but for the log. -/
theorem round_eq_ok {ids : IdsByKind} {refs refs' : Refs} {checked checked' : List Kind}
    (hdue : Due refs ids) {remote : Remote} {s t : Session}
    (h : round ids refs checked remote s = (.ok (refs', checked'), t)) :
    checked' = checked ++ unchecked ids checked ∧
      (∀ kind ∈ unchecked ids checked, s.isStale kind = .ok (s.knownStale kind)) ∧
      refs' = refs.recordAll (outcomesOfRound remote ids checked s) ∧
      ∃ log, t = { afterRound remote ids checked s with log } := by
  obtain ⟨_, m, hfresh, h⟩ := Run.bind_eq_ok.1 h
  obtain ⟨found, n, hlook, h⟩ := Run.bind_eq_ok.1 h
  cases h
  obtain ⟨hstale, log, rfl⟩ := ensureAllFresh_eq_ok (nodup_unchecked ids checked)
    (fun _ hk => mem_cached_of_mem_unchecked hk) hfresh
  obtain ⟨log', hdone⟩ := lookUp_apply hdue.newTo remote
    { s.freshened remote (unchecked ids checked) with log }
  have heq := hdone.symm.trans hlook
  rw [Prod.mk.injEq, Except.ok.injEq] at heq
  exact ⟨rfl, hstale, heq.1.symm, log', heq.2.symm⟩

/-- What a round records stands behind what was recorded before. -/
theorem ofKind_round {refs : Refs} {ids : IdsByKind} (h : Due refs ids) (remote : Remote)
    (checked : List Kind) (s : Session) (k : Kind) :
    (refs.recordAll (outcomesOfRound remote ids checked s)).ofKind k =
      refs.ofKind k ++ outcomesOf (outcomesOfRound remote ids checked s) k := by
  refine Refs.ofKind_recordAll ?_ k
  rw [outcomesOfRound, pairsOf_outcomes]
  exact h.newTo

/-- The outcomes of a round are about its ids. -/
theorem keys_outcomesOfRound {refs : Refs} {ids : IdsByKind} (h : Due refs ids) (remote : Remote)
    (checked : List Kind) (s : Session) (k : Kind) :
    (outcomesOf (outcomesOfRound remote ids checked s) k).keys = idsOf ids k := by
  rw [keys_outcomesOf, outcomesOfRound, pairsOf_outcomes]
  exact h.idsAmong_eq k

/-- **A round records its ids**, each once, behind those recorded before. -/
theorem keys_ofKind_round {refs : Refs} {ids : IdsByKind} (h : Due refs ids) (remote : Remote)
    (checked : List Kind) (s : Session) (k : Kind) :
    ((refs.recordAll (outcomesOfRound remote ids checked s)).ofKind k).keys =
      (refs.ofKind k).keys ++ idsOf ids k := by
  rw [ofKind_round h, Table.keys, List.map_append, ← keys_outcomesOfRound h remote checked s k]
  rfl

/-- What a round looks up are its ids, of the kinds that are looked up. -/
theorem of_mem_outcomesOfRound {remote : Remote} {ids : IdsByKind} {checked : List Kind}
    {s : Session} {outcome : Outcome} (h : outcome ∈ outcomesOfRound remote ids checked s) :
    outcome.1 ∈ Kind.lookedUp ∧ outcome.2.1 ∈ idsOf ids outcome.1 := by
  have hpair : (outcome.1, outcome.2.1) ∈ pairsIn ids Kind.lookedUp := by
    rw [Kind.lookedUp, ← pairsOf_outcomes remote (s.freshened remote (unchecked ids checked)) ids]
    exact List.mem_map_of_mem h
  obtain ⟨k, hk, hmem⟩ := List.mem_flatMap.1 hpair
  obtain ⟨id, hid, heq⟩ := List.mem_map.1 hmem
  cases heq
  exact ⟨hk, hid⟩

/-- An outcome of a kind that is looked up is recorded under that very kind. -/
theorem mem_of_mem_outcomesOf {outcomes : List Outcome}
    (hkinds : ∀ outcome ∈ outcomes, outcome.1 ∈ Kind.lookedUp) {k : Kind} (hk : k ∈ Kind.lookedUp)
    {id : Atom} {lookup : Lookup} (h : (id, lookup) ∈ outcomesOf outcomes k) :
    (k, id, lookup) ∈ outcomes := by
  obtain ⟨⟨kind, own⟩, hmem, rfl⟩ := List.mem_map.1 h
  obtain ⟨hmem, hkind⟩ := List.mem_filter.1 hmem
  rwa [← Kind.eq_of_beq_of_mem_lookedUp (hkinds _ hmem) hk hkind]

/-- A kind without ids keeps what was recorded of it. -/
theorem ofKind_round_of_idsOf_eq_nil {refs : Refs} {ids : IdsByKind} (h : Due refs ids)
    (remote : Remote) (checked : List Kind) (s : Session) {k : Kind} (hk : idsOf ids k = []) :
    (refs.recordAll (outcomesOfRound remote ids checked s)).ofKind k = refs.ofKind k := by
  have hkeys := keys_outcomesOfRound h remote checked s k
  rw [hk] at hkeys
  rw [ofKind_round h, List.map_eq_nil_iff.1 hkeys, List.append_nil]

/-- **What a round records of a cached kind stands in the cache** after the
caches have been seen to. -/
theorem mem_outcomesOfRound {remote : Remote} {ids : IdsByKind} {checked : List Kind} {s : Session}
    {k : Kind} (hk : k ∈ Kind.cached) {id : Atom} {lookup : Lookup}
    (h : (id, lookup) ∈ outcomesOf (outcomesOfRound remote ids checked s) k) :
    idsOf ids k ≠ [] ∧ lookup = cachedLookup ((afterRound remote ids checked s).cacheOf k) id := by
  have hmem := mem_of_mem_outcomesOf (fun _ ho => (of_mem_outcomesOfRound ho).1)
    (List.mem_append_left Kind.fetched hk) h
  refine ⟨List.ne_nil_of_mem (of_mem_outcomesOfRound hmem).2, ?_⟩
  rcases List.mem_append.1 hmem with hcached | hfetched
  · obtain ⟨pair, -, heq⟩ := List.mem_map.1 hcached
    cases heq
    rfl
  · obtain ⟨first, rest, hpairs, -⟩ := exists_of_mem_fetched hfetched
    have hpair : (k, id) ∈ pairsIn ids Kind.fetched := by
      rw [hpairs]
      exact List.mem_append_right _ List.mem_cons_self
    exact absurd hk (Kind.not_mem_cached_of_mem_fetched (kind_mem_of_mem_pairsIn hpair))

/-! ## The ids of both rounds -/

/-- The references of an entity are to kinds that are looked up. -/
theorem lookedUp_of_mem_references {kind : Kind} {ref : Reference} (h : ref ∈ kind.references) :
    Kind.lookedUp.contains ref.kind = true := by
  have hall : kind.references.all fun ref => Kind.lookedUp.contains ref.kind := by
    cases kind <;> rfl
  exact List.all_eq_true.1 hall ref h

/-- The references that are followed further are to objectives, users and
workflows, none of which is followed again. -/
theorem kind_of_mem_secondaryReferences {source : Kind} {ref : Reference}
    (h : ref ∈ source.secondaryReferences) :
    [Kind.objectives, .users, .workflows].contains ref.kind = true := by
  have hall : source.secondaryReferences.all fun ref =>
      [Kind.objectives, .users, .workflows].contains ref.kind := by
    cases source <;> rfl
  exact List.all_eq_true.1 hall ref h

/-- Ids are held only for the kinds of the references. -/
theorem heldIn_eq_nil {references : List Reference} {kinds : List Kind}
    (hkinds : ∀ ref ∈ references, kinds.contains ref.kind = true) {k : Kind}
    (hk : kinds.contains k = false) (entity : Value) :
    Reference.heldIn references k entity = [] := by
  have hnone : references.filter (·.kind == k) = [] := by
    refine List.filter_eq_nil_iff.2 fun ref href heq => ?_
    have hin := hkinds ref href
    rw [Distinct.contains_congr heq, hk] at hin
    cases hin
  rw [Reference.heldIn, hnone]
  rfl

/-- The ids that entities refer to are due. -/
theorem due_ofEntities {kind : Kind} {primaries : List Value} {ids : IdsByKind}
    (h : IdsByKind.ofEntities kind primaries = .ok ids) : Due {} ids := by
  constructor
  · intro k
    rw [IdsByKind.idsOf_ofEntities h]
    exact Distinct.of_eraseDups _
  · intro k hk
    rw [IdsByKind.idsOf_ofEntities h, IdsByKind.referenced]
    have hnone : primaries.flatMap (Reference.heldIn kind.references k) = [] := by
      refine List.flatMap_eq_nil_iff.2 fun entity _ => ?_
      exact heldIn_eq_nil (fun _ href => lookedUp_of_mem_references href) hk entity
    rw [hnone]
    rfl

/-- Found entities refer to objectives, users and workflows only. -/
theorem referenced_eq_nil (refs : Refs) {k : Kind}
    (hk : [Kind.objectives, .users, .workflows].contains k = false) : refs.referenced k = [] := by
  refine List.flatMap_eq_nil_iff.2 fun source _ => List.flatMap_eq_nil_iff.2 fun lookup _ => ?_
  cases lookup with
  | found entity =>
    exact heldIn_eq_nil (fun _ href => kind_of_mem_secondaryReferences href) hk entity
  | notFound id => rfl
  | failure id error => rfl

/-- The ids that found entities refer to, and that are not looked up yet, are
due. -/
theorem due_unresolved {refs : Refs} (hd : ∀ k, Distinct (refs.ofKind k).keys) {ids : IdsByKind}
    (h : IdsByKind.unresolved refs = .ok ids) : Due refs ids := by
  constructor
  · intro k
    rw [IdsByKind.idsOf_unresolved h]
    refine Distinct.append (hd k) (Distinct.of_eraseDups _) fun id hid => ?_
    have hmissing := (List.mem_filter.1 (Distinct.mem_of_mem_eraseDups hid)).2
    rw [← Table.contains_eq_contains_keys]
    simpa using hmissing
  · intro k hk
    have hkind : [Kind.objectives, .users, .workflows].contains k = false := by
      have hsub : ∀ j ∈ [Kind.objectives, .users, .workflows],
          Kind.lookedUp.contains j = true := by decide
      refine Bool.eq_false_iff.2 fun hin => ?_
      obtain ⟨j, hj, hkj⟩ := List.contains_iff_exists_mem_beq.1 hin
      rw [Distinct.contains_congr hkj, hsub j hj] at hk
      cases hk
    rw [IdsByKind.idsOf_unresolved h, referenced_eq_nil refs hkind]
    rfl

end Resolver

end Backlog
