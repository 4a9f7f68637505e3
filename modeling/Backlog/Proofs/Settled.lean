import Backlog.Proofs.Hydration
import Backlog.Proofs.Usable
/-!
# Resolving in a settled world

With fresh caches and a tracker whose replies do not depend on what was asked
before, what becomes of an id depends on the id alone (`Session.outcome`), and
not on the call that looks it up (`Resolver.Resolved.lookup_eq_outcome`). So
which ids a call records can be told for each primary entity by itself
(`Resolver.Returns.mem_keys_iff`): those that the entity holds, and those that
the epics and teams that it refers to hold (`Session.Reaches`). The ids must be
texts or integers (`Session.Plain`), of which two are the same id only if they
are equal.
-/

namespace Backlog

/-- Whether what is replied to a request does not depend on what was exchanged
before. -/
def Remote.Steady (remote : Remote) : Prop :=
  ∀ past past' request, remote past request = remote past' request

theorem Ask.answer_of_steady {remote : Remote} (h : remote.Steady) (client : Client)
    (past past' : List Http.Exchange) (ask : Ask) :
    ask.answer remote client past = ask.answer remote client past' := by
  rw [Ask.answer, Ask.answer]
  simp only [h past past']

namespace Atom

/-- Whether an id is a text or an integer. -/
def isPlain : Atom → Bool
  | .text _ | .num (.int _) => true
  | _ => false

/-- **Plain ids are the same only if they are equal.** -/
theorem eq_of_beq_of_isPlain {a b : Atom} (ha : a.isPlain = true) (hb : b.isPlain = true)
    (h : (a == b) = true) : a = b := by
  have hkey := beq_iff_key_eq.1 h
  cases a with
  | null => cases ha
  | text s =>
    cases b with
    | null => cases hb
    | text s' => cases hkey; rfl
    | num n => cases hkey
  | num n =>
    cases b with
    | null => cases hb
    | text s => cases hkey
    | num n' =>
      cases n <;> cases ha
      cases n' <;> cases hb
      cases hkey
      rfl

/-- Of plain ids each is kept once. -/
theorem mem_eraseDups_of_isPlain {ids : List Atom} (h : ∀ id ∈ ids, id.isPlain = true) {id : Atom}
    (hid : id ∈ ids) : id ∈ ids.eraseDups := by
  have hcontains : ids.eraseDups.contains id = true := by
    rw [Distinct.contains_eraseDups]
    exact Distinct.contains_of_mem hid
  obtain ⟨own, hown, hsame⟩ := List.contains_iff_exists_mem_beq.1 hcontains
  have hplain := h own (Distinct.mem_of_mem_eraseDups hown)
  rwa [eq_of_beq_of_isPlain (h id hid) hplain hsame]

end Atom

namespace Session

/-- Whether no cache is stale. -/
def Fresh (s : Session) : Prop := ∀ kind ∈ Kind.cached, s.isStale kind = .ok false

/-- What becomes of an id: what the cache of its kind has for it, or what the
tracker answers to fetching it. -/
def outcome (remote : Remote) (s : Session) (kind : Kind) (id : Atom) : Lookup :=
  if Kind.cached.contains kind then Resolver.cachedLookup (s.cacheOf kind) id
  else Lookup.ofAnswer id ((Ask.fetch kind id).answer remote s.client s.exchanges)

/-- The ids of a kind that a primary entity reaches: those that it holds, and
those that the epics and teams that it refers to hold, as far as they are
found. -/
def Reaches (remote : Remote) (s : Session) (kind : Kind) (primary : Value) (k : Kind)
    (id : Atom) : Prop :=
  id ∈ Reference.heldIn kind.references k primary ∨
    ∃ source ∈ Kind.secondarySources, ∃ own ∈ Reference.heldIn kind.references source primary,
      id ∈ (s.outcome remote source own).referenced source k

/-- Whether all ids that a primary entity reaches are texts or integers. -/
def Plain (remote : Remote) (s : Session) (kind : Kind) (primary : Value) : Prop :=
  ∀ k id, s.Reaches remote kind primary k id → id.isPlain = true

variable {remote : Remote} {s : Session}

/-- Fresh caches are left as they are. -/
theorem freshened_of_fresh (h : s.Fresh) {kinds : List Kind}
    (hkinds : ∀ kind ∈ kinds, kind ∈ Kind.cached) : s.freshened remote kinds = s := by
  induction kinds with
  | nil => rfl
  | cons kind rest ih =>
    have hknown : s.knownStale kind = false := by
      rw [knownStale, h kind (hkinds kind List.mem_cons_self)]
      rfl
    rw [freshened, seenTo, hknown, if_neg Bool.false_ne_true]
    exact ih fun k hk => hkinds k (List.mem_cons_of_mem _ hk)

end Session

namespace Resolver

variable {remote : Remote} {s t : Session} {ids further : IdsByKind} {refs : Refs}

/-- With fresh caches a round only fetches. -/
theorem afterRound_of_fresh (h : s.Fresh) (checked : List Kind) :
    afterRound remote ids checked s = afterFetches remote (pairsIn ids Kind.fetched) s := by
  rw [afterRound, Session.freshened_of_fresh h fun _ hk => mem_cached_of_mem_unchecked hk]

theorem fresh_afterRound (h : s.Fresh) (checked : List Kind) :
    (afterRound remote ids checked s).Fresh := by
  rw [afterRound_of_fresh h]
  exact h

/-- What becomes of an id is the same after a round. -/
theorem outcome_afterRound (hremote : remote.Steady) (h : s.Fresh) (checked : List Kind)
    (kind : Kind) (id : Atom) :
    (afterRound remote ids checked s).outcome remote kind id = s.outcome remote kind id := by
  rw [afterRound_of_fresh h, Session.outcome, Session.outcome]
  have hanswer := Ask.answer_of_steady hremote s.client
    (afterFetches remote (pairsIn ids Kind.fetched) s).exchanges s.exchanges (.fetch kind id)
  split
  · rfl
  · exact congrArg _ hanswer

theorem mem_fetched {client : Client} {past : List Http.Exchange} (hremote : remote.Steady)
    {pairs : List (Kind × Atom)} {outcome : Outcome}
    (h : outcome ∈ fetched remote client past pairs) (other : List Http.Exchange) :
    (outcome.1, outcome.2.1) ∈ pairs ∧ outcome.2.2 = Lookup.ofAnswer outcome.2.1
      ((Ask.fetch outcome.1 outcome.2.1).answer remote client other) := by
  obtain ⟨kind, id, lookup⟩ := outcome
  obtain ⟨first, rest, rfl, rfl⟩ := exists_of_mem_fetched h
  refine ⟨List.mem_append_right _ List.mem_cons_self, ?_⟩
  rw [Ask.answer_of_steady hremote client _ other]

/-- **A round records what becomes of its ids.** -/
theorem eq_outcome_of_mem_outcomesOfRound (hremote : remote.Steady) (h : s.Fresh)
    {checked : List Kind} {outcome : Outcome}
    (hmem : outcome ∈ outcomesOfRound remote ids checked s) :
    outcome.1 ∈ Kind.lookedUp ∧ outcome.2.2 = s.outcome remote outcome.1 outcome.2.1 := by
  rw [outcomesOfRound, Session.freshened_of_fresh h fun _ hk => mem_cached_of_mem_unchecked hk,
    outcomes] at hmem
  rcases List.mem_append.1 hmem with hcached | hfetched
  · obtain ⟨pair, hpair, rfl⟩ := List.mem_map.1 hcached
    have hkind := kind_mem_of_mem_pairsIn hpair
    refine ⟨List.mem_append_left _ hkind, ?_⟩
    rw [Session.outcome, if_pos (Distinct.contains_of_mem hkind)]
  · obtain ⟨hpair, hlookup⟩ := mem_fetched hremote hfetched s.exchanges
    have hkind := kind_mem_of_mem_pairsIn hpair
    have hdisjoint : ∀ kind ∈ Kind.fetched, Kind.cached.contains kind = false := by decide
    refine ⟨List.mem_append_right _ hkind, ?_⟩
    rw [Session.outcome, hdisjoint _ hkind, if_neg Bool.false_ne_true, hlookup]

/-- The outcomes of two rounds are those of the session before. -/
theorem eq_outcome_of_mem_rounds (hremote : remote.Steady) (hfresh : s.Fresh)
    {checked checked' : List Kind} {outcome : Outcome}
    (hmem : outcome ∈ outcomesOfRound remote ids checked s ++
      outcomesOfRound remote further checked' (afterRound remote ids checked s)) :
    outcome.1 ∈ Kind.lookedUp ∧ outcome.2.2 = s.outcome remote outcome.1 outcome.2.1 := by
  rcases List.mem_append.1 hmem with hfirst | hsecond
  · exact eq_outcome_of_mem_outcomesOfRound hremote hfresh hfirst
  · rw [← outcome_afterRound hremote hfresh checked outcome.1 outcome.2.1]
    exact eq_outcome_of_mem_outcomesOfRound hremote (fresh_afterRound hfresh checked) hsecond

namespace Resolved

/-- **What is recorded of an id depends on the id alone.** -/
theorem lookup_eq_outcome (h : Resolved remote s ids further refs t) (hremote : remote.Steady)
    (hfresh : s.Fresh) {k : Kind} (hk : k ∈ Kind.lookedUp) {id : Atom} {lookup : Lookup}
    (hmem : (id, lookup) ∈ refs.ofKind k) : lookup = s.outcome remote k id := by
  rw [h.ofKind_eq, ← outcomesOf_append] at hmem
  have hown := mem_of_mem_outcomesOf
    (fun outcome ho => (eq_outcome_of_mem_rounds hremote hfresh ho).1) hk hmem
  exact (eq_outcome_of_mem_rounds hremote hfresh hown).2

/-- Fresh caches stay as they are. -/
theorem caches_eq (h : Resolved remote s ids further refs t) (hfresh : s.Fresh) :
    t.caches = s.caches := by
  obtain ⟨log, rfl⟩ := h.session
  have hfirst : (afterRound remote ids [] s).Fresh := fresh_afterRound hfresh []
  dsimp only
  rw [afterRound_of_fresh hfirst, afterRound_of_fresh hfresh]
  rfl

end Resolved

/-- **A settled world** for hydrating some primary entities: the tracker's
replies do not change, no cache is stale, and the ids that the entities reach
are texts or integers. -/
structure Settled (remote : Remote) (s : Session) (kind : Kind) (primaries : List Value) :
    Prop where
  /-- What is replied does not depend on what was asked before. -/
  steady : remote.Steady
  /-- No cache is stale. -/
  fresh : s.Fresh
  /-- The ids are texts or integers. -/
  plain : ∀ primary ∈ primaries, s.Plain remote kind primary

/-- The world is settled for each of the entities. -/
theorem Settled.singleton {kind : Kind} {primaries : List Value}
    (h : Settled remote s kind primaries) {primary : Value} (hprimary : primary ∈ primaries) :
    Settled remote s kind [primary] where
  steady := h.steady
  fresh := h.fresh
  plain := fun other hother => by
    cases List.mem_singleton.1 hother
    exact h.plain primary hprimary

namespace Returns

variable {kind : Kind} {primaries : List Value} {result : Hydrated}

/-- What the primary entities refer to. -/
theorem mem_referenced_iff {k : Kind} {id : Atom} :
    id ∈ IdsByKind.referenced kind primaries k ↔
      ∃ primary ∈ primaries, id ∈ Reference.heldIn kind.references k primary :=
  List.mem_flatMap

/-- **What the related entities refer to**, as far as they were looked up for
the primary entities. The second round finds no epics and no teams. -/
theorem mem_refs_referenced_iff (h : Returns remote s kind primaries result t)
    (hsettled : Settled remote s kind primaries) {k : Kind} {id : Atom} :
    id ∈ result.refs.referenced k ↔
      ∃ primary ∈ primaries, ∃ source ∈ Kind.secondarySources,
        ∃ own ∈ Reference.heldIn kind.references source primary,
          id ∈ (s.outcome remote source own).referenced source k := by
  obtain ⟨ids, further, hdirect, -, hresolved⟩ := h.exists_resolved
  have hkeys : ∀ source ∈ Kind.secondarySources, (result.refs.ofKind source).keys =
      (IdsByKind.referenced kind primaries source).eraseDups := by
    intro source hsource
    have hno : ∀ j ∈ Kind.secondarySources,
        [Kind.objectives, .users, .workflows].contains j = false := by decide
    rw [hresolved.keys_ofKind, hresolved.idsOf_further_eq_nil (hno source hsource),
      List.append_nil, hdirect]
  have hlookup : ∀ source ∈ Kind.secondarySources, ∀ own lookup,
      (own, lookup) ∈ result.refs.ofKind source → lookup = s.outcome remote source own :=
    fun source hsource own lookup hmem => hresolved.lookup_eq_outcome hsettled.steady hsettled.fresh
      (IdsByKind.lookedUp_of_mem_secondarySources hsource) hmem
  constructor
  · intro hid
    obtain ⟨source, hsource, hid⟩ := List.mem_flatMap.1 hid
    obtain ⟨lookup, hvalue, hid⟩ := List.mem_flatMap.1 hid
    obtain ⟨⟨own, lookup⟩, hmem, rfl⟩ := List.mem_map.1 hvalue
    have hown : own ∈ (result.refs.ofKind source).keys :=
      List.mem_map.2 ⟨(own, lookup), hmem, rfl⟩
    rw [hkeys source hsource] at hown
    obtain ⟨primary, hprimary, hown⟩ := mem_referenced_iff.1 (Distinct.mem_of_mem_eraseDups hown)
    rw [hlookup source hsource own lookup hmem] at hid
    exact ⟨primary, hprimary, source, hsource, own, hown, hid⟩
  · rintro ⟨primary, hprimary, source, hsource, own, hown, hid⟩
    have hplain' : ∀ other ∈ IdsByKind.referenced kind primaries source,
        other.isPlain = true := by
      intro other hother
      obtain ⟨primary, hprimary, hother⟩ := mem_referenced_iff.1 hother
      exact hsettled.plain primary hprimary source other (.inl hother)
    have hkept : own ∈ (result.refs.ofKind source).keys := by
      rw [hkeys source hsource]
      exact Atom.mem_eraseDups_of_isPlain hplain'
        (mem_referenced_iff.2 ⟨primary, hprimary, hown⟩)
    obtain ⟨⟨own', lookup⟩, hmem, rfl⟩ := List.mem_map.1 hkept
    refine List.mem_flatMap.2 ⟨source, hsource, List.mem_flatMap.2 ⟨lookup, ?_, ?_⟩⟩
    · exact List.mem_map.2 ⟨_, hmem, rfl⟩
    · rw [hlookup source hsource own' lookup hmem]
      exact hid

/-- **The ids that a call records** are those that its primary entities reach,
each by itself. -/
theorem mem_keys_iff (h : Returns remote s kind primaries result t)
    (hsettled : Settled remote s kind primaries) {k : Kind} {id : Atom} :
    id ∈ (result.refs.ofKind k).keys ↔
      ∃ primary ∈ primaries, s.Reaches remote kind primary k id := by
  have hfurther : ∀ id, id ∈ result.refs.referenced k ↔ _ :=
    fun _ => h.mem_refs_referenced_iff hsettled
  have hdirect : ∀ other ∈ IdsByKind.referenced kind primaries k, other.isPlain = true := by
    intro other hother
    obtain ⟨primary, hprimary, hother⟩ := mem_referenced_iff.1 hother
    exact hsettled.plain primary hprimary k other (.inl hother)
  have hindirect : ∀ other ∈ result.refs.referenced k, other.isPlain = true := by
    intro other hother
    obtain ⟨primary, hprimary, hother⟩ := (hfurther other).1 hother
    exact hsettled.plain primary hprimary k other (.inr hother)
  obtain ⟨ids, further, hids, hids', hresolved⟩ := h.exists_resolved
  rw [hresolved.keys_ofKind, hids, hids', List.mem_append]
  constructor
  · rintro (hid | hid)
    · obtain ⟨primary, hprimary, hid⟩ := mem_referenced_iff.1 (Distinct.mem_of_mem_eraseDups hid)
      exact ⟨primary, hprimary, .inl hid⟩
    · have hmem := (List.mem_filter.1 (Distinct.mem_of_mem_eraseDups hid)).1
      obtain ⟨primary, hprimary, hid⟩ := (hfurther id).1 hmem
      exact ⟨primary, hprimary, .inr hid⟩
  · rintro ⟨primary, hprimary, hreach⟩
    by_cases hown : id ∈ IdsByKind.referenced kind primaries k
    · exact .inl (Atom.mem_eraseDups_of_isPlain hdirect hown)
    · have hrelated : id ∈ result.refs.referenced k := by
        rcases hreach with hheld | hheld
        · exact absurd (mem_referenced_iff.2 ⟨primary, hprimary, hheld⟩) hown
        · exact (hfurther id).2 ⟨primary, hprimary, hheld⟩
      -- a plain id that is the same as one held by a primary entity is that one
      have hnew : (IdsByKind.referenced kind primaries k).contains id = false := by
        refine Distinct.contains_eq_false_iff.2 fun other hother => ?_
        refine Bool.eq_false_iff.2 fun hsame => hown ?_
        rwa [Atom.eq_of_beq_of_isPlain (hindirect id hrelated) (hdirect other hother) hsame]
      refine .inr (Atom.mem_eraseDups_of_isPlain (fun other hother => ?_) ?_)
      · exact hindirect other (List.mem_filter.1 hother).1
      · exact List.mem_filter.2 ⟨hrelated, by rw [hnew]; rfl⟩

/-- **What a call records of a kind**, entry by entry. -/
theorem mem_ofKind_iff (h : Returns remote s kind primaries result t)
    (hsettled : Settled remote s kind primaries) {k : Kind} (hk : k ∈ Kind.lookedUp) {id : Atom}
    {lookup : Lookup} :
    (id, lookup) ∈ result.refs.ofKind k ↔
      lookup = s.outcome remote k id ∧
        ∃ primary ∈ primaries, s.Reaches remote kind primary k id := by
  obtain ⟨ids, further, -, -, hresolved⟩ := h.exists_resolved
  have hkeys : id ∈ (result.refs.ofKind k).keys ↔ _ := h.mem_keys_iff hsettled
  constructor
  · intro hmem
    exact ⟨hresolved.lookup_eq_outcome hsettled.steady hsettled.fresh hk hmem,
      hkeys.1 (List.mem_map.2 ⟨(id, lookup), hmem, rfl⟩)⟩
  · rintro ⟨rfl, hreach⟩
    obtain ⟨⟨own, lookup⟩, hmem, rfl⟩ := List.mem_map.1 (hkeys.2 hreach)
    rwa [← hresolved.lookup_eq_outcome hsettled.steady hsettled.fresh hk hmem]

/-- **An id that is reached reads what becomes of it.** -/
theorem get_eq_outcome (h : Returns remote s kind primaries result t)
    (hsettled : Settled remote s kind primaries) {k : Kind} (hk : k ∈ Kind.lookedUp) {id : Atom}
    {primary : Value} (hprimary : primary ∈ primaries)
    (hreach : s.Reaches remote kind primary k id) :
    result.refs.get k id = s.outcome remote k id := by
  obtain ⟨ids, further, -, -, hresolved⟩ := h.exists_resolved
  have hmem := (h.mem_ofKind_iff hsettled hk).2 ⟨rfl, primary, hprimary, hreach⟩
  rw [Refs.get, Table.get?_eq_some_of_mem (hresolved.distinct_keys k) hmem, Option.getD_some]

end Returns

end Resolver

end Backlog
