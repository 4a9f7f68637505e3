import Backlog.Proofs.Effect.Resolver
import Backlog.Proofs.ServerRun
import Backlog.Proofs.Usable
/-!
# Sound sessions

Whatever goes wrong in asking the tracker is made up for; what it brings is
taken as it is. `Remote.Sound` says of a tracker that an entity which it does
bring can be used as one of its kind. It says nothing about answers that
bring none: failures of any sort, bodies that cannot be read, lists that
cannot be stored. With such a tracker the caches come to hold usable entities
only, and with clocks in the range of doubles every age can be told
(`Session.Sound`); each step of work keeps this, and so does every series of
jobs and moves of the clock (`Session.Sound.afterAll`).
-/

namespace Backlog

/-- An entity that the tracker brings can be used. -/
structure Remote.Sound (remote : Remote) : Prop where
  /-- A fetch brings nothing, or a usable entity. -/
  entities : ∀ kind ∈ Kind.fetched, ∀ client past id v,
    (Ask.fetch kind id).answer remote client past = .ok v → v.isNull = false → v.UsableAs kind
  /-- A list that can be stored brings usable entities. -/
  lists : ∀ kind ∈ Kind.cached, ∀ client past table,
    Ask.snapshot remote client past kind = .ok table →
      ∀ key v, (key, v) ∈ table → v.UsableAs kind

namespace Session

/-- The caches hold usable entities, and all ages can be told. -/
structure Sound (s : Session) : Prop where
  /-- The clock is in the range of doubles. -/
  clock : s.clock.fitsDouble = true
  /-- So is the time at which a cache was loaded. -/
  loadedAt : ∀ k ∈ Kind.cached, ∀ time, (s.cacheOf k).loadedAt = some time →
    time.fitsDouble = true
  /-- Cached entities can be used. -/
  entries : ∀ k ∈ Kind.cached, ∀ key v, (key, v) ∈ (s.cacheOf k).entries → v.UsableAs k

/-- The caches are as they are made. -/
def CachesEmpty (s : Session) : Prop :=
  ∀ k ∈ Kind.cached, (s.cacheOf k).entries = [] ∧ (s.cacheOf k).loadedAt = none

/-- **Whether a cache is stale can be told** when clock and loading time are in
the range of doubles. -/
theorem isStale_eq_of_fitsDouble {s : Session} (hclock : s.clock.fitsDouble = true) {k : Kind}
    (hloaded : ∀ time, (s.cacheOf k).loadedAt = some time → time.fitsDouble = true) :
    s.isStale k = .ok (s.knownStale k) := by
  have hage : ∃ age, (s.cacheOf k).age s.clock = .ok age := by
    rw [Cache.age]
    split
    · exact ⟨none, rfl⟩
    · next time htime =>
      have hsub : ∃ age, s.clock.sub? time = some age := by
        rw [Number.sub?]
        split
        · exact ⟨_, rfl⟩
        · rw [hclock, hloaded time htime]
          exact ⟨_, rfl⟩
      obtain ⟨age, hsub⟩ := hsub
      rw [hsub]
      exact ⟨some age, rfl⟩
  obtain ⟨age, hage⟩ := hage
  have hstale : ∃ stale, s.isStale k = .ok stale := by
    rw [isStale, Cache.isStale, hage]
    cases age with
    | none => exact ⟨true, rfl⟩
    | some age => exact ⟨_, rfl⟩
  obtain ⟨stale, hstale⟩ := hstale
  rw [knownStale, hstale]
  rfl

namespace Sound

variable {remote : Remote} {s t : Session}

/-- Empty caches are sound. -/
theorem of_cachesEmpty (h : s.CachesEmpty) (hclock : s.clock.fitsDouble = true) : s.Sound where
  clock := hclock
  loadedAt := by
    intro k hk time htime
    rw [(h k hk).2] at htime
    cases htime
  entries := by
    intro k hk key v hmem
    rw [(h k hk).1] at hmem
    cases hmem

/-- Clock and caches are all that soundness is about. -/
theorem congr (h : s.Sound) (hclock : t.clock = s.clock) (hcaches : t.caches = s.caches) :
    t.Sound := by
  have hcache : ∀ k, t.cacheOf k = s.cacheOf k := cacheOf_congr hcaches
  exact ⟨hclock ▸ h.clock, fun k hk => hcache k ▸ h.loadedAt k hk,
    fun k hk => hcache k ▸ h.entries k hk⟩

/-- Moving the clock. -/
theorem setClock (h : s.Sound) {now : Number} (hnow : now.fitsDouble = true) :
    Sound { s with clock := now } := ⟨hnow, h.loadedAt, h.entries⟩

/-- **Whether a cache is stale can be told.** -/
theorem isStale_eq (h : s.Sound) {k : Kind} (hk : k ∈ Kind.cached) :
    s.isStale k = .ok (s.knownStale k) :=
  isStale_eq_of_fitsDouble h.clock (h.loadedAt k hk)

/-! ## What keeps a session sound -/

section

variable (hremote : remote.Sound)
include hremote

/-- **A refill keeps a session sound**, whatever comes of it. -/
theorem refilled (h : s.Sound) {kind : Kind} (hkind : kind ∈ Kind.cached) :
    (s.refilled remote kind).Sound := by
  have hcache := cacheOf_refilled hkind remote s
  cases hsnapshot : Ask.snapshot remote s.client s.exchanges kind with
  | error fault =>
    rw [refilled_of_error hsnapshot]
    exact h.congr rfl rfl
  | ok table =>
    rw [hsnapshot] at hcache
    refine ⟨(clock_refilled remote kind s).symm ▸ h.clock, fun k hk => ?_, fun k hk => ?_⟩
    · by_cases heq : k = kind
      · subst heq
        rintro time htime
        rw [hcache] at htime
        cases htime
        exact h.clock
      · rw [cacheOf_refilled_of_ne heq]
        exact h.loadedAt k hk
    · by_cases heq : k = kind
      · subst heq
        rw [hcache]
        exact hremote.lists k hk _ _ table hsnapshot
      · rw [cacheOf_refilled_of_ne heq]
        exact h.entries k hk

/-- Seeing to a cache keeps a session sound. -/
theorem seenTo (h : s.Sound) {kind : Kind} (hkind : kind ∈ Kind.cached) :
    (s.seenTo remote kind).Sound := by
  rw [Session.seenTo]
  split
  · exact h.refilled hremote hkind
  · exact h

/-- Seeing to caches keeps a session sound. -/
theorem freshened (h : s.Sound) {kinds : List Kind} (hkinds : ∀ kind ∈ kinds, kind ∈ Kind.cached) :
    (s.freshened remote kinds).Sound := by
  induction kinds generalizing s with
  | nil => exact h
  | cons kind rest ih =>
    exact ih (h.seenTo hremote (hkinds kind List.mem_cons_self))
      fun k hk => hkinds k (List.mem_cons_of_mem _ hk)

variable {may : Deed → Prop}

/-- **A step of work keeps a session sound.** -/
theorem step (h : s.Sound) (hstep : Step remote may s t) : t.Sound := by
  cases hstep with
  | log line => exact h.congr rfl rfl
  | send request hopen hmay => exact h.congr rfl rfl
  | remember m user hmay hremember hunknown hasked =>
    obtain ⟨request, -, -, rfl⟩ := received_of_getIfThere hasked
    exact h.congr rfl rfl
  | refill kind table hmay hkind hsnapshot => exact h.refilled hremote hkind

/-- **Work keeps a session sound.** -/
theorem steps (h : s.Sound) (hsteps : Steps remote may s t) : t.Sound := by
  induction hsteps with
  | refl => exact h
  | tail _ hstep ih => exact ih.step hremote hstep

end

end Sound

/-! ## What may happen to a session -/

/-- Something that happens to a session. -/
inductive Event where
  /-- A job is done. -/
  | work (job : Job)
  /-- The clock moves, forward or back. -/
  | setClock (now : Number)

/-- The session after an event. -/
def Event.apply (remote : Remote) (s : Session) : Event → Session
  | work job => (job.run remote s).2
  | setClock now => { s with clock := now }

/-- The session after some events, one after the other. -/
def afterAll (remote : Remote) (s : Session) (events : List Event) : Session :=
  events.foldl (fun s event => event.apply remote s) s

/-- **Whatever happens keeps a session sound**, as long as the clock stays in
the range of doubles. -/
theorem Sound.afterAll {remote : Remote} (hremote : remote.Sound) {s : Session} (h : s.Sound)
    {events : List Event}
    (hclocks : ∀ now, .setClock now ∈ events → now.fitsDouble = true) :
    (s.afterAll remote events).Sound := by
  induction events generalizing s with
  | nil => exact h
  | cons event rest ih =>
    refine ih ?_ fun now hnow => hclocks now (List.mem_cons_of_mem _ hnow)
    cases event with
    | work job =>
      exact h.steps hremote (job.uses_anything remote s)
    | setClock now => exact h.setClock (hclocks now List.mem_cons_self)

end Session

/-! ## What is looked up in a sound session -/

namespace Resolver

variable {remote : Remote} {s : Session}

/-- What a cache gives can be used. -/
theorem usable_cachedLookup (h : s.Sound) {kind : Kind} (hkind : kind ∈ Kind.cached) (id : Atom) :
    (cachedLookup (s.cacheOf kind) id).Usable kind := by
  intro entity hfound
  rw [cachedLookup] at hfound
  split at hfound
  · next v hget =>
    split at hfound
    · cases hfound
    · cases hfound
      obtain ⟨own, hmem, -⟩ := Table.exists_mem_of_get?_eq_some hget
      exact h.entries kind hkind own entity hmem
  · cases hfound

/-- What a fetch gives can be used. -/
theorem usable_ofAnswer (hremote : remote.Sound) {kind : Kind} (hkind : kind ∈ Kind.fetched)
    (client : Client) (past : List Http.Exchange) (id : Atom) :
    (Lookup.ofAnswer id ((Ask.fetch kind id).answer remote client past)).Usable kind := by
  intro entity hfound
  obtain ⟨hanswer, hsome⟩ := Lookup.ofAnswer_eq_found_iff.1 hfound
  exact hremote.entities kind hkind client past id entity hanswer hsome

/-- What fetches give can be used. -/
theorem usable_fetched (hremote : remote.Sound) (client : Client) {pairs : List (Kind × Atom)}
    (hpairs : ∀ pair ∈ pairs, pair.1 ∈ Kind.fetched) (past : List Http.Exchange) :
    ∀ outcome ∈ fetched remote client past pairs,
      outcome.1 ∈ Kind.fetched ∧ outcome.2.2.Usable outcome.1 := by
  rintro ⟨kind, id, lookup⟩ hmem
  obtain ⟨first, rest, rfl, rfl⟩ := exists_of_mem_fetched hmem
  have hkind := hpairs (kind, id) (List.mem_append_right _ List.mem_cons_self)
  exact ⟨hkind, usable_ofAnswer hremote hkind client _ id⟩

/-- **What is looked up can be used**, in a sound session. -/
theorem usable_outcomes (hremote : remote.Sound) (h : s.Sound) (ids : IdsByKind) :
    ∀ outcome ∈ outcomes remote s ids,
      outcome.1 ∈ Kind.lookedUp ∧ outcome.2.2.Usable outcome.1 := by
  intro outcome hmem
  rcases List.mem_append.1 hmem with hcached | hfetched
  · obtain ⟨pair, hpair, rfl⟩ := List.mem_map.1 hcached
    have hkind := kind_mem_of_mem_pairsIn hpair
    exact ⟨List.mem_append_left _ hkind, usable_cachedLookup h hkind pair.2⟩
  · obtain ⟨hkind, husable⟩ := usable_fetched hremote s.client
      (fun _ hpair => kind_mem_of_mem_pairsIn hpair) s.exchanges outcome hfetched
    exact ⟨List.mem_append_right _ hkind, husable⟩

end Resolver

end Backlog
