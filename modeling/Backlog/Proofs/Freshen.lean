import Backlog.Proofs.Refill
/-!
# Seeing to caches

Before caches are read, those that are stale are refilled, one after the
other, and one that cannot be refilled stays as it is. But for the log, this
is a function of the session (`Session.freshened`): it asks for the lists of
the stale kinds and for nothing else (`Session.exchanges_freshened`), and it
leaves each cache as it was or as a list makes it (`Session.Served`,
`Session.served_freshened`). The clock stands still meanwhile, so whether a cache
is stale is told once and stays so until it is refilled.
-/

namespace Backlog

namespace Session

/-- Whether the cache of a kind is stale, or what keeps this from being
told. -/
def isStale (s : Session) (kind : Kind) : Except Fault Bool := (s.cacheOf kind).isStale s.clock

/-- Whether the cache of a kind is known to be stale. -/
def knownStale (s : Session) (kind : Kind) : Bool := (s.isStale kind).toOption.getD false

theorem knownStale_iff {s : Session} {kind : Kind} :
    s.knownStale kind = true ↔ s.isStale kind = .ok true := by
  rw [knownStale]
  cases s.isStale kind with
  | error fault => simp [Except.toOption]
  | ok stale => simp [Except.toOption]

/-- Whether a cache is stale depends on it and on the clock. -/
theorem isStale_congr {s t : Session} {kind : Kind} (hcache : t.cacheOf kind = s.cacheOf kind)
    (hclock : t.clock = s.clock) : t.isStale kind = s.isStale kind := by
  rw [isStale, isStale, hcache, hclock]

/-- The session after the cache of a kind has been seen to. -/
def seenTo (remote : Remote) (kind : Kind) (s : Session) : Session :=
  if s.knownStale kind then s.refilled remote kind else s

/-- The session after the caches of some kinds have been seen to. -/
def freshened (remote : Remote) : List Kind → Session → Session
  | [], s => s
  | kind :: rest, s => freshened remote rest (s.seenTo remote kind)

theorem refilled_log (remote : Remote) (kind : Kind) (s : Session) (log : List LogLine) :
    refilled remote kind { s with log } = { s.refilled remote kind with log } := by
  rw [refilled, refilled]
  cases Ask.snapshot remote s.client s.exchanges kind <;> rfl

theorem seenTo_log (remote : Remote) (kind : Kind) (s : Session) (log : List LogLine) :
    seenTo remote kind { s with log } = { s.seenTo remote kind with log } := by
  have hstale : knownStale { s with log } kind = s.knownStale kind := rfl
  rw [seenTo, seenTo, hstale]
  split
  · exact refilled_log remote kind s log
  · rfl

/-- What is logged has no part in it. -/
theorem freshened_log (remote : Remote) (kinds : List Kind) (s : Session) (log : List LogLine) :
    freshened remote kinds { s with log } = { s.freshened remote kinds with log } := by
  induction kinds generalizing s with
  | nil => rfl
  | cons kind rest ih => rw [freshened, freshened, seenTo_log, ih]

theorem client_seenTo (remote : Remote) (kind : Kind) (s : Session) :
    (s.seenTo remote kind).client = s.client := by
  rw [seenTo]
  split
  · exact client_refilled remote kind s
  · rfl

theorem clock_seenTo (remote : Remote) (kind : Kind) (s : Session) :
    (s.seenTo remote kind).clock = s.clock := by
  rw [seenTo]
  split
  · exact clock_refilled remote kind s
  · rfl

theorem cacheOf_seenTo_of_ne {kind k : Kind} (h : k ≠ kind) (remote : Remote) (s : Session) :
    (s.seenTo remote kind).cacheOf k = s.cacheOf k := by
  rw [seenTo]
  split
  · exact cacheOf_refilled_of_ne h remote s
  · rfl

theorem client_freshened (remote : Remote) (kinds : List Kind) (s : Session) :
    (s.freshened remote kinds).client = s.client := by
  induction kinds generalizing s with
  | nil => rfl
  | cons kind rest ih => rw [freshened, ih, client_seenTo]

theorem clock_freshened (remote : Remote) (kinds : List Kind) (s : Session) :
    (s.freshened remote kinds).clock = s.clock := by
  induction kinds generalizing s with
  | nil => rfl
  | cons kind rest ih => rw [freshened, ih, clock_seenTo]

/-- **Caches that are not seen to stay as they are.** -/
theorem cacheOf_freshened_of_not_mem {kinds : List Kind} {k : Kind} (h : k ∉ kinds)
    (remote : Remote) (s : Session) : (s.freshened remote kinds).cacheOf k = s.cacheOf k := by
  induction kinds generalizing s with
  | nil => rfl
  | cons kind rest ih =>
    obtain ⟨hne, hrest⟩ := List.ne_and_not_mem_of_not_mem_cons h
    rw [freshened, ih hrest, cacheOf_seenTo_of_ne hne]

/-- A kind is as stale after the caches of others have been seen to. -/
theorem isStale_seenTo_of_ne {kind k : Kind} (h : k ≠ kind) (remote : Remote) (s : Session) :
    (s.seenTo remote kind).isStale k = s.isStale k :=
  isStale_congr (cacheOf_seenTo_of_ne h remote s) (clock_seenTo remote kind s)

theorem knownStale_seenTo_of_ne {kind k : Kind} (h : k ≠ kind) (remote : Remote) (s : Session) :
    (s.seenTo remote kind).knownStale k = s.knownStale k := by
  rw [knownStale, isStale_seenTo_of_ne h, knownStale]

/-- **Seeing to caches asks for the lists of the stale ones**, in order, and
for nothing else. -/
theorem exchanges_freshened {kinds : List Kind} (hd : kinds.Nodup) (remote : Remote)
    (s : Session) :
    (s.freshened remote kinds).exchanges =
      Ask.run remote s.client s.exchanges ((kinds.filter s.knownStale).map .list) := by
  induction kinds generalizing s with
  | nil => rfl
  | cons kind rest ih =>
    obtain ⟨hnot, hrest⟩ := List.nodup_cons.1 hd
    have hsame : rest.filter (s.seenTo remote kind).knownStale = rest.filter s.knownStale := by
      refine List.filter_congr fun k hk => ?_
      have hne : k ≠ kind := fun heq => hnot (heq ▸ hk)
      exact knownStale_seenTo_of_ne hne remote s
    rw [freshened, ih hrest, client_seenTo, hsame, seenTo, List.filter_cons]
    split
    · rw [exchanges_refilled, List.map_cons, Ask.run]
    · rfl

/-- What a cache serves after a call has seen to it. -/
inductive Served (remote : Remote) (k : Kind) (s t : Session) : Prop where
  /-- The snapshot that was there, which is not older than allowed. -/
  | fresh (age : Number) (hage : (t.cacheOf k).age t.clock = .ok (some age))
      (hyoung : (t.cacheOf k).ttl.lt age = false) (hstale : s.isStale k = .ok false)
      (hcache : t.cacheOf k = s.cacheOf k)
  /-- A snapshot that the call loaded: the list of the kind was asked for, at
  some point of the call, and brought it. -/
  | loaded (past : List Http.Exchange) (table : Table Atom Value)
      (hstale : s.isStale k = .ok true) (hpast : s.exchanges <+: past)
      (hasked : past ++ (Ask.list k).exchanges remote s.client past <+: t.exchanges)
      (hsnapshot : Ask.snapshot remote s.client past k = .ok table)
      (hcache : t.cacheOf k = (s.cacheOf k).loaded table s.clock)
  /-- The snapshot that was there: the list of the kind was asked for, at some
  point of the call, and that failed. -/
  | kept (past : List Http.Exchange) (fault : Fault)
      (hstale : s.isStale k = .ok true) (hpast : s.exchanges <+: past)
      (hasked : past ++ (Ask.list k).exchanges remote s.client past <+: t.exchanges)
      (hfault : Ask.snapshot remote s.client past k = .error fault)
      (hcache : t.cacheOf k = s.cacheOf k)

/-- A snapshot that is not stale has an age, and not more than allowed. -/
theorem isStale_eq_ok_false_iff {s : Session} {k : Kind} :
    s.isStale k = .ok false ↔
      ∃ age, (s.cacheOf k).age s.clock = .ok (some age) ∧ (s.cacheOf k).ttl.lt age = false := by
  rw [isStale, Cache.isStale]
  constructor
  · intro h
    obtain ⟨age?, hage, h⟩ := Except.bind_eq_ok.1 h
    cases age? with
    | none => cases h
    | some age =>
      injection h with hlt
      exact ⟨age, hage, hlt⟩
  · rintro ⟨age, hage, hlt⟩
    rw [hage, ← hlt]
    rfl

/-- What is served stays so while the cache and the clock stay and the log
only grows. -/
theorem Served.later {remote : Remote} {k : Kind} {s t t' : Session} (h : Served remote k s t)
    (hcache : t'.cacheOf k = t.cacheOf k) (hclock : t'.clock = t.clock)
    (hlog : t.exchanges <+: t'.exchanges) : Served remote k s t' := by
  cases h with
  | fresh age hage hyoung hstale hsame =>
    rw [← hcache] at hage hyoung hsame
    rw [← hclock] at hage
    exact .fresh age hage hyoung hstale hsame
  | loaded past table hstale hpast hasked hsnapshot hnew =>
    exact .loaded past table hstale hpast (hasked.trans hlog) hsnapshot (hcache.trans hnew)
  | kept past fault hstale hpast hasked hfault hsame =>
    exact .kept past fault hstale hpast (hasked.trans hlog) hfault (hcache.trans hsame)

/-- The start may be moved back over what leaves the cache, the client and the
clock alone. -/
theorem Served.earlier {remote : Remote} {k : Kind} {s s' t : Session} (h : Served remote k s' t)
    (hcache : s'.cacheOf k = s.cacheOf k) (hclock : s'.clock = s.clock)
    (hclient : s'.client = s.client) (hlog : s.exchanges <+: s'.exchanges) :
    Served remote k s t := by
  have hstale' : s'.isStale k = s.isStale k := isStale_congr hcache hclock
  cases h with
  | fresh age hage hyoung hstale hsame =>
    exact .fresh age hage hyoung (hstale' ▸ hstale) (hsame.trans hcache)
  | loaded past table hstale hpast hasked hsnapshot hnew =>
    rw [hclient] at hasked hsnapshot
    rw [hcache, hclock] at hnew
    exact .loaded past table (hstale' ▸ hstale) (hlog.trans hpast) hasked hsnapshot hnew
  | kept past fault hstale hpast hasked hfault hsame =>
    rw [hclient] at hasked hfault
    exact .kept past fault (hstale' ▸ hstale) (hlog.trans hpast) hasked hfault (hsame.trans hcache)

/-- Seeing to the cache of a kind, when it was found out whether it is
stale. -/
theorem served_seenTo {k : Kind} (hk : k ∈ Kind.cached) (remote : Remote) {s : Session}
    (hdecided : s.isStale k = .ok (s.knownStale k)) : Served remote k s (s.seenTo remote k) := by
  rw [seenTo]
  cases hstale : s.knownStale k with
  | false =>
    rw [hstale] at hdecided
    obtain ⟨age, hage, hyoung⟩ := isStale_eq_ok_false_iff.1 hdecided
    exact .fresh age hage hyoung hdecided rfl
  | true =>
    rw [hstale] at hdecided
    have hcache := cacheOf_refilled hk remote s
    have hasked : s.exchanges ++ (Ask.list k).exchanges remote s.client s.exchanges <+:
        (s.refilled remote k).exchanges :=
      ⟨[], (List.append_nil _).trans (exchanges_refilled remote k s).symm⟩
    rw [if_pos rfl]
    cases hsnapshot : Ask.snapshot remote s.client s.exchanges k with
    | ok table =>
      rw [hsnapshot] at hcache
      exact .loaded s.exchanges table hdecided List.prefix_rfl hasked hsnapshot hcache
    | error fault =>
      rw [hsnapshot] at hcache
      exact .kept s.exchanges fault hdecided List.prefix_rfl hasked hsnapshot hcache

theorem prefix_exchanges_seenTo (remote : Remote) (kind : Kind) (s : Session) :
    s.exchanges <+: (s.seenTo remote kind).exchanges := by
  rw [seenTo]
  split
  · rw [exchanges_refilled]
    exact List.prefix_append _ _
  · exact List.prefix_rfl

theorem prefix_exchanges_freshened (remote : Remote) (kinds : List Kind) (s : Session) :
    s.exchanges <+: (s.freshened remote kinds).exchanges := by
  induction kinds generalizing s with
  | nil => exact List.prefix_rfl
  | cons kind rest ih => exact (prefix_exchanges_seenTo remote kind s).trans (ih _)

/-- **What becomes of a cache that is seen to.** It serves what was there if
that is fresh, and else what the list of its kind brings, if it brings
anything. -/
theorem served_freshened {kinds : List Kind} (hd : kinds.Nodup)
    (hc : ∀ kind ∈ kinds, kind ∈ Kind.cached) {k : Kind} (hk : k ∈ kinds) (remote : Remote)
    {s : Session} (hdecided : s.isStale k = .ok (s.knownStale k)) :
    Served remote k s (s.freshened remote kinds) := by
  induction kinds generalizing s with
  | nil => cases hk
  | cons kind rest ih =>
    obtain ⟨hnot, hrest⟩ := List.nodup_cons.1 hd
    rcases List.mem_cons.1 hk with rfl | hk
    · -- `k` itself is seen to here, and none of the rest touches it
      refine (served_seenTo (hc k List.mem_cons_self) remote hdecided).later ?_ ?_ ?_
      · exact cacheOf_freshened_of_not_mem hnot remote _
      · exact clock_freshened remote rest _
      · exact prefix_exchanges_freshened remote rest _
    · have hne : k ≠ kind := fun heq => hnot (heq ▸ hk)
      have hsame : (s.seenTo remote kind).isStale k =
          .ok ((s.seenTo remote kind).knownStale k) := by
        rw [isStale_seenTo_of_ne hne, knownStale_seenTo_of_ne hne, hdecided]
      refine (ih hrest (fun j hj => hc j (List.mem_cons_of_mem _ hj)) hk hsame).earlier ?_ ?_ ?_ ?_
      · exact cacheOf_seenTo_of_ne hne remote s
      · exact clock_seenTo remote kind s
      · exact client_seenTo remote kind s
      · exact prefix_exchanges_seenTo remote kind s

end Session

namespace Resolver

/-- A refill that may fail changes the session all the same. -/
theorem refillOrKeep_apply (kind : Kind) (remote : Remote) (s : Session) :
    ∃ log, refillOrKeep kind remote s = (.ok (), { s.refilled remote kind with log }) := by
  obtain ⟨log, hrefill⟩ := refill_apply kind remote s
  rw [refillOrKeep, Run.bind_apply, Run.attempt_apply, hrefill]
  cases Ask.snapshot remote s.client s.exchanges kind with
  | ok table => exact ⟨log, rfl⟩
  | error fault => exact ⟨_, rfl⟩

theorem isStale_apply {kind : Kind} (h : kind ∈ Kind.cached) (remote : Remote) (s : Session) :
    isStale kind remote s = (s.isStale kind, s) := by
  rw [isStale, Run.bind_apply, cache_apply h]
  rfl

/-- **Seeing to a cache** of which it can be told whether it is stale. -/
theorem ensureFresh_apply {kind : Kind} (hc : kind ∈ Kind.cached) (remote : Remote) {s : Session}
    (hdecided : s.isStale kind = .ok (s.knownStale kind)) :
    ∃ log, ensureFresh kind false remote s = (.ok (), { s.seenTo remote kind with log }) := by
  rw [ensureFresh, Run.bind_apply, isStale_apply hc, hdecided, Session.seenTo]
  cases s.knownStale kind with
  | false => exact ⟨s.log, rfl⟩
  | true => exact refillOrKeep_apply kind remote s

/-- **The entities of a cached kind**, read without insisting on a refill: those
that the cache holds once it has been seen to. -/
theorem referenceValues_apply {kind : Kind} (hc : kind ∈ Kind.cached) (remote : Remote)
    {s : Session} (hdecided : s.isStale kind = .ok (s.knownStale kind)) :
    ∃ log, referenceValues kind false remote s =
      (.ok ((s.seenTo remote kind).cacheOf kind).values, { s.seenTo remote kind with log }) := by
  obtain ⟨log, hfresh⟩ := ensureFresh_apply hc remote hdecided
  refine ⟨log, ?_⟩
  rw [referenceValues, Run.bind_of_ok _ hfresh, Run.bind_apply, cache_apply hc]
  rfl

/-- Seeing to a cache that ends well found out whether it is stale. -/
theorem ensureFresh_eq_ok {kind : Kind} (hc : kind ∈ Kind.cached) {remote : Remote}
    {s t : Session} (h : ensureFresh kind false remote s = (.ok (), t)) :
    s.isStale kind = .ok (s.knownStale kind) ∧ ∃ log, t = { s.seenTo remote kind with log } := by
  have hdecided : s.isStale kind = .ok (s.knownStale kind) := by
    rw [ensureFresh] at h
    obtain ⟨stale, m, hstale, -⟩ := Run.bind_eq_ok.1 h
    rw [isStale_apply hc, Prod.mk.injEq] at hstale
    rw [Session.knownStale, hstale.1]
    rfl
  obtain ⟨log, hlog⟩ := ensureFresh_apply hc remote hdecided
  rw [h, Prod.mk.injEq] at hlog
  exact ⟨hdecided, log, hlog.2⟩

/-- **Seeing to several caches** that ends well found out which of them are
stale, and saw to each. -/
theorem ensureAllFresh_eq_ok {kinds : List Kind} (hd : kinds.Nodup)
    (hc : ∀ kind ∈ kinds, kind ∈ Kind.cached) {remote : Remote} {s t : Session}
    (h : ensureAllFresh kinds remote s = (.ok (), t)) :
    (∀ kind ∈ kinds, s.isStale kind = .ok (s.knownStale kind)) ∧
      ∃ log, t = { s.freshened remote kinds with log } := by
  induction kinds generalizing s t with
  | nil =>
    cases h
    exact ⟨fun kind hk => absurd hk List.not_mem_nil, s.log, rfl⟩
  | cons kind rest ih =>
    obtain ⟨hnot, hrest⟩ := List.nodup_cons.1 hd
    rw [ensureAllFresh] at h
    obtain ⟨outcome, m, hfirst, h⟩ := Run.bind_eq_ok.1 h
    obtain ⟨others, n, hothers, h⟩ := Run.bind_eq_ok.1 h
    obtain ⟨_, m', houtcome, h⟩ := Run.bind_eq_ok.1 h
    rw [Run.attempt_apply, Prod.mk.injEq, Except.ok.injEq] at hfirst hothers
    rw [Run.ofExcept_apply, Prod.mk.injEq] at houtcome h
    -- faults come up only after every cache has been seen to
    have hone : ensureFresh kind false remote s = (.ok (), m) := by
      rw [← hfirst.2]
      exact Prod.ext (hfirst.1.trans houtcome.1) rfl
    have hall : ensureAllFresh rest remote m = (.ok (), t) := by
      rw [← h.2, ← houtcome.2, ← hothers.2]
      exact Prod.ext (hothers.1.trans h.1) rfl
    obtain ⟨hstale, log, rfl⟩ := ensureFresh_eq_ok (hc kind List.mem_cons_self) hone
    obtain ⟨hstales, log', rfl⟩ :=
      ih hrest (fun j hj => hc j (List.mem_cons_of_mem _ hj)) hall
    refine ⟨fun k hk => ?_, log', by rw [Session.freshened_log, Session.freshened]⟩
    rcases List.mem_cons.1 hk with rfl | hk
    · exact hstale
    · have hne : k ≠ kind := fun heq => hnot (heq ▸ hk)
      have hsame := hstales k hk
      rw [← Session.isStale_seenTo_of_ne hne remote s,
        ← Session.knownStale_seenTo_of_ne hne remote s]
      exact hsame

end Resolver

end Backlog
