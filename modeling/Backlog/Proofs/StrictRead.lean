import Backlog.Proofs.Absorption
import Backlog.Proofs.Provenance
import Backlog.Proofs.Effect.Tools
/-!
# Strict reads of a cache

The entities of a cached kind are read in two ways. A strict read insists on a
snapshot that is not stale: it serves one that is young enough or that it has
just loaded (`Session.UpToDate`), and fails when the list of the kind cannot be
had (`Resolver.referenceValues_of_refused`). Any other read, hydration included,
makes do with what the cache holds. The two meet in one cache, and a strict read
that fails leaves it alone; in fact no work changes the cache of a kind while
the tracker does not give the list of it (`Session.Steps.cacheOf_of_refuses`).
So what was held goes on being served (`Tools.goesOnServing`). All ages are those
at the start of the call, since the clock stands still in it.
-/

namespace Backlog

namespace Session

variable {kind : Kind} {remote : Remote} {s m t : Session}

/-- **What a cache holds after a strict read**: the snapshot that was there,
which is not older than allowed, or one that was loaded meanwhile. -/
inductive UpToDate (kind : Kind) (s t : Session) : Prop where
  /-- The snapshot that was there. -/
  | fresh (age : Number) (hage : (s.cacheOf kind).age s.clock = .ok (some age))
      (hyoung : (s.cacheOf kind).ttl.lt age = false) (hcache : t.cacheOf kind = s.cacheOf kind)
  /-- The snapshot of a list that came in one of the exchanges since, because the
  one that was there is stale. -/
  | loaded (hstale : s.isStale kind = .ok true) (received : List Http.Exchange)
      (hreceived : t.exchanges = s.exchanges ++ received)
      (hloaded : Cache.LoadedFrom kind received s.clock (s.cacheOf kind) (t.cacheOf kind))

/-- The start may be moved back over what leaves the cache and the clock
alone. -/
theorem UpToDate.earlier (h : UpToDate kind m t) (hcache : m.cacheOf kind = s.cacheOf kind)
    (hclock : m.clock = s.clock) (hlog : s.exchanges <+: m.exchanges) : UpToDate kind s t := by
  cases h with
  | fresh age hage hyoung hsame =>
    rw [hcache] at hage hyoung hsame
    rw [hclock] at hage
    exact .fresh age hage hyoung hsame
  | loaded hstale received hreceived hloaded =>
    obtain ⟨sent, hsent⟩ := hlog
    rw [isStale_congr hcache hclock] at hstale
    rw [hcache, hclock] at hloaded
    refine .loaded hstale (sent ++ received) ?_
      (hloaded.mono fun _ he => List.mem_append_right _ he)
    rw [hreceived, ← hsent, List.append_assoc]

/-! ## Refusals -/

/-- Whether the tracker does not give the list of a kind, whatever is exchanged
before it is asked again. -/
def Refuses (remote : Remote) (kind : Kind) (s : Session) : Prop :=
  ∀ past, s.exchanges <+: past → ∃ fault, Ask.snapshot remote s.client past kind = .error fault

/-- Whether the client knows the current user has no part in asking for a
list. -/
theorem snapshot_eq_of_client_eq {client : Client} {user : Value}
    (h : client = { s.client with currentUser := user }) (past : List Http.Exchange) :
    Ask.snapshot remote client past kind = Ask.snapshot remote s.client past kind := by
  subst h
  rfl

/-- **No work changes the cache of a kind** while the tracker does not give the
list of it. -/
theorem Steps.cacheOf_of_refuses {may : Deed → Prop} (h : Steps remote may s t)
    (hrefuses : s.Refuses remote kind) : t.cacheOf kind = s.cacheOf kind := by
  induction h with
  | refl => rfl
  | @tail m n hsteps hstep ih =>
    rw [← ih]
    cases hstep with
    | log line => rfl
    | send request hopen hmay => rfl
    | remember m' user hmay hremember hunknown hasked =>
      obtain ⟨request, -, -, rfl⟩ := received_of_getIfThere hasked
      rfl
    | refill other table hmay hkind hsnapshot =>
      refine cacheOf_refilled_of_ne ?_ remote m
      rintro rfl
      -- a refill of the kind itself would have brought its list
      obtain ⟨received, hreceived, -⟩ := Steps.exists_received hsteps
      obtain ⟨fault, hfault⟩ := hrefuses m.exchanges ⟨received, hreceived.symm⟩
      rw [snapshot_eq_of_client_eq (Steps.client_eq hsteps), hfault] at hsnapshot
      cases hsnapshot

/-- Seeing to the cache of a kind does not change it then. -/
theorem caches_seenTo_of_refuses (hrefuses : s.Refuses remote kind) :
    (s.seenTo remote kind).caches = s.caches := by
  obtain ⟨fault, hfault⟩ := hrefuses s.exchanges List.prefix_rfl
  rw [seenTo, refilled_of_error hfault]
  split <;> rfl

end Session

namespace Resolver

variable {kind : Kind} {remote : Remote} {s t : Session} {values : List Value}

/-! ## Strict reads -/

/-- **A strict read that ends well** serves a snapshot that is up to date. -/
theorem of_referenceValues_strict (hc : kind ∈ Kind.cached)
    (h : referenceValues kind true remote s = (.ok values, t)) :
    values = (t.cacheOf kind).values ∧ Session.UpToDate kind s t := by
  obtain ⟨⟨⟩, m, hfresh, h⟩ := Run.bind_eq_ok.1 h
  rw [Run.bind_apply, cache_apply hc] at h
  cases h
  refine ⟨rfl, ?_⟩
  obtain ⟨stale, n, hstale, hfresh⟩ := Run.bind_eq_ok.1 hfresh
  rw [isStale_apply hc, Prod.mk.injEq] at hstale
  obtain ⟨hstale, rfl⟩ := hstale
  cases stale with
  | false =>
    cases hfresh
    obtain ⟨age, hage, hyoung⟩ := Session.isStale_eq_ok_false_iff.1 hstale
    exact .fresh age hage hyoung rfl
  | true =>
    -- the refill ended well, so the list came and was installed
    rw [if_pos rfl, if_pos rfl] at hfresh
    obtain ⟨log, hrefill⟩ := refill_apply kind remote s
    rw [hfresh, Prod.mk.injEq] at hrefill
    obtain ⟨hended, rfl⟩ := hrefill
    cases hsnapshot : Ask.snapshot remote s.client s.exchanges kind with
    | error fault =>
      rw [hsnapshot] at hended
      cases hended
    | ok table =>
      exact .loaded hstale _ (Session.exchanges_refilled remote kind s)
        (Session.loadedFrom_refilled hc hsnapshot)

/-- **A strict read that needs a list and does not get it** ends in the fault of
the refill, and only the question is left of it. -/
theorem referenceValues_of_refused (hc : kind ∈ Kind.cached) (hstale : s.isStale kind = .ok true)
    {fault : Fault} (hfault : Ask.snapshot remote s.client s.exchanges kind = .error fault) :
    ∃ log, referenceValues kind true remote s =
      (.error fault, { s.asked remote (.list kind) with log }) := by
  obtain ⟨log, hrefill⟩ := refill_apply kind remote s
  rw [Session.refilled_of_error hfault, hfault] at hrefill
  have hfresh : ensureFresh kind true remote s =
      (.error fault, { s.asked remote (.list kind) with log }) := by
    rw [ensureFresh, Run.bind_apply, isStale_apply hc, hstale]
    exact hrefill
  refine ⟨log, ?_⟩
  rw [referenceValues, Run.bind_apply, hfresh]

/-- **A strict read of a cache** that is fresh, or whose list comes. -/
theorem referenceValues_strict_apply {kind : Kind} (hc : kind ∈ Kind.cached) (remote : Remote)
    {s : Session} (hdecided : s.isStale kind = .ok (s.knownStale kind))
    (hloads : s.isStale kind = .ok true →
      ∃ table, Ask.snapshot remote s.client s.exchanges kind = .ok table) :
    ∃ log, referenceValues kind true remote s =
      (.ok ((s.seenTo remote kind).cacheOf kind).values, { s.seenTo remote kind with log }) := by
  have hfresh : ∃ log, ensureFresh kind true remote s =
      (.ok (), { s.seenTo remote kind with log }) := by
    rw [ensureFresh, Run.bind_apply, isStale_apply hc, Session.seenTo]
    cases hstale : s.knownStale kind with
    | false =>
      rw [hstale] at hdecided
      rw [hdecided]
      exact ⟨s.log, rfl⟩
    | true =>
      rw [hstale] at hdecided
      obtain ⟨table, htable⟩ := hloads hdecided
      obtain ⟨log, hrefill⟩ := refill_apply kind remote s
      rw [htable] at hrefill
      rw [hdecided]
      exact ⟨log, hrefill⟩
  obtain ⟨log, hfresh⟩ := hfresh
  refine ⟨log, ?_⟩
  rw [referenceValues, Run.bind_of_ok _ hfresh, Run.bind_apply, cache_apply hc]
  rfl

/-- A read that does not insist on the list makes do with what the cache
holds. -/
theorem referenceValues_of_refuses (hc : kind ∈ Kind.cached) (hrefuses : s.Refuses remote kind)
    {stale : Bool} (hdecided : s.isStale kind = .ok stale) :
    ∃ t, referenceValues kind false remote s = (.ok (s.cacheOf kind).values, t) ∧
      t.caches = s.caches := by
  have hknown : s.isStale kind = .ok (s.knownStale kind) := by
    rw [Session.knownStale, hdecided]
    rfl
  have hkept := Session.caches_seenTo_of_refuses hrefuses
  obtain ⟨log, hread⟩ := referenceValues_apply hc remote hknown
  rw [Session.cacheOf, hkept] at hread
  exact ⟨_, hread, hkept⟩

end Resolver

namespace Tools

/-! ## Searches behind a strict read -/

/-- A search whose answer takes what it shows of a kind from one cache: it has
found nothing, or what it records for an id of the kind is what that cache gives
for it. -/
inductive ServedFrom (remote : Remote) (kind : Kind) (cache : Cache) (sought : Kind)
    (t : Session) : String → Prop where
  /-- Nothing was found. -/
  | nothing :
      ServedFrom remote kind cache sought t
        (Report.render ("Result: No " ++ sought.name ++ " found."))
  /-- Entities were found and hydrated. -/
  | found {n : Session} {entities : List Value} {result : Hydrated} {heading : String}
      {token : Value} (hreturns : Resolver.Returns remote n sought entities result t)
      (hlookups : ∀ id lookup, (id, lookup) ∈ result.refs.ofKind kind →
        cache.Gives id lookup) :
      ServedFrom remote kind cache sought t (Report.render heading result.toValue token)

variable {kind sought : Kind} {remote : Remote} {s t : Session}

/-- A search that answers leaves the cache of a kind as it is and serves it, while
the tracker does not give the list of the kind. -/
theorem search_serves (hc : kind ∈ Kind.cached) (hrefuses : s.Refuses remote kind)
    {params : Table String Value} {negate token : Value} {text : String}
    (h : search sought params negate token remote s = (.ok text, t)) :
    t.cacheOf kind = s.cacheOf kind ∧
      ServedFrom remote kind (s.cacheOf kind) sought t text := by
  have huses : Action.Uses (fun _ => True) (search sought params negate token) :=
    uses_search trivial trivial sought params negate token
  have hcache := (huses.steps h).cacheOf_of_refuses hrefuses
  refine ⟨hcache, ?_⟩
  obtain ⟨query, m, -, h⟩ := Run.bind_eq_ok.1 h
  obtain ⟨page, n, -, h⟩ := Run.bind_eq_ok.1 h
  split at h
  · cases h
    exact .nothing
  · obtain ⟨result, t', hrun, h⟩ := Run.bind_eq_ok.1 h
    cases h
    have hreturns := Resolver.Returns.many hrun
    obtain ⟨ids, further, -, -, hresolved⟩ := hreturns.exists_resolved
    refine .found hreturns fun id lookup hmem => ?_
    rw [← hcache]
    exact Cache.gives_iff.2 (hresolved.lookup_eq_cachedLookup hc hmem)

/-- **A search whose page comes answers**, if what is found can be hydrated at all:
no cache that cannot be refilled keeps it from that. -/
theorem exists_search (hremote : remote.Sound) (hs : s.Sound) {params : Table String Value}
    {negate token : Value} {query : String} {page : SearchPage} {m n : Session}
    (hquery : compile sought params negate remote s = (.ok query, m))
    (hpage : Api.search sought (.text query) Api.defaultPageSize token remote m = (.ok page, n))
    (hitems : ∀ item ∈ page.items, item.IsPrimary sought false) :
    ∃ text t, search sought params negate token remote s = (.ok text, t) := by
  have hcompile : Action.Uses (fun _ => True) (compile sought params negate) :=
    uses_compile trivial trivial sought params negate
  have hsearch : Action.Uses (fun _ => True)
      (Api.search sought (.text query) Api.defaultPageSize token) :=
    Api.uses_search trivial sought _ _ token
  have hn : n.Sound :=
    (hs.steps hremote (hcompile.steps hquery)).steps hremote (hsearch.steps hpage)
  rw [search, Run.bind_of_ok _ hquery, Run.bind_of_ok _ hpage]
  split
  · exact ⟨_, _, rfl⟩
  · have hprimaries : ∀ item ∈ page.items,
        item.IsPrimary sought ({} : Hydrated.Options).full := hitems
    obtain ⟨result, t, hrun, -⟩ := Resolver.exists_resolveMany hremote hn hprimaries
    exact ⟨_, _, Run.bind_eq_ok.2 ⟨_, _, hrun, rfl⟩⟩

/-- **A cache that goes on being served**, though the list of its kind cannot be
had. -/
structure GoesOnServing (remote : Remote) (kind : Kind) (cache : Cache) (s : Session) : Prop where
  /-- A read that does not insist on the list gets the entities of the cache. -/
  read : ∀ stale, s.isStale kind = .ok stale →
    ∃ t, Resolver.referenceValues kind false remote s = (.ok cache.values, t) ∧
      t.caches = s.caches
  /-- A search that answers serves the cache, and leaves it as it is. -/
  serves : ∀ sought params negate token text t,
    search sought params negate token remote s = (.ok text, t) →
      t.cacheOf kind = cache ∧ ServedFrom remote kind cache sought t text
  /-- A search answers if its page comes and can be hydrated. -/
  answers : remote.Sound → s.Sound → ∀ sought params negate token query m page n,
    compile sought params negate remote s = (.ok query, m) →
      Api.search sought (.text query) Api.defaultPageSize token remote m = (.ok page, n) →
        (∀ item ∈ page.items, item.IsPrimary sought false) →
          ∃ text t, search sought params negate token remote s = (.ok text, t)

/-- **What was held goes on being served** while the tracker does not give the
list of its kind. -/
theorem goesOnServing (hc : kind ∈ Kind.cached) (hrefuses : s.Refuses remote kind) :
    GoesOnServing remote kind (s.cacheOf kind) s where
  read := fun _ => Resolver.referenceValues_of_refuses hc hrefuses
  serves := fun _ _ _ _ _ _ => search_serves hc hrefuses
  answers := fun hremote hs _ _ _ _ _ _ _ _ => exists_search hremote hs

end Tools

end Backlog
