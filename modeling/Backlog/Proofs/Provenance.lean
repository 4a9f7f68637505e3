import Backlog.Proofs.Effect.Step
/-!
# Where cached values come from

A cache changes in one way only: it takes the snapshot of one complete list
of its kind, which the tracker sent in answer to the question for it, and the
time of that (`Cache.LoadedFrom`). So whatever work does, each cache is as it
was or holds such a snapshot (`Session.Steps.exists_keptOrLoaded`), and what a
cache holds under an id is an object with that id.
-/

namespace Backlog

namespace Cache

/-- A cache holds the snapshot of one complete list of a kind, which came among
some exchanges and every entity of which could be stored. -/
inductive LoadedFrom (kind : Kind) (exchanges : List Http.Exchange) (now : Number)
    (old new : Cache) : Prop where
  /-- The exchange is a client's question for the list, and its answer one of
  success whose body is the list. -/
  | intro (exchange : Http.Exchange) (hmem : exchange ∈ exchanges) (client : Client)
      (hclient : client.serial = exchange.client)
      (hrequest : (Ask.list kind).request client = .ok exchange.request)
      (status : Nat) (body : List UInt8) (hreply : exchange.reply = .answer status body)
      (hsuccess : Http.isSuccess status = true) (entities : List Value)
      (hbody : Json.ofBytes body = .ok (.list entities))
      (hstored : snapshot? (entityEntries entities) = .ok (snapshotOf entities))
      (hnew : new = old.loaded (snapshotOf entities) now)

/-- What may become of a cache: it is kept, or loaded anew. -/
def KeptOrLoaded (kind : Kind) (exchanges : List Http.Exchange) (now : Number)
    (old new : Cache) : Prop :=
  new = old ∨ LoadedFrom kind exchanges now old new

variable {kind : Kind} {exchanges others : List Http.Exchange} {now : Number}
variable {old middle new : Cache}

/-- The list may stand among more exchanges. -/
theorem LoadedFrom.mono (h : LoadedFrom kind exchanges now old new)
    (hsub : ∀ exchange ∈ exchanges, exchange ∈ others) : LoadedFrom kind others now old new := by
  obtain ⟨exchange, hmem, client, hclient, hrequest, status, body, hreply, hsuccess, entities,
    hbody, hstored, hnew⟩ := h
  exact ⟨exchange, hsub exchange hmem, client, hclient, hrequest, status, body, hreply, hsuccess,
    entities, hbody, hstored, hnew⟩

/-- What was loaded first is gone when the cache is loaded again. -/
theorem LoadedFrom.of_loadedFrom (h : LoadedFrom kind exchanges now old middle)
    (h' : LoadedFrom kind others now middle new) : LoadedFrom kind others now old new := by
  obtain ⟨exchange, hmem, client, hclient, hrequest, status, body, hreply, hsuccess, entities,
    hbody, hstored, rfl⟩ := h'
  refine ⟨exchange, hmem, client, hclient, hrequest, status, body, hreply, hsuccess, entities,
    hbody, hstored, ?_⟩
  cases h with
  | intro _ _ _ _ _ _ _ _ _ _ _ _ hmiddle =>
    rw [hmiddle]
    rfl

theorem KeptOrLoaded.refl : KeptOrLoaded kind exchanges now old old := .inl rfl

theorem KeptOrLoaded.trans (h : KeptOrLoaded kind exchanges now old middle)
    (h' : KeptOrLoaded kind others now middle new) :
    KeptOrLoaded kind (exchanges ++ others) now old new := by
  rcases h' with rfl | hloaded
  · rcases h with rfl | hloaded
    · exact .refl
    · exact .inr (hloaded.mono fun _ he => List.mem_append_left _ he)
  · refine .inr (LoadedFrom.mono ?_ fun _ he => List.mem_append_right exchanges he)
    rcases h with rfl | hfirst
    · exact hloaded
    · exact hfirst.of_loadedFrom hloaded

/-- Whether every value is an object whose id is the key that it is under. -/
def KeyedById (cache : Cache) : Prop :=
  ∀ key v, (key, v) ∈ cache.entries → ∃ fields own, v = .object fields ∧
    Table.get? fields "id" = some (.atom own) ∧ (own == key) = true

/-- What a cache that is keyed by ids gives is an object with an id. -/
theorem KeyedById.of_mem_values {cache : Cache} (h : cache.KeyedById) {v : Value}
    (hv : v ∈ cache.values) :
    ∃ fields own, v = .object fields ∧ Table.get? fields "id" = some (.atom own) := by
  obtain ⟨⟨key, v⟩, hmem, rfl⟩ := List.mem_map.1 hv
  obtain ⟨fields, own, hfields, hown, -⟩ := h key v hmem
  exact ⟨fields, own, hfields, hown⟩

/-- So is what it gives for a key. -/
theorem KeyedById.of_get? {cache : Cache} (h : cache.KeyedById) {key : Atom} {v : Value}
    (hv : cache.get? key = some v) :
    ∃ fields own, v = .object fields ∧ Table.get? fields "id" = some (.atom own) := by
  obtain ⟨own, hmem, -⟩ := Table.exists_mem_of_get?_eq_some hv
  exact h.of_mem_values (List.mem_map_of_mem hmem)

/-- A cache that holds the snapshot of a list is keyed by ids. -/
theorem keyedById_of_entries {cache : Cache} {entities : List Value}
    (h : cache.entries = snapshotOf entities) : cache.KeyedById := by
  intro key v hmem
  rw [h] at hmem
  obtain ⟨-, own, hown, hkey⟩ := idOf?_of_mem_snapshotOf hmem
  cases v with
  | atom a => cases hown
  | list items => cases hown
  | object fields =>
    refine ⟨fields, own, rfl, ?_, hkey⟩
    rw [Value.idOf?] at hown
    split at hown
    · next id hid =>
      cases hown
      exact hid
    · cases hown

/-- A cache that is loaded is keyed by ids. -/
theorem LoadedFrom.keyedById (h : LoadedFrom kind exchanges now old new) : new.KeyedById := by
  obtain ⟨-, -, -, -, -, -, -, -, -, entities, -, -, rfl⟩ := h
  exact keyedById_of_entries rfl

theorem KeptOrLoaded.keyedById (h : KeptOrLoaded kind exchanges now old new)
    (hold : old.KeyedById) : new.KeyedById := by
  rcases h with rfl | hloaded
  · exact hold
  · exact hloaded.keyedById

end Cache

namespace Session

variable {remote : Remote} {may : Deed → Prop} {s t : Session}

/-- **A snapshot that comes stands in an exchange.** -/
theorem loadedFrom_refilled {kind : Kind} {table : Table Atom Value} (hkind : kind ∈ Kind.cached)
    (h : Ask.snapshot remote s.client s.exchanges kind = .ok table) :
    Cache.LoadedFrom kind ((Ask.list kind).exchanges remote s.client s.exchanges) s.clock
      (s.cacheOf kind) ((s.refilled remote kind).cacheOf kind) := by
  obtain ⟨entities, hlisted, hstored⟩ := Except.bind_eq_ok.1 h
  obtain ⟨request, status, body, hrequest, hreply, hsuccess, hbody⟩ :=
    Ask.exchange_of_listed hlisted
  have hexchanges : (Ask.list kind).exchanges remote s.client s.exchanges =
      [⟨s.client.serial, request, remote s.exchanges request⟩] := by
    rw [Ask.exchanges, hrequest]
  have hcache := cacheOf_refilled hkind remote s
  rw [h, Cache.snapshot?_entityEntries hstored] at hcache
  rw [Cache.snapshot?_entityEntries hstored] at hstored
  rw [hexchanges]
  exact ⟨_, List.mem_singleton_self _, s.client, rfl, hrequest, status, body, hreply, hsuccess,
    entities, hbody, hstored, hcache⟩

/-- A refill leaves its cache keyed by ids. -/
theorem keyedById_refilled {kind : Kind} (hkind : kind ∈ Kind.cached)
    (h : (s.cacheOf kind).KeyedById) : ((s.refilled remote kind).cacheOf kind).KeyedById := by
  cases hsnapshot : Ask.snapshot remote s.client s.exchanges kind with
  | ok table => exact (loadedFrom_refilled hkind hsnapshot).keyedById
  | error fault =>
    rw [refilled_of_error hsnapshot]
    exact h

/-- A step keeps each cache or loads it from a list that comes in the step. -/
theorem Step.exists_keptOrLoaded (h : Step remote may s t) :
    ∃ received, t.exchanges = s.exchanges ++ received ∧ ∀ k ∈ Kind.cached,
      Cache.KeptOrLoaded k received s.clock (s.cacheOf k) (t.cacheOf k) := by
  cases h with
  | log line => exact ⟨[], (List.append_nil _).symm, fun _ _ => .refl⟩
  | send request hopen hmay => exact ⟨_, rfl, fun _ _ => .refl⟩
  | remember m user hmay hremember hunknown hasked =>
    obtain ⟨request, -, -, rfl⟩ := received_of_getIfThere hasked
    exact ⟨_, rfl, fun _ _ => .refl⟩
  | refill kind table hmay hkind hsnapshot =>
    refine ⟨_, exchanges_refilled remote kind s, fun k _ => ?_⟩
    by_cases heq : k = kind
    · subst heq
      exact .inr (loadedFrom_refilled hkind hsnapshot)
    · rw [cacheOf_refilled_of_ne heq]
      exact .refl

/-- **Work keeps each cache or loads it** from a list that comes meanwhile. -/
theorem Steps.exists_keptOrLoaded (h : Steps remote may s t) :
    ∃ received, t.exchanges = s.exchanges ++ received ∧ ∀ k ∈ Kind.cached,
      Cache.KeptOrLoaded k received s.clock (s.cacheOf k) (t.cacheOf k) := by
  induction h with
  | refl => exact ⟨[], (List.append_nil _).symm, fun _ _ => .refl⟩
  | @tail m n hsteps hstep ih =>
    obtain ⟨first, hfirst, hcaches⟩ := ih
    obtain ⟨second, hsecond, hcaches'⟩ := hstep.exists_keptOrLoaded
    refine ⟨first ++ second, by rw [hsecond, hfirst, List.append_assoc], fun k hk => ?_⟩
    have hnow := Steps.clock_eq hsteps
    have hnext := hcaches' k hk
    rw [hnow] at hnext
    exact (hcaches k hk).trans hnext

end Session

end Backlog
