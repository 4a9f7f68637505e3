import Backlog.Proofs.Resolution
/-!
# What hydration guarantees

Hydrating entities resolves what they refer to and shows the entities with
it. A call that returns has gone through the two rounds of resolving
(`Returns.exists_resolved`). So it has recorded exactly the ids that the
entities refer to and those that the epics and teams found refer to, it has
taken what it records of a cached kind from one snapshot that is as fresh as
could be had, and it has asked for what it needed, once each, and for nothing
else. How fresh that is, is told by the clock of the session, which stands still
during a call.
-/

namespace Backlog

namespace Hydrated

variable {kind : Kind} {primaries : List Value} {refs : Refs} {options : Options}
variable {workflows : Value} {result : Hydrated}

/-- A result has the references that it was made with. -/
theorem refs_ofMany (h : ofMany kind primaries refs options workflows = .ok result) :
    result.refs = refs := by
  obtain ⟨shaped, -, h⟩ := Except.bind_eq_ok.1 h
  obtain ⟨related, -, h⟩ := Except.bind_eq_ok.1 h
  cases h
  rfl

theorem refs_ofFirst (h : ofFirst kind primaries refs options workflows = .ok result) :
    result.refs = refs := by
  obtain ⟨shaped, -, h⟩ := Except.bind_eq_ok.1 h
  obtain ⟨related, -, h⟩ := Except.bind_eq_ok.1 h
  cases shaped with
  | nil => cases h
  | cons first others =>
    cases h
    rfl

end Hydrated

namespace Cache

/-- **What a cache gives for an id**, told by its entries alone. -/
inductive Gives (cache : Cache) (id : Atom) : Lookup → Prop where
  /-- An entity is stored under the id: the first entry whose key equals it holds
  the entity. -/
  | found {before after : Table Atom Value} {key : Atom} {entity : Value}
      (hentries : cache.entries = before ++ (key, entity) :: after) (hkey : (key == id) = true)
      (hfirst : ∀ entry ∈ before, (entry.1 == id) = false) (hsome : entity ≠ .null) :
      Gives cache id (.found entity)
  /-- Null is stored under the id. -/
  | null {before after : Table Atom Value} {key : Atom}
      (hentries : cache.entries = before ++ (key, .null) :: after) (hkey : (key == id) = true)
      (hfirst : ∀ entry ∈ before, (entry.1 == id) = false) : Gives cache id (.notFound id)
  /-- Nothing is stored under the id. -/
  | missing (hnone : ∀ entry ∈ cache.entries, (entry.1 == id) = false) :
      Gives cache id (.notFound id)

/-- **A look-up in a cache has the outcome that the cache gives**, and no other. -/
theorem gives_iff {cache : Cache} {id : Atom} {lookup : Lookup} :
    cache.Gives id lookup ↔ lookup = Resolver.cachedLookup cache id := by
  constructor
  · intro h
    cases h with
    | found hentries hkey hfirst hsome =>
      rename_i entity
      have hget : cache.get? id = some entity :=
        Table.get?_eq_some_iff.2 ⟨_, _, _, hentries, hkey, hfirst⟩
      have hnull : entity.isNull = false :=
        Bool.eq_false_iff.2 fun hnull => hsome (Value.eq_null_of_isNull hnull)
      simp only [Resolver.cachedLookup, hget, hnull, Bool.false_eq_true, if_false]
    | null hentries hkey hfirst =>
      have hget : cache.get? id = some .null :=
        Table.get?_eq_some_iff.2 ⟨_, _, _, hentries, hkey, hfirst⟩
      simp only [Resolver.cachedLookup, hget, Value.isNull, if_true]
    | missing hnone =>
      have hget : cache.get? id = none := Table.get?_eq_none_iff.2 hnone
      simp only [Resolver.cachedLookup, hget]
  · rintro rfl
    rw [Resolver.cachedLookup]
    cases hget : cache.get? id with
    | none => exact .missing (Table.get?_eq_none_iff.1 hget)
    | some entity =>
      obtain ⟨before, key, after, hentries, hkey, hfirst⟩ := Table.get?_eq_some_iff.1 hget
      dsimp only
      split
      · next hnull =>
        cases Value.eq_null_of_isNull hnull
        exact .null hentries hkey hfirst
      · next hsome =>
        refine .found hentries hkey hfirst ?_
        rintro rfl
        exact hsome rfl

/-- A cache gives one outcome for an id. -/
theorem Gives.unique {cache : Cache} {id : Atom} {lookup lookup' : Lookup}
    (h : cache.Gives id lookup) (h' : cache.Gives id lookup') : lookup = lookup' :=
  (gives_iff.1 h).trans (gives_iff.1 h').symm

end Cache

namespace Resolver

/-- A call that resolves what entities refer to and returns. -/
inductive Returns (remote : Remote) (s : Session) (kind : Kind) :
    List Value → Hydrated → Session → Prop where
  /-- For a list of entities. -/
  | many {primaries : List Value} {options : Hydrated.Options} {result : Hydrated} {t : Session}
      (hrun : resolveMany kind primaries options remote s = (.ok result, t)) :
      Returns remote s kind primaries result t
  /-- For one entity. -/
  | one {primary : Value} {options : Hydrated.Options} {result : Hydrated} {t : Session}
      (hrun : resolveOne kind primary options remote s = (.ok result, t)) :
      Returns remote s kind [primary] result t

/-- The ids of a kind that the primary entities do not refer to, but the epics
and teams found do, in the order in which they are met. -/
def furtherIds (kind : Kind) (primaries : List Value) (refs : Refs) (k : Kind) : List Atom :=
  (refs.referenced k).filter fun id => !(IdsByKind.referenced kind primaries k).contains id

namespace Returns

variable {remote : Remote} {s t : Session} {kind : Kind} {primaries : List Value}
variable {result : Hydrated}

/-- What a call does once it has the ids. -/
theorem exists_resolved_of_run {build : Refs → Value → Except Fault Hydrated}
    (hbuild : ∀ refs workflows result, build refs workflows = .ok result → result.refs = refs)
    (hrun : (do
      let ids ← IdsByKind.ofEntities kind primaries
      let refs ← resolveRefs ids
      let workflows ← knownWorkflows
      build refs workflows : Action Hydrated) remote s = (.ok result, t)) :
    ∃ ids further, (∀ k, idsOf ids k = (IdsByKind.referenced kind primaries k).eraseDups) ∧
      (∀ k, idsOf further k = (furtherIds kind primaries result.refs k).eraseDups) ∧
      Resolved remote s ids further result.refs t := by
  obtain ⟨ids, hids, hrun⟩ := Run.lift_bind_eq_ok.1 hrun
  obtain ⟨refs, m, hrefs, hrun⟩ := Run.bind_eq_ok.1 hrun
  obtain ⟨workflows, n, hknown, hrun⟩ := Run.bind_eq_ok.1 hrun
  cases hknown
  rw [Run.lift_apply, Prod.mk.injEq] at hrun
  obtain ⟨hresult, rfl⟩ := hrun
  obtain ⟨further, hresolved⟩ := resolveRefs_eq_ok (due_ofEntities hids) hrefs
  have hdirect := IdsByKind.idsOf_ofEntities hids
  rw [hbuild refs _ result hresult]
  refine ⟨ids, further, hdirect, fun k => ?_, hresolved⟩
  rw [hresolved.idsOf_further, hdirect, furtherIds]
  simp only [Distinct.contains_eraseDups]

/-- **A call that returns has gone through both rounds**, the first with the ids
that the primary entities refer to, the second with those that only the
related entities found refer to. -/
theorem exists_resolved (h : Returns remote s kind primaries result t) :
    ∃ ids further, (∀ k, idsOf ids k = (IdsByKind.referenced kind primaries k).eraseDups) ∧
      (∀ k, idsOf further k = (furtherIds kind primaries result.refs k).eraseDups) ∧
      Resolved remote s ids further result.refs t := by
  cases h with
  | many hrun => exact exists_resolved_of_run (fun _ _ _ => Hydrated.refs_ofMany) hrun
  | one hrun => exact exists_resolved_of_run (fun _ _ _ => Hydrated.refs_ofFirst) hrun

end Returns

/-! ## A call to try the statements on

A story of a team and an epic. The team is in its cache and has one member;
the cache of users was never filled, and the tracker knows nothing. The first
round finds the team and misses the epic, the second misses the member. -/

namespace Sample

/-- A tracker that has nothing. -/
def remote : Remote := fun _ _ => .answer 404 []

/-- An address of the tracker. -/
def url (path : String) : Http.Url where
  scheme := "https".toList
  userinfo := []
  host := "tracker".toList
  port := none
  path := path.toList
  query := none
  fragment := none

/-- What comes of asking for a path. -/
def exchange (path : String) : Http.Exchange :=
  ⟨0, { method := .get, url := url path, body := none, token := "token" }, .answer 404 []⟩

/-- The team. -/
def team : Value := .object [("id", .text "t"), ("member_ids", .list [.text "u"])]

/-- The story. -/
def story : Value := .object [("id", .int 5), ("group_id", .text "t"), ("epic_id", .int 7)]

/-- The id of the epic. -/
def epic : Atom := .num (.int 7)

/-- The session before the call. -/
def session : Session where
  client :=
    { serial := 0, settings := ⟨.text "token", "https://tracker", .int 30⟩, token := "token",
      base := url "/" }
  caches := { teams := { entries := [(.text "t", team)], loadedAt := some (.int 0) } }
  clock := .int 10

/-- The session after the first round. -/
def between : Session := { session with exchanges := [exchange "/epics/7"] }

/-- The session after the call. -/
def after : Session :=
  { between with
    exchanges := [exchange "/epics/7", exchange "/members"]
    log := [⟨.error, "Refill of " ++ Kind.users.name ++ " cache failed, serving stale data"⟩] }

/-- The ids that the story refers to. -/
def ids : IdsByKind :=
  [(.users, []), (.workflows, []), (.teams, [.text "t"]), (.epics, [epic]), (.iterations, [])]

/-- What the first round records. -/
def found : Refs :=
  ⟨[(.teams, [(.text "t", .found team)]), (.epics, [(epic, .notFound epic)])]⟩

/-- The ids that the team refers to. -/
def further : IdsByKind := [(.users, [.text "u"])]

/-- What both rounds record. -/
def refs : Refs := ⟨found.lookups ++ [(.users, [(.text "u", .notFound (.text "u"))])]⟩

theorem lookUp_ids : lookUp ids {} remote session = (.ok found, between) := by
  have hread : readCaches ids {} (cachedKindsOf ids) remote session =
      (.ok ⟨[(.teams, [(.text "t", .found team)])]⟩, session) := rfl
  have hjobs : fetchJobs ids ⟨[(.teams, [(.text "t", .found team)])]⟩ = [(.epics, epic)] := rfl
  have hfetch : fetch .epics epic remote session = (.ok (.notFound epic), between) := rfl
  rw [lookUp, Run.bind_of_ok _ hread, hjobs, fetchAll, Run.bind_of_ok _ hfetch]
  rfl

theorem resolveRefs_ids : resolveRefs ids remote session = (.ok refs, after) := by
  have hfresh : ensureAllFresh (unchecked ids []) remote session = (.ok (), session) := rfl
  have hround : round ids {} [] remote session = (.ok (found, [.teams]), between) :=
    Run.bind_eq_ok.2 ⟨_, _, hfresh, Run.bind_eq_ok.2 ⟨_, _, lookUp_ids, rfl⟩⟩
  have hfurther : IdsByKind.unresolved found = .ok further := rfl
  have hfresh' : ensureAllFresh (unchecked further [.teams]) remote between = (.ok (), after) := rfl
  have hlook' : lookUp further found remote after = (.ok refs, after) := rfl
  have hround' : round further found [.teams] remote between =
      (.ok (refs, [.teams, .users]), after) :=
    Run.bind_eq_ok.2 ⟨_, _, hfresh', Run.bind_eq_ok.2 ⟨_, _, hlook', rfl⟩⟩
  refine Run.bind_eq_ok.2 ⟨_, _, hround, Run.lift_bind_eq_ok.2 ⟨_, hfurther, ?_⟩⟩
  exact Run.bind_eq_ok.2 ⟨_, _, hround', rfl⟩

/-- The call returns, whether misses are marked or not. -/
theorem exists_resolveMany (markUnknown : Bool) :
    ∃ result, result.refs = refs ∧
      resolveMany .stories [story] { markUnknown } remote session = (.ok result, after) := by
  have hids : IdsByKind.ofEntities .stories [story] = .ok ids := rfl
  have hknown : knownWorkflows remote after = (.ok (.list []), after) := rfl
  obtain ⟨result, hresult⟩ : ∃ result,
      Hydrated.ofMany .stories [story] refs { markUnknown } (.list []) = .ok result := ⟨_, rfl⟩
  refine ⟨result, Hydrated.refs_ofMany hresult, Run.lift_bind_eq_ok.2 ⟨ids, hids, ?_⟩⟩
  refine Run.bind_eq_ok.2 ⟨_, _, resolveRefs_ids, Run.bind_eq_ok.2 ⟨_, _, hknown, ?_⟩⟩
  rw [Run.lift_apply, hresult]

theorem exists_returns :
    ∃ result, result.refs = refs ∧ Returns remote session .stories [story] result after := by
  obtain ⟨result, hrefs, hrun⟩ := exists_resolveMany false
  exact ⟨result, hrefs, .many hrun⟩

/-! ### Filled caches

A story of a team, with two owners. The caches hold other entities before the team
and the owner who is there; the other owner is not. The cache of users has grown
too old, and the tracker does not give the list anew. The second round finds the
member of the team. -/

/-- A user with a name for mentions. -/
def ann : Value :=
  .object [("id", .text "u"), ("profile", .object [("mention_name", .text "ann")])]

/-- A user without one. -/
def bob : Value := .object [("id", .text "v"), ("name", .text "Bob")]

/-- A team of the one. -/
def core : Value :=
  .object [("id", .text "t"), ("name", .text "Core"), ("member_ids", .list [.text "u"])]

/-- A team of the other. -/
def side : Value :=
  .object [("id", .text "s"), ("name", .text "Side"), ("member_ids", .list [.text "v"])]

/-- The story. -/
def owned : Value :=
  .object
    [("id", .int 6), ("group_id", .text "s"), ("owner_ids", .list [.text "u", .text "w"])]

/-- The session before the call. -/
def staffed : Session :=
  { session with
    caches :=
      { users := { entries := [(.text "v", bob), (.text "u", ann)], loadedAt := some (.int 0) }
        teams := { entries := [(.text "t", core), (.text "s", side)], loadedAt := some (.int 100) } }
    clock := .int 350 }

/-- The session after the call. -/
def staffedAfter : Session :=
  { staffed with
    exchanges := [exchange "/members"]
    log := [⟨.error, "Refill of " ++ Kind.users.name ++ " cache failed, serving stale data"⟩] }

/-- The ids that the story refers to. -/
def ownedIds : IdsByKind :=
  [(.users, [.text "u", .text "w"]), (.workflows, []), (.teams, [.text "s"]), (.epics, []),
    (.iterations, [])]

/-- What the first round records. -/
def ownedFound : Refs :=
  ⟨[(.users, [(.text "u", .found ann), (.text "w", .notFound (.text "w"))]),
    (.teams, [(.text "s", .found side)])]⟩

/-- What both rounds record. -/
def ownedRefs : Refs :=
  ⟨[(.users, [(.text "u", .found ann), (.text "w", .notFound (.text "w")),
      (.text "v", .found bob)]),
    (.teams, [(.text "s", .found side)])]⟩

theorem resolveRefs_ownedIds :
    resolveRefs ownedIds remote staffed = (.ok ownedRefs, staffedAfter) := by
  have hfresh : ensureAllFresh (unchecked ownedIds []) remote staffed = (.ok (), staffedAfter) :=
    rfl
  have hlook : lookUp ownedIds {} remote staffedAfter = (.ok ownedFound, staffedAfter) := rfl
  have hround : round ownedIds {} [] remote staffed =
      (.ok (ownedFound, [.users, .teams]), staffedAfter) :=
    Run.bind_eq_ok.2 ⟨_, _, hfresh, Run.bind_eq_ok.2 ⟨_, _, hlook, rfl⟩⟩
  have hfurther : IdsByKind.unresolved ownedFound = .ok [(.users, [.text "v"])] := rfl
  have hlook' : lookUp [(.users, [.text "v"])] ownedFound remote staffedAfter =
      (.ok ownedRefs, staffedAfter) := rfl
  have hround' : round [(.users, [.text "v"])] ownedFound [.users, .teams] remote staffedAfter =
      (.ok (ownedRefs, [.users, .teams]), staffedAfter) :=
    Run.bind_eq_ok.2 ⟨_, _, rfl, Run.bind_eq_ok.2 ⟨_, _, hlook', rfl⟩⟩
  refine Run.bind_eq_ok.2 ⟨_, _, hround, Run.lift_bind_eq_ok.2 ⟨_, hfurther, ?_⟩⟩
  exact Run.bind_eq_ok.2 ⟨_, _, hround', rfl⟩

theorem exists_resolveMany_staffed :
    ∃ result, result.refs = ownedRefs ∧
      resolveMany .stories [owned] {} remote staffed = (.ok result, staffedAfter) := by
  have hids : IdsByKind.ofEntities .stories [owned] = .ok ownedIds := rfl
  have hknown : knownWorkflows remote staffedAfter = (.ok (.list []), staffedAfter) := rfl
  obtain ⟨result, hresult⟩ : ∃ result,
      Hydrated.ofMany .stories [owned] ownedRefs {} (.list []) = .ok result := ⟨_, rfl⟩
  refine ⟨result, Hydrated.refs_ofMany hresult, Run.lift_bind_eq_ok.2 ⟨_, hids, ?_⟩⟩
  refine Run.bind_eq_ok.2 ⟨_, _, resolveRefs_ownedIds, Run.bind_eq_ok.2 ⟨_, _, hknown, ?_⟩⟩
  rw [Run.lift_apply, hresult]

end Sample

namespace Returns

variable {remote : Remote} {s t : Session} {kind : Kind} {primaries : List Value}
variable {result : Hydrated}

/-! ## Which ids are recorded -/

/-- **Resolving is complete, exact and closed.** The ids recorded of a kind are
those that the primary entities refer to, followed by those that only the
epics and teams found refer to, each once and in the order in which they are
met. Nothing that is referred to is left. -/
theorem records_exactly_what_is_referenced (h : Returns remote s kind primaries result t) :
    (∀ k, (result.refs.ofKind k).keys =
      (IdsByKind.referenced kind primaries k).eraseDups ++
        (furtherIds kind primaries result.refs k).eraseDups) ∧
      (∀ k, Distinct (result.refs.ofKind k).keys) ∧
      Distinct result.refs.lookups.keys ∧
      IdsByKind.unresolved result.refs = .ok [] := by
  obtain ⟨ids, further, hdirect, hfurther, hresolved⟩ := h.exists_resolved
  refine ⟨fun k => ?_, hresolved.distinct_keys, hresolved.distinct_kinds,
    hresolved.unresolved_eq_nil⟩
  rw [hresolved.keys_ofKind, hdirect, hfurther]

/-- The story refers to the team, and the team to the user. -/
theorem records_team_and_member :
    ∃ result, Returns Sample.remote Sample.session .stories [Sample.story] result Sample.after ∧
      (result.refs.ofKind .teams).keys = [.text "t"] ∧
      (result.refs.ofKind .users).keys = [.text "u"] ∧
      IdsByKind.unresolved result.refs = .ok [] := by
  obtain ⟨result, hrefs, h⟩ := Sample.exists_returns
  obtain ⟨hkeys, -, -, hclosed⟩ := records_exactly_what_is_referenced h
  refine ⟨result, h, ?_, ?_, hclosed⟩
  · rw [hkeys, hrefs]
    rfl
  · rw [hkeys, hrefs]
    rfl

/-! ## Which snapshots are served -/

/-- **All that is recorded of a cached kind comes from one snapshot**, the one
in the cache at the end: an id is found with the entity that is stored under it
there, and not found when there is none. That snapshot is not older than allowed
unless the tracker was asked for the list of the kind. -/
theorem serves_one_snapshot (h : Returns remote s kind primaries result t) {k : Kind}
    (hk : k ∈ Kind.cached) :
    (∀ id lookup, (id, lookup) ∈ result.refs.ofKind k → (t.cacheOf k).Gives id lookup) ∧
      (result.refs.ofKind k ≠ [] → Session.Served remote k s t) := by
  obtain ⟨ids, further, -, -, hresolved⟩ := h.exists_resolved
  refine ⟨fun id lookup hmem => Cache.gives_iff.2 (hresolved.lookup_eq_cachedLookup hk hmem),
    fun hsome => ?_⟩
  refine hresolved.served ((mem_checked_iff hk).2 ?_)
  have hkeys : idsOf ids k ++ idsOf further k ≠ [] := by
    rw [← hresolved.keys_ofKind]
    exact fun hnone => hsome (List.map_eq_nil_iff.1 hnone)
  by_cases hids : idsOf ids k = []
  · rw [hids, List.nil_append] at hkeys
    exact .inr hkeys
  · exact .inl hids

/-- The list of users was asked for in vain, so the old snapshot is served: it has
the owner of the story and the member of the team, whom the second round takes,
and not the other owner. -/
theorem serves_what_is_left :
    Session.Served Sample.remote .users Sample.staffed Sample.staffedAfter ∧
      ∃ result,
        Returns Sample.remote Sample.staffed .stories [Sample.owned] result Sample.staffedAfter ∧
        (result.refs.ofKind .users).keys = [.text "u", .text "w", .text "v"] ∧
        ∀ id lookup, (id, lookup) ∈ result.refs.ofKind .users →
          (id = .text "u" → lookup = .found Sample.ann) ∧
          (id = .text "w" → lookup = .notFound (.text "w")) ∧
          (id = .text "v" → lookup = .found Sample.bob) := by
  obtain ⟨result, hrefs, hrun⟩ := Sample.exists_resolveMany_staffed
  have h : Returns Sample.remote Sample.staffed .stories [Sample.owned] result
      Sample.staffedAfter := .many hrun
  obtain ⟨hgives, hserved⟩ := serves_one_snapshot h (k := .users) (by simp [Kind.cached])
  have hann : (Sample.staffedAfter.cacheOf .users).entries =
      [(.text "v", Sample.bob)] ++ (.text "u", Sample.ann) :: [] := rfl
  have hbob : (Sample.staffedAfter.cacheOf .users).entries =
      [] ++ (.text "v", Sample.bob) :: [(.text "u", Sample.ann)] := rfl
  refine ⟨hserved ?_, result, h, ?_, fun id lookup hmem => ⟨?_, ?_, ?_⟩⟩
  · rw [hrefs]
    exact List.cons_ne_nil _ _
  · rw [hrefs]
    rfl
  · rintro rfl
    exact (hgives _ _ hmem).unique (.found hann rfl (by decide) fun h => by cases h)
  · rintro rfl
    exact (hgives _ _ hmem).unique (.missing (by decide))
  · rintro rfl
    exact (hgives _ _ hmem).unique (.found hbob rfl (List.forall_mem_nil _) fun h => by cases h)

/-! ## What is asked -/

/-- **A call asks once for what it needs**, and for nothing else: for the list
of a cached kind when its cache was stale and there are ids of the kind, and
for each id of a fetched kind. Each ask is sent as one request, unless its
address cannot be made up or the client cannot send at all. -/
theorem asks_once_for_what_is_needed (h : Returns remote s kind primaries result t) :
    ∃ asks : List Ask,
      t.exchanges.map (·.request) = s.exchanges.map (·.request) ++
        asks.filterMap (fun ask => (ask.request s.client).toOption) ∧
      (∀ k ∈ Kind.cached, asks.count (.list k) ≤ 1 ∧
        (.list k ∈ asks ↔ s.isStale k = .ok true ∧
          (IdsByKind.referenced kind primaries k ≠ [] ∨
            furtherIds kind primaries result.refs k ≠ []))) ∧
      (∀ k ∈ Kind.fetched, asks.filterMap (Ask.fetchedId? k) =
        (IdsByKind.referenced kind primaries k).eraseDups ++
          (furtherIds kind primaries result.refs k).eraseDups) ∧
      ∀ ask ∈ asks, (∃ k ∈ Kind.cached, ask = .list k) ∨
        ∃ k ∈ Kind.fetched, ∃ id, ask = .fetch k id := by
  obtain ⟨ids, further, hdirect, hfurther, hresolved⟩ := h.exists_resolved
  refine ⟨Resolver.asks s ids further, ?_, fun k hk => ⟨?_, ?_⟩, fun k hk => ?_, fun ask hask => ?_⟩
  · rw [hresolved.exchanges_eq, Ask.map_request_run]
  · exact count_list_asks_le_one s ids further k
  · rw [list_mem_asks_iff hk, hdirect, hfurther, ne_eq, ne_eq,
      Distinct.eraseDups_eq_nil_iff, Distinct.eraseDups_eq_nil_iff]
  · rw [Resolver.asks, List.filterMap_append, fetchedIds_asksOfRound s ids [] hk,
      fetchedIds_asksOfRound s further _ hk, hdirect, hfurther]
  · rcases List.mem_append.1 hask with hfirst | hsecond
    · exact of_mem_asksOfRound hfirst
    · exact of_mem_asksOfRound hsecond

/-- The epic is fetched, and then the list of users is asked for. -/
theorem asks_for_epic_and_users :
    ∃ asks : List Ask,
      Sample.after.exchanges.map (·.request) = Sample.session.exchanges.map (·.request) ++
        asks.filterMap (fun ask => (ask.request Sample.session.client).toOption) ∧
      asks.filterMap (Ask.fetchedId? .epics) = [Sample.epic] ∧
      .list .users ∈ asks ∧ .list .teams ∉ asks := by
  obtain ⟨result, hrefs, h⟩ := Sample.exists_returns
  obtain ⟨asks, hsent, hlists, hfetches, -⟩ := asks_once_for_what_is_needed h
  refine ⟨asks, hsent, ?_, ?_, ?_⟩
  · rw [hfetches .epics (by simp [Kind.fetched]), hrefs]
    rfl
  · refine (hlists .users (by simp [Kind.cached])).2.2 ⟨rfl, .inr ?_⟩
    rw [hrefs]
    exact List.cons_ne_nil _ _
  · intro hteams
    have hstale := ((hlists .teams (by simp [Kind.cached])).2.1 hteams).1
    cases hstale

end Returns

end Resolver

end Backlog
