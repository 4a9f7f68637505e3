import Backlog.Proofs.Ask
import Backlog.Proofs.Table
import Backlog.Resolver
/-!
# What a refill does

A refill asks for the list of a kind. If a list comes and every entry of it
can be stored, the cache of the kind holds the snapshot of that list, loaded
now; else only the exchange is left of it (`Resolver.refill_apply`). The
snapshot of a list is said without the insertions that make it: the ids in
the order in which they first stand in the list, each with the last entity
that has it (`Cache.snapshotOf`).
-/

namespace Backlog

/-! ## Snapshots of lists -/

/-- The id of an entity, if it is an object that has one. -/
def Value.idOf? : Value → Option Atom
  | .object fields =>
    match Table.get? fields "id" with
    | some (.atom id) => some id
    | _ => none
  | _ => none

namespace Cache

/-- Whether an entity has an id. -/
def hasId (id : Atom) (entity : Value) : Bool := entity.idOf?.any (· == id)

/-- The snapshot of a list of entities: each id once, in the order in which
the ids first stand in the list, with the last entity that has it. Entities
without an id are left out. -/
def snapshotOf (entities : List Value) : Table Atom Value :=
  (entities.filterMap Value.idOf?).eraseDups.filterMap fun id =>
    (entities.reverse.find? (hasId id)).map fun entity => (id, entity)

/-- The entities with their ids, those without one left out. -/
def keyed (entities : List Value) : List (Atom × Value) :=
  entities.filterMap fun entity => entity.idOf?.map fun id => (id, entity)

theorem keys_keyed (entities : List Value) :
    Table.keys (keyed entities) = entities.filterMap Value.idOf? := by
  rw [Table.keys, keyed, List.map_filterMap]
  refine List.filterMap_congr fun entity _ => ?_
  rw [Option.map_map]
  cases entity.idOf? <;> rfl

theorem find?_keyed (entities : List Value) (id : Atom) :
    ((keyed entities).find? fun entry => entry.1 == id).map (·.2) =
      entities.find? (hasId id) := by
  induction entities with
  | nil => rfl
  | cons entity rest ih =>
    rw [List.find?_cons, hasId, ← ih, keyed, List.filterMap_cons]
    cases entity.idOf? with
    | none => rfl
    | some other =>
      simp only [Option.map_some, Option.any_some, List.find?_cons]
      cases other == id <;> rfl

/-- **Writing the entities one after the other gives the snapshot.** -/
theorem ofList_keyed (entities : List Value) :
    Table.ofList (keyed entities) = snapshotOf entities := by
  rw [Table.ofList_eq, keys_keyed, snapshotOf]
  refine List.filterMap_congr fun id _ => ?_
  have hrev : (keyed entities).reverse = keyed entities.reverse := by
    rw [keyed, keyed, List.filterMap_reverse]
  rw [hrev, ← find?_keyed, Option.map_map]
  rfl

/-- What is read of an entity to store it: its id, or that it has none. -/
theorem idOf?_of_entityEntry? {entity : Value} {entry : Option (Atom × Value)}
    (h : entityEntry? entity = .ok entry) :
    entry = entity.idOf?.map fun id => (id, entity) := by
  obtain ⟨has, hhas, h⟩ := Except.bind_eq_ok.1 h
  cases has with
  | false =>
    cases h
    cases entity with
    | atom a => rfl
    | list items => rfl
    | object fields =>
      have hnone : (Table.get? fields "id").isSome = false := by
        injection hhas
      have hget : Table.get? fields "id" = none := by
        simpa using hnone
      simp only [Value.idOf?, hget, Option.map_none]
  | true =>
    obtain ⟨v, hv, h⟩ := Except.bind_eq_ok.1 h
    obtain ⟨id, hid, h⟩ := Except.bind_eq_ok.1 h
    cases h
    cases entity with
    | atom a => cases hv
    | list items => cases hv
    | object fields =>
      have hget : Table.get? fields "id" = some v := by
        rw [Value.required] at hv
        split at hv
        · next w hw =>
          cases hv
          exact hw
        · cases hv
      cases v with
      | atom a =>
        cases hid
        simp only [Value.idOf?, hget, Option.map_some]
      | list _ => cases hid
      | object _ => cases hid

/-- The snapshot of a source that is read to its end has its entries, written
one after the other. -/
theorem eq_ofList_of_snapshot? {source : List SourceEntry} {table : Table Atom Value}
    (h : snapshot? source = .ok table) :
    ∃ entries, source = entries.map .ok ∧ table = Table.ofList entries := by
  refine Except.foldlM_invariant
    (fun done table => ∃ entries, done = entries.map .ok ∧ table = Table.ofList entries)
    ?_ h ⟨[], rfl, rfl⟩
  rintro done c entry c' ⟨entries, rfl, rfl⟩ hc
  obtain ⟨⟨key, v⟩, rfl, hc⟩ := Except.bind_eq_ok.1 hc
  cases hc
  refine ⟨entries ++ [(key, v)], by rw [List.map_append]; rfl, ?_⟩
  rw [Table.ofList, Table.ofList, List.foldl_append]
  rfl

/-- The entries of a list that can all be stored. -/
theorem entityEntries_eq_map_ok {entities : List Value} {entries : List (Atom × Value)}
    (h : entityEntries entities = entries.map .ok) : entries = keyed entities := by
  induction entities generalizing entries with
  | nil =>
    cases entries with
    | nil => rfl
    | cons entry rest => cases h
  | cons entity rest ih =>
    rw [entityEntries, List.filterMap_cons] at h
    rw [keyed, List.filterMap_cons]
    cases hentry : entityEntry? entity with
    | error fault =>
      rw [hentry] at h
      cases entries with
      | nil => cases h
      | cons entry others => injection h with hhead; cases hhead
    | ok entry =>
      rw [hentry] at h
      have hid := idOf?_of_entityEntry? hentry
      cases hname : entity.idOf? with
      | none =>
        rw [hname] at hid
        cases hid
        exact ih h
      | some id =>
        rw [hname] at hid
        cases hid
        cases entries with
        | nil => cases h
        | cons entry others =>
          injection h with hhead htail
          cases hhead
          rw [ih htail]
          rfl

/-- **A list that can be stored gives its snapshot.** -/
theorem snapshot?_entityEntries {entities : List Value} {table : Table Atom Value}
    (h : snapshot? (entityEntries entities) = .ok table) : table = snapshotOf entities := by
  obtain ⟨entries, hsource, rfl⟩ := eq_ofList_of_snapshot? h
  rw [entityEntries_eq_map_ok hsource, ofList_keyed]

/-- **A snapshot holds objects under their ids.** -/
theorem idOf?_of_mem_snapshotOf {entities : List Value} {id : Atom} {entity : Value}
    (h : (id, entity) ∈ snapshotOf entities) :
    entity ∈ entities ∧ ∃ own, entity.idOf? = some own ∧ (own == id) = true := by
  obtain ⟨key, -, hkey⟩ := List.mem_filterMap.1 h
  obtain ⟨found, hfound, heq⟩ := Option.map_eq_some_iff.1 hkey
  cases heq
  refine ⟨List.mem_reverse.1 (List.mem_of_find?_eq_some hfound), ?_⟩
  have hid := List.find?_some hfound
  rw [hasId] at hid
  exact (Option.any_eq_true _ _).1 hid

end Cache

/-! ## Caches by kind -/

theorem Kind.mem_cached_iff {kind : Kind} :
    kind ∈ cached ↔ kind = .users ∨ kind = .workflows ∨ kind = .teams := by
  simp [cached]

/-- The cache with another snapshot. -/
def Cache.loaded (cache : Cache) (table : Table Atom Value) (now : Number) : Cache :=
  { cache with entries := table, loadedAt := some now }

namespace Caches

/-- The cache of a kind, an empty one for a kind that has none. -/
def cacheOf (caches : Caches) : Kind → Cache
  | .users => caches.users
  | .workflows => caches.workflows
  | .teams => caches.teams
  | _ => {}

/-- The cached kinds are the three that have a cache. -/
theorem get?_of_mem_cached {kind : Kind} (h : kind ∈ Kind.cached) (caches : Caches) :
    caches.get? kind = .ok (caches.cacheOf kind) := by
  rcases Kind.mem_cached_iff.1 h with rfl | rfl | rfl <;> rfl

/-- A cache that is put in its place leaves the others. -/
theorem cacheOf_set {kind : Kind} (h : kind ∈ Kind.cached) (caches : Caches) (cache : Cache)
    (k : Kind) :
    (caches.set kind cache).cacheOf k = if k = kind then cache else caches.cacheOf k := by
  rcases Kind.mem_cached_iff.1 h with rfl | rfl | rfl <;> cases k <;> simp [set, cacheOf]

end Caches

/-! ## Refills -/

/-- The snapshot that asking for the list of a kind brings. -/
def Ask.snapshot (remote : Remote) (client : Client) (past : List Http.Exchange) (kind : Kind) :
    Except Fault (Table Atom Value) := do
  let entities ← Ask.listed remote client past kind
  Cache.snapshot? (Cache.entityEntries entities)

theorem Ask.snapshot_of_listed {remote : Remote} {client : Client} {past : List Http.Exchange}
    {kind : Kind} {entities : List Value} (h : listed remote client past kind = .ok entities) :
    snapshot remote client past kind = Cache.snapshot? (Cache.entityEntries entities) := by
  rw [snapshot, h]
  rfl

theorem Ask.snapshot_of_listed_error {remote : Remote} {client : Client}
    {past : List Http.Exchange} {kind : Kind} {fault : Fault}
    (h : listed remote client past kind = .error fault) :
    snapshot remote client past kind = .error fault := by
  rw [snapshot, h]
  rfl

/-- Only the cached kinds have a list. -/
theorem Ask.listed_of_not_mem_cached {kind : Kind} (h : kind ∉ Kind.cached) (remote : Remote)
    (client : Client) (past : List Http.Exchange) :
    (∃ fault, Ask.listed remote client past kind = .error fault) ∧
      (Ask.list kind).exchanges remote client past = [] := by
  cases kind with
  | users => simp [Kind.cached] at h
  | workflows => simp [Kind.cached] at h
  | teams => simp [Kind.cached] at h
  | _ => exact ⟨⟨_, rfl⟩, rfl⟩

namespace Session

/-- The cache of a kind in a session. -/
def cacheOf (s : Session) (kind : Kind) : Cache := s.caches.cacheOf kind

theorem cacheOf_congr {s t : Session} (h : t.caches = s.caches) (kind : Kind) :
    t.cacheOf kind = s.cacheOf kind :=
  congrArg (Caches.cacheOf · kind) h

/-- The session after a refill: its cache holds the new snapshot, if there is
one. -/
def refilled (remote : Remote) (kind : Kind) (s : Session) : Session :=
  match Ask.snapshot remote s.client s.exchanges kind with
  | .ok table =>
    { s.asked remote (.list kind) with
      caches := s.caches.set kind ((s.cacheOf kind).loaded table s.clock) }
  | .error _ => s.asked remote (.list kind)

/-- Without a snapshot only the exchange is left. -/
theorem refilled_of_error {remote : Remote} {kind : Kind} {s : Session} {fault : Fault}
    (h : Ask.snapshot remote s.client s.exchanges kind = .error fault) :
    s.refilled remote kind = s.asked remote (.list kind) := by
  rw [refilled, h]

theorem client_refilled (remote : Remote) (kind : Kind) (s : Session) :
    (s.refilled remote kind).client = s.client := by
  rw [refilled]
  split <;> rfl

theorem clock_refilled (remote : Remote) (kind : Kind) (s : Session) :
    (s.refilled remote kind).clock = s.clock := by
  rw [refilled]
  split <;> rfl

theorem log_of_refilled (remote : Remote) (kind : Kind) (s : Session) :
    (s.refilled remote kind).log = s.log := by
  rw [refilled]
  split <;> rfl

theorem exchanges_refilled (remote : Remote) (kind : Kind) (s : Session) :
    (s.refilled remote kind).exchanges =
      s.exchanges ++ (Ask.list kind).exchanges remote s.client s.exchanges := by
  rw [refilled]
  split <;> rfl

/-- A refill touches its own cache only. -/
theorem cacheOf_refilled_of_ne {kind k : Kind} (h : k ≠ kind) (remote : Remote) (s : Session) :
    (s.refilled remote kind).cacheOf k = s.cacheOf k := by
  by_cases hc : kind ∈ Kind.cached
  · rw [refilled]
    split
    · rw [cacheOf, Caches.cacheOf_set hc, if_neg h, cacheOf]
    · rfl
  · obtain ⟨⟨fault, hfault⟩, -⟩ := Ask.listed_of_not_mem_cached hc remote s.client s.exchanges
    rw [refilled, Ask.snapshot, hfault]
    rfl

/-- **Its own cache holds the new snapshot**, or what it held. -/
theorem cacheOf_refilled {kind : Kind} (h : kind ∈ Kind.cached) (remote : Remote) (s : Session) :
    (s.refilled remote kind).cacheOf kind =
      match Ask.snapshot remote s.client s.exchanges kind with
      | .ok table => (s.cacheOf kind).loaded table s.clock
      | .error _ => s.cacheOf kind := by
  rw [refilled]
  cases Ask.snapshot remote s.client s.exchanges kind with
  | error fault => rfl
  | ok table =>
    dsimp only
    rw [cacheOf, Caches.cacheOf_set h, if_pos rfl]

/-- With a snapshot this is installed. -/
theorem entries_refilled {remote : Remote} {kind : Kind} {s : Session} {table : Table Atom Value}
    (h : Ask.snapshot remote s.client s.exchanges kind = .ok table) :
    ((s.refilled remote kind).cacheOf kind).entries = table := by
  have hcached : kind ∈ Kind.cached := by
    by_contra hnot
    obtain ⟨⟨fault, hfault⟩, -⟩ := Ask.listed_of_not_mem_cached hnot remote s.client s.exchanges
    rw [Ask.snapshot_of_listed_error hfault] at h
    cases h
  rw [cacheOf_refilled hcached, h]
  rfl

end Session

namespace Resolver

theorem cache_apply {kind : Kind} (h : kind ∈ Kind.cached) (remote : Remote) (s : Session) :
    cache kind remote s = (.ok (s.cacheOf kind), s) := by
  rw [cache, Run.bind_apply, Run.state_apply]
  dsimp only
  rw [Run.lift_apply, Caches.get?_of_mem_cached h, Session.cacheOf]

/-- The line that warns of entities without an id. -/
def skippedLine (kind : Kind) (skipped : Nat) : LogLine :=
  ⟨.warning, "Skipped " ++ toString skipped ++ " " ++ kind.name ++ " entries without an id"⟩

/-- The line that tells what was installed. -/
def refilledLine (kind : Kind) (installed : Nat) : LogLine :=
  ⟨.info, "Refilled " ++ kind.name ++ " cache with " ++ toString installed ++ " entries"⟩

/-- What is logged of a refill that left out some entities: the warning, unless there are
none, and what was installed. -/
def refillLines (kind : Kind) (skipped installed : Nat) : List LogLine :=
  if skipped = 0 then [refilledLine kind installed]
  else [skippedLine kind skipped, refilledLine kind installed]

/-- Logging what came in changes nothing but the log. -/
theorem logRefill_eq (kind : Kind) (listed installed : Nat) (remote : Remote) (s : Session) :
    logRefill kind listed installed remote s =
      (.ok (), { s with log := s.log ++ refillLines kind (listed - installed) installed }) := by
  rw [logRefill, refillLines]
  by_cases hall : installed < listed
  · rw [if_pos hall, if_neg (by omega)]
    simp only [Run.bind_apply, Action.log, Run.modify_apply, List.append_assoc]
    rfl
  · rw [if_neg hall, if_pos (by omega)]
    rfl

/-- **What a refill does.** If a list comes and can be stored, its snapshot is
installed and what came in is logged; else only the exchange is left. -/
theorem refill_eq (kind : Kind) (remote : Remote) (s : Session) :
    refill kind remote s =
      match Ask.listed remote s.client s.exchanges kind with
      | .error fault => (.error fault, s.asked remote (.list kind))
      | .ok entities =>
        match Cache.snapshot? (Cache.entityEntries entities) with
        | .error fault => (.error fault, s.asked remote (.list kind))
        | .ok table =>
          logRefill kind entities.length table.length remote (s.refilled remote kind) := by
  rw [refill, Run.bind_apply, Api.listEntities_apply]
  by_cases hc : kind ∈ Kind.cached
  · cases hlist : Ask.listed remote s.client s.exchanges kind with
    | error fault => rfl
    | ok entities =>
      dsimp only
      rw [Run.bind_apply, cache_apply hc]
      dsimp only
      rw [Run.bind_apply, Run.state_apply]
      dsimp only
      rw [Run.bind_apply, Run.lift_apply, Cache.refill]
      simp only [bind, Except.bind]
      cases hsnapshot : Cache.snapshot? (Cache.entityEntries entities) with
      | error fault => rfl
      | ok table =>
        rw [Session.refilled, Ask.snapshot_of_listed hlist, hsnapshot]
        rfl
  · -- a kind without a cache has no list either, so nothing is sent for it
    obtain ⟨⟨fault, hfault⟩, -⟩ := Ask.listed_of_not_mem_cached hc remote s.client s.exchanges
    rw [hfault]

/-- **How a refill ends**, but for the log: well exactly when asking brings a
snapshot, which it then installs. -/
theorem refill_apply (kind : Kind) (remote : Remote) (s : Session) :
    ∃ log, refill kind remote s =
      ((Ask.snapshot remote s.client s.exchanges kind).map fun _ => (),
        { s.refilled remote kind with log }) := by
  rw [refill_eq, Ask.snapshot]
  cases hlist : Ask.listed remote s.client s.exchanges kind with
  | error fault =>
    refine ⟨s.log, ?_⟩
    rw [Session.refilled_of_error (Ask.snapshot_of_listed_error hlist)]
    rfl
  | ok entities =>
    simp only [bind, Except.bind]
    cases hsnapshot : Cache.snapshot? (Cache.entityEntries entities) with
    | error fault =>
      refine ⟨s.log, ?_⟩
      rw [Session.refilled_of_error ((Ask.snapshot_of_listed hlist).trans hsnapshot)]
      rfl
    | ok table => exact ⟨_, logRefill_eq kind entities.length table.length remote _⟩

end Resolver

end Backlog
