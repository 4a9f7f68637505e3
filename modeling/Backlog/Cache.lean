import Backlog.Value.Access
/-!
# Caches of reference data

A cache holds one snapshot of a collection, keyed by id, and the time at
which it was loaded. A refill replaces the snapshot as a whole or, when its
source fails, not at all. A snapshot goes stale as a whole.
-/

namespace Backlog

/-- A snapshot of a collection with its age limit. -/
structure Cache where
  /-- How old a snapshot may be, in seconds. -/
  ttl : Number := .int 300
  /-- The snapshot. -/
  entries : Table Atom Value := []
  /-- When the snapshot was loaded. -/
  loadedAt : Option Number := none

namespace Cache

/-- An entry as a source gives it, or the fault that the source stops
with. -/
abbrev SourceEntry := Except Fault (Atom × Value)

/-- The snapshot that a source gives, or the first fault in it. -/
def snapshot? (source : List SourceEntry) : Except Fault (Table Atom Value) :=
  source.foldlM (fun table entry => do
    let (key, v) ← entry
    pure (table.insert key v)) []

/-- The value of a key. -/
def get? (cache : Cache) (key : Atom) : Option Value := cache.entries.get? key

/-- Whether a key has a value. -/
def contains (cache : Cache) (key : Atom) : Bool := cache.entries.contains key

/-- The values in the order of their keys. -/
def values (cache : Cache) : List Value := cache.entries.values

/-- The number of entries. -/
def size (cache : Cache) : Nat := cache.entries.length

/-- Replaces the snapshot by what the source gives, loaded now. -/
def refill (cache : Cache) (now : Number) (source : List SourceEntry) : Except Fault Cache := do
  let entries ← snapshot? source
  pure { cache with entries, loadedAt := some now }

/-- Forgets the snapshot. -/
def clear (cache : Cache) : Cache := { cache with entries := [], loadedAt := none }

/-- The age of the snapshot, if there is one. -/
def age (cache : Cache) (now : Number) : Except Fault (Option Number) :=
  match cache.loadedAt with
  | none => .ok none
  | some loaded =>
    match now.sub? loaded with
    | some age => .ok (some age)
    | none => .error .integerTooLarge

/-- Whether there is no snapshot, or one older than allowed. -/
def isStale (cache : Cache) (now : Number) : Except Fault Bool := do
  match ← cache.age now with
  | none => pure true
  | some age => pure (cache.ttl.lt age)

/-- A number that may be missing, as a value. -/
def optionalNumber (n : Option Number) : Value :=
  match n with
  | some n => .num n
  | none => .null

/-- The state of the cache for people. -/
def describe (cache : Cache) (now : Number) : Except Fault Value := do
  let age ← cache.age now
  let isStale ← cache.isStale now
  pure (.ofFields
    [("size", .int cache.size), ("loadedAt", optionalNumber cache.loadedAt),
     ("ageSeconds", optionalNumber age), ("stale", .bool isStale), ("ttlSeconds", .num cache.ttl)])

/-! ## Entries from values -/

/-- Reads an entry from a pair. `position` is that of the pair in its
source. -/
def pair? (position : Nat) (v : Value) : SourceEntry := do
  let parts ← v.elements
  match parts with
  | [key, v] =>
    let key ← key.asId
    pure (key, v)
  | _ => throw (.refused (.notAPair position parts.length))

/-- The entries of a list of pairs, from a position on. -/
def pairsFrom (position : Nat) : List Value → List SourceEntry
  | [] => []
  | v :: rest => pair? position v :: pairsFrom (position + 1) rest

/-- The entry of an entity, keyed by its id, if it has one. -/
def entityEntry? (entity : Value) : Except Fault (Option (Atom × Value)) := do
  if ← entity.has "id" then
    let id ← entity.required "id"
    let id ← id.asId
    pure (some (id, entity))
  else pure none

/-- The entries of a list of entities. Those without an id are left out. -/
def entityEntries (entities : List Value) : List SourceEntry :=
  entities.filterMap fun entity =>
    match entityEntry? entity with
    | .ok (some entry) => some (.ok entry)
    | .ok none => none
    | .error fault => some (.error fault)

end Cache

/-- The caches of the kinds that are listed as a whole. -/
structure Caches where
  /-- The members of the workspace. -/
  users : Cache := {}
  /-- The workflows. -/
  workflows : Cache := {}
  /-- The teams. -/
  teams : Cache := {}

namespace Caches

/-- The cache of a kind. -/
def get? (caches : Caches) : Kind → Except Fault Cache
  | .users => .ok caches.users
  | .workflows => .ok caches.workflows
  | .teams => .ok caches.teams
  | kind => .error (.notCached kind.name)

/-- The kind whose cache a value names. -/
def kindNamed (v : Value) : Except Fault Kind :=
  match Kind.cached.find? fun kind => v == .text kind.name with
  | some kind => .ok kind
  | none => .error (.notCached v.display)

/-- Replaces the cache of a kind. A kind without a cache leaves all as it
is. -/
def set (caches : Caches) (kind : Kind) (cache : Cache) : Caches :=
  match kind with
  | .users => { caches with users := cache }
  | .workflows => { caches with workflows := cache }
  | .teams => { caches with teams := cache }
  | _ => caches

/-- The state of the caches for people. -/
def describe (caches : Caches) (now : Number) : Except Fault Value := do
  let users ← caches.users.describe now
  let workflows ← caches.workflows.describe now
  let teams ← caches.teams.describe now
  pure (.ofFields [("users", users), ("workflows", workflows), ("teams", teams)])

end Caches

end Backlog
