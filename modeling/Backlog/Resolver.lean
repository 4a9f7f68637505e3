import Backlog.Api
import Backlog.Entity.Hydrated
/-!
# Resolving references

Users, workflows and teams are looked up in the caches, each of which is
refilled at most once if it is stale. Epics, iterations and objectives are
fetched one by one, and a fetch that fails or finds nothing becomes part of
the result. What the related epics and teams refer to is resolved in a
second round.
-/

namespace Backlog

namespace Resolver

/-! ## Caches -/

/-- The cache of a kind. -/
def cache (kind : Kind) : Action Cache := do
  let s ← Run.state
  s.caches.get? kind

/-- Puts a cache in its place. -/
def setCache (kind : Kind) (cache : Cache) : Action Unit :=
  Run.modify fun s => { s with caches := s.caches.set kind cache }

/-- Logs what a refill brought in. -/
def logRefill (kind : Kind) (listed installed : Nat) : Action Unit := do
  if installed < listed then
    Action.log .warning
      ("Skipped " ++ toString (listed - installed) ++ " " ++ kind.name ++
        " entries without an id")
  Action.log .info
    ("Refilled " ++ kind.name ++ " cache with " ++ toString installed ++ " entries")

/-- Replaces the snapshot of a kind by the tracker's list. -/
def refill (kind : Kind) : Action Unit := do
  let entities ← Api.listEntities kind
  let old ← cache kind
  let s ← Run.state
  let filled ← old.refill s.clock (Cache.entityEntries entities)
  setCache kind filled
  logRefill kind entities.length filled.size

/-- Refills the cache of a kind; if that fails, the old snapshot stays and
is served. -/
def refillOrKeep (kind : Kind) : Action Unit := do
  match ← (refill kind).attempt with
  | .ok () => pure ()
  | .error _ =>
    Action.log .error ("Refill of " ++ kind.name ++ " cache failed, serving stale data")

/-- Whether the cache of a kind is stale. -/
def isStale (kind : Kind) : Action Bool := do
  let c ← cache kind
  let s ← Run.state
  c.isStale s.clock

/-- Refills the cache of a kind if it is stale. A strict refill may fail. -/
def ensureFresh (kind : Kind) (strict : Bool) : Action Unit := do
  if ← isStale kind then
    if strict then refill kind else refillOrKeep kind

/-- Refills caches one after the other if they are stale. A fault of one does
not keep the others from it. -/
def ensureAllFresh : List Kind → Action Unit
  | [] => pure ()
  | kind :: rest => do
    let outcome ← (ensureFresh kind false).attempt
    let others ← (ensureAllFresh rest).attempt
    Run.ofExcept outcome
    Run.ofExcept others

/-! ## Fetches -/

/-- What a fetch gives and what it logs. -/
def fetchOutcome (kind : Kind) (id : Atom) : Except Fault Value → Action Lookup
  | .ok entity => pure (if entity.isNull then .notFound id else .found entity)
  | .error (.api fault) => do
    Action.log .warning
      ("Failed to fetch " ++ kind.name ++ " " ++ id.display ++ " during hydration: " ++
        fault.message)
    pure (.failure id fault.message)
  | .error fault => do
    Action.log .error
      ("Unexpected error fetching " ++ kind.name ++ " " ++ id.display ++ " during hydration")
    pure (.failure id fault.message)

/-- Fetches one entity. -/
def fetch (kind : Kind) (id : Atom) : Action Lookup := do
  let outcome ← (Api.getEntity kind (.atom id)).attempt
  fetchOutcome kind id outcome

/-! ## Rounds -/

/-- The ids of a kind. -/
def idsOf (ids : IdsByKind) (kind : Kind) : List Atom := (ids.get? kind).getD []

/-- The cached kinds of which there are ids. -/
def cachedKindsOf (ids : IdsByKind) : List Kind :=
  Kind.cached.filter fun kind => !(idsOf ids kind).isEmpty

/-- What a cache gives for an id. -/
def cachedLookup (c : Cache) (id : Atom) : Lookup :=
  match c.get? id with
  | some entity => if entity.isNull then .notFound id else .found entity
  | none => .notFound id

/-- Looks up an id in a cache unless that has been done. -/
def addCached (kind : Kind) (c : Cache) (refs : Refs) (id : Atom) : Refs :=
  if (refs.ofKind kind).contains id then refs else refs.record kind id (cachedLookup c id)

/-- Looks up the ids of some cached kinds. -/
def readCaches (ids : IdsByKind) (refs : Refs) : List Kind → Action Refs
  | [] => pure refs
  | kind :: rest => do
    let c ← cache kind
    readCaches ids ((idsOf ids kind).foldl (addCached kind c) refs) rest

/-- The fetches that are to be made: the ids of the fetched kinds that are
not looked up yet. -/
def fetchJobs (ids : IdsByKind) (refs : Refs) : List (Kind × Atom) :=
  Kind.fetched.flatMap fun kind =>
    ((idsOf ids kind).filter fun id => !(refs.ofKind kind).contains id).map fun id => (kind, id)

/-- Makes fetches one after the other. -/
def fetchAll (refs : Refs) : List (Kind × Atom) → Action Refs
  | [] => pure refs
  | (kind, id) :: rest => do
    let lookup ← fetch kind id
    fetchAll (refs.record kind id lookup) rest

/-- Looks up ids, those of cached kinds in the caches as they are. -/
def lookUp (ids : IdsByKind) (refs : Refs) : Action Refs := do
  let refs ← readCaches ids refs (cachedKindsOf ids)
  fetchAll refs (fetchJobs ids refs)

/-- Resolves ids. `checked` are the kinds whose caches have been seen to; the
answer has those that are seen to now as well. -/
def round (ids : IdsByKind) (refs : Refs) (checked : List Kind) : Action (Refs × List Kind) := do
  let unchecked := (cachedKindsOf ids).filter fun kind => !checked.contains kind
  ensureAllFresh unchecked
  let refs ← lookUp ids refs
  pure (refs, checked ++ unchecked)

/-- Goes on with what the related entities found refer to, after a first
round. -/
def secondRound (refs : Refs) (checked : List Kind) : Action Refs := do
  let further ← IdsByKind.unresolved refs
  if further.isEmpty then pure refs
  else
    let (refs, _) ← round further refs checked
    pure refs

/-- Resolves ids, and then what the related entities found refer to. -/
def resolveRefs (ids : IdsByKind) : Action Refs := do
  let (refs, checked) ← round ids {} []
  secondRound refs checked

/-- Resolves the ids that the fields of a value hold by kind. The caches are
seen to before it shows whether all of them can be ids. -/
def resolveGiven (given : Value) : Action Refs := do
  let given ← given.fields?
  let kinds := Kind.cached.filter fun kind => (Value.fieldOf given kind.name).truthy
  ensureAllFresh kinds
  let ids ← IdsByKind.ofFields given
  let refs ← lookUp ids {}
  secondRound refs kinds

/-! ## Results -/

/-- The workflows in the cache, as a list. -/
def knownWorkflows : Action Value := do
  let s ← Run.state
  pure (.list s.caches.workflows.values)

/-- Resolves what a list of entities refers to. -/
def resolveMany (kind : Kind) (primaries : List Value) (options : Hydrated.Options := {}) :
    Action Hydrated := do
  let ids ← IdsByKind.ofEntities kind primaries
  let refs ← resolveRefs ids
  let workflows ← knownWorkflows
  Hydrated.ofMany kind primaries refs options workflows

/-- Resolves what one entity refers to. -/
def resolveOne (kind : Kind) (primary : Value) (options : Hydrated.Options := {}) :
    Action Hydrated := do
  let ids ← IdsByKind.ofEntities kind [primary]
  let refs ← resolveRefs ids
  let workflows ← knownWorkflows
  Hydrated.ofFirst kind [primary] refs options workflows

/-- All entities of a cached kind. -/
def referenceValues (kind : Kind) (strict : Bool) : Action (List Value) := do
  ensureFresh kind strict
  let c ← cache kind
  pure c.values

/-- The entities of a cached kind whose ids are the elements of a value. -/
def referenceMap (kind : Kind) (ids : Value) : Action (Table Atom Value) := do
  ensureFresh kind false
  let c ← cache kind
  let ids ← ids.elements
  let ids ← (ids.mapM Value.asId : Except Fault (List Atom))
  pure (ids.eraseDups.filterMap fun id =>
    match c.get? id with
    | some entity => if entity.isNull then none else some (id, entity)
    | none => none)

/-- Refills the caches that values name one after the other, stale or not. -/
def refillAll : List Value → Action Unit
  | [] => pure ()
  | v :: rest => do
    let kind ← v.asKind
    refill kind
    refillAll rest

/-- The state of the caches. -/
def describeCaches : Action Value := do
  let s ← Run.state
  s.caches.describe s.clock

/-- Refills the caches named by the elements of a value, all of them when it
counts as nothing, and describes them. -/
def refresh (kinds : Value := .null) : Action Value := do
  let kinds ← (kinds.orElse (.texts (Kind.cached.map (·.name)))).elements
  refillAll kinds
  describeCaches

end Resolver

end Backlog
