import Mathlib.Data.List.Induction
import Backlog.Cache
import Backlog.Proofs.Run
import Backlog.Proofs.Table
/-!
# The history of a cache

A cache is refilled and cleared while its clock moves forward and back. What
it shows at any time can be told from the history alone, without a cache: look
back to the last refill that came to its end, unless the cache was cleared
since (`Cache.lastLoad`). `Cache.Shows` says what such a refill makes the cache
show, in terms of the entries of its source. An operation keeps the two in step
(`Cache.shows_apply`), and so does every series of operations
(`Cache.shows_last_refill`).
-/

namespace Backlog

namespace Cache

/-! ## Operations -/

/-- A cache and the clock that it reads. -/
structure Clocked where
  /-- The cache. -/
  cache : Cache
  /-- The time in seconds. -/
  now : Number

/-- What changes a cache or its clock. Reading a cache changes nothing. -/
inductive Operation where
  /-- The clock moves by some seconds, forward or back. -/
  | advance (seconds : Number)
  /-- The cache is refilled from a source, which may stop with a fault at any
  of its entries: where it breaks off, or where a key can be no id. -/
  | refill (source : List SourceEntry)
  /-- The cache is cleared. -/
  | clear

namespace Clocked

/-- How an operation ends, and what it leaves. A clock that cannot be moved
stays as it is. -/
def apply (c : Clocked) : Operation → Except Fault Unit × Clocked
  | .advance seconds =>
    match c.now.add? seconds with
    | some now => (.ok (), { c with now })
    | none => (.error .integerTooLarge, c)
  | .refill source =>
    match c.cache.refill c.now source with
    | .ok cache => (.ok (), { c with cache })
    | .error fault => (.error fault, c)
  | .clear => (.ok (), { c with cache := c.cache.clear })

/-- What some operations leave, one after the other. -/
def afterAll (c : Clocked) (operations : List Operation) : Clocked :=
  operations.foldl (fun c operation => (c.apply operation).2) c

end Clocked

/-! ## What a history tells -/

/-- The entries of a source that comes to its end, or the fault that it stops
with. -/
def complete? (source : List SourceEntry) : Except Fault (List (Atom × Value)) := source.mapM id

/-- A refill that came to its end. -/
structure Load where
  /-- The entries of the source, in order. -/
  entries : List (Atom × Value)
  /-- When the refill was made. -/
  time : Number

namespace Load

/-- The keys of the entries, each once, in the order and the spelling in which
they come first. -/
def keys (load : Load) : List Atom := (load.entries.map (·.1)).eraseDups

/-- The value that comes last for a key. -/
def last? (load : Load) (key : Atom) : Option Value :=
  (load.entries.reverse.find? fun entry => entry.1 == key).map (·.2)

/-- The keys with the values that come last for them. -/
def latest (load : Load) : Table Atom Value :=
  load.keys.filterMap fun key => (load.last? key).map fun v => (key, v)

end Load

/-- The clock after a history, which has the latest operation first. -/
def clockAfter (start : Number) : List Operation → Number
  | [] => start
  | .advance seconds :: past =>
    ((clockAfter start past).add? seconds).getD (clockAfter start past)
  | _ :: past => clockAfter start past

/-- The last refill in a history that came to its end, unless the cache was
cleared since. The history has the latest operation first. -/
def lastLoad (start : Number) : List Operation → Option Load
  | [] => none
  | .clear :: _ => none
  | .refill source :: past =>
    match complete? source with
    | .ok entries => some ⟨entries, clockAfter start past⟩
    | .error _ => lastLoad start past
  | .advance _ :: past => lastLoad start past

/-! ## What a cache shows -/

/-- **What a cache shows** at a time when `load?` is its last refill. -/
structure Shows (cache : Cache) (ttl now : Number) (load? : Option Load) : Prop where
  /-- Its entries are those of the refill: no key twice, the first spelling
  kept, the last value kept. -/
  entries : cache.entries = (load?.map Load.latest).getD []
  /-- The time at which it was loaded is that of the refill. -/
  loadedAt : cache.loadedAt = load?.map Load.time
  /-- A key reads what comes last for it. -/
  get : ∀ key, cache.get? key = load?.bind fun load => load.last? key
  /-- A key is there when some entry has it. -/
  contains : ∀ key, cache.contains key =
    load?.any fun load => load.entries.any fun entry => entry.1 == key
  /-- The values are those that come last for the keys, in order. -/
  values : cache.values =
    (load?.map fun load => load.keys.filterMap load.last?).getD []
  /-- The size is the number of keys. -/
  size : cache.size = (load?.map fun load => load.keys.length).getD 0
  /-- It is stale when there was no refill or the refill is longer ago than
  allowed. -/
  stale : cache.isStale now = .ok true ↔
    load? = none ∨ ∃ load age, load? = some load ∧ now.sub? load.time = some age ∧
      ttl.lt age = true
  /-- It is fresh when the refill is not longer ago than allowed. -/
  fresh : cache.isStale now = .ok false ↔
    ∃ load age, load? = some load ∧ now.sub? load.time = some age ∧ ttl.lt age = false
  /-- Before any refill it is described as empty and stale. -/
  describe_none : load? = none → cache.describe now = .ok (.ofFields
    [("size", .int 0), ("loadedAt", .null), ("ageSeconds", .null), ("stale", .bool true),
     ("ttlSeconds", .num ttl)])
  /-- After a refill it is described by what it shows otherwise. -/
  describe_some : ∀ load age, load? = some load → now.sub? load.time = some age →
    cache.describe now = .ok (.ofFields
      [("size", .int load.keys.length), ("loadedAt", .num load.time), ("ageSeconds", .num age),
       ("stale", .bool (ttl.lt age)), ("ttlSeconds", .num ttl)])

/-- The table of a refill is what writing its entries one after the other
gives. -/
theorem ofList_eq_latest (load : Load) : Table.ofList load.entries = load.latest := by
  rw [Table.ofList_eq, Load.latest]
  refine List.filterMap_congr fun key _ => ?_
  rw [Load.last?, Option.map_map]
  rfl

theorem get?_latest (load : Load) (key : Atom) : load.latest.get? key = load.last? key := by
  rw [← ofList_eq_latest, Table.get?_ofList, Load.last?]

theorem keys_latest (load : Load) : load.latest.keys = load.keys := by
  rw [← ofList_eq_latest, Table.keys_ofList]
  rfl

theorem contains_latest (load : Load) (key : Atom) :
    load.latest.contains key = load.entries.any fun entry => entry.1 == key := by
  rw [Table.contains, get?_latest, Load.last?, Option.isSome_map, List.isSome_find?,
    List.any_reverse]

theorem values_latest (load : Load) : load.latest.values = load.keys.filterMap load.last? := by
  rw [Table.values, Load.latest, List.map_filterMap]
  refine List.filterMap_congr fun key _ => ?_
  cases load.last? key <;> rfl

/-- **A cache with the table and the time of a refill shows that refill.** -/
theorem Shows.of_eq {cache : Cache} {load? : Option Load}
    (hentries : cache.entries = (load?.map Load.latest).getD [])
    (hloaded : cache.loadedAt = load?.map Load.time) (now : Number) :
    cache.Shows cache.ttl now load? := by
  cases load? with
  | none =>
    have hnil : cache.entries = [] := hentries
    have hnone : cache.loadedAt = none := hloaded
    have hage : cache.age now = .ok none := by rw [Cache.age, hnone]
    have hstale : cache.isStale now = .ok true := by
      rw [Cache.isStale, hage]
      rfl
    refine ⟨hentries, hloaded, fun key => ?_, fun key => ?_, ?_, ?_, ?_, ?_, fun _ => ?_, ?_⟩
    · rw [Cache.get?, hnil]
      rfl
    · rw [Cache.contains, hnil]
      rfl
    · rw [Cache.values, hnil]
      rfl
    · rw [Cache.size, hnil]
      rfl
    · simp [hstale]
    · simp [hstale]
    · have hsize : cache.size = 0 := by rw [Cache.size, hnil]; rfl
      simp only [Cache.describe, hage, hstale, hsize, hnone, bind, Except.bind]
      rfl
    · rintro load age ⟨⟩
  | some load =>
    have htable : cache.entries = load.latest := hentries
    have htime : cache.loadedAt = some load.time := hloaded
    -- how the age comes out decides all that is said of time
    have hage : ∀ age, now.sub? load.time = some age → cache.age now = .ok (some age) := by
      intro age hsub
      rw [Cache.age, htime]
      simp only [hsub]
    have hstale : ∀ age, now.sub? load.time = some age →
        cache.isStale now = .ok (cache.ttl.lt age) := by
      intro age hsub
      rw [Cache.isStale, hage age hsub]
      rfl
    have hnever : now.sub? load.time = none → cache.isStale now = .error .integerTooLarge := by
      intro hsub
      rw [Cache.isStale, Cache.age, htime]
      simp only [hsub, bind, Except.bind]
    refine ⟨hentries, hloaded, fun key => ?_, fun key => ?_, ?_, ?_, ?_, ?_, by rintro ⟨⟩, ?_⟩
    · rw [Cache.get?, htable, get?_latest]
      rfl
    · rw [Cache.contains, htable, contains_latest]
      rfl
    · rw [Cache.values, htable, values_latest]
      rfl
    · rw [Cache.size, htable, ← List.length_map (·.1), ← Table.keys, keys_latest]
      rfl
    · cases hsub : now.sub? load.time with
      | none => simp [hnever hsub, hsub]
      | some age => simp [hstale age hsub, hsub]
    · cases hsub : now.sub? load.time with
      | none => simp [hnever hsub, hsub]
      | some age => simp [hstale age hsub, hsub]
    · rintro load' age ⟨⟩ hsub
      have hsize : cache.size = load.keys.length := by
        rw [Cache.size, htable, ← List.length_map (·.1), ← Table.keys, keys_latest]
      simp only [Cache.describe, hage age hsub, hstale age hsub, hsize, htime, bind, Except.bind]
      rfl

/-! ## Operations keep in step with their history -/

/-- Reading a source writes its entries one after the other, if it comes to
its end. -/
theorem snapshot?_eq (source : List SourceEntry) :
    snapshot? source = (complete? source).map Table.ofList := by
  have hfrom : ∀ (source : List SourceEntry) (table : Table Atom Value),
      source.foldlM (fun table entry => do
        let entry ← entry
        pure (table.insert entry.1 entry.2)) table =
      (complete? source).map
        (List.foldl (fun table entry => Table.insert table entry.1 entry.2) table) := by
    intro source
    induction source with
    | nil => exact fun table => rfl
    | cons entry rest ih =>
      intro table
      rw [List.foldlM_cons, complete?, List.mapM_cons]
      cases entry with
      | error fault => rfl
      | ok entry =>
        have hrest := ih (table.insert entry.1 entry.2)
        simp only [bind, Except.bind, id, pure, Except.pure] at hrest ⊢
        rw [hrest, complete?]
        cases List.mapM id rest <;> rfl
  exact hfrom source []

/-- **A refill is all or nothing.** From a source that comes to its end the
cache takes all entries and the time; from any other it takes nothing. -/
theorem refill_eq (cache : Cache) (now : Number) (source : List SourceEntry) :
    cache.refill now source = (complete? source).map fun entries =>
      { cache with entries := Load.latest ⟨entries, now⟩, loadedAt := some now } := by
  rw [refill, snapshot?_eq]
  cases complete? source with
  | error fault => rfl
  | ok entries =>
    have htable : Table.ofList entries = Load.latest ⟨entries, now⟩ :=
      ofList_eq_latest ⟨entries, now⟩
    simp only [Except.map, bind, Except.bind, htable]
    rfl

theorem ttl_apply (c : Clocked) (operation : Operation) :
    (c.apply operation).2.cache.ttl = c.cache.ttl := by
  cases operation with
  | advance seconds =>
    rw [Clocked.apply]
    split <;> rfl
  | refill source =>
    rw [Clocked.apply, refill_eq]
    cases complete? source <;> rfl
  | clear => rfl

/-- The clock is in step with a history. -/
theorem now_apply {c : Clocked} {start : Number} {past : List Operation}
    (h : c.now = clockAfter start past) (operation : Operation) :
    (c.apply operation).2.now = clockAfter start (operation :: past) := by
  cases operation with
  | advance seconds =>
    rw [Clocked.apply, clockAfter, ← h]
    cases c.now.add? seconds <;> rfl
  | refill source =>
    rw [Clocked.apply, clockAfter, ← h]
    · cases c.cache.refill c.now source <;> rfl
    · rintro seconds ⟨⟩
  | clear => exact h

/-- The table and the time of a cache are those of the last refill in a
history. -/
def Holds (cache : Cache) (load? : Option Load) : Prop :=
  cache.entries = (load?.map Load.latest).getD [] ∧ cache.loadedAt = load?.map Load.time

/-- **An operation keeps a cache in step with its history.** -/
theorem holds_apply {c : Clocked} {start : Number} {past : List Operation}
    (hnow : c.now = clockAfter start past) (h : c.cache.Holds (lastLoad start past))
    (operation : Operation) :
    (c.apply operation).2.cache.Holds (lastLoad start (operation :: past)) := by
  cases operation with
  | advance seconds =>
    rw [Clocked.apply, lastLoad]
    cases c.now.add? seconds <;> exact h
  | refill source =>
    rw [Clocked.apply, lastLoad, refill_eq, ← hnow]
    cases complete? source with
    | error fault => exact h
    | ok entries => exact ⟨rfl, rfl⟩
  | clear => exact ⟨rfl, rfl⟩

/-- Every series of operations keeps a cache in step with its history. -/
theorem holds_afterAll (ttl start : Number) (operations : List Operation) :
    (Clocked.afterAll ⟨{ ttl }, start⟩ operations).cache.ttl = ttl ∧
      (Clocked.afterAll ⟨{ ttl }, start⟩ operations).now =
        clockAfter start operations.reverse ∧
      (Clocked.afterAll ⟨{ ttl }, start⟩ operations).cache.Holds
        (lastLoad start operations.reverse) := by
  induction operations using List.reverseRecOn with
  | nil => exact ⟨rfl, rfl, rfl, rfl⟩
  | append_singleton past operation ih =>
    obtain ⟨httl, hnow, hholds⟩ := ih
    rw [Clocked.afterAll, List.foldl_append, List.reverse_append]
    exact ⟨(ttl_apply _ _).trans httl, now_apply hnow operation,
      holds_apply hnow hholds operation⟩

/-- **A cache shows its last complete refill, and nothing else.** After any
operations, from any clock and with any age limit, all that is read of the
cache is told by the last refill that came to its end, unless the cache was
cleared since. A refill ends well exactly when its source comes to its end, and
one that does not leaves everything as it was. -/
theorem shows_last_refill (ttl start : Number) (operations : List Operation) :
    (Clocked.afterAll ⟨{ ttl }, start⟩ operations).cache.Shows ttl
        (clockAfter start operations.reverse) (lastLoad start operations.reverse) ∧
      (Clocked.afterAll ⟨{ ttl }, start⟩ operations).now = clockAfter start operations.reverse ∧
      ∀ source, ((Clocked.afterAll ⟨{ ttl }, start⟩ operations).apply (.refill source)).1 =
          (complete? source).map (fun _ => ()) ∧
        ∀ fault, complete? source = .error fault →
          ((Clocked.afterAll ⟨{ ttl }, start⟩ operations).apply (.refill source)).2 =
            Clocked.afterAll ⟨{ ttl }, start⟩ operations := by
  obtain ⟨httl, hnow, hentries, hloaded⟩ := holds_afterAll ttl start operations
  have hshows := Shows.of_eq hentries hloaded (clockAfter start operations.reverse)
  rw [httl] at hshows
  refine ⟨hshows, hnow, fun source => ⟨?_, fun fault hfault => ?_⟩⟩
  · rw [Clocked.apply, refill_eq]
    cases complete? source <;> rfl
  · rw [Clocked.apply, refill_eq, hfault]
    rfl

/-- A refill that breaks off leaves the one before it, and `true` is the id
`1`. -/
example : lastLoad (.int 0)
    [.refill [.ok (.text "a", .null), .error .integerTooLarge], .advance (.int 5),
      .refill [.ok (.num (.int 1), .text "x"), .ok (.bool true, .text "y")]] =
    some ⟨[(.num (.int 1), .text "x"), (.bool true, .text "y")], .int 0⟩ := rfl

end Cache

end Backlog
