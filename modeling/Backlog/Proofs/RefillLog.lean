import Backlog.Proofs.Collecting
import Backlog.Proofs.Hydration
import Backlog.Proofs.Json.Scalar
import Backlog.Proofs.Refill
/-!
# What a refill logs

A refill that ends well logs how many ids it has installed, and warns of the
entities that it has left out as being without an id. How many these are it takes
from the size of the snapshot, which also shrinks where an id is repeated: the
number in the warning is that of the entities without an id and of those whose id
an earlier one has (`Cache.length_eq_add`). So what is logged is the truth exactly
when no id is repeated (`Resolver.refill_logs`).
-/

namespace Backlog

namespace Cache

/-! ## Counting a list -/

/-- Whether a value has no id. -/
def lacksId (entity : Value) : Bool :=
  match entity.has "id" with
  | .ok has => !has
  | .error _ => false

/-- The number of entities without an id. -/
def withoutId (entities : List Value) : Nat := entities.countP lacksId

/-- The ids of the entities that have one, in order. -/
def idsIn (entities : List Value) : List Atom := entities.filterMap Value.idOf?

/-- The number of ids that an earlier one equals. -/
def repeated (ids : List Atom) : Nat :=
  ids.zipIdx.countP fun entry => (ids.take entry.2).contains entry.1

/-- One id more. -/
theorem repeated_concat (ids : List Atom) (id : Atom) :
    repeated (ids ++ [id]) = repeated ids + if ids.contains id then 1 else 0 := by
  have hbefore : ids.zipIdx.countP (fun entry => ((ids ++ [id]).take entry.2).contains entry.1) =
      repeated ids := by
    refine List.countP_congr fun entry hmem => ?_
    have hplace : entry.2 ≤ ids.length := Nat.le_of_lt (List.snd_lt_of_mem_zipIdx hmem)
    rw [List.take_append_of_le_length hplace]
  rw [repeated, List.zipIdx_append, List.countP_append, hbefore]
  simp [List.countP_cons]

/-- **Every id is kept or repeats an earlier one.** -/
theorem length_eq_eraseDups_add_repeated (ids : List Atom) :
    ids.length = ids.eraseDups.length + repeated ids := by
  induction ids using List.reverseRecOn with
  | nil => rfl
  | append_singleton ids id ih =>
    rw [repeated_concat, Distinct.eraseDups_concat, Distinct.contains_eraseDups,
      List.length_append, List.length_singleton]
    split
    · omega
    · rw [List.length_append, List.length_singleton]
      omega

/-- Nothing is repeated among ids that are distinct, and nowhere else. -/
theorem repeated_eq_zero_iff {ids : List Atom} : repeated ids = 0 ↔ Distinct ids := by
  induction ids using List.reverseRecOn with
  | nil => exact iff_of_true rfl Distinct.nil
  | append_singleton ids id ih =>
    have hlast : (∀ a ∈ ids, ∀ b ∈ [id], (a == b) = false) ↔ ids.contains id = false := by
      rw [Distinct.contains_eq_false_iff]
      refine forall₂_congr fun a _ => ?_
      rw [List.forall_mem_singleton, BEq.comm]
    rw [repeated_concat, Nat.add_eq_zero_iff, ih, Distinct.append_iff, hlast]
    refine and_congr_right fun _ => ?_
    have hone : Distinct [id] := List.pairwise_singleton _ id
    cases ids.contains id <;> simp [hone]

/-- The ids that a snapshot is keyed by. -/
theorem keys_snapshotOf (entities : List Value) :
    (snapshotOf entities).keys = (idsIn entities).eraseDups := by
  rw [← ofList_keyed, Table.keys_ofList]
  exact congrArg List.eraseDups (keys_keyed entities)

/-- The size of a snapshot is the number of distinct ids. -/
theorem length_snapshotOf (entities : List Value) :
    (snapshotOf entities).length = (idsIn entities).eraseDups.length := by
  rw [← keys_snapshotOf, Table.keys, List.length_map]

/-- What can be stored lacks an id when none is read of it. -/
theorem lacksId_eq_isNone {entity : Value} {entry : Option (Atom × Value)}
    (h : entityEntry? entity = .ok entry) : lacksId entity = entity.idOf?.isNone := by
  have hid := idOf?_of_entityEntry? h
  obtain ⟨has, hhas, h⟩ := Except.bind_eq_ok.1 h
  rw [lacksId, hhas]
  cases has with
  | false =>
    cases h
    rw [Option.map_eq_none_iff.1 hid.symm]
    rfl
  | true =>
    obtain ⟨v, -, h⟩ := Except.bind_eq_ok.1 h
    obtain ⟨id, -, h⟩ := Except.bind_eq_ok.1 h
    cases h
    obtain ⟨own, hown, -⟩ := Option.map_eq_some_iff.1 hid.symm
    rw [hown]
    rfl

/-- Every entity of a list that can be stored can be. -/
theorem exists_entry_of_snapshot? {entities : List Value} {table : Table Atom Value}
    (h : snapshot? (entityEntries entities) = .ok table) {entity : Value}
    (hmem : entity ∈ entities) : ∃ entry, entityEntry? entity = .ok entry := by
  obtain ⟨entries, hsource, -⟩ := eq_ofList_of_snapshot? h
  cases hentry : entityEntry? entity with
  | ok entry => exact ⟨entry, rfl⟩
  | error fault =>
    have hfault : .error fault ∈ entityEntries entities :=
      List.mem_filterMap.2 ⟨entity, hmem, by rw [hentry]⟩
    rw [hsource] at hfault
    obtain ⟨entry, -, hno⟩ := List.mem_map.1 hfault
    cases hno

/-- **The entities of a list that can be stored** are without an id, are the first with
their id, or repeat the id of an earlier one. -/
theorem length_eq_add {entities : List Value} {table : Table Atom Value}
    (h : snapshot? (entityEntries entities) = .ok table) :
    entities.length = withoutId entities + repeated (idsIn entities) + table.length := by
  have hwithout : withoutId entities = entities.countP fun entity => entity.idOf?.isNone := by
    refine List.countP_congr fun entity hmem => ?_
    obtain ⟨entry, hentry⟩ := exists_entry_of_snapshot? h hmem
    rw [lacksId_eq_isNone hentry]
  have hids : (idsIn entities).length = entities.countP fun entity => entity.idOf?.isSome :=
    List.length_filterMap_eq_countP
  have hall : entities.length = (entities.countP fun entity => entity.idOf?.isNone) +
      entities.countP fun entity => entity.idOf?.isSome := by
    rw [Nat.add_comm, List.length_eq_countP_add_countP fun entity : Value => entity.idOf?.isSome]
    refine congrArg _ (List.countP_congr fun entity _ => ?_)
    cases entity.idOf? <;> simp
  have hkept := length_eq_eraseDups_add_repeated (idsIn entities)
  rw [snapshot?_entityEntries h, length_snapshotOf]
  omega

end Cache

namespace Resolver

/-! ## The lines of the log -/

/-- The warning tells its number. -/
theorem skippedLine_injective {kind : Kind} {skipped other : Nat}
    (h : skippedLine kind skipped = skippedLine kind other) : skipped = other := by
  -- the texts around the number are the same, and the number is read back from its digits
  rw [skippedLine, skippedLine, LogLine.mk.injEq, String.append_left_inj, String.append_left_inj,
    String.append_left_inj, String.append_right_inj, Nat.toString_eq_ofList_toDigits,
    Nat.toString_eq_ofList_toDigits, String.ofList_inj] at h
  rw [← Decimal.ofAsciiDigits_toDigits skipped, h.2, Decimal.ofAsciiDigits_toDigits]

/-- The log tells how many were left out. -/
theorem refillLines_inj {kind : Kind} {skipped other installed : Nat} :
    refillLines kind skipped installed = refillLines kind other installed ↔ skipped = other := by
  refine ⟨fun h => ?_, fun h => by rw [h]⟩
  rw [refillLines, refillLines] at h
  split at h
  · next hnone =>
    split at h
    · next hother => rw [hnone, hother]
    · cases congrArg List.length h
  · split at h
    · cases congrArg List.length h
    · exact skippedLine_injective (List.cons.inj h).1

/-! ## What is logged of a list -/

open Cache

variable {kind : Kind} {remote : Remote} {s t : Session}

/-- A refill that ends well has a list that it could store. -/
theorem exists_listed_of_refill (h : refill kind remote s = (.ok (), t)) :
    ∃ entities table, Ask.listed remote s.client s.exchanges kind = .ok entities ∧
      snapshot? (entityEntries entities) = .ok table ∧
      logRefill kind entities.length table.length remote (s.refilled remote kind) = (.ok (), t) := by
  rw [refill_eq] at h
  cases hlist : Ask.listed remote s.client s.exchanges kind with
  | error fault =>
    rw [hlist] at h
    cases h
  | ok entities =>
    rw [hlist] at h
    dsimp only at h
    cases hsnapshot : snapshot? (entityEntries entities) with
    | error fault =>
      rw [hsnapshot] at h
      cases h
    | ok table =>
      rw [hsnapshot] at h
      exact ⟨entities, table, rfl, hsnapshot, h⟩

/-- **What a refill logs** that ends well. It tells the number of distinct ids, which are
those that are installed, and warns of the entities without an id and of those that repeat
one, by their number. So it tells how many are without an id exactly when no id is
repeated. -/
theorem refill_logs (h : refill kind remote s = (.ok (), t)) :
    ∃ entities, Ask.listed remote s.client s.exchanges kind = .ok entities ∧
      (t.cacheOf kind).entries.keys = (idsIn entities).eraseDups ∧
      t.log = s.log ++ refillLines kind (withoutId entities + repeated (idsIn entities))
        (idsIn entities).eraseDups.length ∧
      (t.log = s.log ++ refillLines kind (withoutId entities) (idsIn entities).eraseDups.length ↔
        Distinct (idsIn entities)) := by
  obtain ⟨entities, table, hlist, hsnapshot, hrun⟩ := exists_listed_of_refill h
  have htable : table = snapshotOf entities := snapshot?_entityEntries hsnapshot
  have hsize : table.length = (idsIn entities).eraseDups.length := by
    rw [htable, length_snapshotOf]
  have hskipped : entities.length - table.length =
      withoutId entities + repeated (idsIn entities) := by
    have hall := length_eq_add hsnapshot
    omega
  rw [logRefill_eq, hskipped, hsize] at hrun
  cases hrun
  have hlog : (s.refilled remote kind).log = s.log := Session.log_of_refilled remote kind s
  refine ⟨entities, hlist, ?_, ?_, ?_⟩
  · have hinstalled : ((s.refilled remote kind).cacheOf kind).entries = table :=
      Session.entries_refilled ((Ask.snapshot_of_listed hlist).trans hsnapshot)
    rw [← keys_snapshotOf, ← htable]
    exact congrArg Table.keys hinstalled
  · rw [hlog]
  · rw [hlog, List.append_cancel_left_eq, refillLines_inj, ← repeated_eq_zero_iff]
    omega

namespace Sample

/-- A tracker that answers everything with three entities, two of them without an id. -/
def halfKeyed : Remote := fun _ _ =>
  .answer 200 [91, 123, 34, 105, 100, 34, 58, 49, 125, 44, 123, 125, 44, 123, 125, 93]

/-- A tracker that answers everything with two entities of one id. -/
def twiceKeyed : Remote := fun _ _ =>
  .answer 200 [91, 123, 34, 105, 100, 34, 58, 49, 125, 44, 123, 34, 105, 100, 34, 58, 49, 125, 93]

end Sample

open Sample

/-- Two entities without an id are warned of as two. -/
theorem warns_of_two :
    ∃ t, refill .users halfKeyed session = (.ok (), t) ∧
      t.log = [skippedLine .users 2, refilledLine .users 1] := by
  have hrun : refill .users halfKeyed session = (.ok (), (refill .users halfKeyed session).2) := rfl
  obtain ⟨entities, hlist, -, hlog, -⟩ := refill_logs hrun
  cases hlist
  exact ⟨_, hrun, hlog⟩

/-- **A repeated id passes for none**: no entity of the list is without an id, and yet one is
warned of. -/
theorem repeated_id_passes_for_none :
    ∃ entities t, Ask.listed twiceKeyed session.client session.exchanges .users = .ok entities ∧
      refill .users twiceKeyed session = (.ok (), t) ∧ withoutId entities = 0 ∧
      t.log = [skippedLine .users 1, refilledLine .users 1] :=
  ⟨_, _, rfl, rfl, rfl, rfl⟩

end Resolver

end Backlog
