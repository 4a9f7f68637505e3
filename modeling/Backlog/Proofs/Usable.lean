import Backlog.Proofs.Round
import Backlog.Proofs.Shape
/-!
# Entities that can be used

Hydration reads related entities in three ways: it follows the references of
epics and teams, it names them, and it looks for the state of a story in
workflows. An entity that all of this can be done with is `UsableAs` one of its
kind; one that can be hydrated itself satisfies `IsPrimary`. From such
entities ids can be collected (`exists_ofEntities`, `exists_unresolved`).
-/

namespace Backlog

/-! ## Fields that refer to entities -/

namespace Reference

/-- What the field of a reference may hold. It is an id, which may be null,
or a value whose elements are ids. -/
def Admits (ref : Reference) (v : Value) : Prop :=
  if ref.many then ∃ ids : List Atom, v.orNoItems.elements = .ok (ids.map .atom)
  else ∃ id, v = .atom id

/-- The ids of such a field can be read. -/
theorem exists_ids {ref : Reference} {fields : Table String Value}
    (h : ref.Admits (Value.fieldOf fields ref.idField)) :
    ∃ ids : List Atom, ref.ids (.object fields) = .ok (ids.map .atom) := by
  simp only [ids, Value.field, bind, Except.bind]
  rw [Admits] at h
  split at h
  · next hmany =>
    obtain ⟨ids, hids⟩ := h
    rw [if_pos hmany, hids]
    exact ⟨ids.filter fun id => !isBlankId (.atom id), congrArg Except.ok List.filter_map⟩
  · next hone =>
    obtain ⟨id, hid⟩ := h
    rw [if_neg hone, hid]
    split
    · exact ⟨[], rfl⟩
    · exact ⟨[id], rfl⟩

end Reference

/-- Values that are atoms are ids. -/
theorem Value.mapM_asId_atoms (ids : List Atom) :
    (ids.map Value.atom).mapM Value.asId = .ok ids := by
  induction ids with
  | nil => rfl
  | cons id rest ih =>
    rw [List.map_cons, List.mapM_cons, ih]
    rfl

/-! ## Usable entities -/

/-- The fields of a related entity that all its readings go well with. -/
structure Entity.Usable (kind : Kind) (fields : Table String Value) : Prop where
  /-- The references that are followed can be read. -/
  references : ∀ ref ∈ kind.secondaryReferences, ref.Admits (Value.fieldOf fields ref.idField)
  /-- The profile of a user is an object, if there is one. -/
  profile : kind = .users → (Value.fieldOf fields "profile").IsObjectIfAny
  /-- The states of a workflow are objects, if there are any. -/
  states : kind = .workflows → (Value.fieldOf fields "states").AreObjectsIfAny

/-- The value is an object that can be used as an entity of the kind. -/
def Value.UsableAs (v : Value) (kind : Kind) : Prop :=
  ∃ fields, v = .object fields ∧ Entity.Usable kind fields

/-- The fields of a primary entity that can be hydrated. `full` tells whether
all of them are to be shown. -/
structure Entity.Primary (kind : Kind) (full : Bool) (fields : Table String Value) : Prop where
  /-- The references can be read. -/
  references : ∀ ref ∈ kind.references, ref.Admits (Value.fieldOf fields ref.idField)
  /-- The profile of a user is an object, if there is one and it is shown. -/
  profile : kind = .users → full = false → (Value.fieldOf fields "profile").IsObjectIfAny

/-- The value is an object that can be hydrated as an entity of the kind. -/
def Value.IsPrimary (v : Value) (kind : Kind) (full : Bool) : Prop :=
  ∃ fields, v = .object fields ∧ Entity.Primary kind full fields

/-! ## Collecting ids -/

namespace IdsByKind

/-- The ids of an entity can be added. -/
theorem exists_addReference {ref : Reference} {fields : Table String Value}
    (h : ref.Admits (Value.fieldOf fields ref.idField)) (collected : IdsByKind) :
    ∃ collected', addReference (.object fields) collected ref = .ok collected' := by
  obtain ⟨ids, hids⟩ := Reference.exists_ids h
  refine ⟨collected.add ref.kind ids, Except.bind_eq_ok.2 ⟨_, hids, ?_⟩⟩
  exact Except.bind_eq_ok.2 ⟨ids, Value.mapM_asId_atoms ids, rfl⟩

/-- **Collecting from primary entities ends well.** -/
theorem exists_ofEntities {kind : Kind} {full : Bool} {primaries : List Value}
    (h : ∀ primary ∈ primaries, primary.IsPrimary kind full) :
    ∃ ids, ofEntities kind primaries = .ok ids := by
  refine Except.exists_foldlM_eq_ok (fun collected primary hprimary => ?_) []
  obtain ⟨fields, rfl, hfields⟩ := h primary hprimary
  exact Except.exists_foldlM_eq_ok (fun c ref href =>
    exists_addReference (hfields.references ref href) c) _

end IdsByKind

/-! ## What is looked up -/

/-- The references of an entity are to kinds that are looked up. -/
theorem Kind.kind_mem_lookedUp {kind : Kind} {ref : Reference} (h : ref ∈ kind.references) :
    ref.kind ∈ lookedUp := by
  have hall : ∀ ref ∈ kind.references, ref.kind ∈ lookedUp := by
    cases kind <;> simp [references, lookedUp, cached, fetched, Reference.owners,
      Reference.requester, Reference.followers, Reference.workflow, Reference.team,
      Reference.teams, Reference.epic, Reference.iteration, Reference.objective,
      Reference.objectives, Reference.members, Reference.workflows]
  exact hall ref h

/-- The entity of a look-up, if it was found, can be used. -/
def Lookup.Usable (kind : Kind) (lookup : Lookup) : Prop :=
  ∀ entity, lookup = .found entity → entity.UsableAs kind

/-- Kinds that are looked up have been looked up, and every entity that was
found can be used. -/
structure Refs.Usable (refs : Refs) : Prop where
  /-- No other kind has outcomes. -/
  kinds : ∀ kind ∈ refs.lookups.keys, kind ∈ Kind.lookedUp
  /-- What was found can be used. -/
  lookups : ∀ kind outcomes, (kind, outcomes) ∈ refs.lookups →
    ∀ id lookup, (id, lookup) ∈ outcomes → lookup.Usable kind

namespace Refs.Usable

variable {refs : Refs}

theorem empty : Refs.Usable {} where
  kinds := fun _ hmem => absurd hmem List.not_mem_nil
  lookups := fun _ _ hmem => absurd hmem List.not_mem_nil

/-- What was looked up of a kind can be used. -/
theorem ofKind (h : refs.Usable) {kind : Kind} (hkind : kind ∈ Kind.lookedUp) {id : Atom}
    {lookup : Lookup} (hmem : (id, lookup) ∈ refs.ofKind kind) : lookup.Usable kind := by
  rw [Refs.ofKind] at hmem
  cases hget : refs.lookups.get? kind with
  | none =>
    rw [hget] at hmem
    cases hmem
  | some outcomes =>
    rw [hget] at hmem
    obtain ⟨kind', hentry, hkk⟩ := Table.exists_mem_of_get?_eq_some hget
    have hkind' := h.kinds kind' (List.mem_map.2 ⟨_, hentry, rfl⟩)
    rw [← Kind.eq_of_beq_of_mem_lookedUp hkind' hkind hkk]
    exact h.lookups kind' outcomes hentry id lookup hmem

/-- Recording a usable outcome. -/
theorem record (h : refs.Usable) {kind : Kind} (hkind : kind ∈ Kind.lookedUp) (id : Atom)
    {lookup : Lookup} (hlookup : lookup.Usable kind) : (refs.record kind id lookup).Usable := by
  have hkinds : ∀ k ∈ (refs.record kind id lookup).lookups.keys, k ∈ Kind.lookedUp := by
    intro k hk
    rcases Table.mem_keys_insert hk with hk | rfl
    · exact h.kinds k hk
    · exact hkind
  refine ⟨hkinds, fun k outcomes hmem id' lookup' hmem' => ?_⟩
  have hk := hkinds k (List.mem_map.2 ⟨_, hmem, rfl⟩)
  rcases Table.of_mem_insert hmem with hmem | ⟨hkk, rfl⟩
  · exact h.lookups k outcomes hmem id' lookup' hmem'
  · cases Kind.eq_of_beq_of_mem_lookedUp hk hkind hkk
    rcases Table.of_mem_insert hmem' with hmem' | ⟨-, rfl⟩
    · exact h.ofKind hkind hmem'
    · exact hlookup

/-- **Recording usable outcomes.** -/
theorem recordAll (h : refs.Usable) {outcomes : List Outcome}
    (houtcomes : ∀ outcome ∈ outcomes, outcome.1 ∈ Kind.lookedUp ∧
      outcome.2.2.Usable outcome.1) : (refs.recordAll outcomes).Usable := by
  induction outcomes generalizing refs with
  | nil => exact h
  | cons outcome rest ih =>
    obtain ⟨hkind, hlookup⟩ := houtcomes outcome List.mem_cons_self
    exact ih (h.record hkind outcome.2.1 hlookup) fun other hother =>
      houtcomes other (List.mem_cons_of_mem _ hother)

end Refs.Usable

namespace IdsByKind

/-- The kinds whose entities are followed further are looked up. -/
theorem lookedUp_of_mem_secondarySources {kind : Kind} (h : kind ∈ Kind.secondarySources) :
    kind ∈ Kind.lookedUp := by
  rcases List.mem_cons.1 h with rfl | h
  · simp [Kind.lookedUp, Kind.fetched]
  · cases List.mem_singleton.1 h
    simp [Kind.lookedUp, Kind.cached]

/-- The ids of a usable entity can be added. -/
theorem exists_addUnresolved {ref : Reference} {fields : Table String Value}
    (h : ref.Admits (Value.fieldOf fields ref.idField)) (refs : Refs) (collected : IdsByKind) :
    ∃ collected', addUnresolved refs (.object fields) collected ref = .ok collected' := by
  obtain ⟨ids, hids⟩ := Reference.exists_ids h
  simp only [addUnresolved, hids, Value.mapM_asId_atoms, bind, Except.bind]
  split <;> exact ⟨_, rfl⟩

/-- **Collecting from usable related entities ends well.** -/
theorem exists_unresolved {refs : Refs} (h : refs.Usable) : ∃ ids, unresolved refs = .ok ids := by
  refine Except.exists_foldlM_eq_ok (fun c source hsource => ?_) []
  refine Except.exists_foldlM_eq_ok (fun c lookup hlookup => ?_) c
  obtain ⟨⟨id, lookup⟩, hmem, rfl⟩ := List.mem_map.1 hlookup
  cases lookup with
  | notFound id => exact ⟨c, rfl⟩
  | failure id error => exact ⟨c, rfl⟩
  | found entity =>
    obtain ⟨fields, rfl, husable⟩ :=
      h.ofKind (lookedUp_of_mem_secondarySources hsource) hmem entity rfl
    exact Except.exists_foldlM_eq_ok (fun c ref href =>
      exists_addUnresolved (husable.references ref href) refs c) c

end IdsByKind

end Backlog
