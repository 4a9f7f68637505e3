import Backlog.Entity.Lookup
import Backlog.Proofs.Run
import Backlog.Proofs.Table
import Backlog.Resolver
/-!
# What entities refer to

The ids that primary entities refer to, and those that the related entities
found refer to, kind by kind and in the order in which they are met
(`IdsByKind.referenced`, `Refs.referenced`). Collecting them gives each once,
as it is first met (`idsOf_ofEntities`, `idsOf_unresolved`).
-/

namespace Backlog

/-! ## The ids in an entity -/

/-- The value as an id, if it can be one. -/
def Value.atom? : Value → Option Atom
  | .atom a => some a
  | _ => none

/-- Values that are all ids. -/
theorem Value.eq_filterMap_of_mapM_asId {vs : List Value} {ids : List Atom}
    (h : vs.mapM Value.asId = .ok ids) : ids = vs.filterMap Value.atom? := by
  induction vs generalizing ids with
  | nil =>
    cases h
    rfl
  | cons v rest ih =>
    rw [List.mapM_cons] at h
    obtain ⟨id, hid, h⟩ := Except.bind_eq_ok.1 h
    obtain ⟨others, hothers, h⟩ := Except.bind_eq_ok.1 h
    cases h
    cases v with
    | list _ => cases hid
    | object _ => cases hid
    | atom a =>
      cases hid
      rw [ih hothers]
      rfl

namespace Reference

/-- The ids that an entity holds in the field, or what keeps them from being
read. -/
def atoms (ref : Reference) (entity : Value) : Except Fault (List Atom) := do
  let values ← ref.ids entity
  values.mapM Value.asId

/-- The ids that an entity holds in the field; none if the field cannot be
read. -/
def held (ref : Reference) (entity : Value) : List Atom :=
  match ref.ids entity with
  | .ok values => values.filterMap Value.atom?
  | .error _ => []

/-- What is read of a field is what it holds. -/
theorem eq_held_of_atoms {ref : Reference} {entity : Value} {ids : List Atom}
    (h : ref.atoms entity = .ok ids) : ids = ref.held entity := by
  obtain ⟨values, hvalues, h⟩ := Except.bind_eq_ok.1 h
  rw [held, hvalues]
  exact Value.eq_filterMap_of_mapM_asId h

/-- The ids of a kind that an entity holds in some references. -/
def heldIn (references : List Reference) (kind : Kind) (entity : Value) : List Atom :=
  (references.filter (·.kind == kind)).flatMap (·.held entity)

theorem heldIn_concat (references : List Reference) (ref : Reference) (kind : Kind)
    (entity : Value) :
    heldIn (references ++ [ref]) kind entity =
      heldIn references kind entity ++ if ref.kind == kind then ref.held entity else [] := by
  rw [heldIn, List.filter_append, List.flatMap_append, ← heldIn]
  congr 1
  cases h : ref.kind == kind <;> simp [h]

end Reference

/-- The ids of a kind that primary entities refer to, in the order in which
they are met, repetitions included. -/
def IdsByKind.referenced (kind : Kind) (primaries : List Value) (k : Kind) : List Atom :=
  primaries.flatMap (Reference.heldIn kind.references k)

/-- The ids of a kind that the outcome of a look-up refers to: those of the
entity, if it was found. -/
def Lookup.referenced (source : Kind) (k : Kind) : Lookup → List Atom
  | .found entity => Reference.heldIn source.secondaryReferences k entity
  | _ => []

/-- The ids of a kind that the related entities found refer to, in the order
in which they are met, repetitions included. -/
def Refs.referenced (refs : Refs) (k : Kind) : List Atom :=
  Kind.secondarySources.flatMap fun source =>
    (refs.ofKind source).values.flatMap (Lookup.referenced source k)

/-! ## Collecting -/

namespace IdsByKind

open Resolver

/-- What has been collected of each kind is what is kept of a list. -/
def Collects (collected : IdsByKind) (met : Kind → List Atom) : Prop :=
  ∀ k, idsOf collected k = (met k).eraseDups

theorem collects_nil : Collects [] fun _ => [] := fun _ => rfl

theorem Collects.congr {collected : IdsByKind} {met met' : Kind → List Atom}
    (h : Collects collected met) (heq : ∀ k, met k = met' k) : Collects collected met' := by
  intro k
  rw [h k, heq k]

theorem idsOf_congr (ids : IdsByKind) {k k' : Kind} (h : (k == k') = true) :
    idsOf ids k = idsOf ids k' := by
  rw [idsOf, idsOf, Table.get?_congr ids h]

/-- Adding ids of a kind. -/
theorem Collects.add {collected : IdsByKind} {met : Kind → List Atom}
    (h : Collects collected met) (kind : Kind) (ids : List Atom) :
    Collects (collected.add kind ids) fun k => met k ++ if kind == k then ids else [] := by
  intro k
  dsimp only
  rw [idsOf, IdsByKind.add, Table.get?_insert]
  by_cases hk : (kind == k) = true
  · have hcollected : (Table.get? collected kind).getD [] = (met k).eraseDups := by
      rw [← h k, ← idsOf_congr collected hk, idsOf]
    rw [if_pos hk, if_pos hk, Option.getD_some, hcollected, Distinct.eraseDups_append_left]
  · rw [if_neg hk, if_neg hk, List.append_nil, ← h k, idsOf]

/-- Adding the ids that an entity holds in a reference. -/
theorem Collects.addReference {collected collected' : IdsByKind} {met : Kind → List Atom}
    (h : Collects collected met) {entity : Value} {ref : Reference}
    (hadd : IdsByKind.addReference entity collected ref = .ok collected') :
    Collects collected' fun k => met k ++ if ref.kind == k then ref.held entity else [] := by
  obtain ⟨values, hvalues, hadd⟩ := Except.bind_eq_ok.1 hadd
  obtain ⟨ids, hids, hadd⟩ := Except.bind_eq_ok.1 hadd
  cases hadd
  have hheld : ids = ref.held entity :=
    Reference.eq_held_of_atoms (Except.bind_eq_ok.2 ⟨values, hvalues, hids⟩)
  rw [hheld]
  exact h.add ref.kind _

/-- Adding the ids that an entity holds in its references. -/
theorem Collects.addEntity {collected collected' : IdsByKind} {met : Kind → List Atom}
    (h : Collects collected met) {kind : Kind} {entity : Value}
    (hadd : IdsByKind.addEntity kind collected entity = .ok collected') :
    Collects collected' fun k => met k ++ Reference.heldIn kind.references k entity := by
  refine Except.foldlM_invariant
    (fun done c => Collects c fun k => met k ++ Reference.heldIn done k entity) ?_ hadd ?_
  · intro done c ref c' hc hstep
    refine (hc.addReference hstep).congr fun k => ?_
    rw [Reference.heldIn_concat, List.append_assoc]
  · simpa [Reference.heldIn] using h

/-- **Collecting from entities** gives the ids that they refer to, each once,
in the order in which they are met. -/
theorem idsOf_ofEntities {kind : Kind} {entities : List Value} {ids : IdsByKind}
    (h : ofEntities kind entities = .ok ids) (k : Kind) :
    idsOf ids k = (referenced kind entities k).eraseDups := by
  have hall : Collects ids (referenced kind entities) := by
    refine Except.foldlM_invariant
      (fun done c => Collects c (referenced kind done)) ?_ h collects_nil
    intro done c entity c' hc hstep
    refine (hc.addEntity hstep).congr fun k => ?_
    simp [referenced]
  exact hall k

/-! ## What is not looked up yet -/

/-- The ids among some that are not looked up yet. -/
def missing (refs : Refs) (k : Kind) (ids : List Atom) : List Atom :=
  ids.filter fun id => !(refs.ofKind k).contains id

theorem missing_append (refs : Refs) (k : Kind) (ids others : List Atom) :
    missing refs k (ids ++ others) = missing refs k ids ++ missing refs k others :=
  List.filter_append ids others

theorem missing_congr (refs : Refs) {k k' : Kind} (h : (k == k') = true) :
    missing refs k = missing refs k' := by
  funext ids
  rw [missing, missing, Refs.ofKind, Refs.ofKind, Table.get?_congr refs.lookups h]

/-- Adding the missing ids that an entity holds in a reference. -/
theorem Collects.addUnresolved {refs : Refs} {collected collected' : IdsByKind}
    {met : Kind → List Atom} (h : Collects collected fun k => missing refs k (met k))
    {entity : Value} {ref : Reference}
    (hadd : IdsByKind.addUnresolved refs entity collected ref = .ok collected') :
    Collects collected' fun k =>
      missing refs k (met k ++ if ref.kind == k then ref.held entity else []) := by
  obtain ⟨values, hvalues, hadd⟩ := Except.bind_eq_ok.1 hadd
  obtain ⟨ids, hids, hadd⟩ := Except.bind_eq_ok.1 hadd
  have hheld : ids = ref.held entity :=
    Reference.eq_held_of_atoms (Except.bind_eq_ok.2 ⟨values, hvalues, hids⟩)
  have hnext : Collects collected' fun k =>
      missing refs k (met k) ++ if ref.kind == k then missing refs ref.kind ids else [] := by
    split at hadd
    · next hnone =>
      -- all ids are known, so there is nothing to add
      cases hadd
      have hmissing : missing refs ref.kind ids = [] := hnone
      simpa [hmissing] using h
    · next hsome =>
      cases hadd
      exact h.add ref.kind _
  refine hnext.congr fun k => ?_
  rw [missing_append, ← hheld]
  congr 1
  by_cases hk : (ref.kind == k) = true
  · rw [if_pos hk, if_pos hk, missing_congr refs hk]
  · rw [if_neg hk, if_neg hk, missing, List.filter_nil]

/-- Adding the missing ids that the outcome of a look-up refers to. -/
theorem Collects.addLookup {refs : Refs} {collected collected' : IdsByKind}
    {met : Kind → List Atom} (h : Collects collected fun k => missing refs k (met k))
    {source : Kind} {lookup : Lookup}
    (hadd : IdsByKind.addLookup refs source collected lookup = .ok collected') :
    Collects collected' fun k => missing refs k (met k ++ lookup.referenced source k) := by
  cases lookup with
  | notFound id =>
    cases hadd
    simpa [Lookup.referenced] using h
  | failure id error =>
    cases hadd
    simpa [Lookup.referenced] using h
  | found entity =>
    refine Except.foldlM_invariant (fun done c => Collects c fun k =>
      missing refs k (met k ++ Reference.heldIn done k entity)) ?_ hadd ?_
    · intro done c ref c' hc hstep
      refine (hc.addUnresolved hstep).congr fun k => ?_
      rw [Reference.heldIn_concat, List.append_assoc]
    · simpa [Reference.heldIn] using h

/-- **Collecting from related entities** gives the ids that they refer to and
that are not looked up yet, each once, in the order in which they are met. -/
theorem idsOf_unresolved {refs : Refs} {ids : IdsByKind} (h : unresolved refs = .ok ids)
    (k : Kind) : idsOf ids k = (missing refs k (refs.referenced k)).eraseDups := by
  have hsource : ∀ {collected collected' : IdsByKind} {met : Kind → List Atom} {source : Kind},
      Collects collected (fun k => missing refs k (met k)) →
      addSource refs collected source = .ok collected' →
      Collects collected' fun k => missing refs k
        (met k ++ (refs.ofKind source).values.flatMap (Lookup.referenced source k)) := by
    intro collected collected' met source hc hadd
    refine Except.foldlM_invariant (fun done c => Collects c fun k =>
      missing refs k (met k ++ done.flatMap (Lookup.referenced source k))) ?_ hadd ?_
    · intro done c lookup c' hc hstep
      refine (hc.addLookup hstep).congr fun k => ?_
      simp
    · simpa using hc
  have hall : Collects ids fun k => missing refs k (refs.referenced k) := by
    refine Except.foldlM_invariant (fun done c => Collects c fun k =>
      missing refs k (done.flatMap fun source =>
        (refs.ofKind source).values.flatMap (Lookup.referenced source k))) ?_ h collects_nil
    intro done c source c' hc hstep
    refine (hsource hc hstep).congr fun k => ?_
    simp
  exact hall k

end IdsByKind

/-! ## Nothing left to look up -/

/-- Whether all that the related entities found refer to can be read. -/
def Refs.Readable (refs : Refs) : Prop :=
  ∀ source ∈ Kind.secondarySources, ∀ entity, .found entity ∈ (refs.ofKind source).values →
    ∀ ref ∈ source.secondaryReferences, ref.atoms entity = .ok (ref.held entity)

/-- What an entity that was found holds is referred to. -/
theorem Refs.mem_referenced {refs : Refs} {source : Kind} (hsource : source ∈ Kind.secondarySources)
    {entity : Value} (hfound : .found entity ∈ (refs.ofKind source).values) {ref : Reference}
    (href : ref ∈ source.secondaryReferences) {id : Atom} (hid : id ∈ ref.held entity) :
    id ∈ refs.referenced ref.kind := by
  refine List.mem_flatMap.2 ⟨source, hsource, List.mem_flatMap.2 ⟨_, hfound, ?_⟩⟩
  refine List.mem_flatMap.2 ⟨ref, List.mem_filter.2 ⟨href, ?_⟩, hid⟩
  exact BEq.rfl

namespace IdsByKind

/-- Collecting from related entities reads all that they refer to. -/
theorem readable_of_unresolved {refs : Refs} {ids : IdsByKind} (h : unresolved refs = .ok ids) :
    refs.Readable := by
  intro source hsource entity hfound ref href
  obtain ⟨c, c', hstep⟩ := Except.exists_of_foldlM_eq_ok h hsource
  obtain ⟨d, d', hstep⟩ := Except.exists_of_foldlM_eq_ok hstep hfound
  obtain ⟨e, e', hstep⟩ := Except.exists_of_foldlM_eq_ok hstep href
  obtain ⟨values, hvalues, hstep⟩ := Except.bind_eq_ok.1 hstep
  obtain ⟨ids, hids, -⟩ := Except.bind_eq_ok.1 hstep
  have hatoms : ref.atoms entity = .ok ids := Except.bind_eq_ok.2 ⟨values, hvalues, hids⟩
  rw [hatoms, Reference.eq_held_of_atoms hatoms]

/-- **Nothing is left to look up** once every id that is referred to has
been. -/
theorem unresolved_eq_nil {refs : Refs} (hr : refs.Readable)
    (hknown : ∀ k, ∀ id ∈ refs.referenced k, (refs.ofKind k).contains id = true) :
    unresolved refs = .ok [] := by
  refine Except.foldlM_eq_self fun source hsource => ?_
  refine Except.foldlM_eq_self fun lookup hlookup => ?_
  cases lookup with
  | notFound id => rfl
  | failure id error => rfl
  | found entity =>
    refine Except.foldlM_eq_self fun ref href => ?_
    have hatoms := hr source hsource entity hlookup ref href
    obtain ⟨values, hvalues, hids⟩ := Except.bind_eq_ok.1 hatoms
    have hnone : (ref.held entity).filter (fun id => !(refs.ofKind ref.kind).contains id) = [] := by
      refine List.filter_eq_nil_iff.2 fun id hid => ?_
      rw [hknown ref.kind id (Refs.mem_referenced hsource hlookup href hid)]
      decide
    simp only [addUnresolved, hvalues, hids, bind, Except.bind, hnone]
    rfl

end IdsByKind

end Backlog
