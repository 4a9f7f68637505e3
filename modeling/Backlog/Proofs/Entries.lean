import Backlog.Proofs.Naming
/-!
# Entries of results

A result shows one entry for each primary entity, in order: the entity in its
shape, with the names of what it refers to
(`Resolver.ReturnsWith.forall₂_entries`). That the entry of an entity of a cached
kind is its own can be told by the id, which neither the shape nor the names
touch (`Hydrated.get?_id_of_decorate`).
-/

namespace Backlog

namespace Entity

variable {kind : Kind} {entity : Value}

/-- Only the fields that are to be chosen are chosen. -/
theorem mem_of_mem_chosenFields {names : List String} {chosen : Table String Value}
    (h : chosenFields entity names = .ok chosen) {name : String} {v : Value}
    (hmem : (name, v) ∈ chosen) : name ∈ names := by
  induction names generalizing chosen with
  | nil =>
    cases h
    cases hmem
  | cons first rest ih =>
    obtain ⟨has, -, h⟩ := Except.bind_eq_ok.1 h
    split at h
    · obtain ⟨w, -, h⟩ := Except.bind_eq_ok.1 h
      obtain ⟨others, hothers, h⟩ := Except.bind_eq_ok.1 h
      cases h
      rcases List.mem_cons.1 hmem with heq | hmem
      · cases heq
        exact List.mem_cons_self
      · exact List.mem_cons_of_mem _ (ih hothers hmem)
    · exact List.mem_cons_of_mem _ (ih h hmem)

/-- The id of an object is shown as it is, if it is chosen first and no other
field is shown in its place. -/
theorem get?_id_of_chosenFields {fields : Table String Value} {id : Atom}
    (hid : Table.get? fields "id" = some (.atom id)) {rest : List String}
    (hrest : ∀ name ∈ rest, shownName name ≠ "id") {chosen : Table String Value}
    (h : chosenFields (.object fields) ("id" :: rest) = .ok chosen) :
    (renamed chosen).get? "id" = some (.atom id) := by
  have hhas : (Value.object fields).has "id" = .ok true := by
    rw [Value.has, Table.contains_iff_exists.2 ⟨_, hid⟩]
  have hvalue : (Value.object fields).required "id" = .ok (.atom id) := by
    rw [Value.required, hid]
  rw [chosenFields, hhas] at h
  obtain ⟨_, ⟨⟩, h⟩ := Except.bind_eq_ok.1 h
  rw [if_pos rfl, hvalue] at h
  obtain ⟨_, ⟨⟩, h⟩ := Except.bind_eq_ok.1 h
  obtain ⟨others, hothers, h⟩ := Except.bind_eq_ok.1 h
  cases h
  -- nothing that follows is shown as the id, so the first field is read
  rw [renamed, Table.get?_ofList, List.filter_cons_of_pos rfl, List.map_cons, List.reverse_cons,
    List.find?_append, List.find?_eq_none.2]
  · rfl
  · intro entry hentry
    obtain ⟨⟨name, w⟩, hmem, rfl⟩ := List.mem_map.1 (List.mem_reverse.1 hentry)
    have hname := mem_of_mem_chosenFields hothers (List.mem_filter.1 hmem).1
    simpa using hrest name hname

/-- **An entity of a cached kind keeps its id** in its simplified shape. -/
theorem get?_id_of_shape (hkind : kind ∈ Kind.cached) {shaped : Table String Value}
    (h : shape kind entity false = .ok shaped) {id : Atom} (hid : entity.idOf? = some id) :
    shaped.get? "id" = some (.atom id) := by
  obtain ⟨fields, rfl, hfield⟩ : ∃ fields, entity = .object fields ∧
      Table.get? fields "id" = some (.atom id) := by
    cases entity with
    | atom a => cases hid
    | list items => cases hid
    | object fields =>
      refine ⟨fields, rfl, ?_⟩
      rw [Value.idOf?] at hid
      split at hid
      · next own hown =>
        cases hid
        exact hown
      · cases hid
  rcases Kind.mem_cached_iff.1 hkind with rfl | rfl | rfl
  · obtain ⟨own, hown, h⟩ := Except.bind_eq_ok.1 h
    cases hown
    obtain ⟨profile, -, h⟩ := Except.bind_eq_ok.1 h
    cases h
    have hread : Value.fieldOf fields "id" = .atom id := by
      rw [Value.fieldOf, hfield]
      rfl
    exact congrArg some hread
  · obtain ⟨chosen, hchosen, h⟩ := Except.bind_eq_ok.1 h
    cases h
    exact get?_id_of_chosenFields hfield (by decide) hchosen
  · obtain ⟨chosen, hchosen, h⟩ := Except.bind_eq_ok.1 h
    cases h
    exact get?_id_of_chosenFields hfield (by decide) hchosen

end Entity

namespace Hydrated

variable {kind : Kind} {entity : Value}

/-- No names are shown in place of an id. -/
theorem nameField_ne_id {ref : Reference} (href : ref ∈ kind.references) :
    ref.nameField ≠ "id" := by
  have hall : ∀ ref ∈ kind.references, ref.nameField ≠ "id" := by
    cases kind with
    | other given => exact fun _ h => absurd h List.not_mem_nil
    | stories | epics | iterations | objectives | teams | workflows | users => decide
  exact hall ref href

/-- **An entity of a cached kind keeps its id** when names are added to it. -/
theorem get?_id_of_decorate (hkind : kind ∈ Kind.cached) {refs : Refs} {workflows : Value}
    {fields : Table String Value} (h : decorate kind entity refs false workflows = .ok fields)
    {id : Atom} (hid : entity.idOf? = some id) : fields.get? "id" = some (.atom id) := by
  obtain ⟨shaped, hshaped, h⟩ := Except.bind_eq_ok.1 h
  obtain ⟨named, hnamed, h⟩ := Except.bind_eq_ok.1 h
  rw [get?_addStateName h (by decide)]
  refine Except.foldlM_invariant (fun done named => (∀ ref ∈ done, ref.nameField ≠ "id") →
    Table.get? named "id" = some (.atom id)) ?_ hnamed ?_ fun ref href => nameField_ne_id href
  · intro done named ref named' hdone hstep hne
    rw [get?_addNames_of_ne hstep (hne ref (List.mem_append_right _ List.mem_cons_self))]
    exact hdone fun other hother => hne other (List.mem_append_left _ hother)
  · intro _
    exact Entity.get?_id_of_shape hkind hshaped hid

/-- The primary entities that a result shows. -/
def entries (result : Hydrated) : List Value :=
  match result.primary with
  | .list items => items
  | v => [v]

end Hydrated

/-- **A call that hydrates entities shows one entry for each**, in order: the
decorated entity. -/
theorem Resolver.ReturnsWith.forall₂_entries {options : Hydrated.Options} {remote : Remote}
    {s t : Session} {kind : Kind} {primaries : List Value} {result : Hydrated}
    (h : ReturnsWith options remote s kind primaries result t) :
    primaries.Forall₂ (fun entity v => ∃ fields, v = .object fields ∧
      Hydrated.decorate kind entity result.refs options.full
        (.list t.caches.workflows.values) = .ok fields) result.entries := by
  cases h with
  | many hrun =>
    obtain ⟨refs, hbuild⟩ := exists_build_of_run hrun
    obtain ⟨⟨shaped, hshaped, hprimary⟩, -⟩ := Hydrated.of_ofMany hbuild
    rw [Hydrated.entries, hprimary, Hydrated.refs_ofMany hbuild]
    refine (Except.mapM_eq_ok_iff.1 hshaped).imp fun entity v hv => ?_
    obtain ⟨fields, hfields, hv⟩ := Except.bind_eq_ok.1 hv
    cases hv
    exact ⟨fields, rfl, hfields⟩
  | one hrun =>
    obtain ⟨refs, hbuild⟩ := exists_build_of_run hrun
    obtain ⟨⟨fields, hfields, hprimary⟩, -⟩ := Hydrated.of_ofFirst hbuild
    rw [Hydrated.entries, hprimary, Hydrated.refs_ofFirst hbuild]
    exact .cons ⟨fields, rfl, hfields⟩ .nil

end Backlog
