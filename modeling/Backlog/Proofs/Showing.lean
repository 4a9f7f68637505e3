import Backlog.Proofs.Usable
/-!
# Showing usable entities

Building a result reads the primary entities and all that was found for them.
From primary entities that can be hydrated and references that can be used,
every part of it can be built: the shapes, the names beside the ids, the names
of workflow states and the related entities (`Hydrated.exists_ofMany`,
`Hydrated.exists_ofFirst`). A state is looked for through the lists of states in
a list of workflows, which is looking through all of these states
(`Hydrated.findStateIn_eq`). What was not found is shown by the unknown name
and, where the kind is one that is fetched, as an unknown entity
(`Hydrated.marksMisses`).
-/

namespace Backlog

/-! ## Shapes and names of entities -/

namespace Entity

variable {kind : Kind} {fields : Table String Value}

/-- The fields of an object can be chosen from. -/
theorem exists_chosenFields (fields : Table String Value) (names : List String) :
    ∃ chosen, chosenFields (.object fields) names = .ok chosen := by
  induction names with
  | nil => exact ⟨[], rfl⟩
  | cons name rest ih =>
    obtain ⟨others, hothers⟩ := ih
    simp only [chosenFields, Value.has, Value.required, Table.contains, bind, Except.bind, hothers]
    cases fields.get? name with
    | none => exact ⟨others, rfl⟩
    | some v => exact ⟨_, rfl⟩

/-- A user whose profile is an object has a simplified shape. -/
theorem exists_simplifiedUser (h : (Value.fieldOf fields "profile").IsObjectIfAny) :
    ∃ shaped, simplifiedUser (.object fields) = .ok shaped := by
  obtain ⟨profile, hprofile⟩ := h.orNoFields
  simp only [simplifiedUser, Value.fields?, hprofile, bind, Except.bind]
  exact ⟨_, rfl⟩

/-- **An object has a shape**, if the profile can be read where it is. -/
theorem exists_shape {full : Bool}
    (h : kind = .users → full = false → (Value.fieldOf fields "profile").IsObjectIfAny) :
    ∃ shaped, shape kind (.object fields) full = .ok shaped := by
  rw [shape]
  split
  · exact ⟨_, rfl⟩
  · next hsimple =>
    split
    · next husers => exact exists_simplifiedUser (h husers (Bool.eq_false_iff.2 hsimple))
    · split
      · exact ⟨_, rfl⟩
      · next names hnames =>
        obtain ⟨chosen, hchosen⟩ := exists_chosenFields fields names
        rw [hchosen]
        exact ⟨_, rfl⟩

/-- **A usable entity has a name.** -/
theorem exists_displayName (h : Usable kind fields) :
    ∃ name, displayName kind (.object fields) = .ok name := by
  simp only [displayName, Value.fields?, bind, Except.bind]
  split
  · next husers =>
    obtain ⟨profile, hprofile⟩ := (h.profile husers).orNoFields
    rw [hprofile]
    exact ⟨_, rfl⟩
  · exact ⟨_, rfl⟩

end Entity

/-- Whether an id was not found, for whatever reason. -/
def Lookup.isMissing : Lookup → Bool
  | .found _ => false
  | .notFound _ | .failure .. => true

namespace Refs

variable {refs : Refs} {kind : Kind}

theorem nameOf_of_found {id : Atom} {entity : Value} (h : refs.get kind id = .found entity) :
    refs.nameOf kind (.atom id) = Entity.displayName kind entity := by
  simp only [nameOf, Value.asId, bind, Except.bind, h]

theorem nameOf_of_isMissing {id : Atom} (h : (refs.get kind id).isMissing = true) :
    refs.nameOf kind (.atom id) = .ok unknownName := by
  simp only [nameOf, Value.asId, bind, Except.bind]
  cases hget : refs.get kind id with
  | found entity =>
    rw [hget] at h
    cases h
  | notFound own => rfl
  | failure own error => rfl

/-- What is read for an id was looked up for it, if it was found. -/
theorem exists_mem_of_get_eq_found {id : Atom} {entity : Value}
    (h : refs.get kind id = .found entity) : ∃ own, (own, .found entity) ∈ refs.ofKind kind := by
  rw [get] at h
  cases hget : (refs.ofKind kind).get? id with
  | none =>
    rw [hget] at h
    cases h
  | some lookup =>
    rw [hget] at h
    cases h
    obtain ⟨own, hmem, -⟩ := Table.exists_mem_of_get?_eq_some hget
    exact ⟨own, hmem⟩

/-- **Every id has a name**, with usable references. -/
theorem Usable.exists_nameOf (h : refs.Usable) (hkind : kind ∈ Kind.lookedUp) (id : Atom) :
    ∃ name, refs.nameOf kind (.atom id) = .ok name := by
  cases hget : refs.get kind id with
  | notFound own => exact ⟨_, nameOf_of_isMissing (by rw [hget]; rfl)⟩
  | failure own error => exact ⟨_, nameOf_of_isMissing (by rw [hget]; rfl)⟩
  | found entity =>
    obtain ⟨own, hmem⟩ := exists_mem_of_get_eq_found hget
    obtain ⟨fields, rfl, husable⟩ := h.ofKind hkind hmem entity rfl
    rw [nameOf_of_found hget]
    exact Entity.exists_displayName husable

end Refs

/-! ## Workflow states -/

namespace Value

/-- The states of a workflow. -/
def statesOf : Value → List Value
  | .object fields =>
    match fieldOf fields "states" with
    | .list states => states
    | _ => []
  | _ => []

/-- Whether the id of an entity equals a value. -/
def hasIdEqual (entity id : Value) : Bool :=
  match entity with
  | .object fields => (fieldOf fields "id").equals id
  | _ => false

/-- The elements of what counts as a list of objects, if it counts as something. -/
theorem AreObjectsIfAny.elements_eq {fields : Table String Value}
    (h : (fieldOf fields "states").AreObjectsIfAny) :
    (fieldOf fields "states").orNoItems.elements = .ok (statesOf (.object fields)) ∧
      ∀ state ∈ statesOf (.object fields), state.IsObject := by
  obtain ⟨items, hitems, hobjects⟩ := h.elements
  have hsame : items = statesOf (.object fields) := by
    rw [statesOf]
    rw [orNoItems, orElse] at hitems
    split at hitems
    · next htruthy =>
      obtain ⟨states, hstates, -⟩ := h htruthy
      rw [hstates] at hitems ⊢
      exact (Except.ok.inj hitems).symm
    · next hfalsy =>
      -- what does not count as something has no elements
      cases hitems
      cases hv : fieldOf fields "states" with
      | atom a => rfl
      | object others => rfl
      | list states =>
        rw [hv] at hfalsy
        cases states with
        | nil => rfl
        | cons state rest => exact absurd rfl hfalsy
  exact ⟨hsame ▸ hitems, hsame ▸ hobjects⟩

end Value

namespace Hydrated

/-- The first state with an id in some workflows, one workflow after the other. -/
def firstState (id : Value) (workflows : List Value) : Option Value :=
  (workflows.flatMap Value.statesOf).find? (·.hasIdEqual id)

/-- What is shown for a state: its name, if it has one. -/
def shownState : Value → Value
  | .object fields => (Value.fieldOf fields "name").orElse (.text unknownName)
  | _ => .text unknownName

/-- Looking through states stops at the first with the id. -/
theorem findState_eq (id : Value) {states : List Value} (h : ∀ state ∈ states, state.IsObject) :
    findState id states = .ok (states.find? (·.hasIdEqual id)) := by
  induction states with
  | nil => rfl
  | cons state rest ih =>
    obtain ⟨fields, rfl⟩ := h _ List.mem_cons_self
    have hfield : (Value.object fields).field "id" = .ok (Value.fieldOf fields "id") := rfl
    have hequal : (Value.object fields).hasIdEqual id = (Value.fieldOf fields "id").equals id := rfl
    rw [findState, hfield, List.find?_cons, hequal,
      ih fun other hother => h other (List.mem_cons_of_mem _ hother)]
    simp only [bind, Except.bind]
    cases (Value.fieldOf fields "id").equals id <;> rfl

/-- **Looking through workflows** is looking through all of their states. -/
theorem findStateIn_eq (id : Value) {workflows : List Value}
    (h : ∀ workflow ∈ workflows, workflow.UsableAs .workflows) :
    findStateIn id workflows = .ok (firstState id workflows) := by
  induction workflows with
  | nil => rfl
  | cons workflow rest ih =>
    obtain ⟨fields, rfl, husable⟩ := h _ List.mem_cons_self
    obtain ⟨hstates, hobjects⟩ := (husable.states rfl).elements_eq
    have hfield : (Value.object fields).field "states" = .ok (Value.fieldOf fields "states") := rfl
    rw [findStateIn, hfield, firstState, List.flatMap_cons, List.find?_append]
    simp only [bind, Except.bind, hstates, findState_eq id hobjects]
    cases (Value.object fields).statesOf.find? (·.hasIdEqual id) with
    | some state => rfl
    | none => exact ih fun other hother => h other (List.mem_cons_of_mem _ hother)

/-- The first state with an id is an object that has it. -/
theorem exists_fields_of_firstState {id : Value} {workflows : List Value} {state : Value}
    (h : firstState id workflows = some state) : ∃ fields, state = .object fields := by
  have hid := List.find?_some h
  cases state with
  | object fields => exact ⟨fields, rfl⟩
  | atom a => cases hid
  | list items => cases hid

section StateOfStory

variable {refs : Refs} {workflows : List Value} {workflowId : Atom} {fields : Table String Value}

/-- The workflows that are looked through can be. -/
theorem usable_of_mem_candidateWorkflows
    (hown : ∀ own, refs.get .workflows workflowId = .found own → own.UsableAs .workflows)
    (hworkflows : ∀ workflow ∈ workflows, workflow.UsableAs .workflows) :
    ∀ workflow ∈ candidateWorkflows refs workflowId workflows, workflow.UsableAs .workflows := by
  rw [candidateWorkflows]
  split
  · next own hget => exact List.forall_mem_cons.2 ⟨hown own hget, hworkflows⟩
  · exact hworkflows

/-- The name of the state of a story that has one. -/
theorem stateName_eq (hstate : (Value.fieldOf fields "workflow_state_id").isNull = false)
    (hid : Value.fieldOf fields "workflow_id" = .atom workflowId)
    (hcandidates : ∀ workflow ∈ candidateWorkflows refs workflowId workflows,
      workflow.UsableAs .workflows) :
    stateName (.object fields) refs (.list workflows) =
      .ok (((firstState (Value.fieldOf fields "workflow_state_id")
        (candidateWorkflows refs workflowId workflows)).map shownState).getD
          (.text unknownName)) := by
  simp only [stateName, Value.field, hid, Value.asId, Value.elements, bind, Except.bind, hstate,
    Bool.false_eq_true, if_false, findStateIn_eq _ hcandidates]
  cases hfirst : firstState (Value.fieldOf fields "workflow_state_id")
      (candidateWorkflows refs workflowId workflows) with
  | none => rfl
  | some state =>
    obtain ⟨own, rfl⟩ := exists_fields_of_firstState hfirst
    rfl

end StateOfStory

section Building

variable {refs : Refs} {kind : Kind} {full : Bool} {workflows : List Value}
variable (hrefs : refs.Usable) (hworkflows : ∀ workflow ∈ workflows, workflow.UsableAs .workflows)

include hrefs hworkflows

/-- The state of a story has a name. -/
theorem exists_stateName {fields : Table String Value}
    (h : Reference.workflow.Admits (Value.fieldOf fields "workflow_id")) :
    ∃ name, stateName (.object fields) refs (.list workflows) = .ok name := by
  obtain ⟨workflowId, hid⟩ : ∃ id, Value.fieldOf fields "workflow_id" = .atom id := h
  have hown : ∀ own, refs.get .workflows workflowId = .found own → own.UsableAs .workflows := by
    intro own hget
    obtain ⟨id, hmem⟩ := Refs.exists_mem_of_get_eq_found hget
    exact hrefs.ofKind (by simp [Kind.lookedUp, Kind.cached]) hmem own rfl
  cases hstate : (Value.fieldOf fields "workflow_state_id").isNull with
  | false =>
    exact ⟨_, stateName_eq hstate hid (usable_of_mem_candidateWorkflows hown hworkflows)⟩
  | true =>
    simp only [stateName, Value.field, bind, Except.bind, hstate, if_true]
    exact ⟨_, rfl⟩

omit hworkflows in
/-- The names beside the ids of a reference can be added. -/
theorem exists_addNames {fields : Table String Value} {ref : Reference}
    (h : ref.Admits (Value.fieldOf fields ref.idField)) (hkind : ref.kind ∈ Kind.lookedUp)
    (shaped : Table String Value) :
    ∃ named, addNames (.object fields) refs shaped ref = .ok named := by
  obtain ⟨ids, hids⟩ := Reference.exists_ids h
  have hnames : ∃ names, (ids.map Value.atom).mapM (refs.nameOf ref.kind) = .ok names := by
    refine Except.exists_mapM_eq_ok fun v hv => ?_
    obtain ⟨id, -, rfl⟩ := List.mem_map.1 hv
    exact hrefs.exists_nameOf hkind id
  obtain ⟨names, hnames⟩ := hnames
  simp only [addNames, Value.has, hids, hnames, bind, Except.bind]
  split <;> exact ⟨_, rfl⟩

/-- **A primary entity can be decorated.** -/
theorem exists_decorate {primary : Value} (h : primary.IsPrimary kind full) :
    ∃ shaped, decorate kind primary refs full (.list workflows) = .ok shaped := by
  obtain ⟨fields, rfl, hreferences, hprofile⟩ := h
  obtain ⟨shaped, hshaped⟩ := Entity.exists_shape hprofile
  obtain ⟨named, hnamed⟩ := Except.exists_foldlM_eq_ok (fun shaped ref href =>
    exists_addNames hrefs (hreferences ref href) (Kind.kind_mem_lookedUp href) shaped) shaped
  rw [decorate, hshaped]
  simp only [bind, Except.bind, hnamed, addStateName, Value.has]
  split
  · next hstories =>
    subst hstories
    obtain ⟨name, hname⟩ := exists_stateName hrefs hworkflows
      (hreferences .workflow (by simp [Kind.references]))
    split
    · rw [hname]
      exact ⟨_, rfl⟩
    · exact ⟨_, rfl⟩
  · exact ⟨_, rfl⟩

/-- All primary entities can be decorated. -/
theorem exists_decorateAll {primaries : List Value}
    (h : ∀ primary ∈ primaries, primary.IsPrimary kind full) :
    ∃ shaped, decorateAll kind primaries refs full (.list workflows) = .ok shaped := by
  refine Except.exists_mapM_eq_ok fun primary hprimary => ?_
  obtain ⟨shaped, hshaped⟩ := exists_decorate hrefs hworkflows (h primary hprimary)
  exact ⟨.object shaped, by rw [hshaped]; rfl⟩

end Building

/-! ## Related entities -/

/-- What is shown for an id that was not found. -/
theorem relatedEntries_cons_of_isMissing (kind : Kind) (markUnknown : Bool) (id : Atom)
    {lookup : Lookup} (h : lookup.isMissing = true) (rest : Table Atom Lookup) :
    relatedEntries kind markUnknown ((id, lookup) :: rest) = (do
      let others ← relatedEntries kind markUnknown rest
      pure (if showsUnknown kind markUnknown then unknownEntity id :: others else others)) := by
  cases lookup with
  | found entity => cases h
  | notFound own => rfl
  | failure own error => rfl

/-- What is shown for usable outcomes. -/
theorem exists_relatedEntries {kind : Kind} (markUnknown : Bool) {outcomes : Table Atom Lookup}
    (h : ∀ id lookup, (id, lookup) ∈ outcomes → lookup.Usable kind) :
    ∃ entries, relatedEntries kind markUnknown outcomes = .ok entries := by
  induction outcomes with
  | nil => exact ⟨[], rfl⟩
  | cons outcome rest ih =>
    obtain ⟨id, lookup⟩ := outcome
    obtain ⟨others, hothers⟩ := ih fun id lookup hmem => h id lookup (List.mem_cons_of_mem _ hmem)
    cases lookup with
    | found entity =>
      obtain ⟨fields, rfl, husable⟩ := h id _ List.mem_cons_self entity rfl
      obtain ⟨shaped, hshaped⟩ : ∃ shaped, Entity.shape kind (.object fields) false = .ok shaped :=
        Entity.exists_shape fun husers _ => husable.profile husers
      simp only [relatedEntries, hshaped, hothers, bind, Except.bind]
      exact ⟨_, rfl⟩
    | notFound own =>
      rw [relatedEntries_cons_of_isMissing _ _ _ rfl, hothers]
      exact ⟨_, rfl⟩
    | failure own error =>
      rw [relatedEntries_cons_of_isMissing _ _ _ rfl, hothers]
      exact ⟨_, rfl⟩

/-- **The related entities can be shown.** -/
theorem exists_relatedEntities (kind : Kind) {refs : Refs} (h : refs.Usable) (markUnknown : Bool) :
    ∃ related, relatedEntities kind refs markUnknown = .ok related := by
  refine Except.exists_foldlM_eq_ok (fun related outcomes houtcomes => ?_) _
  obtain ⟨entries, hentries⟩ := exists_relatedEntries markUnknown
    (h.lookups outcomes.1 outcomes.2 houtcomes)
  simp only [addRelated, hentries, bind, Except.bind]
  exact ⟨_, rfl⟩

/-- What is shown for some outcomes stays when one is put in front. -/
theorem exists_append_of_relatedEntries_cons {kind : Kind} {markUnknown : Bool}
    {outcome : Atom × Lookup} {rest : Table Atom Lookup} {entries : List Value}
    (h : relatedEntries kind markUnknown (outcome :: rest) = .ok entries) :
    ∃ shown others, relatedEntries kind markUnknown rest = .ok others ∧
      entries = shown ++ others := by
  obtain ⟨id, lookup⟩ := outcome
  cases hmissing : lookup.isMissing with
  | false =>
    cases lookup with
    | found entity =>
      obtain ⟨shaped, -, h⟩ := Except.bind_eq_ok.1 h
      obtain ⟨others, hothers, h⟩ := Except.bind_eq_ok.1 h
      cases h
      exact ⟨[.object shaped], others, hothers, rfl⟩
    | notFound own => cases hmissing
    | failure own error => cases hmissing
  | true =>
    rw [relatedEntries_cons_of_isMissing _ _ _ hmissing] at h
    obtain ⟨others, hothers, h⟩ := Except.bind_eq_ok.1 h
    cases h
    split
    · exact ⟨[unknownEntity id], others, hothers, rfl⟩
    · exact ⟨[], others, hothers, rfl⟩

/-- What was not found is among what is shown, if it is shown at all. -/
theorem unknownEntity_mem_relatedEntries {kind : Kind} {markUnknown : Bool}
    {outcomes : Table Atom Lookup} {entries : List Value}
    (h : relatedEntries kind markUnknown outcomes = .ok entries)
    (hshown : showsUnknown kind markUnknown = true) {id : Atom} {lookup : Lookup}
    (hmem : (id, lookup) ∈ outcomes) (hmissing : lookup.isMissing = true) :
    unknownEntity id ∈ entries := by
  induction outcomes generalizing entries with
  | nil => cases hmem
  | cons outcome rest ih =>
    rcases List.mem_cons.1 hmem with rfl | hmem
    · rw [relatedEntries_cons_of_isMissing _ _ _ hmissing, hshown] at h
      obtain ⟨others, -, h⟩ := Except.bind_eq_ok.1 h
      cases h
      rw [if_pos rfl]
      exact List.mem_cons_self
    · obtain ⟨shown, others, hothers, rfl⟩ := exists_append_of_relatedEntries_cons h
      exact List.mem_append_right _ (ih hothers hmem)

/-- What was not found of a kind is among its related entities. -/
theorem unknownEntity_mem_related {kind : Kind} {refs : Refs} {markUnknown : Bool}
    {related : Table Kind (List Value)} (h : relatedEntities kind refs markUnknown = .ok related)
    {k : Kind} {outcomes : Table Atom Lookup} (hentry : (k, outcomes) ∈ refs.lookups)
    (hshown : showsUnknown k markUnknown = true) {id : Atom} {lookup : Lookup}
    (hmem : (id, lookup) ∈ outcomes) (hmissing : lookup.isMissing = true) :
    unknownEntity id ∈ (related.get? k).getD [] := by
  refine Except.foldlM_invariant (fun done related => (k, outcomes) ∈ done →
    unknownEntity id ∈ (Table.get? related k).getD []) ?_ h (fun hnone => by cases hnone) hentry
  intro done related entry related' hdone hstep hmem'
  obtain ⟨entries, hentries, hstep⟩ := Except.bind_eq_ok.1 hstep
  cases hstep
  rw [Table.get?_insert]
  rcases List.mem_append.1 hmem' with hold | hnew
  · -- what was shown before stays in front
    split
    · next hk =>
      rw [Table.get?_congr related hk, Option.getD_some]
      exact List.mem_append_left _ (hdone hold)
    · exact hdone hold
  · cases List.mem_singleton.1 hnew
    rw [if_pos BEq.rfl, Option.getD_some]
    exact List.mem_append_right _
      (unknownEntity_mem_relatedEntries hentries hshown hmem hmissing)

/-! ## Results -/

/-- What was not found has the unknown name, and is shown as an unknown entity
where misses of its kind are shown. -/
def MarksMisses (result : Hydrated) (markUnknown : Bool) : Prop :=
  ∀ k id lookup, (id, lookup) ∈ result.refs.ofKind k → lookup.isMissing = true →
    result.refs.nameOf k (.atom id) = .ok unknownName ∧
      (showsUnknown k markUnknown = true →
        unknownEntity id ∈ (result.related.get? k).getD [])

variable {kind : Kind} {refs : Refs} {markUnknown : Bool} {related : Table Kind (List Value)}

/-- **Misses are marked** in a result whose related entities come from its
references. -/
theorem marksMisses {result : Hydrated}
    (h : relatedEntities kind result.refs markUnknown = .ok result.related)
    (hdistinct : ∀ k, Distinct (result.refs.ofKind k).keys) : result.MarksMisses markUnknown := by
  intro k id lookup hmem hmissing
  have hget : result.refs.get k id = lookup := by
    rw [Refs.get, Table.get?_eq_some_of_mem (hdistinct k) hmem, Option.getD_some]
  refine ⟨?_, fun hshown => ?_⟩
  · refine Refs.nameOf_of_isMissing ?_
    rw [hget]
    exact hmissing
  · rw [Refs.ofKind] at hmem
    cases hlookups : result.refs.lookups.get? k with
    | none =>
      rw [hlookups] at hmem
      cases hmem
    | some outcomes =>
      -- the kind in the table of outcomes is told apart from others by comparing only
      rw [hlookups, Option.getD_some] at hmem
      obtain ⟨k', hentry, hkk⟩ := Table.exists_mem_of_get?_eq_some hlookups
      have hshown' : showsUnknown k' markUnknown = true := by
        rw [showsUnknown, Distinct.contains_congr hkk]
        exact hshown
      rw [← Table.get?_congr result.related hkk]
      exact unknownEntity_mem_related h hentry hshown' hmem hmissing

section Building

variable {options : Options} {workflows : List Value} {primaries : List Value}
variable (hrefs : refs.Usable) (hworkflows : ∀ workflow ∈ workflows, workflow.UsableAs .workflows)
variable (hprimaries : ∀ primary ∈ primaries, primary.IsPrimary kind options.full)

include hrefs hworkflows hprimaries

/-- **A result can be built** for primary entities. -/
theorem exists_ofMany :
    ∃ result, ofMany kind primaries refs options (.list workflows) = .ok result ∧
      result.refs = refs ∧
      relatedEntities kind refs options.markUnknown = .ok result.related := by
  obtain ⟨shaped, hshaped⟩ := exists_decorateAll hrefs hworkflows hprimaries
  obtain ⟨related, hrelated⟩ := exists_relatedEntities kind hrefs options.markUnknown
  simp only [ofMany, hshaped, hrelated, bind, Except.bind]
  exact ⟨_, rfl, rfl, rfl⟩

/-- **A result can be built** for the first of some primary entities. -/
theorem exists_ofFirst (hsome : primaries ≠ []) :
    ∃ result, ofFirst kind primaries refs options (.list workflows) = .ok result ∧
      result.refs = refs ∧
      relatedEntities kind refs options.markUnknown = .ok result.related := by
  obtain ⟨shaped, hshaped⟩ := exists_decorateAll hrefs hworkflows hprimaries
  obtain ⟨related, hrelated⟩ := exists_relatedEntities kind hrefs options.markUnknown
  have hlength := (Except.mapM_eq_ok_iff.1 hshaped).length_eq
  simp only [ofFirst, hshaped, hrelated, bind, Except.bind]
  cases shaped with
  | nil => exact absurd (List.length_eq_zero_iff.1 hlength) hsome
  | cons first others => exact ⟨_, rfl, rfl, rfl⟩

end Building

end Hydrated

end Backlog
