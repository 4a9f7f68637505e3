import Backlog.Proofs.Settled
import Backlog.Proofs.Showing
/-!
# A batch is its entities, one by one

Entities that are hydrated together share what is looked up for them. In a
settled world that makes no difference to what is shown: each entity is shown
as if it had been hydrated alone, and the related entities of the batch are
those of its entities (`Resolver.batch_is_one_by_one`). What is shown of an
entity depends on the outcomes for the ids that it holds
(`Hydrated.decorate_congr`), and what is shown beside it on the ids that it
reaches (`Resolver.Returns.mem_related_iff`).
-/

namespace Backlog

/-! ## Names depend on the ids held -/

namespace Reference

variable {ref : Reference} {entity : Value} {id : Atom}

/-- What is held is among the values of the field. -/
theorem mem_held_iff {values : List Value} (h : ref.ids entity = .ok values) :
    id ∈ ref.held entity ↔ .atom id ∈ values := by
  rw [held, h]
  constructor
  · intro hid
    obtain ⟨v, hv, hatom⟩ := List.mem_filterMap.1 hid
    cases v with
    | atom a => cases hatom; exact hv
    | list _ => cases hatom
    | object _ => cases hatom
  · intro hid
    exact List.mem_filterMap.2 ⟨.atom id, hid, rfl⟩

/-- A field holds no blank id. -/
theorem isBlankId_of_mem_held (h : id ∈ ref.held entity) : isBlankId (.atom id) = false := by
  cases hids : ref.ids entity with
  | error fault =>
    rw [held, hids] at h
    cases h
  | ok values =>
    have hmem := (mem_held_iff hids).1 h
    obtain ⟨field, -, hids⟩ := Except.bind_eq_ok.1 hids
    split at hids
    · obtain ⟨items, -, hids⟩ := Except.bind_eq_ok.1 hids
      cases hids
      simpa using (List.mem_filter.1 hmem).2
    · split at hids
      · cases hids
        cases hmem
      · next hblank =>
        cases hids
        cases List.mem_singleton.1 hmem
        exact Bool.eq_false_iff.2 hblank

/-- No blank id is held in any reference. -/
theorem isBlankId_of_mem_heldIn {references : List Reference} {k : Kind}
    (h : id ∈ heldIn references k entity) : isBlankId (.atom id) = false := by
  obtain ⟨ref, -, hid⟩ := List.mem_flatMap.1 h
  exact isBlankId_of_mem_held hid

/-- An id that compares equal to a blank one is blank. -/
theorem isBlankId_congr {a b : Atom} (h : (a == b) = true) :
    isBlankId (.atom a) = isBlankId (.atom b) := by
  have hkey := Atom.beq_iff_key_eq.1 h
  cases a with
  | null =>
    cases b with
    | null => rfl
    | num n => cases hkey
    | text s => cases hkey
  | num n =>
    cases b with
    | null => cases hkey
    | num n' => rfl
    | text s => cases hkey
  | text s =>
    cases b with
    | null => cases hkey
    | num n => cases hkey
    | text s' => cases hkey; rfl

end Reference

/-- No blank id is reached. -/
theorem Session.isBlankId_of_reaches {remote : Remote} {s : Session} {kind : Kind}
    {primary : Value} {k : Kind} {id : Atom} (h : s.Reaches remote kind primary k id) :
    Reference.isBlankId (.atom id) = false := by
  rcases h with hheld | ⟨source, -, own, -, hheld⟩
  · exact Reference.isBlankId_of_mem_heldIn hheld
  · cases hlookup : s.outcome remote source own with
    | found entity =>
      rw [hlookup] at hheld
      exact Reference.isBlankId_of_mem_heldIn hheld
    | notFound _ => rw [hlookup] at hheld; cases hheld
    | failure _ _ => rw [hlookup] at hheld; cases hheld

theorem Refs.nameOf_congr {refs refs' : Refs} {kind : Kind} {id : Atom}
    (h : refs.get kind id = refs'.get kind id) :
    refs.nameOf kind (.atom id) = refs'.nameOf kind (.atom id) := by
  simp only [nameOf, Value.asId, bind, Except.bind, h]

namespace Hydrated

variable {kind : Kind} {entity : Value} {refs refs' : Refs}

/-- The names of the ids in a field depend on what was found for these. -/
theorem addNames_congr {ref : Reference}
    (h : ∀ id ∈ ref.held entity, refs.get ref.kind id = refs'.get ref.kind id)
    (shaped : Table String Value) :
    addNames entity refs shaped ref = addNames entity refs' shaped ref := by
  have hnames : ∀ values, ref.ids entity = .ok values →
      values.mapM (refs.nameOf ref.kind) = values.mapM (refs'.nameOf ref.kind) := by
    intro values hvalues
    refine Except.mapM_congr fun v hv => ?_
    cases v with
    | atom id => exact Refs.nameOf_congr (h id ((Reference.mem_held_iff hvalues).2 hv))
    | list _ => rfl
    | object _ => rfl
  rw [addNames, addNames]
  cases entity.has ref.idField with
  | error fault => rfl
  | ok has =>
    cases has with
    | false => rfl
    | true =>
      cases hvalues : ref.ids entity with
      | error fault => rfl
      | ok values => simp only [bind, Except.bind, if_true, hnames values hvalues]

/-- The name of a workflow state depends on what was found for the workflow. -/
theorem stateName_congr
    (h : ∀ id, entity.field "workflow_id" = .ok (.atom id) →
      refs.get .workflows id = refs'.get .workflows id) (workflows : Value) :
    stateName entity refs workflows = stateName entity refs' workflows := by
  rw [stateName, stateName]
  cases hfield : entity.field "workflow_id" with
  | error fault => rfl
  | ok v =>
    cases v with
    | list _ => rfl
    | object _ => rfl
    | atom id =>
      have hsame : ∀ workflows, candidateWorkflows refs id workflows =
          candidateWorkflows refs' id workflows := by
        intro workflows
        rw [candidateWorkflows, candidateWorkflows, h id hfield]
      simp only [Value.asId, bind, Except.bind, hsame]

/-- **How an entity is shown** depends on what was found for the ids that it
holds. -/
theorem decorate_congr
    (hheld : ∀ ref ∈ kind.references, ∀ id ∈ ref.held entity,
      refs.get ref.kind id = refs'.get ref.kind id)
    (hworkflow : kind = .stories → ∀ id, entity.field "workflow_id" = .ok (.atom id) →
      refs.get .workflows id = refs'.get .workflows id) (full : Bool) (workflows : Value) :
    decorate kind entity refs full workflows = decorate kind entity refs' full workflows := by
  have hnames : ∀ shaped, kind.references.foldlM (addNames entity refs) shaped =
      kind.references.foldlM (addNames entity refs') shaped :=
    Except.foldlM_congr fun shaped ref href => addNames_congr (hheld ref href) shaped
  have hstate : ∀ shaped, addStateName kind entity refs workflows shaped =
      addStateName kind entity refs' workflows shaped := by
    intro shaped
    rw [addStateName, addStateName]
    split
    · next hstories => rw [stateName_congr (hworkflow hstories)]
    · rfl
  simp only [decorate, hnames, hstate]

/-! ## Related entities depend on the outcomes -/

/-- Whether a miss is shown: that of an epic, an iteration or an objective always,
that of any other kind only where misses are to be marked. -/
def marksMiss (kind : Kind) (markUnknown : Bool) : Bool :=
  [Kind.epics, .iterations, .objectives].any (· == kind) || markUnknown

theorem marksMiss_eq (kind : Kind) (markUnknown : Bool) :
    marksMiss kind markUnknown = showsUnknown kind markUnknown := by
  rw [marksMiss, showsUnknown, List.contains_eq_any_beq]
  simp only [BEq.comm (a := kind)]
  rfl

/-- Whether a value is what is shown for the outcome of an id: the simplified shape
of what was found, and for a miss an object that says so, with the id, a name that
stands for no name, and nothing else. -/
def Shows (kind : Kind) (markUnknown : Bool) (id : Atom) (v : Value) : Lookup → Prop
  | .found entity => ∃ shaped, Entity.shape kind entity false = .ok shaped ∧ v = .object shaped
  | .notFound _ | .failure _ _ =>
    marksMiss kind markUnknown = true ∧
      v = .object [("id", .atom id), ("name", .text "[Unknown]"), ("not_found", .bool true)]

theorem shows_iff_of_isMissing {kind : Kind} {markUnknown : Bool} {id : Atom} {v : Value}
    {lookup : Lookup} (h : lookup.isMissing = true) :
    Shows kind markUnknown id v lookup ↔
      showsUnknown kind markUnknown = true ∧ v = unknownEntity id := by
  rw [← marksMiss_eq]
  cases lookup with
  | found entity => cases h
  | notFound own => exact Iff.rfl
  | failure own error => exact Iff.rfl

/-- What is shown for outcomes is shown for one of them. -/
theorem mem_relatedEntries_iff {markUnknown : Bool} {outcomes : Table Atom Lookup}
    {entries : List Value} (h : relatedEntries kind markUnknown outcomes = .ok entries)
    {v : Value} :
    v ∈ entries ↔ ∃ outcome ∈ outcomes, Shows kind markUnknown outcome.1 v outcome.2 := by
  induction outcomes generalizing entries with
  | nil =>
    cases h
    simp
  | cons outcome rest ih =>
    obtain ⟨id, lookup⟩ := outcome
    rw [List.exists_mem_cons_iff]
    cases hmissing : lookup.isMissing with
    | false =>
      cases lookup with
      | found entity =>
        obtain ⟨shaped, hshaped, h⟩ := Except.bind_eq_ok.1 h
        obtain ⟨others, hothers, h⟩ := Except.bind_eq_ok.1 h
        cases h
        rw [List.mem_cons, ih hothers]
        simp [Shows, hshaped]
      | notFound own => cases hmissing
      | failure own error => cases hmissing
    | true =>
      rw [relatedEntries_cons_of_isMissing _ _ _ hmissing] at h
      obtain ⟨others, hothers, h⟩ := Except.bind_eq_ok.1 h
      cases h
      rw [shows_iff_of_isMissing hmissing, ← ih hothers]
      cases showsUnknown kind markUnknown <;> simp

/-- **What is shown for the outcomes of a kind.** -/
theorem mem_relatedEntities_iff {markUnknown : Bool} {related : Table Kind (List Value)}
    (h : relatedEntities kind refs markUnknown = .ok related) {k : Kind} {v : Value} :
    v ∈ (related.get? k).getD [] ↔ ∃ entry ∈ refs.lookups, (entry.1 == k) = true ∧
      ∃ outcome ∈ entry.2, Shows entry.1 markUnknown outcome.1 v outcome.2 := by
  refine Except.foldlM_invariant (fun done related => v ∈ (Table.get? related k).getD [] ↔
    ∃ entry ∈ done, (entry.1 == k) = true ∧
      ∃ outcome ∈ entry.2, Shows entry.1 markUnknown outcome.1 v outcome.2) ?_ h ?_
  · intro done related entry related' hdone hstep
    obtain ⟨entries, hentries, hstep⟩ := Except.bind_eq_ok.1 hstep
    cases hstep
    rw [Table.get?_insert]
    split
    · next hk =>
      rw [Option.getD_some, List.mem_append, Table.get?_congr related hk, hdone,
        mem_relatedEntries_iff hentries]
      simp [or_and_right, exists_or, hk]
    · next hk =>
      rw [hdone]
      simp [or_and_right, exists_or, hk]
  · -- at first every kind that may be related is there, and nothing with it
    have hnone :
        (Table.get? (kind.related.map fun k => (k, ([] : List Value))) k).getD [] = [] := by
      cases hget : Table.get? (kind.related.map fun k => (k, ([] : List Value))) k with
      | none => rfl
      | some values =>
        obtain ⟨k', hmem, -⟩ := Table.exists_mem_of_get?_eq_some hget
        obtain ⟨k'', -, heq⟩ := List.mem_map.1 hmem
        cases heq
        rfl
    rw [hnone]
    simp

/-! ## Built results -/

/-- A result for a list of entities has each decorated, and their related
entities. -/
theorem of_ofMany {primaries : List Value} {options : Options} {workflows : Value}
    {result : Hydrated} (h : ofMany kind primaries refs options workflows = .ok result) :
    (∃ shaped, decorateAll kind primaries refs options.full workflows = .ok shaped ∧
        result.primary = .list shaped) ∧
      relatedEntities kind refs options.markUnknown = .ok result.related := by
  obtain ⟨shaped, hshaped, h⟩ := Except.bind_eq_ok.1 h
  obtain ⟨related, hrelated, h⟩ := Except.bind_eq_ok.1 h
  cases h
  exact ⟨⟨shaped, hshaped, rfl⟩, hrelated⟩

/-- A result for one entity has it decorated, and its related entities. -/
theorem of_ofFirst {primary : Value} {options : Options} {workflows : Value}
    {result : Hydrated} (h : ofFirst kind [primary] refs options workflows = .ok result) :
    (∃ shaped, decorate kind primary refs options.full workflows = .ok shaped ∧
        result.primary = .object shaped) ∧
      relatedEntities kind refs options.markUnknown = .ok result.related := by
  obtain ⟨all, hall, h⟩ := Except.bind_eq_ok.1 h
  obtain ⟨related, hrelated, h⟩ := Except.bind_eq_ok.1 h
  obtain ⟨first, others, hfirst, -, rfl⟩ :=
    List.forall₂_cons_left_iff.1 (Except.mapM_eq_ok_iff.1 hall)
  obtain ⟨shaped, hshaped, hfirst⟩ := Except.bind_eq_ok.1 hfirst
  cases hfirst
  cases h
  exact ⟨⟨shaped, hshaped, rfl⟩, hrelated⟩

end Hydrated

namespace Resolver

variable {remote : Remote} {s t t' : Session} {kind : Kind} {primaries primaries' : List Value}
variable {result result' : Hydrated}

/-- What a call builds its result from. -/
theorem exists_build_of_run {build : Refs → Value → Except Fault Hydrated}
    (hrun : (do
      let ids ← IdsByKind.ofEntities kind primaries
      let refs ← resolveRefs ids
      let workflows ← knownWorkflows
      build refs workflows : Action Hydrated) remote s = (.ok result, t)) :
    ∃ refs, build refs (.list t.caches.workflows.values) = .ok result := by
  obtain ⟨ids, -, hrun⟩ := Run.lift_bind_eq_ok.1 hrun
  obtain ⟨refs, m, -, hrun⟩ := Run.bind_eq_ok.1 hrun
  obtain ⟨workflows, n, hknown, hrun⟩ := Run.bind_eq_ok.1 hrun
  cases hknown
  rw [Run.lift_apply, Prod.mk.injEq] at hrun
  obtain ⟨hresult, rfl⟩ := hrun
  exact ⟨refs, hresult⟩

namespace Returns

/-- No blank id is recorded. -/
theorem get_of_isBlankId (h : Returns remote s kind primaries result t)
    (hsettled : Settled remote s kind primaries) {k : Kind} {id : Atom}
    (hid : Reference.isBlankId (.atom id) = true) : result.refs.get k id = .notFound id := by
  rw [Refs.get]
  cases hget : (result.refs.ofKind k).get? id with
  | none => rfl
  | some lookup =>
    obtain ⟨own, hmem, hsame⟩ := Table.exists_mem_of_get?_eq_some hget
    have hkey : own ∈ (result.refs.ofKind k).keys := List.mem_map.2 ⟨(own, lookup), hmem, rfl⟩
    obtain ⟨primary, -, hreach⟩ := (h.mem_keys_iff hsettled).1 hkey
    have hown := Session.isBlankId_of_reaches hreach
    rw [Reference.isBlankId_congr hsame, hid] at hown
    cases hown

/-- What a call has for an id that an entity holds. -/
theorem get_of_mem_held (h : Returns remote s kind primaries result t)
    (hsettled : Settled remote s kind primaries) {primary : Value} (hprimary : primary ∈ primaries)
    {ref : Reference} (href : ref ∈ kind.references) {id : Atom} (hid : id ∈ ref.held primary) :
    result.refs.get ref.kind id = s.outcome remote ref.kind id := by
  refine h.get_eq_outcome hsettled (Kind.kind_mem_lookedUp href) hprimary (.inl ?_)
  exact List.mem_flatMap.2 ⟨ref, List.mem_filter.2 ⟨href, BEq.rfl⟩, hid⟩

/-- What a call has for the workflow of a story: nothing when the id is blank,
and else what becomes of it. -/
theorem get_workflow (h : Returns remote s .stories primaries result t)
    (hsettled : Settled remote s .stories primaries) {story : Value} (hstory : story ∈ primaries)
    {id : Atom} (hid : story.field "workflow_id" = .ok (.atom id)) :
    result.refs.get .workflows id =
      if Reference.isBlankId (.atom id) then .notFound id else s.outcome remote .workflows id := by
  cases hblank : Reference.isBlankId (.atom id) with
  | true => exact h.get_of_isBlankId hsettled hblank
  | false =>
    have hids : Reference.workflow.ids story = .ok [.atom id] := by
      simp [Reference.ids, Reference.workflow, hid, hblank, bind, Except.bind, pure, Except.pure]
    have href : Reference.workflow ∈ Kind.stories.references := by simp [Kind.references]
    exact h.get_of_mem_held hsettled hstory href
      ((Reference.mem_held_iff hids).2 List.mem_cons_self)

/-- **A primary entity is shown alike** by all calls that it is given to. -/
theorem decorate_eq (h : Returns remote s kind primaries result t)
    (h' : Returns remote s kind primaries' result' t')
    (hsettled : Settled remote s kind primaries) (hsettled' : Settled remote s kind primaries')
    {primary : Value} (hprimary : primary ∈ primaries) (hprimary' : primary ∈ primaries')
    (full : Bool) (workflows : Value) :
    Hydrated.decorate kind primary result.refs full workflows =
      Hydrated.decorate kind primary result'.refs full workflows := by
  refine Hydrated.decorate_congr (fun ref href id hid => ?_) (fun hstories id hid => ?_) full
    workflows
  · rw [h.get_of_mem_held hsettled hprimary href hid,
      h'.get_of_mem_held hsettled' hprimary' href hid]
  · subst hstories
    rw [h.get_workflow hsettled hprimary hid, h'.get_workflow hsettled' hprimary' hid]

end Returns

/-- Whether a value is shown beside a primary entity among the related entities
of a kind: it is what is shown for the outcome of an id that the entity
reaches. -/
def ShownBeside (remote : Remote) (s : Session) (kind : Kind) (markUnknown : Bool)
    (primary : Value) (k : Kind) (v : Value) : Prop :=
  ∃ k' ∈ Kind.lookedUp, (k' == k) = true ∧ ∃ id, s.Reaches remote kind primary k' id ∧
    Hydrated.Shows k' markUnknown id v (s.outcome remote k' id)

/-- **The related entities that a call shows** are those beside each of its
primary entities. -/
theorem Returns.mem_related_iff (h : Returns remote s kind primaries result t)
    (hsettled : Settled remote s kind primaries) {markUnknown : Bool}
    (hrelated : Hydrated.relatedEntities kind result.refs markUnknown = .ok result.related)
    {k : Kind} {v : Value} :
    v ∈ (result.related.get? k).getD [] ↔
      ∃ primary ∈ primaries, ShownBeside remote s kind markUnknown primary k v := by
  obtain ⟨ids, further, -, -, hresolved⟩ := h.exists_resolved
  rw [Hydrated.mem_relatedEntities_iff hrelated]
  constructor
  · rintro ⟨⟨k', outcomes⟩, hentry, hk, ⟨id, lookup⟩, hmem, hshows⟩
    have hkind : k' ∈ Kind.lookedUp := (hresolved.of_mem_kinds
      (List.mem_map.2 ⟨(k', outcomes), hentry, rfl⟩)).1
    have hofKind : result.refs.ofKind k' = outcomes := by
      rw [Refs.ofKind, Table.get?_eq_some_of_mem hresolved.distinct_kinds hentry, Option.getD_some]
    rw [← hofKind] at hmem
    obtain ⟨rfl, primary, hprimary, hreach⟩ := (h.mem_ofKind_iff hsettled hkind).1 hmem
    exact ⟨primary, hprimary, k', hkind, hk, id, hreach, hshows⟩
  · rintro ⟨primary, hprimary, k', hkind, hk, id, hreach, hshows⟩
    have hmem := (h.mem_ofKind_iff hsettled hkind).2 ⟨rfl, primary, hprimary, hreach⟩
    rw [Refs.ofKind] at hmem
    cases hget : result.refs.lookups.get? k' with
    | none =>
      rw [hget] at hmem
      cases hmem
    | some outcomes =>
      rw [hget] at hmem
      obtain ⟨k'', hentry, hsame⟩ := Table.exists_mem_of_get?_eq_some hget
      have hkind' : k'' ∈ Kind.lookedUp := (hresolved.of_mem_kinds
        (List.mem_map.2 ⟨(k'', outcomes), hentry, rfl⟩)).1
      cases Kind.eq_of_beq_of_mem_lookedUp hkind' hkind hsame
      exact ⟨(k', outcomes), hentry, hk, _, hmem, hshows⟩

/-! ## A batch and its single calls -/

/-- A call in a settled world leaves the caches as they are. -/
theorem Returns.caches_eq (h : Returns remote s kind primaries result t)
    (hsettled : Settled remote s kind primaries) : t.caches = s.caches := by
  obtain ⟨ids, further, -, -, hresolved⟩ := h.exists_resolved
  exact hresolved.caches_eq hsettled.fresh

/-- What a call for a list of entities shows. -/
theorem of_resolveMany {options : Hydrated.Options} (hsettled : Settled remote s kind primaries)
    (hrun : resolveMany kind primaries options remote s = (.ok result, t)) :
    (∃ shaped, Hydrated.decorateAll kind primaries result.refs options.full
        (.list s.caches.workflows.values) = .ok shaped ∧ result.primary = .list shaped) ∧
      Hydrated.relatedEntities kind result.refs options.markUnknown = .ok result.related := by
  obtain ⟨refs, hbuild⟩ := exists_build_of_run hrun
  rw [(Returns.many hrun).caches_eq hsettled] at hbuild
  rw [Hydrated.refs_ofMany hbuild]
  exact Hydrated.of_ofMany hbuild

/-- What a call for one entity shows. -/
theorem of_resolveOne {primary : Value} {options : Hydrated.Options}
    (hsettled : Settled remote s kind [primary])
    (hrun : resolveOne kind primary options remote s = (.ok result, t)) :
    (∃ shaped, Hydrated.decorate kind primary result.refs options.full
        (.list s.caches.workflows.values) = .ok shaped ∧ result.primary = .object shaped) ∧
      Hydrated.relatedEntities kind result.refs options.markUnknown = .ok result.related := by
  obtain ⟨refs, hbuild⟩ := exists_build_of_run hrun
  rw [(Returns.one hrun).caches_eq hsettled] at hbuild
  rw [Hydrated.refs_ofFirst hbuild]
  exact Hydrated.of_ofFirst hbuild

/-- What holds of some element holds of the element of another list that it is
paired with. -/
theorem exists_mem_iff_of_forall₂ {α β : Type} {R : α → β → Prop} {P : α → Prop} {Q : β → Prop}
    {l : List α} {l' : List β} (h : l.Forall₂ R l') (hR : ∀ a b, R a b → (P a ↔ Q b)) :
    (∃ a ∈ l, P a) ↔ ∃ b ∈ l', Q b := by
  induction h with
  | nil => simp
  | cons hab _ ih => rw [List.exists_mem_cons_iff, List.exists_mem_cons_iff, hR _ _ hab, ih]

/-- **Hydrating in a batch is hydrating one by one.** In a settled world, when
the calls return, each primary entity of a batch is shown as the call for it
alone shows it, and the related entities of the batch are those of the single
calls, kind by kind. -/
theorem batch_is_one_by_one {options : Hydrated.Options} {batch : Hydrated}
    {singles : List Hydrated} (hsettled : Settled remote s kind primaries)
    (hbatch : resolveMany kind primaries options remote s = (.ok batch, t))
    (hsingles : primaries.Forall₂ (fun primary single =>
      ∃ t, resolveOne kind primary options remote s = (.ok single, t)) singles) :
    batch.primary = .list (singles.map (·.primary)) ∧
      ∀ k v, v ∈ (batch.related.get? k).getD [] ↔
        ∃ single ∈ singles, v ∈ (single.related.get? k).getD [] := by
  have hpairs : primaries.Forall₂ (fun primary single => primary ∈ primaries ∧
      ∃ t, resolveOne kind primary options remote s = (.ok single, t)) singles :=
    (List.forall₂_and_left _ _).2 ⟨fun _ hprimary => hprimary, hsingles⟩
  obtain ⟨⟨shaped, hshaped, hprimaries⟩, hrelated⟩ := of_resolveMany hsettled hbatch
  refine ⟨?_, fun k v => ?_⟩
  · -- the batch decorates each entity as the call for it alone does
    have hall : Hydrated.decorateAll kind primaries batch.refs options.full
        (.list s.caches.workflows.values) = .ok (singles.map (·.primary)) := by
      rw [Hydrated.decorateAll, Except.mapM_eq_ok_iff, List.forall₂_map_right_iff]
      refine hpairs.imp ?_
      rintro primary single ⟨hprimary, u, hone⟩
      obtain ⟨⟨fields, hfields, hshown⟩, -⟩ := of_resolveOne (hsettled.singleton hprimary) hone
      rw [(Returns.many hbatch).decorate_eq (.one hone) hsettled (hsettled.singleton hprimary)
        hprimary List.mem_cons_self, hfields, hshown]
      rfl
    have heq : shaped = singles.map (·.primary) := Except.ok.inj (hshaped.symm.trans hall)
    rw [hprimaries, heq]
  · rw [(Returns.many hbatch).mem_related_iff hsettled hrelated]
    refine exists_mem_iff_of_forall₂ hpairs ?_
    rintro primary single ⟨hprimary, u, hone⟩
    obtain ⟨-, hbeside⟩ := of_resolveOne (hsettled.singleton hprimary) hone
    rw [(Returns.one hone).mem_related_iff (hsettled.singleton hprimary) hbeside]
    simp

/-! ### Two stories -/

/-- Whether an entity holds plain ids only. -/
def HoldsPlain (references : List Reference) (entity : Value) : Prop :=
  (references.flatMap (·.held entity)).all Atom.isPlain = true

theorem HoldsPlain.isPlain {references : List Reference} {entity : Value}
    (h : HoldsPlain references entity) {k : Kind} {id : Atom}
    (hid : id ∈ Reference.heldIn references k entity) : id.isPlain = true := by
  obtain ⟨ref, href, hid⟩ := List.mem_flatMap.1 hid
  exact List.all_eq_true.1 h id (List.mem_flatMap.2 ⟨ref, (List.mem_filter.1 href).1, hid⟩)

namespace Sample

/-- A session with fresh caches: of the team, of its member, and of no
workflows. -/
def freshSession : Session :=
  { session with
    caches :=
      { users :=
          { entries := [(.text "u", .object [("id", .text "u")])], loadedAt := some (.int 0) }
        workflows := { loadedAt := some (.int 0) }
        teams := { entries := [(.text "t", team)], loadedAt := some (.int 0) } } }

/-- A story of the team. -/
def chore : Value := .object [("id", .int 6), ("group_id", .text "t")]

/-- A story of the member. -/
def bug : Value := .object [("id", .int 8), ("owner_ids", .list [.text "u"])]

theorem settled : Settled Sample.remote freshSession .stories [chore, bug] where
  steady := fun _ _ _ => rfl
  fresh := by
    intro kind hkind
    have hkinds : kind = .users ∨ kind = .workflows ∨ kind = .teams := by
      simpa [Kind.cached] using hkind
    rcases hkinds with rfl | rfl | rfl <;> rfl
  plain := by
    have hchore : HoldsPlain Kind.stories.references chore := rfl
    have hbug : HoldsPlain Kind.stories.references bug := rfl
    have hteam : HoldsPlain Kind.teams.secondaryReferences team := rfl
    intro primary hprimary k id hreach
    have hprimaries : primary = chore ∨ primary = bug := by simpa using hprimary
    rcases hreach with hid | ⟨source, hsource, own, hheld, hid⟩
    · rcases hprimaries with rfl | rfl
      · exact hchore.isPlain hid
      · exact hbug.isPlain hid
    · have hsources : source = .epics ∨ source = .teams := by
        simpa [Kind.secondarySources] using hsource
      -- only the team is found and followed further
      rcases hsources with rfl | rfl <;> rcases hprimaries with rfl | rfl
      · cases hheld
      · cases hheld
      · cases List.mem_singleton.1 hheld
        exact hteam.isPlain hid
      · cases hheld

end Sample

/-- The two stories together are shown as each alone. -/
theorem stories_one_by_one :
    ∃ batch first second t t' t'',
      resolveMany .stories [Sample.chore, Sample.bug] {} Sample.remote Sample.freshSession =
        (.ok batch, t) ∧
      resolveOne .stories Sample.chore {} Sample.remote Sample.freshSession = (.ok first, t') ∧
      resolveOne .stories Sample.bug {} Sample.remote Sample.freshSession = (.ok second, t'') ∧
      batch.primary = .list [first.primary, second.primary] ∧
      ∀ k v, v ∈ (batch.related.get? k).getD [] ↔
        ∃ single ∈ [first, second], v ∈ (single.related.get? k).getD [] := by
  obtain ⟨batch, t, hbatch⟩ : ∃ batch t, resolveMany .stories [Sample.chore, Sample.bug] {}
      Sample.remote Sample.freshSession = (.ok batch, t) := ⟨_, _, rfl⟩
  obtain ⟨first, t', hfirst⟩ : ∃ first t', resolveOne .stories Sample.chore {} Sample.remote
      Sample.freshSession = (.ok first, t') := ⟨_, _, rfl⟩
  obtain ⟨second, t'', hsecond⟩ : ∃ second t'', resolveOne .stories Sample.bug {} Sample.remote
      Sample.freshSession = (.ok second, t'') := ⟨_, _, rfl⟩
  exact ⟨batch, first, second, t, t', t'', hbatch, hfirst, hsecond,
    batch_is_one_by_one Sample.settled hbatch (.cons ⟨t', hfirst⟩ (.cons ⟨t'', hsecond⟩ .nil))⟩

end Resolver

end Backlog
