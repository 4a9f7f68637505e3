import Backlog.Proofs.Batch
import Backlog.Proofs.Hydration
/-!
# What stands among the related entities

The related entities of a result are made from its references alone. Each kind
has one entry for each of its outcomes, in their order, and a miss that is not
to be marked is all that has none (`Hydrated.relatedEntities_eq_ok_iff`). After
a call that returns, the kinds are those that may be related to the kind of the
primary entities, since no other kind is looked up for them
(`Resolver.Returns.related_contains`).
-/

namespace Backlog

/-! ## The kinds that may be related -/

namespace Kind

variable {kind k : Kind}

/-- No kind that may be related is named twice. -/
theorem distinct_related (kind : Kind) : Distinct kind.related := Distinct.of_eraseDups _

/-- What an entity of a kind refers to may be related. -/
theorem related_contains_of_reference {ref : Reference} (href : ref ∈ kind.references)
    (hk : (ref.kind == k) = true) : kind.related.contains k = true := by
  have hdirect : (kind.references.map (·.kind)).contains ref.kind = true :=
    Distinct.contains_of_mem (List.mem_map_of_mem href)
  rw [← Distinct.contains_congr hk, related, Distinct.contains_eraseDups, List.contains_append,
    hdirect, Bool.true_or]

/-- What that refers to, one step further, may be related too. -/
theorem related_contains_of_further {ref further : Reference} (href : ref ∈ kind.references)
    (hfurther : further ∈ ref.kind.secondaryReferences) (hk : (further.kind == k) = true) :
    kind.related.contains k = true := by
  have hmem : further.kind ∈ (kind.references.map (·.kind)).flatMap fun source =>
      source.secondaryReferences.map (·.kind) :=
    List.mem_flatMap.2 ⟨ref.kind, List.mem_map_of_mem href, List.mem_map_of_mem hfurther⟩
  rw [← Distinct.contains_congr hk, related, Distinct.contains_eraseDups, List.contains_append,
    Distinct.contains_of_mem hmem, Bool.or_true]

end Kind

namespace Hydrated

/-! ## The outcomes of one kind -/

/-- Whether an outcome of a kind has an entry. What was found always has, and
a miss has when misses of its kind are shown. -/
def isShown (kind : Kind) (markUnknown : Bool) : Lookup → Bool
  | .found _ => true
  | .notFound _ | .failure _ _ => marksMiss kind markUnknown

/-- Whether the entries are one for each outcome that is shown, in order. -/
def ShowsAll (kind : Kind) (markUnknown : Bool) (outcomes : Table Atom Lookup)
    (entries : List Value) : Prop :=
  (outcomes.filter fun outcome => isShown kind markUnknown outcome.2).Forall₂
    (fun outcome v => Shows kind markUnknown outcome.1 v outcome.2) entries

section

variable {kind : Kind} {markUnknown : Bool} {outcomes : Table Atom Lookup} {entries : List Value}

theorem isShown_of_isMissing {lookup : Lookup} (h : lookup.isMissing = true) :
    isShown kind markUnknown lookup = showsUnknown kind markUnknown := by
  rw [← marksMiss_eq]
  cases lookup with
  | found entity => cases h
  | notFound own => rfl
  | failure own error => rfl

/-- **The entries of a kind** are one for each outcome that is shown. -/
theorem relatedEntries_eq_ok_iff :
    relatedEntries kind markUnknown outcomes = .ok entries ↔
      ShowsAll kind markUnknown outcomes entries := by
  induction outcomes generalizing entries with
  | nil => simp [relatedEntries, ShowsAll, pure, Except.pure, eq_comm]
  | cons outcome rest ih =>
    obtain ⟨id, lookup⟩ := outcome
    rw [ShowsAll, List.filter_cons]
    cases hmissing : lookup.isMissing with
    | false =>
      cases lookup with
      | notFound own => cases hmissing
      | failure own error => cases hmissing
      | found entity =>
        have hshown : isShown kind markUnknown (.found entity) = true := rfl
        rw [if_pos hshown, List.forall₂_cons_left_iff]
        constructor
        · intro h
          obtain ⟨shaped, hshaped, h⟩ := Except.bind_eq_ok.1 h
          obtain ⟨others, hothers, h⟩ := Except.bind_eq_ok.1 h
          cases h
          exact ⟨_, _, ⟨shaped, hshaped, rfl⟩, ih.1 hothers, rfl⟩
        · rintro ⟨-, others, ⟨shaped, hshaped, rfl⟩, hothers, rfl⟩
          exact Except.bind_eq_ok.2 ⟨shaped, hshaped,
            Except.bind_eq_ok.2 ⟨others, ih.2 hothers, rfl⟩⟩
    | true =>
      rw [relatedEntries_cons_of_isMissing _ _ _ hmissing, isShown_of_isMissing hmissing,
        Except.bind_eq_ok]
      cases hmarked : showsUnknown kind markUnknown with
      | false =>
        simp only [Bool.false_eq_true, if_false, pure, Except.pure, Except.ok.injEq,
          exists_eq_right]
        exact ih
      | true =>
        rw [if_pos rfl, List.forall₂_cons_left_iff]
        constructor
        · rintro ⟨others, hothers, h⟩
          cases h
          exact ⟨_, _, (shows_iff_of_isMissing hmissing).2 ⟨hmarked, rfl⟩, ih.1 hothers, rfl⟩
        · rintro ⟨v, others, hshows, hothers, rfl⟩
          rw [((shows_iff_of_isMissing hmissing).1 hshows).2]
          exact ⟨others, ih.2 hothers, rfl⟩

/-- What is paired with an element of a list. -/
theorem exists_mem_of_forall₂ {α β : Type} {R : α → β → Prop} {l : List α} {l' : List β}
    (h : l.Forall₂ R l') {a : α} (ha : a ∈ l) : ∃ b ∈ l', R a b := by
  induction h with
  | nil => cases ha
  | @cons _ b _ _ hab _ ih =>
    rcases List.mem_cons.1 ha with rfl | ha
    · exact ⟨b, List.mem_cons_self, hab⟩
    · obtain ⟨b', hb', hR⟩ := ih ha
      exact ⟨b', List.mem_cons_of_mem _ hb', hR⟩

/-- Outcomes have their entries in one way only. -/
theorem ShowsAll.unique {entries' : List Value} (h : ShowsAll kind markUnknown outcomes entries)
    (h' : ShowsAll kind markUnknown outcomes entries') : entries = entries' :=
  Except.ok.inj ((relatedEntries_eq_ok_iff.2 h).symm.trans (relatedEntries_eq_ok_iff.2 h'))

/-- What was found has its entry. -/
theorem ShowsAll.exists_shape (h : ShowsAll kind markUnknown outcomes entries) {id : Atom}
    {entity : Value} (hmem : (id, .found entity) ∈ outcomes) :
    ∃ shaped, Entity.shape kind entity false = .ok shaped ∧ .object shaped ∈ entries := by
  obtain ⟨v, hv, shaped, hshaped, rfl⟩ :=
    exists_mem_of_forall₂ h (List.mem_filter.2 ⟨hmem, rfl⟩)
  exact ⟨shaped, hshaped, hv⟩

/-- Where misses are marked every outcome has its entry. -/
theorem ShowsAll.length_eq (h : ShowsAll kind true outcomes entries) :
    entries.length = outcomes.length := by
  have hall : (outcomes.filter fun outcome => isShown kind true outcome.2) = outcomes := by
    refine List.filter_eq_self.2 fun ⟨_, lookup⟩ _ => ?_
    cases lookup <;> simp [isShown, marksMiss]
  rw [ShowsAll, hall] at h
  exact (List.Forall₂.length_eq h).symm

end

/-! ## All kinds -/

/-- Whether a table has what is shown for references beside entities of a
kind. -/
structure ShowsRefs (kind : Kind) (refs : Refs) (markUnknown : Bool)
    (related : Table Kind (List Value)) : Prop where
  /-- The kinds that may be related come first, each once. -/
  keys : related.keys = (kind.related ++ refs.lookups.keys).eraseDups
  /-- A kind that was looked up has the entries of its outcomes. -/
  entries : ∀ k outcomes, (k, outcomes) ∈ refs.lookups →
    ShowsAll k markUnknown outcomes ((related.get? k).getD [])
  /-- Any other kind has none. -/
  others : ∀ k, refs.lookups.contains k = false → (related.get? k).getD [] = []

section

variable {kind : Kind} {refs : Refs} {markUnknown : Bool}
variable {related related' : Table Kind (List Value)}

/-- At first every kind that may be related is there, and nothing with it. -/
theorem get?_unfilled (kinds : List Kind) (k : Kind) :
    (Table.get? (kinds.map fun k => (k, ([] : List Value))) k).getD [] = [] := by
  cases hget : Table.get? (kinds.map fun k => (k, ([] : List Value))) k with
  | none => rfl
  | some values =>
    obtain ⟨k', hmem, -⟩ := Table.exists_mem_of_get?_eq_some hget
    obtain ⟨k'', -, heq⟩ := List.mem_map.1 hmem
    cases heq
    rfl

/-- Adding the outcomes of a kind that has none yet. -/
theorem ShowsRefs.addRelated {done : Table Kind (Table Atom Lookup)}
    {entry : Kind × Table Atom Lookup} (h : ShowsRefs kind ⟨done⟩ markUnknown related)
    (hnew : Table.contains done entry.1 = false)
    (hadd : Hydrated.addRelated markUnknown related entry = .ok related') :
    ShowsRefs kind ⟨done ++ [entry]⟩ markUnknown related' := by
  obtain ⟨k, outcomes⟩ := entry
  obtain ⟨entries, hentries, hadd⟩ := Except.bind_eq_ok.1 hadd
  cases hadd
  rw [h.others k hnew, List.nil_append]
  have hdone : ∀ k' v, (k', v) ∈ done → (k == k') = false := by
    intro k' v hmem
    rw [Table.contains_eq_contains_keys] at hnew
    exact Distinct.contains_eq_false_iff.1 hnew k' (List.mem_map.2 ⟨_, hmem, rfl⟩)
  refine ⟨?_, fun k' outcomes' hmem => ?_, fun k' hk' => ?_⟩
  · have hkeys : Table.keys (done ++ [(k, outcomes)]) = done.keys ++ [k] := List.map_append
    rw [hkeys, ← List.append_assoc, ← Distinct.eraseDups_append_left, ← h.keys,
      Distinct.eraseDups_append, Table.keys_insert, Table.contains_eq_contains_keys]
    have hkeys' : Distinct related.keys := h.keys ▸ Distinct.of_eraseDups _
    rw [Distinct.eraseDups_eq hkeys']
    cases hc : related.keys.contains k <;> simp [hc, List.eraseDups_cons]
  · rw [Table.get?_insert]
    rcases List.mem_append.1 hmem with hmem | hmem
    · rw [hdone k' outcomes' hmem, if_neg Bool.false_ne_true]
      exact h.entries k' outcomes' hmem
    · cases List.mem_singleton.1 hmem
      rw [if_pos BEq.rfl, Option.getD_some]
      exact relatedEntries_eq_ok_iff.1 hentries
  · rw [Table.contains_eq_contains_keys] at hk'
    have hmissing := Distinct.contains_eq_false_iff.1 hk'
    have hkk : (k == k') = false := by
      rw [BEq.comm]
      exact hmissing k (by simp [Table.keys])
    rw [Table.get?_insert, hkk, if_neg Bool.false_ne_true]
    refine h.others k' ?_
    rw [Table.contains_eq_contains_keys]
    refine Distinct.contains_eq_false_iff.2 fun b hb => hmissing b ?_
    rw [Table.keys, List.map_append]
    exact List.mem_append_left _ hb

/-- **What is made of references** is what is shown for them. -/
theorem showsRefs_of_relatedEntities (hdistinct : Distinct refs.lookups.keys)
    (h : relatedEntities kind refs markUnknown = .ok related) :
    ShowsRefs kind refs markUnknown related := by
  refine Except.foldlM_invariant (fun done related => Distinct (Table.keys done) →
    ShowsRefs kind ⟨done⟩ markUnknown related) ?_ h ?_ hdistinct
  · intro done related entry related' hdone hstep hkeys
    have hsplit : Distinct (Table.keys done ++ [entry.1]) := by
      rwa [Table.keys, List.map_append] at hkeys
    obtain ⟨hleft, -, hcross⟩ := Distinct.append_iff.1 hsplit
    refine (hdone hleft).addRelated ?_ hstep
    rw [Table.contains_eq_contains_keys]
    refine Distinct.contains_eq_false_iff.2 fun k hk => ?_
    rw [BEq.comm]
    exact hcross k hk entry.1 List.mem_cons_self
  · intro _
    refine ⟨?_, fun k outcomes hmem => ?_, fun k _ => get?_unfilled _ k⟩
    · have hkinds :
          Table.keys (kind.related.map fun k => (k, ([] : List Value))) = kind.related := by
        rw [Table.keys, List.map_map]
        exact List.map_id _
      have hnone : kind.related ++ Table.keys ([] : Table Kind (Table Atom Lookup)) =
          kind.related := List.append_nil _
      rw [hkinds, hnone, Distinct.eraseDups_eq kind.distinct_related]
    · cases hmem

/-- References are shown in one way only. -/
theorem ShowsRefs.unique (h : ShowsRefs kind refs markUnknown related)
    (h' : ShowsRefs kind refs markUnknown related') : related = related' := by
  have hsame : ∀ k, (related.get? k).getD [] = (related'.get? k).getD [] := by
    intro k
    cases hget : refs.lookups.get? k with
    | none =>
      have hnone := Table.contains_eq_false_iff.2 hget
      rw [h.others k hnone, h'.others k hnone]
    | some outcomes =>
      obtain ⟨own, hmem, hown⟩ := Table.exists_mem_of_get?_eq_some hget
      rw [← Table.get?_congr related hown, ← Table.get?_congr related' hown]
      exact (h.entries own outcomes hmem).unique (h'.entries own outcomes hmem)
  have hkeys : related.keys = related'.keys := h.keys.trans h'.keys.symm
  have hdistinct : Distinct related.keys := h.keys ▸ Distinct.of_eraseDups _
  have hdistinct' : Distinct related'.keys := h'.keys ▸ Distinct.of_eraseDups _
  rw [Table.eq_filterMap_keys hdistinct, Table.eq_filterMap_keys hdistinct', ← hkeys]
  refine List.filterMap_congr fun k hk => ?_
  obtain ⟨values, hvalues⟩ := Table.exists_get?_eq_some_of_mem_keys hk
  obtain ⟨values', hvalues'⟩ := Table.exists_get?_eq_some_of_mem_keys (hkeys ▸ hk)
  have heq := hsame k
  rw [hvalues, hvalues', Option.getD_some, Option.getD_some] at heq
  rw [hvalues, hvalues', heq]

/-- **The related entities made of references** are what is shown for these,
and they can be made when there is something to show for each. -/
theorem relatedEntities_eq_ok_iff (hdistinct : Distinct refs.lookups.keys) :
    relatedEntities kind refs markUnknown = .ok related ↔
      ShowsRefs kind refs markUnknown related := by
  refine ⟨showsRefs_of_relatedEntities hdistinct, fun h => ?_⟩
  obtain ⟨made, hmade⟩ : ∃ made, relatedEntities kind refs markUnknown = .ok made := by
    refine Except.exists_foldlM_eq_ok (fun related entry hentry => ?_) _
    have hentries := relatedEntries_eq_ok_iff.2 (h.entries entry.1 entry.2 hentry)
    exact ⟨_, Except.bind_eq_ok.2 ⟨_, hentries, rfl⟩⟩
  rw [hmade, (showsRefs_of_relatedEntities hdistinct hmade).unique h]

/-- **A result for a list of entities** is these, decorated, beside what is shown
for the references. -/
theorem ofMany_eq_ok_iff (hdistinct : Distinct refs.lookups.keys) {primaries : List Value}
    {options : Options} {workflows : Value} {result : Hydrated} :
    ofMany kind primaries refs options workflows = .ok result ↔
      ∃ shaped, decorateAll kind primaries refs options.full workflows = .ok shaped ∧
        ShowsRefs kind refs options.markUnknown result.related ∧
        result = ⟨fieldName kind, .list shaped, result.related, refs⟩ := by
  rw [ofMany, Except.bind_eq_ok]
  refine exists_congr fun shaped => and_congr_right fun _ => ?_
  rw [Except.bind_eq_ok, ← relatedEntities_eq_ok_iff hdistinct]
  constructor
  · rintro ⟨related, hrelated, ⟨⟩⟩
    exact ⟨hrelated, rfl⟩
  · rintro ⟨hrelated, hresult⟩
    exact ⟨result.related, hrelated, congrArg Except.ok hresult.symm⟩

/-- **A result for the first of some entities** is that, decorated, beside what
is shown for the references. -/
theorem ofFirst_eq_ok_iff (hdistinct : Distinct refs.lookups.keys) {primaries : List Value}
    {options : Options} {workflows : Value} {result : Hydrated} :
    ofFirst kind primaries refs options workflows = .ok result ↔
      ∃ first others,
        decorateAll kind primaries refs options.full workflows = .ok (first :: others) ∧
        ShowsRefs kind refs options.markUnknown result.related ∧
        result = ⟨singularFieldName kind, first, result.related, refs⟩ := by
  rw [ofFirst, Except.bind_eq_ok]
  constructor
  · rintro ⟨shaped, hshaped, h⟩
    obtain ⟨related, hrelated, h⟩ := Except.bind_eq_ok.1 h
    cases shaped with
    | nil => cases h
    | cons first others =>
      cases h
      exact ⟨first, others, hshaped, (relatedEntities_eq_ok_iff hdistinct).1 hrelated, rfl⟩
  · rintro ⟨first, others, hshaped, hrelated, hresult⟩
    refine ⟨_, hshaped, Except.bind_eq_ok.2 ⟨result.related, ?_, congrArg Except.ok hresult.symm⟩⟩
    exact (relatedEntities_eq_ok_iff hdistinct).2 hrelated

/-- Where misses are marked, a kind has as many entries as outcomes. -/
theorem ShowsRefs.length_eq (h : ShowsRefs kind refs true related) (k : Kind) :
    ((related.get? k).getD []).length = (refs.ofKind k).keys.length := by
  rw [Refs.ofKind, Table.keys, List.length_map]
  cases hget : refs.lookups.get? k with
  | none =>
    rw [h.others k (Table.contains_eq_false_iff.2 hget)]
    rfl
  | some outcomes =>
    obtain ⟨own, hmem, hown⟩ := Table.exists_mem_of_get?_eq_some hget
    rw [← Table.get?_congr related hown]
    exact (h.entries own outcomes hmem).length_eq

end

end Hydrated

namespace Resolver

/-- A call that resolves what entities refer to and returns, with the options
that it is given. -/
inductive ReturnsWith (options : Hydrated.Options) (remote : Remote) (s : Session) (kind : Kind) :
    List Value → Hydrated → Session → Prop where
  /-- For a list of entities. -/
  | many {primaries : List Value} {result : Hydrated} {t : Session}
      (hrun : resolveMany kind primaries options remote s = (.ok result, t)) :
      ReturnsWith options remote s kind primaries result t
  /-- For one entity. -/
  | one {primary : Value} {result : Hydrated} {t : Session}
      (hrun : resolveOne kind primary options remote s = (.ok result, t)) :
      ReturnsWith options remote s kind [primary] result t

section

variable {options : Hydrated.Options} {remote : Remote} {s t : Session} {kind : Kind}
variable {primaries : List Value} {result : Hydrated} {ids further : IdsByKind} {refs : Refs}

theorem ReturnsWith.returns (h : ReturnsWith options remote s kind primaries result t) :
    Returns remote s kind primaries result t := by
  cases h with
  | many hrun => exact .many hrun
  | one hrun => exact .one hrun

/-- What such a call shows beside its entities is made of its references. -/
theorem ReturnsWith.relatedEntities_eq (h : ReturnsWith options remote s kind primaries result t) :
    Hydrated.relatedEntities kind result.refs options.markUnknown = .ok result.related := by
  cases h with
  | many hrun =>
    obtain ⟨refs, hbuild⟩ := exists_build_of_run hrun
    rw [Hydrated.refs_ofMany hbuild]
    exact (Hydrated.of_ofMany hbuild).2
  | one hrun =>
    obtain ⟨refs, hbuild⟩ := exists_build_of_run hrun
    rw [Hydrated.refs_ofFirst hbuild]
    exact (Hydrated.of_ofFirst hbuild).2

/-! ## Which kinds are looked up -/

/-- A kind of which primary entities hold ids is one that they refer to. -/
theorem exists_reference_of_referenced_ne_nil {k : Kind}
    (h : IdsByKind.referenced kind primaries k ≠ []) :
    ∃ ref ∈ kind.references, (ref.kind == k) = true := by
  obtain ⟨id, hid⟩ := List.exists_mem_of_ne_nil _ h
  obtain ⟨primary, -, hid⟩ := List.mem_flatMap.1 hid
  obtain ⟨ref, href, -⟩ := List.mem_flatMap.1 hid
  exact ⟨ref, List.mem_filter.1 href⟩

/-- A kind of which found entities hold ids is one that they refer to, and they
are recorded. -/
theorem exists_reference_of_mem_referenced {k : Kind} {id : Atom} (h : id ∈ refs.referenced k) :
    ∃ source ∈ Kind.secondarySources, refs.ofKind source ≠ [] ∧
      ∃ ref ∈ source.secondaryReferences, (ref.kind == k) = true := by
  obtain ⟨source, hsource, hid⟩ := List.mem_flatMap.1 h
  obtain ⟨lookup, hlookup, hid⟩ := List.mem_flatMap.1 hid
  obtain ⟨outcome, houtcome, -⟩ := List.mem_map.1 hlookup
  refine ⟨source, hsource, List.ne_nil_of_mem houtcome, ?_⟩
  cases lookup with
  | found entity =>
    obtain ⟨ref, href, -⟩ := List.mem_flatMap.1 hid
    exact ⟨ref, List.mem_filter.1 href⟩
  | notFound own => cases hid
  | failure own error => cases hid

/-- **No kind is looked up but those that may be related** to the kind of the
primary entities. -/
theorem Returns.related_contains (h : Returns remote s kind primaries result t) {k : Kind}
    (hk : k ∈ result.refs.lookups.keys) : kind.related.contains k = true := by
  obtain ⟨ids, further, hdirect, hfurther, hresolved⟩ := h.exists_resolved
  have hreferred : ∀ {j}, idsOf ids j ≠ [] → ∃ ref ∈ kind.references, (ref.kind == j) = true := by
    intro j hj
    rw [hdirect, ne_eq, Distinct.eraseDups_eq_nil_iff] at hj
    exact exists_reference_of_referenced_ne_nil hj
  rcases (hresolved.of_mem_kinds hk).2 with hids | hids
  · obtain ⟨ref, href, hkind⟩ := hreferred hids
    exact Kind.related_contains_of_reference href hkind
  · rw [hfurther, ne_eq, Distinct.eraseDups_eq_nil_iff] at hids
    obtain ⟨id, hid⟩ := List.exists_mem_of_ne_nil _ hids
    obtain ⟨source, hsource, hrecorded, last, hlast, hkind⟩ :=
      exists_reference_of_mem_referenced (List.mem_filter.1 hid).1
    -- the second round takes no epics and no teams, so the first has taken the source
    have hnone : ∀ j ∈ Kind.secondarySources,
        [Kind.objectives, .users, .workflows].contains j = false := by decide
    have hsourceIds : idsOf ids source ≠ [] := by
      intro hids
      have hkeys := hresolved.keys_ofKind source
      rw [hids, hresolved.idsOf_further_eq_nil (hnone source hsource)] at hkeys
      exact hrecorded (List.map_eq_nil_iff.1 hkeys)
    obtain ⟨ref, href, hsame⟩ := hreferred hsourceIds
    cases Kind.eq_of_beq_of_mem_lookedUp (Kind.kind_mem_lookedUp href)
      (IdsByKind.lookedUp_of_mem_secondarySources hsource) hsame
    exact Kind.related_contains_of_further href hlast hkind

/-- The related kinds of a call that returns. -/
theorem ReturnsWith.keys_related (h : ReturnsWith options remote s kind primaries result t) :
    result.related.keys = kind.related := by
  obtain ⟨_, _, -, -, hresolved⟩ := h.returns.exists_resolved
  have hshown := Hydrated.showsRefs_of_relatedEntities hresolved.distinct_kinds h.relatedEntities_eq
  have hnew : (result.refs.lookups.keys.filter fun k => !kind.related.contains k) = [] := by
    refine List.filter_eq_nil_iff.2 fun k hk => ?_
    rw [h.returns.related_contains hk]
    decide
  rw [hshown.keys, Distinct.eraseDups_append, hnew, Distinct.eraseDups_eq kind.distinct_related]
  exact List.append_nil _

/-! ## What stands there -/

/-- **The related entities are exact.** A result shows its references and
nothing else beside the entities: each kind has one entry for each outcome in
their order, the simplified shape of what was found and, for a miss, an object
with the id, the name `[Unknown]` and a mark that nothing was found. A miss is
left out when its kind is not epics, iterations or objectives and misses are not
marked. After a call that returns the kinds are those that may be related, in
that order and without exception; so where misses are marked a kind has as many
entries as ids were recorded of it. -/
theorem related_entities_are_exact (kind : Kind) :
    (∀ primaries refs options workflows result, Distinct refs.lookups.keys →
      (Hydrated.ofMany kind primaries refs options workflows = .ok result ↔
        ∃ shaped, Hydrated.decorateAll kind primaries refs options.full workflows = .ok shaped ∧
          Hydrated.ShowsRefs kind refs options.markUnknown result.related ∧
          result = ⟨Hydrated.fieldName kind, .list shaped, result.related, refs⟩) ∧
      (Hydrated.ofFirst kind primaries refs options workflows = .ok result ↔
        ∃ first others, Hydrated.decorateAll kind primaries refs options.full workflows =
            .ok (first :: others) ∧
          Hydrated.ShowsRefs kind refs options.markUnknown result.related ∧
          result = ⟨Hydrated.singularFieldName kind, first, result.related, refs⟩)) ∧
    ∀ options remote s primaries result t, ReturnsWith options remote s kind primaries result t →
      result.related.keys = kind.related ∧
        Hydrated.ShowsRefs kind result.refs options.markUnknown result.related ∧
        (∀ k, Distinct (result.refs.ofKind k).keys) ∧
        (options.markUnknown = true → ∀ k,
          ((result.related.get? k).getD []).length = (result.refs.ofKind k).keys.length) := by
  refine ⟨fun primaries refs options workflows result hdistinct =>
    ⟨Hydrated.ofMany_eq_ok_iff hdistinct, Hydrated.ofFirst_eq_ok_iff hdistinct⟩, ?_⟩
  intro options remote s primaries result t h
  obtain ⟨_, _, -, -, hresolved⟩ := h.returns.exists_resolved
  have hshown := Hydrated.showsRefs_of_relatedEntities hresolved.distinct_kinds h.relatedEntities_eq
  refine ⟨h.keys_related, hshown, hresolved.distinct_keys, fun hmark k => ?_⟩
  rw [hmark] at hshown
  exact hshown.length_eq k

/-- The references of a story of a team and of an epic that is not there, with
misses marked and without: the epic is shown as unknown both times, the member
of the team only when misses are marked. Beside iterations, to which no epic
may be related, the epic would come last. -/
theorem shows_team_epic_and_member :
    Distinct Sample.refs.lookups.keys ∧
      (∃ result, Hydrated.ofMany .iterations [] Sample.refs {} (.list []) = .ok result ∧
        result.related.keys = [.users, .teams, .workflows, .epics]) ∧
      ∀ markUnknown, ∃ result,
        ReturnsWith { markUnknown } Sample.remote Sample.session .stories [Sample.story] result
          Sample.after ∧
        result.related.keys = [.users, .workflows, .teams, .epics, .iterations, .objectives] ∧
        (result.related.get? .teams).getD [] = [Sample.team] ∧
        (result.related.get? .epics).getD [] = [.object
          [("id", .int 7), ("name", .text "[Unknown]"), ("not_found", .bool true)]] ∧
        (result.related.get? .users).getD [] = if markUnknown then [.object
          [("id", .text "u"), ("name", .text "[Unknown]"), ("not_found", .bool true)]] else [] := by
  have hdistinct : Distinct Sample.refs.lookups.keys := by decide
  refine ⟨hdistinct, ?_, fun markUnknown => ?_⟩
  · obtain ⟨result, hbuild⟩ : ∃ result,
        Hydrated.ofMany .iterations [] Sample.refs {} (.list []) = .ok result := ⟨_, rfl⟩
    obtain ⟨-, -, hshown, -⟩ :=
      ((related_entities_are_exact .iterations).1 _ _ _ _ _ hdistinct).1.1 hbuild
    refine ⟨result, hbuild, ?_⟩
    rw [hshown.keys]
    decide
  · obtain ⟨result, hrefs, hrun⟩ := Sample.exists_resolveMany markUnknown
    obtain ⟨hkeys, hshown, -, -⟩ :=
      (related_entities_are_exact .stories).2 _ _ _ _ result _ (.many hrun)
    rw [hrefs] at hshown
    have hteams := hshown.entries .teams _ List.mem_cons_self
    have hepics := hshown.entries .epics _ (List.mem_cons_of_mem _ List.mem_cons_self)
    have husers := hshown.entries .users _
      (List.mem_cons_of_mem _ (List.mem_cons_of_mem _ List.mem_cons_self))
    refine ⟨result, .many hrun, hkeys, ?_, ?_, ?_⟩
    · exact hteams.unique (Hydrated.relatedEntries_eq_ok_iff.1 rfl)
    · exact hepics.unique (Hydrated.relatedEntries_eq_ok_iff.1 rfl)
    · refine husers.unique (Hydrated.relatedEntries_eq_ok_iff.1 ?_)
      cases markUnknown <;> rfl

end

end Resolver

end Backlog
