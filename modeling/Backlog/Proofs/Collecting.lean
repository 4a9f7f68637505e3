import Backlog.Proofs.Referenced
import Mathlib.Data.List.Induction
/-!
# Collecting ids

What is collected from primary entities, against the walk over their fields
that it comes from (`IdsByKind.walk`): primary by primary, in the order of the
references, and in the order of a field that holds many. Every id that the
walk meets is collected, none twice, each as it is first met and in the order
of first meeting (`FirstMet`); and what two lists of entities give together is
what the first gives, with what only the second gives behind it
(`IdsByKind.ofEntities_loses_and_repeats_nothing`).
-/

namespace Backlog

/-! ## First meetings -/

/-- What is kept of a walk: every element that is met, up to the comparison,
none twice, each as it is first met, and in the order of these meetings. -/
structure FirstMet {α : Type} [BEq α] (met kept : List α) : Prop where
  /-- Nothing that is met is lost. -/
  complete : ∀ a ∈ met, kept.contains a = true
  /-- Nothing is kept twice. -/
  distinct : Distinct kept
  /-- What is kept is as it is where it is first met. -/
  first : ∀ a ∈ kept, met[met.idxOf a]? = some a
  /-- What is met first stands first. -/
  ordered : kept.Pairwise fun a b => met.idxOf a < met.idxOf b

section FirstMet

variable {α : Type} [BEq α] [EquivBEq α]

/-- What is met before the end of a walk is first met where it is. -/
theorem idxOf_append_of_contains {l : List α} {a : α} (h : l.contains a = true) (l' : List α) :
    (l ++ l').idxOf a = l.idxOf a ∧ l.idxOf a < l.length := by
  obtain ⟨b, hb, hab⟩ := List.contains_iff_exists_mem_beq.1 h
  have hlt : l.idxOf a < l.length := List.findIdx_lt_length_of_exists ⟨b, hb, BEq.symm hab⟩
  refine ⟨?_, hlt⟩
  exact List.findIdx_append.trans (if_pos hlt)

/-- What only the rest of a walk meets is met behind all that comes before. -/
theorem idxOf_append_of_not_contains {l : List α} {a : α} (h : l.contains a = false)
    (l' : List α) : (l ++ l').idxOf a = l'.idxOf a + l.length := by
  have hnot : ¬l.findIdx (· == a) < l.length := by
    rw [List.findIdx_lt_length]
    rintro ⟨b, hb, hba⟩
    have hab := Distinct.contains_eq_false_iff.1 h b hb
    rw [BEq.comm, hba] at hab
    cases hab
  exact List.findIdx_append.trans (if_neg hnot)

omit [EquivBEq α] in
theorem FirstMet.nil : FirstMet ([] : List α) [] where
  complete := List.forall_mem_nil _
  distinct := Distinct.nil
  first := List.forall_mem_nil _
  ordered := List.Pairwise.nil

/-- What is kept has been met. -/
theorem FirstMet.contains {met kept : List α} (h : FirstMet met kept) {a : α} (ha : a ∈ kept) :
    met.contains a = true :=
  Distinct.contains_of_mem (List.mem_of_getElem? (h.first a ha))

/-- What is not kept has not been met. -/
theorem FirstMet.not_contains {met kept : List α} (h : FirstMet met kept) {a : α}
    (ha : kept.contains a = false) : met.contains a = false := by
  rw [Distinct.contains_eq_false_iff]
  intro b hb
  by_contra hab
  have heq : (a == b) = true := by simpa using hab
  rw [Distinct.contains_congr heq, h.complete b hb] at ha
  cases ha

/-- One step of a walk: what is met again is not kept again. -/
theorem FirstMet.concat {met kept : List α} (h : FirstMet met kept) (a : α) :
    FirstMet (met ++ [a]) (if kept.contains a then kept else kept ++ [a]) := by
  have hfirst : ∀ b ∈ kept, (met ++ [a])[(met ++ [a]).idxOf b]? = some b := by
    intro b hb
    obtain ⟨hidx, hlt⟩ := idxOf_append_of_contains (h.contains hb) [a]
    rw [hidx, List.getElem?_append_left hlt]
    exact h.first b hb
  have hordered : kept.Pairwise fun b c => (met ++ [a]).idxOf b < (met ++ [a]).idxOf c := by
    refine h.ordered.imp_of_mem fun {b c} hb hc hbc => ?_
    rwa [(idxOf_append_of_contains (h.contains hb) [a]).1,
      (idxOf_append_of_contains (h.contains hc) [a]).1]
  by_cases hkept : kept.contains a = true
  · rw [if_pos hkept]
    refine ⟨?_, h.distinct, hfirst, hordered⟩
    intro b hb
    rcases List.mem_append.1 hb with hb | hb
    · exact h.complete b hb
    · rwa [List.mem_singleton.1 hb]
  · rw [if_neg hkept]
    have hnew : kept.contains a = false := by simpa using hkept
    -- it has not been met either, so it stands at the end of the walk
    have hidx : (met ++ [a]).idxOf a = met.length := by
      rw [idxOf_append_of_not_contains (h.not_contains hnew), List.idxOf, List.findIdx_cons,
        BEq.rfl]
      exact Nat.zero_add _
    refine ⟨?_, ?_, ?_, ?_⟩
    · intro b hb
      rw [List.contains_append]
      rcases List.mem_append.1 hb with hb | hb
      · rw [h.complete b hb, Bool.true_or]
      · rw [Distinct.contains_of_mem hb, Bool.or_true]
    · refine h.distinct.append (List.pairwise_singleton _ a) fun b hb => ?_
      rwa [List.mem_singleton.1 hb]
    · intro b hb
      rcases List.mem_append.1 hb with hb | hb
      · exact hfirst b hb
      · rw [List.mem_singleton.1 hb, hidx, List.getElem?_concat_length]
    · refine List.pairwise_append.2 ⟨hordered, List.pairwise_singleton _ a, fun b hb c hc => ?_⟩
      obtain ⟨hb, hlt⟩ := idxOf_append_of_contains (h.contains hb) [a]
      rw [List.mem_singleton.1 hc, hidx, hb]
      exact hlt

/-- One element more. -/
theorem Distinct.eraseDups_concat (l : List α) (a : α) :
    (l ++ [a]).eraseDups = if l.eraseDups.contains a then l.eraseDups else l.eraseDups ++ [a] := by
  rw [Distinct.eraseDups_append, Distinct.contains_eraseDups]
  cases h : l.contains a with
  | true => simp only [List.filter_cons, h]; simp
  | false => simp only [List.filter_cons, h]; simp [List.eraseDups_cons]

/-- What is left out does not depend on when repetitions are left out. -/
theorem Distinct.eraseDups_filter {p : α → Bool} (hp : ∀ a b, (a == b) = true → p a = p b)
    (l : List α) : (l.filter p).eraseDups = l.eraseDups.filter p := by
  induction l using List.reverseRecOn with
  | nil => rfl
  | append_singleton l a ih =>
    have hcontains : p a = true → (l.filter p).contains a = l.contains a := by
      intro ha
      rw [Bool.eq_iff_iff, List.contains_iff_exists_mem_beq, List.contains_iff_exists_mem_beq]
      refine exists_congr fun b => and_congr_left fun hab => ?_
      rw [List.mem_filter, ← hp a b hab, ha]
      simp
    rw [List.filter_append, Distinct.eraseDups_concat, List.filter_singleton]
    cases ha : p a with
    | true =>
      have hkept : (l.filter p).eraseDups.contains a = l.eraseDups.contains a := by
        rw [Distinct.contains_eraseDups, Distinct.contains_eraseDups, hcontains ha]
      rw [cond_true, Distinct.eraseDups_concat, hkept, ih]
      split
      · rfl
      · rw [List.filter_append, List.filter_singleton, ha, cond_true]
    | false =>
      simp only [cond_false, List.append_nil, ih]
      split
      · rfl
      · rw [List.filter_append, List.filter_singleton, ha, cond_false, List.append_nil]

/-- What is left out behind a list is what the list has. -/
theorem Distinct.eraseDups_append_filter (l l' : List α) :
    (l ++ l').eraseDups =
      l.eraseDups ++ l'.eraseDups.filter fun a => !l.eraseDups.contains a := by
  rw [Distinct.eraseDups_append, Distinct.eraseDups_filter fun a b hab => ?_]
  · simp only [Distinct.contains_eraseDups]
  · rw [Distinct.contains_congr hab]

/-- **Leaving out repetitions** keeps what a walk meets first. -/
theorem FirstMet.eraseDups (l : List α) : FirstMet l l.eraseDups := by
  induction l using List.reverseRecOn with
  | nil => exact FirstMet.nil
  | append_singleton l a ih =>
    rw [Distinct.eraseDups_concat]
    exact ih.concat a

end FirstMet

/-! ## The walk over the fields -/

/-- The values that an entity has in the field: the elements of a field of
many, of which one that counts as nothing has none, or the one value. -/
def Reference.valuesIn (ref : Reference) (entity : Value) : List Value :=
  match entity.field ref.idField with
  | .error _ => []
  | .ok v =>
    if ref.many then
      match v.orNoItems.elements with
      | .ok items => items
      | .error _ => []
    else [v]

namespace IdsByKind

open Resolver

/-- The values, other than null and the empty text, in the fields for a kind:
primary by primary, in the order of the references, in the order of a field
that holds many. -/
def walk (kind : Kind) (primaries : List Value) (k : Kind) : List Value :=
  primaries.flatMap fun primary => (kind.references.filter (·.kind == k)).flatMap fun ref =>
    (ref.valuesIn primary).filter (!Reference.isBlankId ·)

end IdsByKind

/-- Values that are all ids are the atoms read of them. -/
theorem Value.map_atom_of_mapM_asId {vs : List Value} {ids : List Atom}
    (h : vs.mapM Value.asId = .ok ids) : ids.map .atom = vs := by
  have hall := Except.mapM_eq_ok_iff.1 h
  clear h
  induction hall with
  | nil => rfl
  | @cons v id vs ids hv _ ih =>
    cases v with
    | list _ => cases hv
    | object _ => cases hv
    | atom a =>
      cases hv
      rw [List.map_cons, ih]

/-- What is read of a field is what stands in it. -/
theorem Reference.map_atom_held {ref : Reference} {entity : Value}
    (h : ref.atoms entity = .ok (ref.held entity)) :
    (ref.held entity).map Value.atom = (ref.valuesIn entity).filter (!isBlankId ·) := by
  obtain ⟨values, hvalues, hids⟩ := Except.bind_eq_ok.1 h
  rw [Value.map_atom_of_mapM_asId hids]
  obtain ⟨v, hv, hvalues⟩ := Except.bind_eq_ok.1 hvalues
  simp only [valuesIn, hv]
  split at hvalues
  · next hmany =>
    obtain ⟨items, hitems, hvalues⟩ := Except.bind_eq_ok.1 hvalues
    cases hvalues
    simp only [hmany, hitems, if_true]
  · next hone =>
    cases hvalues
    simp only [hone, if_false, List.filter_cons, List.filter_nil, Bool.false_eq_true]
    cases isBlankId v <;> simp

namespace IdsByKind

open Resolver

/-! ## When collecting gives something -/

/-- Whether all that primary entities refer to can be read. -/
def Readable (kind : Kind) (primaries : List Value) : Prop :=
  ∀ primary ∈ primaries, ∀ ref ∈ kind.references, ref.atoms primary = .ok (ref.held primary)

variable {kind : Kind} {primaries : List Value}

/-- Collecting reads all that the entities refer to. -/
theorem readable_of_ofEntities {ids : IdsByKind} (h : ofEntities kind primaries = .ok ids) :
    Readable kind primaries := by
  intro primary hprimary ref href
  obtain ⟨c, c', hstep⟩ := Except.exists_of_foldlM_eq_ok h hprimary
  obtain ⟨d, d', hstep⟩ := Except.exists_of_foldlM_eq_ok hstep href
  obtain ⟨values, hvalues, hstep⟩ := Except.bind_eq_ok.1 hstep
  obtain ⟨ids, hids, -⟩ := Except.bind_eq_ok.1 hstep
  have hatoms : ref.atoms primary = .ok ids := Except.bind_eq_ok.2 ⟨values, hvalues, hids⟩
  rw [hatoms, Reference.eq_held_of_atoms hatoms]

/-- Collecting gives ids when all that the entities refer to can be read. -/
theorem exists_ofEntities_of_readable (h : Readable kind primaries) :
    ∃ ids, ofEntities kind primaries = .ok ids := by
  refine Except.exists_foldlM_eq_ok (fun c primary hprimary => ?_) []
  refine Except.exists_foldlM_eq_ok (fun d ref href => ?_) c
  obtain ⟨values, hvalues, hids⟩ := Except.bind_eq_ok.1 (h primary hprimary ref href)
  refine ⟨add d ref.kind (ref.held primary), ?_⟩
  exact Except.bind_eq_ok.2 ⟨values, hvalues, Except.bind_eq_ok.2 ⟨_, hids, rfl⟩⟩

/-- The ids that the entities refer to are the values that the walk meets. -/
theorem map_atom_referenced (h : Readable kind primaries) (k : Kind) :
    (referenced kind primaries k).map Value.atom = walk kind primaries k := by
  simp only [referenced, walk, Reference.heldIn, List.map_flatMap]
  refine List.flatMap_congr fun primary hprimary => List.flatMap_congr fun ref href => ?_
  exact Reference.map_atom_held (h primary hprimary ref (List.mem_of_mem_filter href))

/-! ## The kinds -/

/-- Adding ids of a kind leaves the kinds in the order of their first
meeting. -/
theorem keys_add {collected : IdsByKind} {met : List Kind}
    (h : Table.keys collected = met.eraseDups) (k : Kind) (ids : List Atom) :
    Table.keys (add collected k ids) = (met ++ [k]).eraseDups := by
  rw [add, Table.keys_insert, Table.contains_eq_contains_keys, h, Distinct.eraseDups_concat]

/-- The kinds of which there is a list of ids: those of the references, met
anew with each entity. -/
theorem keys_ofEntities {ids : IdsByKind} (h : ofEntities kind primaries = .ok ids) :
    Table.keys ids = (primaries.flatMap fun _ => kind.references.map (·.kind)).eraseDups := by
  refine Except.foldlM_invariant (fun done c =>
    Table.keys c = (done.flatMap fun _ => kind.references.map (·.kind)).eraseDups) ?_ h rfl
  intro done c primary c' hc hstep
  rw [List.flatMap_append, List.flatMap_singleton]
  refine Except.foldlM_invariant (fun met c => Table.keys c =
    ((done.flatMap fun _ => kind.references.map (·.kind)) ++ met.map (·.kind)).eraseDups)
    ?_ hstep ?_
  · intro met c ref c' hc hstep
    obtain ⟨values, -, hstep⟩ := Except.bind_eq_ok.1 hstep
    obtain ⟨ids, -, hstep⟩ := Except.bind_eq_ok.1 hstep
    cases hstep
    rw [List.map_append, ← List.append_assoc]
    exact keys_add hc ref.kind ids
  · rwa [List.map_nil, List.append_nil]

/-- All kinds are met with the first entity. -/
theorem keys_ofEntities_cons {primary : Value} {ids : IdsByKind}
    (h : ofEntities kind (primary :: primaries) = .ok ids) :
    Table.keys ids = (kind.references.map (·.kind)).eraseDups := by
  have hnone : ((primaries.flatMap fun _ => kind.references.map (·.kind)).filter fun k =>
      !(kind.references.map (·.kind)).contains k) = [] := by
    refine List.filter_eq_nil_iff.2 fun k hk => ?_
    obtain ⟨-, -, hk⟩ := List.mem_flatMap.1 hk
    rw [Distinct.contains_of_mem hk]
    decide
  rw [keys_ofEntities h, List.flatMap_cons, Distinct.eraseDups_append, hnone, List.eraseDups_nil,
    List.append_nil]

/-! ## Two lists of entities -/

/-- **What two lists of entities give together** is what the first gives, with
what only the second gives behind it. -/
theorem ofEntities_append {others : List Value} {ids : IdsByKind}
    (h : ofEntities kind (primaries ++ others) = .ok ids) :
    ∃ first second, ofEntities kind primaries = .ok first ∧ ofEntities kind others = .ok second ∧
      Table.keys ids = Table.keys first ++
        (Table.keys second).filter (fun k => !(Table.keys first).contains k) ∧
      ∀ k, idsOf ids k = idsOf first k ++
        (idsOf second k).filter fun id => !(idsOf first k).contains id := by
  have hreadable := readable_of_ofEntities h
  have hfront : Readable kind primaries := fun primary hprimary =>
    hreadable primary (List.mem_append_left others hprimary)
  have hback : Readable kind others := fun primary hprimary =>
    hreadable primary (List.mem_append_right primaries hprimary)
  obtain ⟨first, hfirst⟩ := exists_ofEntities_of_readable hfront
  obtain ⟨second, hsecond⟩ := exists_ofEntities_of_readable hback
  refine ⟨first, second, hfirst, hsecond, ?_, fun k => ?_⟩
  · rw [keys_ofEntities h, keys_ofEntities hfirst, keys_ofEntities hsecond, List.flatMap_append,
      Distinct.eraseDups_append_filter]
  · rw [idsOf_ofEntities h k, idsOf_ofEntities hfirst k, idsOf_ofEntities hsecond k, referenced,
      List.flatMap_append, Distinct.eraseDups_append_filter]
    rfl

/-! ## Collecting -/

/-- **Collecting loses nothing and repeats nothing.** There is a list of ids
for each kind of the references as soon as there is an entity; it has the
values that the walk over the fields meets, each as it is first met and in
the order of these meetings. Wherever the entities are cut in two, the ids are
those of the first part with those that only the second part gives behind
them. -/
theorem ofEntities_loses_and_repeats_nothing {ids : IdsByKind}
    (h : ofEntities kind primaries = .ok ids) :
    Table.keys ids = (if primaries.isEmpty then [] else kind.references.map (·.kind)).eraseDups ∧
      (∀ k, ∃ met : List Atom, met.map .atom = walk kind primaries k ∧ FirstMet met (idsOf ids k)) ∧
      ∀ front back, primaries = front ++ back → ∃ first second,
        ofEntities kind front = .ok first ∧ ofEntities kind back = .ok second ∧
        Table.keys ids = Table.keys first ++
          (Table.keys second).filter (fun k => !(Table.keys first).contains k) ∧
        ∀ k, idsOf ids k = idsOf first k ++
          (idsOf second k).filter fun id => !(idsOf first k).contains id := by
  refine ⟨?_, fun k => ?_, fun front back hcut => ?_⟩
  · cases primaries with
    | nil =>
      cases h
      rfl
    | cons primary rest => exact keys_ofEntities_cons h
  · refine ⟨referenced kind primaries k, map_atom_referenced (readable_of_ofEntities h) k, ?_⟩
    rw [idsOf_ofEntities h k]
    exact FirstMet.eraseDups _
  · rw [hcut] at h
    exact ofEntities_append h

namespace Sample

/-- An epic that names an objective twice, once as a truth value. -/
def epics : List Value :=
  [.object [("milestone_id", .int 1), ("objective_ids", .list [.bool true, .null, .int 2])],
   .object [("milestone_id", .bool true), ("objective_ids", .list [.int 3, .int 1, .text ""])]]

/-- What is collected from the two. -/
def epicIds : IdsByKind :=
  [(.users, []), (.teams, []), (.objectives, [.num (.int 1), .num (.int 2), .num (.int 3)])]

/-- Two epics that give an objective three times. -/
theorem epics_give_each_objective_once :
    ofEntities .epics epics = .ok epicIds ∧
      walk .epics epics .objectives = [.int 1, .bool true, .int 2, .bool true, .int 3, .int 1] ∧
      (∃ met : List Atom, met.map .atom = walk .epics epics .objectives ∧
        FirstMet met [.num (.int 1), .num (.int 2), .num (.int 3)]) ∧
      ∃ first second, ofEntities .epics (epics.take 1) = .ok first ∧
        ofEntities .epics (epics.drop 1) = .ok second ∧
        idsOf epicIds .objectives = idsOf first .objectives ++
          (idsOf second .objectives).filter fun id => !(idsOf first .objectives).contains id := by
  have hids : ofEntities .epics epics = .ok epicIds := rfl
  obtain ⟨-, hmet, hcut⟩ := ofEntities_loses_and_repeats_nothing hids
  obtain ⟨first, second, hfirst, hsecond, -, hidsOf⟩ :=
    hcut _ _ (List.take_append_drop 1 epics).symm
  exact ⟨hids, rfl, hmet .objectives, first, second, hfirst, hsecond, hidsOf .objectives⟩

end Sample

end IdsByKind

end Backlog
