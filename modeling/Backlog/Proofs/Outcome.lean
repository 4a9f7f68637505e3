import Backlog.Entity.Lookup
import Backlog.Proofs.Table
/-!
# Recording outcomes

A round of resolving looks ids up, each in a cache or with the tracker, and
records what became of each. Seen from the outside it is one list of
outcomes, written behind what was recorded before: as long as no id comes
twice, the outcomes of a kind are those it had followed by the new ones
(`Refs.ofKind_recordAll`).
-/

namespace Backlog

/-! ## Lists of outcomes -/

/-- An id with its kind and what became of looking it up. -/
abbrev Outcome := Kind × Atom × Lookup

/-- The outcomes of a kind among outcomes. -/
def outcomesOf (outcomes : List Outcome) (k : Kind) : Table Atom Lookup :=
  (outcomes.filter (·.1 == k)).map (·.2)

/-- The ids of a kind among ids with their kinds. -/
def idsAmong (pairs : List (Kind × Atom)) (k : Kind) : List Atom :=
  (pairs.filter (·.1 == k)).map (·.2)

/-- The ids that outcomes are about. -/
def pairsOf (outcomes : List Outcome) : List (Kind × Atom) :=
  outcomes.map fun outcome => (outcome.1, outcome.2.1)

theorem outcomesOf_append (outcomes others : List Outcome) (k : Kind) :
    outcomesOf (outcomes ++ others) k = outcomesOf outcomes k ++ outcomesOf others k := by
  rw [outcomesOf, List.filter_append, List.map_append, outcomesOf, outcomesOf]

theorem idsAmong_cons (pair : Kind × Atom) (pairs : List (Kind × Atom)) (k : Kind) :
    idsAmong (pair :: pairs) k = (if pair.1 == k then [pair.2] else []) ++ idsAmong pairs k := by
  rw [idsAmong, List.filter_cons]
  cases pair.1 == k <;> rfl

theorem idsAmong_append (pairs others : List (Kind × Atom)) (k : Kind) :
    idsAmong (pairs ++ others) k = idsAmong pairs k ++ idsAmong others k := by
  rw [idsAmong, List.filter_append, List.map_append, idsAmong, idsAmong]

/-- The keys of the outcomes of a kind are the ids of the kind. -/
theorem keys_outcomesOf (outcomes : List Outcome) (k : Kind) :
    (outcomesOf outcomes k).keys = idsAmong (pairsOf outcomes) k := by
  rw [Table.keys, outcomesOf, idsAmong, pairsOf, List.filter_map, List.map_map, List.map_map]
  rfl

/-! ## Recording them -/

namespace Refs

theorem ofKind_congr (refs : Refs) {k k' : Kind} (h : (k == k') = true) :
    refs.ofKind k = refs.ofKind k' := by
  rw [ofKind, ofKind, Table.get?_congr refs.lookups h]

theorem ofKind_record (refs : Refs) (kind : Kind) (id : Atom) (lookup : Lookup) (k : Kind) :
    (refs.record kind id lookup).ofKind k =
      if kind == k then (refs.ofKind kind).insert id lookup else refs.ofKind k := by
  rw [record, ofKind, Table.get?_insert]
  split
  · rfl
  · rfl

/-- Records outcomes one after the other. -/
def recordAll (refs : Refs) (outcomes : List Outcome) : Refs :=
  outcomes.foldl (fun refs outcome => refs.record outcome.1 outcome.2.1 outcome.2.2) refs

theorem recordAll_append (refs : Refs) (outcomes others : List Outcome) :
    refs.recordAll (outcomes ++ others) = (refs.recordAll outcomes).recordAll others :=
  List.foldl_append

/-- Kinds stay without repetition. -/
theorem distinct_kinds_recordAll {refs : Refs} (h : Distinct refs.lookups.keys)
    (outcomes : List Outcome) : Distinct (refs.recordAll outcomes).lookups.keys := by
  induction outcomes generalizing refs with
  | nil => exact h
  | cons outcome rest ih => exact ih (Table.distinct_keys_insert h outcome.1 _)

/-- Only the kinds of the outcomes are recorded. -/
theorem of_mem_kinds_recordAll {refs : Refs} {outcomes : List Outcome} {k : Kind}
    (h : k ∈ (refs.recordAll outcomes).lookups.keys) :
    k ∈ refs.lookups.keys ∨ ∃ outcome ∈ outcomes, outcome.1 = k := by
  induction outcomes generalizing refs with
  | nil => exact .inl h
  | cons outcome rest ih =>
    rcases ih h with hbefore | ⟨other, hother, hkind⟩
    · rcases Table.mem_keys_insert hbefore with hbefore | rfl
      · exact .inl hbefore
      · exact .inr ⟨outcome, List.mem_cons_self, rfl⟩
    · exact .inr ⟨other, List.mem_cons_of_mem _ hother, hkind⟩

/-- Whether no id among some has been looked up, or comes twice. -/
def NewTo (refs : Refs) (pairs : List (Kind × Atom)) : Prop :=
  ∀ k, Distinct ((refs.ofKind k).keys ++ idsAmong pairs k)

/-- None of the ids has been looked up. -/
theorem NewTo.contains_eq_false {refs : Refs} {pairs : List (Kind × Atom)} (h : refs.NewTo pairs)
    {k : Kind} {id : Atom} (hid : id ∈ idsAmong pairs k) : (refs.ofKind k).contains id = false := by
  rw [Table.contains_eq_contains_keys]
  refine Distinct.contains_eq_false_iff.2 fun b hb => ?_
  rw [BEq.comm]
  exact (Distinct.append_iff.1 (h k)).2.2 b hb id hid

/-- The outcome of an id that was not looked up goes behind the others. -/
theorem ofKind_record_of_newTo {refs : Refs} {kind : Kind} {id : Atom}
    (h : refs.NewTo [(kind, id)]) (lookup : Lookup) (k : Kind) :
    (refs.record kind id lookup).ofKind k =
      refs.ofKind k ++ outcomesOf [(kind, id, lookup)] k := by
  rw [ofKind_record]
  by_cases hk : (kind == k) = true
  · have hnew : (refs.ofKind k).contains id = false := by
      refine h.contains_eq_false ?_
      simp [idsAmong, hk]
    rw [if_pos hk, refs.ofKind_congr hk, Table.insert_of_not_contains hnew]
    simp [outcomesOf, hk]
  · rw [if_neg hk]
    simp [outcomesOf, hk]

theorem keys_record_of_newTo {refs : Refs} {kind : Kind} {id : Atom}
    (h : refs.NewTo [(kind, id)]) (lookup : Lookup) (k : Kind) :
    ((refs.record kind id lookup).ofKind k).keys =
      (refs.ofKind k).keys ++ idsAmong [(kind, id)] k := by
  rw [ofKind_record_of_newTo h, Table.keys, List.map_append]
  congr 1
  exact keys_outcomesOf [(kind, id, lookup)] k

theorem NewTo.left {refs : Refs} {pairs others : List (Kind × Atom)}
    (h : refs.NewTo (pairs ++ others)) : refs.NewTo pairs := by
  intro k
  have hd := h k
  rw [idsAmong_append, ← List.append_assoc] at hd
  exact (Distinct.append_iff.1 hd).1

/-- **Recorded outcomes stand behind those recorded before**, kind by kind
and in order, as long as no id comes twice. -/
theorem ofKind_recordAll {refs : Refs} {outcomes : List Outcome}
    (h : refs.NewTo (pairsOf outcomes)) (k : Kind) :
    (refs.recordAll outcomes).ofKind k = refs.ofKind k ++ outcomesOf outcomes k := by
  induction outcomes generalizing refs with
  | nil => exact (List.append_nil _).symm
  | cons outcome rest ih =>
    obtain ⟨kind, id, lookup⟩ := outcome
    have hsplit : refs.NewTo ([(kind, id)] ++ pairsOf rest) := h
    have hhead : refs.NewTo [(kind, id)] := hsplit.left
    -- with the first outcome recorded, the rest is as new as it was
    have htail : (refs.record kind id lookup).NewTo (pairsOf rest) := by
      intro j
      rw [keys_record_of_newTo hhead, List.append_assoc, ← idsAmong_append]
      exact h j
    have hstep : refs.recordAll ((kind, id, lookup) :: rest) =
        (refs.record kind id lookup).recordAll rest := rfl
    rw [hstep, ih htail, ofKind_record_of_newTo hhead, List.append_assoc, ← outcomesOf_append]
    rfl

/-- What is recorded last is new to what is recorded first. -/
theorem NewTo.right {refs : Refs} {outcomes : List Outcome} {others : List (Kind × Atom)}
    (h : refs.NewTo (pairsOf outcomes ++ others)) : (refs.recordAll outcomes).NewTo others := by
  intro k
  have hkeys : ((refs.recordAll outcomes).ofKind k).keys =
      (refs.ofKind k).keys ++ idsAmong (pairsOf outcomes) k := by
    rw [ofKind_recordAll h.left, Table.keys, List.map_append]
    congr 1
    exact keys_outcomesOf outcomes k
  rw [hkeys, List.append_assoc, ← idsAmong_append]
  exact h k

end Refs

end Backlog
