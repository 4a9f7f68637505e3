import Backlog.Proofs.Distinct
import Mathlib.Data.List.Basic
/-!
# Laws of tables

What the operations on tables do to their keys and to what is read. A table
whose keys repeat nothing is read entry by entry (`get?_eq_some_of_mem`), a
new key goes to the end (`insert_of_not_contains`), and a table written from
a list of entries has each key once, in the order of first writing, with the
value written last (`ofList_eq`).
-/

namespace Backlog

namespace Table

variable {κ β : Type} [BEq κ]

/-! ## New keys -/

/-- A key that is not there goes to the end. -/
theorem insert_of_not_contains {table : Table κ β} {key : κ} (h : table.contains key = false)
    (value : β) : table.insert key value = table ++ [(key, value)] := by
  induction table with
  | nil => rfl
  | cons entry rest ih =>
    obtain ⟨k, v⟩ := entry
    rw [contains, get?] at h
    split at h
    · cases h
    · next hk =>
      rw [insert, if_neg hk, ih h, List.cons_append]

/-! ## Reading -/

/-- A key has a value when one is read for it. -/
theorem contains_iff_exists {table : Table κ β} {key : κ} :
    table.contains key = true ↔ ∃ v, table.get? key = some v :=
  Option.isSome_iff_exists

theorem contains_eq_false_iff {table : Table κ β} {key : κ} :
    table.contains key = false ↔ table.get? key = none :=
  Option.isSome_eq_false_iff.trans Option.isNone_iff_eq_none

/-- What stands behind a table is read where the table has nothing. -/
theorem get?_append (table others : Table κ β) (key : κ) :
    Table.get? (table ++ others) key = (table.get? key).or (Table.get? others key) := by
  induction table with
  | nil => rfl
  | cons entry rest ih =>
    obtain ⟨k, v⟩ := entry
    rw [List.cons_append, get?, get?]
    split
    · rfl
    · exact ih

variable [EquivBEq κ]

/-- **A key that is written if it is new** reads what it read before, and else
what was written. -/
theorem get?_insertIfNew (table : Table κ β) (key other : κ) (value : β) :
    (table.insertIfNew key value).get? other =
      (table.get? other).or (if key == other then some value else none) := by
  rw [insertIfNew]
  split
  · next hcontains =>
    split
    · next hkey =>
      rw [contains, get?_congr table hkey] at hcontains
      rw [Option.or_of_isSome hcontains]
    · rw [Option.or_none]
  · rw [get?_append]
    rfl

/-- A key has a value when the keys hold it. -/
theorem contains_eq_contains_keys (table : Table κ β) (key : κ) :
    table.contains key = table.keys.contains key := by
  induction table with
  | nil => rfl
  | cons entry rest ih =>
    obtain ⟨k, v⟩ := entry
    have hkeys : keys ((k, v) :: rest) = k :: keys rest := rfl
    rw [hkeys, List.contains_cons, ← ih, BEq.comm, contains, get?, contains]
    split
    · next hk => simp [hk]
    · next hk => simp [hk]

/-- **A table without repeated keys reads each of its entries.** -/
theorem get?_eq_some_of_mem {table : Table κ β} (h : Distinct table.keys) {k : κ} {v : β}
    (hmem : (k, v) ∈ table) : table.get? k = some v := by
  induction table with
  | nil => cases hmem
  | cons entry rest ih =>
    obtain ⟨k', w⟩ := entry
    obtain ⟨hne, hrest⟩ := Distinct.cons_iff.1 h
    rw [get?]
    rcases List.mem_cons.1 hmem with heq | hmem
    · cases heq
      rw [if_pos BEq.rfl]
    · have hkk : (k' == k) = false := hne k (List.mem_map.2 ⟨(k, v), hmem, rfl⟩)
      rw [hkk, if_neg Bool.false_ne_true]
      exact ih hrest hmem

omit [EquivBEq κ] in
/-- **What is read is the value of the first entry whose key equals the key.** -/
theorem get?_eq_some_iff {table : Table κ β} {key : κ} {v : β} :
    table.get? key = some v ↔ ∃ before k after, table = before ++ (k, v) :: after ∧
      (k == key) = true ∧ ∀ entry ∈ before, (entry.1 == key) = false := by
  induction table with
  | nil => simp [get?]
  | cons entry rest ih =>
    obtain ⟨k, w⟩ := entry
    rw [get?]
    split
    · next hk =>
      constructor
      · intro h
        cases h
        exact ⟨[], k, rest, rfl, hk, List.forall_mem_nil _⟩
      · rintro ⟨_ | ⟨first, before⟩, k', after, heq, -, hfirst⟩
        · cases heq
          rfl
        · cases heq
          rw [hfirst _ List.mem_cons_self] at hk
          cases hk
    · next hk =>
      rw [ih]
      constructor
      · rintro ⟨before, k', after, rfl, hk', hfirst⟩
        refine ⟨(k, w) :: before, k', after, rfl, hk', List.forall_mem_cons.2 ⟨?_, hfirst⟩⟩
        exact Bool.eq_false_iff.2 hk
      · rintro ⟨_ | ⟨first, before⟩, k', after, heq, hk', hfirst⟩
        · cases heq
          exact absurd hk' hk
        · cases heq
          exact ⟨before, k', after, rfl, hk', (List.forall_mem_cons.1 hfirst).2⟩

omit [EquivBEq κ] in
/-- Nothing is read when no key equals the key. -/
theorem get?_eq_none_iff {table : Table κ β} {key : κ} :
    table.get? key = none ↔ ∀ entry ∈ table, (entry.1 == key) = false := by
  induction table with
  | nil => simp [get?]
  | cons entry rest ih =>
    obtain ⟨k, w⟩ := entry
    rw [get?, List.forall_mem_cons, ← ih]
    cases k == key <;> simp

omit [EquivBEq κ] in
/-- What is read stands in an entry. -/
theorem exists_mem_of_get?_eq_some {table : Table κ β} {key : κ} {v : β}
    (h : table.get? key = some v) : ∃ k, (k, v) ∈ table ∧ (k == key) = true := by
  obtain ⟨before, k, after, rfl, hk, -⟩ := get?_eq_some_iff.1 h
  exact ⟨k, List.mem_append_right before List.mem_cons_self, hk⟩

/-- **The order of the entries does not matter** to a table without repeated
keys. -/
theorem get?_of_perm {table other : Table κ β} (h : Distinct table.keys)
    (hperm : table.Perm other) (key : κ) : table.get? key = other.get? key := by
  have hsub : ∀ {table other : Table κ β}, Distinct other.keys → table.Perm other →
      ∀ {v : β}, table.get? key = some v → other.get? key = some v := by
    intro table other hother hperm v hv
    obtain ⟨k, hmem, hk⟩ := exists_mem_of_get?_eq_some hv
    rw [← get?_congr other hk]
    exact get?_eq_some_of_mem hother (hperm.mem_iff.1 hmem)
  have hother : Distinct other.keys :=
    ((hperm.map _).pairwise_iff BEq.comm.trans).1 h
  ext v
  exact ⟨hsub hother hperm, hsub h hperm.symm⟩

omit [EquivBEq κ] in
/-- Entries under other keys do not matter to a key. -/
theorem get?_filter_key {table : Table κ β} {keep : κ → Bool} {key : κ}
    (h : ∀ k, (k == key) = true → keep k = true) :
    get? (table.filter fun entry => keep entry.1) key = table.get? key := by
  induction table with
  | nil => rfl
  | cons entry rest ih =>
    obtain ⟨k, v⟩ := entry
    rw [List.filter_cons]
    by_cases hk : (k == key) = true
    · rw [if_pos (h k hk), get?, if_pos hk, get?, if_pos hk]
    · split
      · rw [get?, if_neg hk, get?, if_neg hk, ih]
      · rw [ih, get?, if_neg hk]

/-- Every key reads something. -/
theorem exists_get?_eq_some_of_mem_keys {table : Table κ β} {key : κ} (h : key ∈ table.keys) :
    ∃ v, table.get? key = some v := by
  rw [← contains_iff_exists, contains_eq_contains_keys]
  exact Distinct.contains_of_mem h

/-- A table without repeated keys has one entry with the key of an entry. -/
theorem filter_key_of_mem {table : Table κ β} (h : Distinct table.keys) {k : κ} {v : β}
    (hmem : (k, v) ∈ table) : table.filter (fun entry => k == entry.1) = [(k, v)] := by
  induction table with
  | nil => cases hmem
  | cons entry rest ih =>
    obtain ⟨k', w⟩ := entry
    obtain ⟨hne, hrest⟩ := Distinct.cons_iff.1 h
    rcases List.mem_cons.1 hmem with heq | hmem
    · cases heq
      have hnone : rest.filter (fun entry => k == entry.1) = [] := by
        refine List.filter_eq_nil_iff.2 fun entry hentry => ?_
        rw [hne entry.1 (List.mem_map.2 ⟨entry, hentry, rfl⟩)]
        exact Bool.false_ne_true
      rw [List.filter_cons, if_pos BEq.rfl, hnone]
    · have hkk : (k == k') = false := by
        rw [BEq.comm]
        exact hne k (List.mem_map.2 ⟨(k, v), hmem, rfl⟩)
      rw [List.filter_cons, if_neg (ne_true_of_eq_false hkk)]
      exact ih hrest hmem

/-! ## Writing -/

omit [EquivBEq κ] in
/-- After a write the entries are the former ones and one with what was
written. -/
theorem of_mem_insert {table : Table κ β} {key k : κ} {value v : β} [ReflBEq κ]
    (h : (k, v) ∈ table.insert key value) :
    (k, v) ∈ table ∨ ((k == key) = true ∧ v = value) := by
  induction table with
  | nil =>
    cases List.mem_singleton.1 h
    exact .inr ⟨BEq.rfl, rfl⟩
  | cons entry rest ih =>
    obtain ⟨k', w⟩ := entry
    rw [insert] at h
    split at h
    · next hk =>
      rcases List.mem_cons.1 h with heq | hmem
      · cases heq
        exact .inr ⟨hk, rfl⟩
      · exact .inl (List.mem_cons_of_mem _ hmem)
    · rcases List.mem_cons.1 h with heq | hmem
      · exact .inl (heq ▸ List.mem_cons_self)
      · exact (ih hmem).imp_left fun hmem => List.mem_cons_of_mem _ hmem

omit [EquivBEq κ] in
/-- After a write the keys are the former ones and the written one. -/
theorem mem_keys_insert {table : Table κ β} {key k : κ} {value : β}
    (h : k ∈ (table.insert key value).keys) : k ∈ table.keys ∨ k = key := by
  rw [keys_insert] at h
  split at h
  · exact .inl h
  · rw [List.mem_append, List.mem_singleton] at h
    exact h

/-- Keys stay without repetition. -/
theorem distinct_keys_insert {table : Table κ β} (h : Distinct table.keys) (key : κ) (value : β) :
    Distinct (table.insert key value).keys := by
  rw [keys_insert]
  split
  · exact h
  · next hc =>
    rw [contains_eq_contains_keys, Bool.not_eq_true] at hc
    refine Distinct.append h (List.pairwise_singleton _ _) fun b hb => ?_
    cases List.mem_singleton.1 hb
    exact hc

/-! ## Tables written from lists -/

/-- Writing entries into a table keeps its keys and puts the new ones behind
them. -/
theorem keys_foldl_insert (entries : List (κ × β)) (table : Table κ β)
    (h : Distinct table.keys) :
    keys (entries.foldl (fun table entry => table.insert entry.1 entry.2) table) =
      (table.keys ++ keys entries).eraseDups := by
  induction entries generalizing table with
  | nil =>
    have hnone : table.keys ++ keys ([] : List (κ × β)) = table.keys := List.append_nil _
    rw [List.foldl_nil, hnone, Distinct.eraseDups_eq h]
  | cons entry rest ih =>
    have hkeys : keys (entry :: rest) = [entry.1] ++ keys rest := rfl
    rw [List.foldl_cons, ih _ (distinct_keys_insert h _ _), hkeys, ← List.append_assoc,
      ← Distinct.eraseDups_append_left (table.keys ++ [entry.1]), keys_insert,
      contains_eq_contains_keys]
    congr 2
    rw [Distinct.eraseDups_append, Distinct.eraseDups_eq h]
    split
    · next hc => simp [hc]
    · next hc => simp [hc, List.eraseDups_cons]

/-- The keys of a table written from a list: each once, in the order of
first writing. -/
theorem keys_ofList (entries : List (κ × β)) :
    keys (ofList entries) = (keys entries).eraseDups :=
  keys_foldl_insert entries [] Distinct.nil

/-- Writing entries hides what a table had under their keys. -/
theorem get?_foldl_insert (entries : List (κ × β)) (table : Table κ β) (key : κ) :
    get? (entries.foldl (fun table entry => table.insert entry.1 entry.2) table) key =
      ((entries.reverse.find? fun entry => entry.1 == key).map (·.2)).or (table.get? key) := by
  induction entries generalizing table with
  | nil => rfl
  | cons entry rest ih =>
    rw [List.foldl_cons, ih, get?_insert, List.reverse_cons, List.find?_append, Option.map_or,
      Option.or_assoc]
    congr 1
    by_cases hk : (entry.1 == key) = true
    · simp [hk]
    · simp [hk]

/-- What a table written from a list reads: the entry written last. -/
theorem get?_ofList (entries : List (κ × β)) (key : κ) :
    get? (ofList entries) key = (entries.reverse.find? fun entry => entry.1 == key).map (·.2) := by
  rw [ofList, get?_foldl_insert]
  exact Option.or_none

/-- A table without repeated keys is what its keys read. -/
theorem eq_filterMap_keys {table : Table κ β} (h : Distinct table.keys) :
    table = table.keys.filterMap fun key => (table.get? key).map fun v => (key, v) := by
  have hread : ∀ entry ∈ table,
      ((table.get? entry.1).map fun v => (entry.1, v)) = some entry := by
    rintro ⟨k, v⟩ hmem
    rw [get?_eq_some_of_mem h hmem]
    rfl
  rw [keys, List.filterMap_map]
  exact ((List.filterMap_congr hread).trans List.filterMap_some).symm

/-- Writing entries with new keys puts them behind what is there. -/
theorem foldl_insert_of_distinct (entries : List (κ × β)) (table : Table κ β)
    (h : Distinct (keys (table ++ entries))) :
    entries.foldl (fun table entry => Table.insert table entry.1 entry.2) table =
      table ++ entries := by
  induction entries generalizing table with
  | nil => exact (List.append_nil table).symm
  | cons entry rest ih =>
    have hnew : table.contains entry.1 = false := by
      rw [keys, List.map_append] at h
      rw [contains_eq_contains_keys]
      refine Distinct.contains_eq_false_iff.2 fun key hkey => ?_
      rw [BEq.comm]
      exact (Distinct.append_iff.1 h).2.2 key hkey entry.1 List.mem_cons_self
    have hsplit : table ++ entry :: rest = table ++ [entry] ++ rest :=
      (List.append_assoc table [entry] rest).symm
    rw [hsplit] at h ⊢
    rw [List.foldl_cons, insert_of_not_contains hnew, ih _ h]

/-- Entries without repeated keys are a table as they are. -/
theorem ofList_eq_self {entries : List (κ × β)} (h : Distinct (keys entries)) :
    ofList entries = entries :=
  foldl_insert_of_distinct entries [] h

/-- **A table written from a list** has each key once, in the order of first
writing, with the value written last. -/
theorem ofList_eq (entries : List (κ × β)) :
    ofList entries = (keys entries).eraseDups.filterMap fun key =>
      (entries.reverse.find? fun entry => entry.1 == key).map fun entry => (key, entry.2) := by
  have hd : Distinct (keys (ofList entries)) := by
    rw [keys_ofList]
    exact Distinct.of_eraseDups _
  rw [eq_filterMap_keys hd, keys_ofList]
  refine List.filterMap_congr fun key _ => ?_
  rw [get?_ofList, Option.map_map]
  rfl

end Table

end Backlog
