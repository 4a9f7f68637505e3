/-!
# Tables in order of insertion

A table keeps its entries in the order in which their keys were first
written. Writing a key again keeps its place and its first spelling and
replaces the value. Keys are compared by `==`, which may be coarser than
equality.
-/

namespace Backlog

/-- A table, as the list of its entries in order. -/
abbrev Table (κ : Type) (β : Type) := List (κ × β)

namespace Table

variable {κ β γ : Type} [BEq κ]

/-- The value of a key. -/
def get? : Table κ β → κ → Option β
  | [], _ => none
  | (k, v) :: rest, key => if k == key then some v else get? rest key

/-- Whether a key has a value. -/
def contains (table : Table κ β) (key : κ) : Bool := (table.get? key).isSome

/-- Writes a key: in its place if it is there, else at the end. -/
def insert : Table κ β → κ → β → Table κ β
  | [], key, value => [(key, value)]
  | (k, v) :: rest, key, value =>
    if k == key then (k, value) :: rest else (k, v) :: insert rest key value

/-- Writes a key that is not there yet, and leaves one that is. -/
def insertIfNew (table : Table κ β) (key : κ) (value : β) : Table κ β :=
  if table.contains key then table else table ++ [(key, value)]

/-- The table of the entries, written one after the other. -/
def ofList (entries : List (κ × β)) : Table κ β :=
  entries.foldl (fun table entry => table.insert entry.1 entry.2) []

omit [BEq κ] in
/-- The keys in order. -/
def keys (table : Table κ β) : List κ := table.map (·.1)

omit [BEq κ] in
/-- The values in the order of their keys. -/
def values (table : Table κ β) : List β := table.map (·.2)

/-! ## What is read after a write -/

/-- A key that equals another reads the same. -/
theorem get?_congr [EquivBEq κ] (table : Table κ β) {key other : κ} (h : (key == other) = true) :
    table.get? key = table.get? other := by
  induction table with
  | nil => rfl
  | cons entry rest ih =>
    obtain ⟨k, v⟩ := entry
    simp only [get?, ih, BEq.congr_right h]

/-- **A written key reads what was written, and every other key what it read
before.** -/
theorem get?_insert [EquivBEq κ] (table : Table κ β) (key other : κ) (value : β) :
    (table.insert key value).get? other =
      if key == other then some value else table.get? other := by
  induction table with
  | nil => simp [insert, get?]
  | cons entry rest ih =>
    obtain ⟨k, v⟩ := entry
    simp only [insert]
    split
    · next h => simp only [get?, BEq.congr_left h]; split <;> rfl
    · next h =>
      simp only [get?, ih]
      split
      · next hk =>
        split
        · next ho => exact absurd (BEq.trans hk (BEq.symm ho)) h
        · rfl
      · rfl

/-- **A write keeps the keys that are there, in order, and puts a new one at
the end.** -/
theorem keys_insert (table : Table κ β) (key : κ) (value : β) :
    (table.insert key value).keys =
      if table.contains key then table.keys else table.keys ++ [key] := by
  induction table with
  | nil => rfl
  | cons entry rest ih =>
    obtain ⟨k, v⟩ := entry
    simp only [insert, contains, get?]
    split
    · rfl
    · next h =>
      have tail : keys ((k, v) :: insert rest key value) = k :: keys (insert rest key value) := rfl
      rw [tail, ih, contains]
      split <;> rfl

end Table

end Backlog
