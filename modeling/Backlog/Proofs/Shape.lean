import Backlog.Value.Access
/-!
# Values of the expected shape

Replies and parameters are values of any shape, and reading a part of one
can fault. The predicates here say of a value that a certain reading does
not fault, and each comes with the reading that it is for.
-/

namespace Backlog

namespace Value

/-- Only null is null. -/
theorem eq_null_of_isNull {v : Value} (h : v.isNull = true) : v = .null := by
  cases v with
  | atom a =>
    cases a with
    | null => rfl
    | num n => cases h
    | text s => cases h
  | list items => cases h
  | object fields => cases h

/-- Only objects have fields. -/
theorem fields?_eq_ok_iff {v : Value} {fields : Table String Value} :
    v.fields? = .ok fields ↔ v = .object fields := by
  cases v with
  | object own => exact ⟨fun h => congrArg Value.object (Except.ok.inj h), fun h => by cases h; rfl⟩
  | atom a => exact ⟨nofun, nofun⟩
  | list items => exact ⟨nofun, nofun⟩

/-- A field is read of objects, null where it is missing. -/
theorem field_eq_ok_iff {v w : Value} {name : String} :
    v.field name = .ok w ↔ ∃ fields, v = .object fields ∧ fieldOf fields name = w := by
  cases v with
  | atom a => exact ⟨nofun, fun ⟨_, h, _⟩ => nomatch h⟩
  | list items => exact ⟨nofun, fun ⟨_, h, _⟩ => nomatch h⟩
  | object own =>
    refine ⟨fun h => ⟨own, rfl, Except.ok.inj h⟩, ?_⟩
    rintro ⟨fields, ⟨⟩, rfl⟩
    rfl

/-- A field that must be there is that of an object that has it. -/
theorem required_eq_ok_iff {v w : Value} {name : String} :
    v.required name = .ok w ↔ ∃ fields, v = .object fields ∧ Table.get? fields name = some w := by
  cases v with
  | atom a => exact ⟨nofun, fun ⟨_, h, _⟩ => nomatch h⟩
  | list items => exact ⟨nofun, fun ⟨_, h, _⟩ => nomatch h⟩
  | object own =>
    rw [required]
    constructor
    · intro h
      split at h
      · next hget => exact ⟨own, rfl, hget.trans (congrArg some (Except.ok.inj h))⟩
      · cases h
    · rintro ⟨fields, ⟨⟩, hget⟩
      rw [hget]

/-- The value is an object. -/
def IsObject (v : Value) : Prop := ∃ fields, v = .object fields

/-- The value is an object, if it counts as something at all. -/
def IsObjectIfAny (v : Value) : Prop := v.truthy = true → v.IsObject

theorem isObjectIfAny_null : IsObjectIfAny .null := fun h => by cases h

theorem isObjectIfAny_object (fields : Table String Value) : IsObjectIfAny (.object fields) :=
  fun _ => ⟨fields, rfl⟩

/-- Such a value can be read as an object. -/
theorem IsObjectIfAny.orNoFields {v : Value} (h : v.IsObjectIfAny) : v.orNoFields.IsObject := by
  rw [Value.orNoFields, orElse]
  split
  · next htruthy => exact h htruthy
  · exact ⟨[], rfl⟩

/-- The value is a list of objects, if it counts as something at all. -/
def AreObjectsIfAny (v : Value) : Prop :=
  v.truthy = true → ∃ items, v = .list items ∧ ∀ item ∈ items, item.IsObject

/-- The elements of such a value are objects. -/
theorem AreObjectsIfAny.elements {v : Value} (h : v.AreObjectsIfAny) :
    ∃ items, v.orNoItems.elements = .ok items ∧ ∀ item ∈ items, item.IsObject := by
  rw [orNoItems, orElse]
  split
  · next htruthy =>
    obtain ⟨items, rfl, hitems⟩ := h htruthy
    exact ⟨items, rfl, hitems⟩
  · exact ⟨[], rfl, fun item hmem => absurd hmem List.not_mem_nil⟩

/-- The value is an object whose profile is an object, as far as either
counts as something. -/
def IsUserIfAny (v : Value) : Prop :=
  v.truthy = true → ∃ fields, v = .object fields ∧ (fieldOf fields "profile").IsObjectIfAny

theorem isUserIfAny_null : IsUserIfAny .null := fun h => by cases h

end Value

end Backlog
