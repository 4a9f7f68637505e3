import Backlog.Api
/-!
# Bodies that can be sent

A body can be sent if its numbers are finite and its texts can be written in
bytes. Of an object whose field names can be written, each value has to be one
that can be sent by itself (`Api.checkBody_object`, `Api.checkBody_object_iff`). A text
cannot be written in bytes if it holds half of a pair; the code points that halves
are kept as (`Text.halfOffset`) are assumed to stand for nothing else.
-/

namespace Backlog

namespace Value

/-- The numbers in an object are those in the values of its fields. -/
theorem fieldsFinite_eq_all (fields : List (String × Value)) :
    numbersFinite.fieldsFinite fields = fields.all fun entry => entry.2.numbersFinite := by
  induction fields with
  | nil => rfl
  | cons entry rest ih =>
    obtain ⟨name, v⟩ := entry
    rw [numbersFinite.fieldsFinite, List.all_cons, ih]

/-- The numbers in a list are those in its elements. -/
theorem itemsFinite_eq_all (items : List Value) :
    numbersFinite.itemsFinite items = items.all numbersFinite := by
  induction items with
  | nil => rfl
  | cons v rest ih => rw [numbersFinite.itemsFinite, List.all_cons, ih]

/-- If the field names of an object can be written, the texts that cannot are in
the values of its fields. -/
theorem brokenField?_eq_findSome? {fields : List (String × Value)}
    (h : ∀ entry ∈ fields, Text.hasHalf entry.1 = false) :
    brokenText?.brokenField? fields = fields.findSome? fun entry => entry.2.brokenText? := by
  induction fields with
  | nil => rfl
  | cons entry rest ih =>
    obtain ⟨name, v⟩ := entry
    obtain ⟨hname, hrest⟩ := List.forall_mem_cons.1 h
    rw [brokenText?.brokenField?, hname, if_neg Bool.false_ne_true, ih hrest, List.findSome?_cons]
    cases v.brokenText? <;> rfl

/-- Whether a value can go into a body: its numbers are finite, and its texts can be
written in bytes. -/
structure Writable (v : Value) : Prop where
  /-- The numbers are finite. -/
  finite : v.numbersFinite = true
  /-- No text holds half of a pair. -/
  whole : v.brokenText? = none

theorem writable_text {s : String} (h : Text.hasHalf s = false) : Writable (.text s) where
  finite := rfl
  whole := by rw [brokenText?, h, if_neg Bool.false_ne_true]

/-- **What counts as nothing can be written.** -/
theorem writable_of_not_truthy {v : Value} (h : v.truthy = false) : Writable v := by
  cases v with
  | atom a =>
    cases a with
    | null => exact ⟨rfl, rfl⟩
    | num n =>
      refine ⟨?_, rfl⟩
      have hzero : n.magnitude = .ratio 0 1 := by simpa [truthy, Number.isZero] using h
      rw [numbersFinite]
      cases n with
      | int n => rfl
      | flag b => rfl
      | float d =>
        rw [Number.magnitude] at hzero
        rw [Number.isFinite, Double.isFinite]
        cases hshape : d.shape with
        | nan =>
          rw [hshape] at hzero
          cases hzero
        | infinite negative =>
          rw [hshape] at hzero
          cases hzero
        | finite negative mantissa exponent => rfl
    | text s =>
      have hempty : s = "" := by simpa [truthy] using h
      subst hempty
      exact writable_text (by decide)
  | list items =>
    have hempty : items = [] := by simpa [truthy] using h
    subst hempty
    exact ⟨rfl, rfl⟩
  | object fields =>
    have hempty : fields = [] := by simpa [truthy] using h
    subst hempty
    exact ⟨rfl, rfl⟩

/-- A list of one element can be written if the element can. -/
theorem writable_singleton {v : Value} : Writable (.list [v]) ↔ Writable v := by
  have hfinite : (Value.list [v]).numbersFinite = v.numbersFinite := Bool.and_true _
  have hwhole : (Value.list [v]).brokenText? = v.brokenText? := Option.or_none
  exact ⟨fun h => ⟨hfinite ▸ h.finite, hwhole ▸ h.whole⟩,
    fun h => ⟨hfinite.symm ▸ h.finite, hwhole.symm ▸ h.whole⟩⟩

end Value

namespace Api

variable {fields : Table String Value}

/-- **An object can be sent** if the values of its fields can, and else the first of
its texts that cannot be written keeps it from that. -/
theorem checkBody_object (hnames : ∀ entry ∈ fields, Text.hasHalf entry.1 = false)
    (hfinite : ∀ entry ∈ fields, entry.2.numbersFinite = true) :
    checkBody (some (.object fields)) =
      match fields.findSome? fun entry => entry.2.brokenText? with
      | some text => .error (.notUtf8 text)
      | none => .ok () := by
  have hall : (Value.object fields).numbersFinite = true := by
    rw [Value.numbersFinite, Value.fieldsFinite_eq_all]
    exact List.all_eq_true.2 hfinite
  have htexts : (Value.object fields).brokenText? =
      fields.findSome? fun entry => entry.2.brokenText? := by
    rw [Value.brokenText?, Value.brokenField?_eq_findSome? hnames]
  rw [checkBody, hall, htexts]
  rfl

/-- An object can be sent only if all its numbers are finite. -/
theorem numbersFinite_of_checkBody (h : checkBody (some (.object fields)) = .ok ()) :
    ∀ entry ∈ fields, entry.2.numbersFinite = true := by
  rw [checkBody] at h
  split at h
  · cases h
  · next hfinite =>
    have hall : (Value.object fields).numbersFinite = true := by simpa using hfinite
    rw [Value.numbersFinite, Value.fieldsFinite_eq_all] at hall
    exact List.all_eq_true.1 hall

/-- **An object can be sent if and only if the values of its fields can be written.** -/
theorem checkBody_object_iff (hnames : ∀ entry ∈ fields, Text.hasHalf entry.1 = false) :
    checkBody (some (.object fields)) = .ok () ↔ ∀ entry ∈ fields, entry.2.Writable := by
  constructor
  · intro h
    have hfinite := numbersFinite_of_checkBody h
    rw [checkBody_object hnames hfinite] at h
    split at h
    · cases h
    · next hwhole =>
      rw [List.findSome?_eq_none_iff] at hwhole
      exact fun entry hmem => ⟨hfinite entry hmem, hwhole entry hmem⟩
  · intro h
    have hwhole : (fields.findSome? fun entry => entry.2.brokenText?) = none :=
      List.findSome?_eq_none_iff.2 fun entry hmem => (h entry hmem).whole
    rw [checkBody_object hnames fun entry hmem => (h entry hmem).finite, hwhole]

end Api

end Backlog
