import Backlog.Table
/-!
# Lists without repetition

`eraseDups` keeps the first of the elements that compare equal. The
comparison of ids is coarser than equality, so what the library says for
lawful comparisons is proved here for equivalences: what is kept holds
every element up to the comparison (`contains_eraseDups`), repeats none
(`of_eraseDups`), and a list in two pieces keeps what the first piece keeps
followed by what the second adds (`eraseDups_append`).
-/

namespace Backlog

/-- No two elements of the list compare equal. -/
def Distinct {α : Type} [BEq α] (l : List α) : Prop := l.Pairwise fun a b => (a == b) = false

namespace Distinct

variable {α : Type} [BEq α]

instance (l : List α) : Decidable (Distinct l) :=
  inferInstanceAs (Decidable (l.Pairwise fun a b => (a == b) = false))

theorem nil : Distinct ([] : List α) := List.Pairwise.nil

theorem cons_iff {a : α} {l : List α} :
    Distinct (a :: l) ↔ (∀ b ∈ l, (a == b) = false) ∧ Distinct l :=
  List.pairwise_cons

theorem append_iff {l l' : List α} :
    Distinct (l ++ l') ↔ Distinct l ∧ Distinct l' ∧ ∀ a ∈ l, ∀ b ∈ l', (a == b) = false :=
  List.pairwise_append

theorem contains_eq_false_iff {a : α} {l : List α} :
    l.contains a = false ↔ ∀ b ∈ l, (a == b) = false := by
  rw [List.contains_eq_any_beq, List.any_eq_false]
  simp only [Bool.not_eq_true]

/-- Induction along `eraseDups`: after an element comes what differs from
it. -/
theorem eraseDups_induction {motive : List α → Prop} (nil : motive [])
    (cons : ∀ a l, motive (l.filter fun b => !b == a) → motive (a :: l)) : ∀ l, motive l
  | [] => nil
  | a :: l => cons a l (eraseDups_induction nil cons (l.filter fun b => !b == a))
termination_by l => l.length
decreasing_by
  have := List.length_filter_le (fun b => !b == a) l
  simp only [List.length_cons]
  omega

/-- What is kept of a list is of the list. -/
theorem mem_of_mem_eraseDups {a : α} {l : List α} (h : a ∈ l.eraseDups) : a ∈ l := by
  induction l using eraseDups_induction with
  | nil => exact h
  | cons b l ih =>
    rw [List.eraseDups_cons, List.mem_cons] at h
    rcases h with rfl | h
    · exact List.mem_cons_self
    · exact List.mem_cons_of_mem _ (List.mem_filter.1 (ih h)).1

/-- Something is kept of every list that has an element. -/
theorem eraseDups_eq_nil_iff {l : List α} : l.eraseDups = [] ↔ l = [] := by
  cases l with
  | nil => simp
  | cons a l => simp [List.eraseDups_cons]

variable [EquivBEq α]

theorem contains_of_mem {a : α} {l : List α} (h : a ∈ l) : l.contains a = true :=
  List.contains_iff_exists_mem_beq.2 ⟨a, h, BEq.rfl⟩

theorem contains_congr {a b : α} (h : (a == b) = true) (l : List α) :
    l.contains a = l.contains b := by
  induction l with
  | nil => rfl
  | cons c l ih => simp only [List.contains_cons, ih, BEq.congr_left h]

/-- A list that repeats nothing of another goes behind it. -/
theorem append {l l' : List α} (h : Distinct l) (h' : Distinct l')
    (hd : ∀ b ∈ l', l.contains b = false) : Distinct (l ++ l') := by
  refine append_iff.2 ⟨h, h', fun a ha b hb => ?_⟩
  have hba : (b == a) = false := contains_eq_false_iff.1 (hd b hb) a ha
  rw [BEq.comm]
  exact hba

/-- Leaving out what compares equal to `a` hides that and nothing else. -/
theorem contains_filter_bne {a x : α} {l : List α} :
    (l.filter fun b => !b == a).contains x = (!(x == a) && l.contains x) := by
  induction l with
  | nil => simp
  | cons b l ih =>
    rw [List.filter_cons, List.contains_cons]
    by_cases hb : (b == a) = true
    · -- `b` is left out, and `x` compares to it as to `a`
      have hxb : (x == b) = (x == a) := BEq.congr_right hb
      simp only [hb, Bool.not_true, Bool.false_eq_true, if_false, ih, hxb]
      cases x == a <;> simp
    · have hba : (b == a) = false := by simpa using hb
      simp only [hba, Bool.not_false, if_true, List.contains_cons, ih]
      by_cases hxb : (x == b) = true
      · have hxa : (x == a) = false := by rw [BEq.congr_left hxb]; exact hba
        simp [hxb, hxa]
      · simp [hxb]

/-- **What is kept holds every element**, up to the comparison. -/
theorem contains_eraseDups {a : α} {l : List α} : l.eraseDups.contains a = l.contains a := by
  induction l using eraseDups_induction with
  | nil => rfl
  | cons b l ih =>
    rw [List.eraseDups_cons, List.contains_cons, ih, contains_filter_bne, List.contains_cons]
    cases a == b <;> simp

/-- **What is kept repeats nothing.** -/
theorem of_eraseDups (l : List α) : Distinct l.eraseDups := by
  induction l using eraseDups_induction with
  | nil => exact nil
  | cons a l ih =>
    rw [List.eraseDups_cons, cons_iff]
    refine ⟨fun b hb => ?_, ih⟩
    have hne := (List.mem_filter.1 (mem_of_mem_eraseDups hb)).2
    rw [BEq.comm]
    simpa using hne

/-- Of a list that repeats nothing all is kept. -/
theorem eraseDups_eq {l : List α} (h : Distinct l) : l.eraseDups = l := by
  induction l using eraseDups_induction with
  | nil => rfl
  | cons a l ih =>
    obtain ⟨ha, hl⟩ := cons_iff.1 h
    have hall : (l.filter fun b => !b == a) = l := by
      refine List.filter_eq_self.2 fun b hb => ?_
      have hab := ha b hb
      rw [BEq.comm] at hab
      simp [hab]
    rw [hall] at ih
    rw [List.eraseDups_cons, hall, ih hl]

/-- **A list in two pieces** keeps what the first piece keeps, followed by
what the second adds. -/
theorem eraseDups_append (l l' : List α) :
    (l ++ l').eraseDups = l.eraseDups ++ (l'.filter fun b => !l.contains b).eraseDups := by
  induction l using eraseDups_induction generalizing l' with
  | nil =>
    have hall : (l'.filter fun b => !([] : List α).contains b) = l' := by simp
    rw [hall]
    rfl
  | cons a l ih =>
    have hrest : ((l'.filter fun b => !b == a).filter fun b =>
        !(l.filter fun c => !c == a).contains b) = l'.filter fun b => !(a :: l).contains b := by
      rw [List.filter_filter]
      refine List.filter_congr fun b _ => ?_
      rw [contains_filter_bne, List.contains_cons]
      cases b == a <;> simp
    rw [List.cons_append, List.eraseDups_cons, List.filter_append, ih, List.eraseDups_cons, hrest,
      List.cons_append]

/-- Keeping the first piece's own before the second comes changes
nothing. -/
theorem eraseDups_append_left (l l' : List α) :
    (l.eraseDups ++ l').eraseDups = (l ++ l').eraseDups := by
  rw [eraseDups_append, eraseDups_append, eraseDups_eq (of_eraseDups l)]
  simp only [contains_eraseDups]

end Distinct

end Backlog
