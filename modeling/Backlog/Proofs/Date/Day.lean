import Backlog.Date
import Backlog.Proofs.Json.Scalar
import Mathlib.Data.List.Induction
import Mathlib.Tactic.IntervalCases
/-!
# The days of the calendar as texts

A day of the calendar is a year from 1 to 9999, one of the twelve months and a
day that the month has in that year (`Date.OfCalendar`). It is written with four
digits for the year and two each for the month and the day, and what the check of
a literal date accepts is exactly the days so written
(`Date.isCalendarDate_iff`). The digits are read by what they spell: two rows of
as many digits that spell one number are the same row.
-/

namespace Backlog

/-! ## Digits of a fixed width -/

namespace Decimal

/-- A number in decimal digits, with zeros in front up to a width. -/
def padded (width n : Nat) : List Char := (Nat.toDigits 10 n).leftpad width '0'

theorem ofAsciiDigits_append_singleton (cs : List Char) (c : Char) :
    ofAsciiDigits (cs ++ [c]) = ofAsciiDigits cs * 10 + (c.toNat - '0'.toNat) := by
  simp only [ofAsciiDigits, ofDigits, List.map_append, List.foldl_append, List.map_cons,
    List.map_nil, List.foldl_cons, List.foldl_nil]

/-- Zeros in front do not count. -/
theorem ofAsciiDigits_replicate_append (k : Nat) (cs : List Char) :
    ofAsciiDigits (List.replicate k '0' ++ cs) = ofAsciiDigits cs := by
  induction k with
  | zero => rfl
  | succ k ih =>
    rw [← ih]
    rfl

/-- Padded digits spell the number. -/
theorem ofAsciiDigits_padded (width n : Nat) : ofAsciiDigits (padded width n) = n := by
  rw [padded, List.leftpad, ofAsciiDigits_replicate_append, ofAsciiDigits_toDigits]

theorem length_padded {width n : Nat} (hwidth : 0 < width) (h : n < 10 ^ width) :
    (padded width n).length = width := by
  have hlength := (Nat.length_toDigits_le_iff (by decide) hwidth).2 h
  rw [padded, List.length_leftpad]
  omega

theorem isDigit_of_mem_padded {width n : Nat} {c : Char} (h : c ∈ padded width n) :
    c.isDigit = true := by
  rw [padded, List.leftpad, List.mem_append] at h
  rcases h with hzero | hdigit
  · rw [(List.mem_replicate.1 hzero).2]
    rfl
  · exact isDigit_of_mem hdigit

/-- Digits spell a number with no more digits than they are. -/
theorem ofAsciiDigits_lt {cs : List Char} (h : ∀ c ∈ cs, c.isDigit = true) :
    ofAsciiDigits cs < 10 ^ cs.length := by
  induction cs using List.reverseRecOn with
  | nil => decide
  | append_singleton cs c ih =>
    have hcs := ih fun d hd => h d (List.mem_append_left [c] hd)
    have hc := digit_bounds (h c (List.mem_append_right cs List.mem_cons_self))
    rw [ofAsciiDigits_append_singleton, List.length_append, List.length_singleton, Nat.pow_succ]
    have hzero : '0'.toNat = 48 := rfl
    omega

/-- **Two rows of as many digits that spell one number are the same.** -/
theorem eq_of_ofAsciiDigits_eq {cs others : List Char} (h : ∀ c ∈ cs, c.isDigit = true)
    (hothers : ∀ c ∈ others, c.isDigit = true) (hlength : cs.length = others.length)
    (heq : ofAsciiDigits cs = ofAsciiDigits others) : cs = others := by
  induction cs using List.reverseRecOn generalizing others with
  | nil => exact (List.eq_nil_of_length_eq_zero hlength.symm).symm
  | append_singleton cs c ih =>
    cases others using List.reverseRecOn with
    | nil => simp at hlength
    | append_singleton others d =>
      have hc := digit_bounds (h c (List.mem_append_right cs List.mem_cons_self))
      have hd := digit_bounds (hothers d (List.mem_append_right others List.mem_cons_self))
      have hzero : '0'.toNat = 48 := rfl
      rw [ofAsciiDigits_append_singleton, ofAsciiDigits_append_singleton] at heq
      have hlast : c = d := Char.toNat_inj.1 (by omega)
      have hinit : cs = others :=
        ih (fun e he => h e (List.mem_append_left [c] he))
          (fun e he => hothers e (List.mem_append_left [d] he)) (by simpa using hlength) (by omega)
      rw [hinit, hlast]

/-- Digits are what their number is written with at their width. -/
theorem padded_ofAsciiDigits {cs : List Char} {width : Nat} (hwidth : 0 < width)
    (hlength : cs.length = width) (h : ∀ c ∈ cs, c.isDigit = true) :
    padded width (ofAsciiDigits cs) = cs := by
  subst hlength
  exact eq_of_ofAsciiDigits_eq (fun _ hc => isDigit_of_mem_padded hc) h
    (length_padded hwidth (ofAsciiDigits_lt h)) (ofAsciiDigits_padded _ _)

end Decimal

/-! ## Days -/

namespace Date

/-- The numbers of days of the twelve months of a year. Every fourth year has a
leap day, but of the full centuries only every fourth. -/
def monthLengths (year : Nat) : List Nat :=
  [31, if 4 ∣ year ∧ (100 ∣ year → 400 ∣ year) then 29 else 28, 31, 30, 31, 30, 31, 31, 30, 31,
    30, 31]

/-- The days of the calendar, in the years 1 to 9999. -/
structure OfCalendar (year month day : Nat) : Prop where
  one_le_year : 1 ≤ year
  year_le : year ≤ 9999
  one_le_month : 1 ≤ month
  one_le_day : 1 ≤ day
  /-- The month is one of the twelve and is that long. -/
  month_length : ∃ length, (monthLengths year)[month - 1]? = some length ∧ day ≤ length

/-- A day as `YYYY-MM-DD`. -/
def dayChars (year month day : Nat) : List Char :=
  Decimal.padded 4 year ++ '-' :: (Decimal.padded 2 month ++ '-' :: Decimal.padded 2 day)

theorem isLeapYear_iff (year : Nat) :
    isLeapYear year = true ↔ 4 ∣ year ∧ (100 ∣ year → 400 ∣ year) := by
  simp only [isLeapYear, Bool.and_eq_true, Bool.or_eq_true, decide_eq_true_eq, bne_iff_ne]
  omega

/-- A month that has a length is one of the twelve. -/
theorem monthLengths_eq_some_iff {year month length : Nat} (hmonth : 1 ≤ month)
    (hlength : 1 ≤ length) :
    (monthLengths year)[month - 1]? = some length ↔ daysInMonth year month = length := by
  by_cases hle : month ≤ 12
  · simp only [monthLengths, ← isLeapYear_iff]
    interval_cases month <;> simp [daysInMonth]
  · have hnone : (monthLengths year)[month - 1]? = none :=
      List.getElem?_eq_none (by simp [monthLengths]; omega)
    have hzero : daysInMonth year month = 0 := by
      rw [daysInMonth.eq_def]
      split <;> omega
    rw [hnone, hzero]
    constructor
    · intro h; cases h
    · intro h; omega

theorem isDay_iff (year month day : Nat) :
    isDay year month day = true ↔ OfCalendar year month day := by
  simp only [isDay, Bool.and_eq_true, decide_eq_true_eq]
  constructor
  · rintro ⟨⟨⟨hfirst, hlast⟩, hday⟩, hlength⟩
    have hmonth : 1 ≤ month := by
      cases month with
      | zero =>
        have hzero : daysInMonth year 0 = 0 := rfl
        omega
      | succ month => omega
    exact ⟨hfirst, hlast, hmonth, hday, _,
      (monthLengths_eq_some_iff hmonth (by omega)).2 rfl, hlength⟩
  · rintro ⟨hfirst, hlast, hmonth, hday, length, hlength, hle⟩
    rw [(monthLengths_eq_some_iff hmonth (by omega)).1 hlength]
    exact ⟨⟨⟨hfirst, hlast⟩, hday⟩, hle⟩

/-- Numbers of months and of days have two digits. -/
theorem OfCalendar.lt_hundred {year month day : Nat} (h : OfCalendar year month day) :
    month < 10 ^ 2 ∧ day < 10 ^ 2 := by
  obtain ⟨-, -, hmonth, -, length, hlength, hday⟩ := h
  have hbound : ∀ n ∈ monthLengths year, n ≤ 31 := by
    simp only [monthLengths, List.mem_cons, List.not_mem_nil, or_false]
    rintro n hn
    split at hn <;> omega
  have hlt : month - 1 < 12 := (List.getElem?_eq_some_iff.1 hlength).1
  have hle := hbound length (List.mem_of_getElem? hlength)
  omega

/-- A year, a month and a day with dashes between are read by themselves. -/
theorem isCalendarDate_append : ∀ {ys ms ds : List Char}, ys.length = 4 → ms.length = 2 →
    ds.length = 2 →
    isCalendarDate (ys ++ '-' :: (ms ++ '-' :: ds)) =
      ((ys ++ ms ++ ds).all Char.isDigit &&
        isDay (Decimal.ofAsciiDigits ys) (Decimal.ofAsciiDigits ms) (Decimal.ofAsciiDigits ds))
  | [_, _, _, _], [_, _], [_, _], _, _, _ => rfl

/-- **What passes the check of a literal date are the days of the calendar as
they are written.** -/
theorem isCalendarDate_iff {cs : List Char} :
    isCalendarDate cs = true ↔
      ∃ year month day, OfCalendar year month day ∧ cs = dayChars year month day := by
  constructor
  · intro h
    rw [isCalendarDate.eq_def] at h
    split at h
    · next y1 y2 y3 y4 m1 m2 d1 d2 =>
      obtain ⟨hdigits, hday⟩ := Bool.and_eq_true_iff.1 h
      have hall : ∀ c ∈ [y1, y2, y3, y4] ++ [m1, m2] ++ [d1, d2], c.isDigit = true :=
        List.all_eq_true.1 hdigits
      have hyear : Decimal.padded 4 (Decimal.ofAsciiDigits [y1, y2, y3, y4]) = [y1, y2, y3, y4] :=
        Decimal.padded_ofAsciiDigits (by decide) rfl fun c hc =>
          hall c (List.mem_append_left _ (List.mem_append_left _ hc))
      have hmonth : Decimal.padded 2 (Decimal.ofAsciiDigits [m1, m2]) = [m1, m2] :=
        Decimal.padded_ofAsciiDigits (by decide) rfl fun c hc =>
          hall c (List.mem_append_left _ (List.mem_append_right _ hc))
      have hdayOf : Decimal.padded 2 (Decimal.ofAsciiDigits [d1, d2]) = [d1, d2] :=
        Decimal.padded_ofAsciiDigits (by decide) rfl fun c hc =>
          hall c (List.mem_append_right _ hc)
      refine ⟨_, _, _, (isDay_iff _ _ _).1 hday, ?_⟩
      rw [dayChars, hyear, hmonth, hdayOf]
      rfl
    · cases h
  · rintro ⟨year, month, day, hday, rfl⟩
    obtain ⟨hmonth, hdayOf⟩ := hday.lt_hundred
    have hyear : year < 10 ^ 4 := Nat.lt_succ_of_le hday.year_le
    have hdigit : ∀ c ∈ Decimal.padded 4 year ++ Decimal.padded 2 month ++ Decimal.padded 2 day,
        c.isDigit = true := by
      intro c hc
      rcases List.mem_append.1 hc with hc | hc
      · rcases List.mem_append.1 hc with hc | hc
        · exact Decimal.isDigit_of_mem_padded hc
        · exact Decimal.isDigit_of_mem_padded hc
      · exact Decimal.isDigit_of_mem_padded hc
    rw [dayChars, isCalendarDate_append (Decimal.length_padded (by decide) hyear)
      (Decimal.length_padded (by decide) hmonth) (Decimal.length_padded (by decide) hdayOf),
      Decimal.ofAsciiDigits_padded, Decimal.ofAsciiDigits_padded, Decimal.ofAsciiDigits_padded,
      (isDay_iff _ _ _).2 hday, Bool.and_true, List.all_eq_true]
    exact hdigit

/-- A day of the calendar has the layout of a date. -/
theorem looksLikeDate_of_isCalendarDate {cs : List Char} (h : isCalendarDate cs = true) :
    looksLikeDate cs = true := by
  rw [isCalendarDate.eq_def] at h
  split at h
  · next y1 y2 y3 y4 m1 m2 d1 d2 =>
    have hall := List.all_eq_true.1 (Bool.and_eq_true_iff.1 h).1
    simp only [looksLikeDate, Bool.and_eq_true, List.all_eq_true]
    exact ⟨fun c hc => Decimal.isDigit_of_ascii (hall c hc), rfl⟩
  · cases h

end Date

end Backlog
