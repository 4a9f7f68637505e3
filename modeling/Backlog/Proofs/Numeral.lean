import Backlog.Decimal.Numeral
import Backlog.Proofs.Http.Coding
import Backlog.Proofs.Json.Scalar
import Mathlib.Data.List.Induction
/-!
# Integers that are read as they were written

An integer is read from the numeral that it is written as, unless that has too many digits
(`Decimal.readInteger_toString`). What was read from some numeral never has, since it is
written with no more digits than it was read from (`Decimal.length_toDigits_of_readInteger`).
-/

namespace Backlog

namespace Decimal

/-! ## Digits -/

theorem lt_ten_of_digitValue? {c : Char} {d : Nat} (h : digitValue? c = some d) : d < 10 := by
  obtain ⟨first, hfirst, rfl⟩ := Option.map_eq_some_iff.1 h
  have hrange := List.find?_some hfirst
  simp only [Bool.and_eq_true, decide_eq_true_eq] at hrange
  omega

/-- A digit of ASCII. -/
theorem digitValue?_of_ascii {c : Char} (h : c.isDigit = true) :
    digitValue? c = some (c.toNat - '0'.toNat) :=
  Text.of_isAlphanum
    (p := fun c => c.isDigit = true → digitValue? c = some (c.toNat - '0'.toNat))
    (by decide +kernel) (by rw [Char.isAlphanum, h, Bool.or_true]) h

/-- The digits of a numeral: one at least, all below ten. -/
theorem of_groupedDigits? {cs : List Char} {digits : List Nat}
    (h : groupedDigits? cs = some digits) :
    digits ≠ [] ∧ ∀ d ∈ digits, d < 10 := by
  fun_induction groupedDigits? cs generalizing digits with
  | case1 => cases h
  | case2 c =>
    obtain ⟨d, hd, rfl⟩ := Option.map_eq_some_iff.1 h
    exact ⟨List.cons_ne_nil _ _, fun e he => List.mem_singleton.1 he ▸ lt_ten_of_digitValue? hd⟩
  | case3 c rest ih =>
    obtain ⟨d, hd, h⟩ := Option.bind_eq_some_iff.1 h
    obtain ⟨ds, hds, h⟩ := Option.bind_eq_some_iff.1 h
    cases h
    exact ⟨List.cons_ne_nil _ _, List.forall_mem_cons.2 ⟨lt_ten_of_digitValue? hd, (ih hds).2⟩⟩
  | case4 c rest _ _ ih =>
    obtain ⟨d, hd, h⟩ := Option.bind_eq_some_iff.1 h
    obtain ⟨ds, hds, h⟩ := Option.bind_eq_some_iff.1 h
    cases h
    exact ⟨List.cons_ne_nil _ _, List.forall_mem_cons.2 ⟨lt_ten_of_digitValue? hd, (ih hds).2⟩⟩

/-- Digits of ASCII, with nothing between them. -/
theorem groupedDigits?_of_ascii {cs : List Char} (hne : cs ≠ [])
    (h : ∀ c ∈ cs, c.isDigit = true) :
    groupedDigits? cs = some (cs.map fun c => c.toNat - '0'.toNat) := by
  fun_induction groupedDigits? cs with
  | case1 => exact absurd rfl hne
  | case2 c =>
    rw [digitValue?_of_ascii (h c List.mem_cons_self)]
    rfl
  | case3 c rest ih =>
    exact absurd (h '_' (by simp)) (by decide)
  | case4 c rest hone _ ih =>
    obtain ⟨hc, hrest⟩ := List.forall_mem_cons.1 h
    rw [digitValue?_of_ascii hc, ih (fun hnone => hone hnone) hrest]
    rfl

/-- A number has no more digits than it is spelt with. -/
theorem length_toDigits_ofDigits_le {digits : List Nat} (hne : digits ≠ [])
    (h : ∀ d ∈ digits, d < 10) :
    (Nat.toDigits 10 (ofDigits digits)).length ≤ digits.length := by
  induction digits using List.reverseRecOn with
  | nil => exact absurd rfl hne
  | append_singleton digits d ih =>
    have hd : d < 10 := h d (by simp)
    have hlast : ofDigits (digits ++ [d]) = ofDigits digits * 10 + d := by
      rw [ofDigits, List.foldl_append]
      rfl
    rw [hlast, List.length_append, List.length_singleton]
    by_cases hsmall : ofDigits digits * 10 + d < 10
    · rw [Nat.toDigits_of_lt_base hsmall, List.length_singleton]
      omega
    · have hsome : digits ≠ [] := by
        rintro rfl
        exact hsmall (by simpa [ofDigits] using hd)
      have hrest := ih hsome fun e he => h e (List.mem_append_left _ he)
      have hdiv : (ofDigits digits * 10 + d) / 10 = ofDigits digits := by omega
      rw [Nat.toDigits_of_base_le (by decide) (Nat.le_of_not_lt hsmall), hdiv, List.length_append,
        List.length_singleton]
      omega

/-! ## Integers -/

theorem natAbs_signedInt (negative : Bool) (n : Nat) : (signedInt negative n).natAbs = n := by
  cases negative with
  | false => exact Int.natAbs_natCast n
  | true => exact (Int.natAbs_neg _).trans (Int.natAbs_natCast n)

/-- **What was read has not too many digits.** -/
theorem length_toDigits_of_readInteger {s : String} {n : Int} (h : readInteger s = .ok n) :
    (Nat.toDigits 10 n.natAbs).length ≤ maxNumeralDigits := by
  rcases hsigned : signed (s.toList.dropWhile isPadding) with ⟨negative, rest⟩
  rw [readInteger, hsigned] at h
  dsimp only at h
  split at h
  · cases h
  · next digits hdigits =>
    obtain ⟨hne, hall⟩ := of_groupedDigits? hdigits
    split at h
    · cases h
    · next hshort =>
      split at h
      · cases h
        rw [natAbs_signedInt]
        exact Nat.le_trans (length_toDigits_ofDigits_le hne hall) (Nat.le_of_not_lt hshort)
      · cases h

/-- Digits and the sign are no padding. -/
theorem isPadding_of_isDigit {c : Char} (h : c.isDigit = true) : isPadding c = false :=
  Text.of_isAlphanum (p := fun c => isPadding c = false) (by decide +kernel)
    (by rw [Char.isAlphanum, h, Bool.or_true])

/-- **An integer is read as it was written**, unless it has too many digits. -/
theorem readInteger_toString {n : Int}
    (h : (Nat.toDigits 10 n.natAbs).length ≤ maxNumeralDigits) :
    readInteger (toString n) = .ok n := by
  obtain ⟨c, cs, hdigits, hc⟩ := exists_digits_eq_cons n.natAbs
  have hall : ∀ d ∈ Nat.toDigits 10 n.natAbs, d.isDigit = true := fun d => isDigit_of_mem
  have hsign : signed ((toString n).toList.dropWhile isPadding) =
      (decide (n < 0), Nat.toDigits 10 n.natAbs) := by
    rw [toList_toString, hdigits]
    by_cases hn : n < 0
    · rw [if_pos hn, decide_eq_true hn, List.singleton_append,
        List.dropWhile_cons_of_neg (by decide +kernel)]
      rfl
    · rw [if_neg hn, decide_eq_false hn, List.nil_append,
        List.dropWhile_cons_of_neg (by simp [isPadding_of_isDigit hc])]
      have hminus : c ≠ '-' := by
        rintro rfl
        revert hc
        decide
      have hplus : c ≠ '+' := by
        rintro rfl
        revert hc
        decide
      rw [signed]
      · rintro rest ⟨⟩
        exact hminus rfl
      · rintro rest ⟨⟩
        exact hplus rfl
  have hline : ∀ d ∈ Nat.toDigits 10 n.natAbs, isDigitOrLine d = true := fun d hd => by
    rw [isDigitOrLine, isDigit_of_ascii (hall d hd), Bool.true_or]
  rw [readInteger, hsign]
  dsimp only
  rw [List.takeWhile_eq_self_iff.2 hline, List.dropWhile_eq_nil_iff.2 hline,
    groupedDigits?_of_ascii (by rw [hdigits]; exact List.cons_ne_nil _ _) hall]
  dsimp only
  rw [if_neg (by rw [List.length_map]; exact Nat.not_lt.2 h), if_pos (List.all_nil),
    ← ofAsciiDigits, ofAsciiDigits_toDigits]
  by_cases hn : n < 0
  · rw [decide_eq_true hn, signedInt, if_pos rfl]
    congr 1
    omega
  · rw [decide_eq_false hn, signedInt, if_neg Bool.false_ne_true]
    congr 1
    omega

end Decimal

end Backlog
