import Backlog.Json.Reader
import Backlog.Json.Writer
import Mathlib.Data.List.TakeWhile
/-!
# Words and integers that are read as they were written

The words of JSON and the digits of an integer are read back when what stands
behind them is the end, a comma or a new line, as it is behind every value that
is laid out over lines (`Json.Stops`).
-/

namespace Backlog

/-! ## Digits -/

namespace Decimal

/-- The digits of a number spell it. -/
theorem ofAsciiDigits_toDigits (n : Nat) : ofAsciiDigits (Nat.toDigits 10 n) = n := by
  have hfold := @Nat.ofDigitChars_ten_toDigits n
  rw [Nat.ofDigitChars_eq_foldl] at hfold
  rw [ofAsciiDigits, ofDigits, List.foldl_map]
  simpa only [Nat.mul_comm] using hfold

/-- The digits of a number do not start with zero, unless that is the number. -/
theorem exists_toDigits_eq_cons {n : Nat} (h : n ≠ 0) :
    ∃ c cs, Nat.toDigits 10 n = c :: cs ∧ c ≠ '0' := by
  induction n using Nat.strongRecOn with
  | ind n ih =>
    by_cases hn : n < 10
    · rw [Nat.toDigits_of_lt_base hn]
      exact ⟨_, [], rfl, fun hzero => h (Nat.digitChar_eq_zero.1 hzero)⟩
    · obtain ⟨c, cs, hdigits, hc⟩ := ih (n / 10) (by omega) (by omega)
      rw [Nat.toDigits_of_base_le (by decide) (Nat.le_of_not_lt hn), hdigits]
      exact ⟨c, _, rfl, hc⟩

theorem isDigit_of_mem {n : Nat} {c : Char} (h : c ∈ Nat.toDigits 10 n) : c.isDigit = true :=
  Nat.isDigit_of_mem_toDigits (by decide) (by decide) h

/-- The digits of a number, the first by itself. -/
theorem exists_digits_eq_cons (n : Nat) :
    ∃ c cs, Nat.toDigits 10 n = c :: cs ∧ c.isDigit = true := by
  obtain ⟨c, cs, hcons⟩ := List.exists_cons_of_ne_nil (Nat.toDigits_ne_nil (n := n) (b := 10))
  exact ⟨c, cs, hcons, isDigit_of_mem (hcons ▸ List.mem_cons_self)⟩

/-- An integer is written as its sign and the digits of its size. -/
theorem toList_toString (n : Int) :
    (toString n).toList = (if n < 0 then ['-'] else []) ++ Nat.toDigits 10 n.natAbs := by
  cases n with
  | ofNat m =>
    have htext : toString (Int.ofNat m) = toString m := rfl
    have hsign : ¬ Int.ofNat m < 0 := Int.not_lt.2 (Int.natCast_nonneg m)
    rw [htext, if_neg hsign, Nat.toString_eq_ofList_toDigits, String.toList_ofList]
    rfl
  | negSucc m =>
    have htext : toString (Int.negSucc m) = "-" ++ toString (m + 1) := rfl
    have hdigits : (toString (m + 1)).toList = Nat.toDigits 10 (m + 1) := by
      rw [Nat.toString_eq_ofList_toDigits, String.toList_ofList]
    rw [htext, if_pos (Int.negSucc_lt_zero m), String.toList_append, hdigits]
    rfl

/-- A sign and a size make the integer. -/
theorem signedInt_natAbs (n : Int) : signedInt (decide (n < 0)) n.natAbs = n := by
  rw [signedInt]
  by_cases h : n < 0
  · rw [if_pos (decide_eq_true h)]
    omega
  · rw [if_neg (by simpa using h)]
    omega

end Decimal

namespace Json

/-! ## What stands behind a value -/

/-- Whether a value may end before the characters. -/
def Stops (rest : List Char) : Prop := ∀ c cs, rest = c :: cs → c = ',' ∨ c = '\n'

theorem stops_nil : Stops [] := fun _ _ h => by cases h

theorem stops_comma (cs : List Char) : Stops (',' :: cs) := fun _ _ h => by cases h; exact .inl rfl

theorem stops_newline (cs : List Char) : Stops ('\n' :: cs) := fun _ _ h => by
  cases h
  exact .inr rfl

/-- No digit stands there. -/
theorem Stops.takeWhile_isDigit {rest : List Char} (h : Stops rest) :
    rest.takeWhile Char.isDigit = [] ∧ rest.dropWhile Char.isDigit = rest := by
  cases rest with
  | nil => exact ⟨rfl, rfl⟩
  | cons c cs =>
    rcases h c cs rfl with rfl | rfl
    · exact ⟨rfl, rfl⟩
    · exact ⟨rfl, rfl⟩

/-- No fraction and no power of ten stand there. -/
theorem Stops.fraction_power {rest : List Char} (h : Stops rest) :
    fraction rest = ([], rest) ∧ power rest = (none, rest) := by
  cases rest with
  | nil => exact ⟨rfl, rfl⟩
  | cons c cs =>
    rcases h c cs rfl with rfl | rfl
    · exact ⟨rfl, rfl⟩
    · exact ⟨rfl, rfl⟩

/-! ## Integers -/

/-- The digits of a number are read as a whole. -/
theorem whole?_toDigits (n : Nat) {rest : List Char} (h : Stops rest) :
    whole? (Nat.toDigits 10 n ++ rest) = some (Nat.toDigits 10 n, rest) := by
  by_cases hn : n = 0
  · subst hn
    rfl
  · obtain ⟨c, cs, hdigits, hc⟩ := Decimal.exists_toDigits_eq_cons hn
    have hall : ∀ d ∈ Nat.toDigits 10 n, Char.isDigit d = true := fun d => Decimal.isDigit_of_mem
    have htake : (Nat.toDigits 10 n ++ rest).takeWhile Char.isDigit = Nat.toDigits 10 n := by
      rw [List.takeWhile_append_of_pos hall, h.takeWhile_isDigit.1, List.append_nil]
    have hdrop : (Nat.toDigits 10 n ++ rest).dropWhile Char.isDigit = rest := by
      rw [List.dropWhile_append_of_pos hall, h.takeWhile_isDigit.2]
    have hnot : ∀ others, Nat.toDigits 10 n ++ rest ≠ '0' :: others := by
      intro others heq
      rw [hdigits] at heq
      exact hc (List.cons.inj heq).1
    rw [whole?.eq_2 _ hnot, htake, hdrop, if_neg]
    rw [hdigits]
    exact Bool.false_ne_true

/-- An integer is read after its sign. -/
theorem unsigned?_toDigits {maxDigits n : Nat} (hdigits : (Nat.toDigits 10 n).length ≤ maxDigits)
    (negative : Bool) {rest : List Char} (h : Stops rest) :
    unsigned? maxDigits negative (Nat.toDigits 10 n ++ rest) =
      some (.int (Decimal.signedInt negative n), rest) := by
  obtain ⟨hfraction, hpower⟩ := h.fraction_power
  simp only [unsigned?, whole?_toDigits n h, hfraction, hpower, Option.bind_eq_bind,
    Option.bind_some, List.isEmpty_nil, Option.isNone_none, Bool.and_self, if_true,
    if_neg (Nat.not_lt.2 hdigits), Decimal.ofAsciiDigits_toDigits, Option.pure_def]

/-! ## Words and integers -/

/-- A digit is none of the other characters. -/
theorem ne_of_isDigit {c d : Char} (hc : c.isDigit = true) (hd : d.isDigit = false) : c ≠ d := by
  rintro rfl
  rw [hd] at hc
  cases hc

/-- No word starts with a digit, with or without a sign. -/
theorem findSome?_words {c : Char} (hc : c.isDigit = true) (cs : List Char) :
    (words.findSome? fun (word, a) => (Text.afterStart? word (c :: cs)).map (a, ·)) = none ∧
      (words.findSome? fun (word, a) => (Text.afterStart? word ('-' :: c :: cs)).map (a, ·)) =
        none := by
  have hne : ∀ d : Char, d.isDigit = false → d ≠ c := fun d hd => (ne_of_isDigit hc hd).symm
  simp [words, Text.afterStart?, hne]

theorem toList_atomText_int (n : Int) : (atomText (.num (.int n))).toList =
    (if n < 0 then ['-'] else []) ++ Nat.toDigits 10 n.natAbs :=
  Decimal.toList_toString n

/-- An integer starts with its sign or a digit. -/
theorem exists_atomText_int_eq_cons (n : Int) :
    ∃ c cs, (atomText (.num (.int n))).toList = c :: cs ∧ (c = '-' ∨ c.isDigit = true) := by
  obtain ⟨c, cs, hcons, hc⟩ := Decimal.exists_digits_eq_cons n.natAbs
  rw [toList_atomText_int, hcons]
  split
  · exact ⟨'-', c :: cs, rfl, .inl rfl⟩
  · exact ⟨c, cs, rfl, .inr hc⟩

/-- **An integer is read as it was written.** -/
theorem scalar?_int {maxDigits : Nat} {n : Int}
    (hdigits : (Nat.toDigits 10 n.natAbs).length ≤ maxDigits) {rest : List Char} (h : Stops rest) :
    scalar? maxDigits ((atomText (.num (.int n))).toList ++ rest) = some (.num (.int n), rest) := by
  have hread := unsigned?_toDigits hdigits (decide (n < 0)) h
  obtain ⟨c, cs, hcons, hc⟩ := Decimal.exists_digits_eq_cons n.natAbs
  obtain ⟨hwords, hwords'⟩ := findSome?_words hc (cs ++ rest)
  rw [hcons, Decimal.signedInt_natAbs] at hread
  rw [toList_atomText_int, hcons]
  by_cases hsign : n < 0
  · rw [if_pos hsign]
    rw [decide_eq_true hsign, List.cons_append] at hread
    show scalar? maxDigits ('-' :: c :: (cs ++ rest)) = _
    simp only [scalar?, hwords', hread, Option.map_some]
  · rw [if_neg hsign]
    rw [decide_eq_false hsign, List.cons_append] at hread
    have hminus : ∀ others, c :: (cs ++ rest) ≠ '-' :: others := fun others heq =>
      ne_of_isDigit hc rfl (List.cons.inj heq).1
    show scalar? maxDigits (c :: (cs ++ rest)) = _
    rw [scalar?, hwords]
    · simp only [hread, Option.map_some]
    · exact hminus

/-- **A word is read as it was written.** -/
theorem scalar?_null (maxDigits : Nat) (rest : List Char) :
    scalar? maxDigits ((atomText .null).toList ++ rest) = some (.null, rest) := by
  rfl

theorem scalar?_flag (maxDigits : Nat) (b : Bool) (rest : List Char) :
    scalar? maxDigits ((atomText (.bool b)).toList ++ rest) = some (.bool b, rest) := by
  cases b <;> rfl

end Json

end Backlog
