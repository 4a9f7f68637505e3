import Backlog.Json.Reader
import Backlog.Json.Writer
import Mathlib.Data.List.Chain
/-!
# Strings that are read as they were written

A character of a string is written as itself, as a short escape, or as one or
two units in hexadecimal digits. Reading takes each of these back to the
character (`Json.stringChar?_escapedChar`), whatever stands behind it, unless a
first half of a pair by itself is followed by a second half by itself: these two
would be read as the pair. So a text without such neighbours is read as it was
written (`Json.stringBody?_flatMap_escapedChar`). What is kept for a half counts
as one: a text is assumed to hold no code point from U+DD800 to U+DDFFF for
itself.
-/

namespace Backlog

namespace Text

/-! ## Hexadecimal digits -/

theorem hexValue?_digitChar : ∀ n < 16, hexValue? (Nat.digitChar n) = some n := by decide

/-- The last digit is what is left of the number, and the others spell how often
it has the base. -/
theorem hexDigits_succ {width : Nat} (hwidth : 0 < width) (n : Nat) :
    hexDigits (width + 1) n = hexDigits width (n / 16) ++ [Nat.digitChar (n % 16)] := by
  rw [hexDigits, hexDigits]
  by_cases h : n < 16
  · -- the number is a single digit, with zeros in front of it
    have hzeros : List.replicate width '0' = List.replicate (width - 1) '0' ++ ['0'] := by
      rw [← List.replicate_succ', Nat.sub_add_cancel hwidth]
    rw [Nat.div_eq_of_lt h, Nat.mod_eq_of_lt h, Nat.toDigits_of_lt_base h, Nat.toDigits_zero]
    exact congrArg (· ++ [Nat.digitChar n]) hzeros
  · rw [Nat.toDigits_of_base_le (by decide) (Nat.le_of_not_lt h), List.length_append,
      List.length_singleton, Nat.add_sub_add_right, List.append_assoc]

/-- Four digits spell a 16-bit unit. -/
theorem hexDigits_four {n : Nat} (h : n < 0x10000) :
    hexDigits 4 n =
      [Nat.digitChar (n / 0x1000), Nat.digitChar (n / 0x100 % 0x10),
        Nat.digitChar (n / 0x10 % 0x10), Nat.digitChar (n % 0x10)] := by
  have hfirst : hexDigits 1 (n / 0x1000) = [Nat.digitChar (n / 0x1000)] := by
    rw [hexDigits, Nat.toDigits_of_lt_base (by omega)]
    rfl
  have hdiv : n / 16 / 16 = n / 0x100 := Nat.div_div_eq_div_mul ..
  have hdiv' : n / 0x100 / 16 = n / 0x1000 := Nat.div_div_eq_div_mul ..
  rw [hexDigits_succ (by decide), hexDigits_succ (by decide), hexDigits_succ (by decide), hdiv,
    hdiv', hfirst]
  rfl

/-! ## Halves of pairs -/

/-- A character is no unit of a pair. -/
theorem toNat_lt_or_gt (c : Char) : c.toNat < 0xD800 ∨ 0xDFFF < c.toNat ∧ c.toNat < 0x110000 :=
  c.valid

/-- What is kept for a half stands for it. -/
theorem bounds_of_isHalf {c : Char} (h : isHalf c = true) :
    c.toNat = codeOf c + halfOffset ∧ 0xD800 ≤ codeOf c ∧ codeOf c ≤ 0xDFFF := by
  rw [codeOf, if_pos h]
  simp only [isHalf, isHighHalf, isLowHalf, Bool.or_eq_true, Bool.and_eq_true,
    decide_eq_true_eq] at h
  simp only [halfOffset] at h ⊢
  omega

/-- **The code point of a character stands for that character.** -/
theorem charOf_codeOf (c : Char) : charOf (codeOf c) = c := by
  by_cases h : isHalf c = true
  · obtain ⟨hcode, hlow, hhigh⟩ := bounds_of_isHalf h
    have hunit : (isHighHalf (codeOf c) || isLowHalf (codeOf c)) = true := by
      simp only [isHighHalf, isLowHalf, Bool.or_eq_true, Bool.and_eq_true, decide_eq_true_eq]
      omega
    rw [charOf, if_pos hunit, ← hcode, Char.ofNat_toNat]
  · have hunit : (isHighHalf c.toNat || isLowHalf c.toNat) = false := by
      have := toNat_lt_or_gt c
      simp only [isHighHalf, isLowHalf, Bool.or_eq_false_iff, Bool.and_eq_false_iff,
        decide_eq_false_iff_not]
      omega
    rw [codeOf, if_neg h, charOf, hunit, if_neg Bool.false_ne_true, Char.ofNat_toNat]

/-- Two halves make the character that they were made of. -/
theorem ofHalves_eq (offset : Nat) :
    ofHalves (0xD800 + offset / 0x400) (0xDC00 + offset % 0x400) =
      Char.ofNat (0x10000 + offset) := by
  have hoffset : 0x10000 + (0xD800 + offset / 0x400 - 0xD800) * 0x400 +
      (0xDC00 + offset % 0x400 - 0xDC00) = 0x10000 + offset := by omega
  rw [ofHalves, hoffset]

/-- Whether two neighbours are the halves of one pair, each by itself. -/
def SplitPair (c d : Char) : Prop :=
  isHighHalf (codeOf c) = true ∧ isLowHalf (codeOf d) = true

/-- Whether a text has the halves of no pair side by side. Text without halves
is of that sort, and no text is assumed to hold what is kept for a half but for
one. -/
def Unsplit (cs : List Char) : Prop := cs.IsChain fun c d => ¬ SplitPair c d

theorem isHalf_of_isHighHalf {c : Char} (h : isHighHalf (codeOf c) = true) : isHalf c = true := by
  by_contra hno
  rw [codeOf, if_neg hno] at h
  have := toNat_lt_or_gt c
  simp only [isHighHalf, Bool.and_eq_true, decide_eq_true_eq] at h
  omega

/-- Text without halves has no halves side by side. -/
theorem unsplit_of_hasHalf {s : String} (h : hasHalf s = false) : Unsplit s.toList := by
  rw [hasHalf] at h
  generalize s.toList = cs at h ⊢
  induction cs with
  | nil => exact .nil
  | cons c rest ih =>
    rw [List.any_cons, Bool.or_eq_false_iff] at h
    refine List.isChain_cons.2 ⟨fun d _ hsplit => ?_, ih h.2⟩
    rw [isHalf_of_isHighHalf hsplit.1] at h
    cases h.1

end Text

namespace Json

/-! ## Units -/

/-- A unit is read as it was written. -/
theorem unit?_hexDigits {n : Nat} (h : n < 0x10000) (rest : List Char) :
    unit? (Text.hexDigits 4 n ++ rest) = some (n, rest) := by
  rw [Text.hexDigits_four h]
  simp only [List.cons_append, List.nil_append, unit?,
    Text.hexValue?_digitChar _ (show n / 0x1000 < 16 by omega),
    Text.hexValue?_digitChar _ (show n / 0x100 % 0x10 < 16 by omega),
    Text.hexValue?_digitChar _ (show n / 0x10 % 0x10 < 16 by omega),
    Text.hexValue?_digitChar _ (show n % 0x10 < 16 by omega), Option.bind_some, Option.pure_def,
    Option.bind_eq_bind]
  congr 2
  omega

/-- **The ways in which a character is written.** -/
inductive Escaped (c : Char) : List Char → Prop where
  /-- As itself. -/
  | plain (hquote : c ≠ '"') (hslash : c ≠ '\\') (hspace : ' ' ≤ c) : Escaped c [c]
  /-- By a short escape. -/
  | short {e : Char} (hshort : shortEscape? e = some c) (hunit : e ≠ 'u') : Escaped c ['\\', e]
  /-- As one unit. -/
  | unit (hcode : Text.codeOf c < 0x10000) : Escaped c (unitEscape (Text.codeOf c))
  /-- As a pair of units. -/
  | pair (hcode : 0x10000 ≤ c.toNat) :
      Escaped c (unitEscape (0xD800 + (c.toNat - 0x10000) / 0x400) ++
        unitEscape (0xDC00 + (c.toNat - 0x10000) % 0x400))

theorem escaped_escapedChar (c : Char) : Escaped c (escapedChar c) := by
  rw [escapedChar]
  -- the quote, the backslash and five control characters have short escapes
  split
  · next h => subst h; exact .short rfl (by decide)
  split
  · next h => subst h; exact .short rfl (by decide)
  split
  · next h => subst h; exact .short rfl (by decide)
  split
  · next h => subst h; exact .short rfl (by decide)
  split
  · next h => subst h; exact .short rfl (by decide)
  split
  · next h => subst h; exact .short rfl (by decide)
  split
  · next h => subst h; exact .short rfl (by decide)
  split
  · next hquote hslash _ _ _ _ _ h => exact .plain hquote hslash h.1
  split
  · next h => exact .unit h
  · next h =>
    refine .pair ?_
    by_cases hhalf : Text.isHalf c = true
    · have := Text.bounds_of_isHalf hhalf
      omega
    · rw [Text.codeOf, if_neg hhalf] at h
      omega

/-- What is written for a character is not nothing. -/
theorem Escaped.ne_nil {c : Char} {cs : List Char} (h : Escaped c cs) : cs ≠ [] := by
  cases h <;> exact List.cons_ne_nil _ _

theorem lowUnit?_unitEscape (unit : Nat) (rest : List Char) :
    lowUnit? (unitEscape unit ++ rest) =
      (unit? (Text.hexDigits 4 unit ++ rest)).filter fun (unit, _) => Text.isLowHalf unit := rfl

theorem stringChar?_unitEscape (unit : Nat) (rest : List Char) :
    stringChar? (unitEscape unit ++ rest) = unitChar? (Text.hexDigits 4 unit ++ rest) := rfl

/-- One unit is read as its character. -/
theorem unitChar?_of_unit {unit : Nat} (h : unit < 0x10000) {rest : List Char}
    (hrest : Text.isHighHalf unit = true → lowUnit? rest = none) :
    unitChar? (Text.hexDigits 4 unit ++ rest) = some (Text.charOf unit, rest) := by
  rw [unitChar?, unit?_hexDigits h]
  cases hhigh : Text.isHighHalf unit with
  | true => simp [hhigh, hrest hhigh]
  | false => simp [hhigh]

/-- Two units that form a pair are read as the character that they make. -/
theorem unitChar?_of_halves {high low : Nat} (hhigh : Text.isHighHalf high = true)
    (hlow : Text.isLowHalf low = true) (rest : List Char) :
    unitChar? (Text.hexDigits 4 high ++ (unitEscape low ++ rest)) =
      some (Text.ofHalves high low, rest) := by
  have hbounds : high < 0x10000 ∧ low < 0x10000 := by
    simp only [Text.isHighHalf, Text.isLowHalf, Bool.and_eq_true, decide_eq_true_eq] at hhigh hlow
    omega
  have hread : lowUnit? (unitEscape low ++ rest) = some (low, rest) := by
    rw [lowUnit?_unitEscape, unit?_hexDigits hbounds.2]
    simp [Option.filter, hlow]
  rw [unitChar?, unit?_hexDigits hbounds.1]
  simp [hhigh, hread]

/-- What is written for a character begins with no second half, unless it is
kept for one. -/
theorem Escaped.lowUnit?_eq_none {c : Char} {cs : List Char} (h : Escaped c cs)
    (hlow : Text.isLowHalf (Text.codeOf c) = false) (rest : List Char) :
    lowUnit? (cs ++ rest) = none := by
  cases h with
  | plain hquote hslash hspace =>
    rw [lowUnit?.eq_def]
    split
    · next heq => exact absurd (List.cons.inj heq).1 hslash
    · rfl
  | short hshort hunit =>
    rw [lowUnit?.eq_def]
    split
    · next heq => exact absurd (List.cons.inj (List.cons.inj heq).2).1 hunit
    · rfl
  | unit hcode =>
    rw [lowUnit?_unitEscape, unit?_hexDigits hcode]
    simp [Option.filter, hlow]
  | pair hcode =>
    -- the first unit of a pair is a first half, so it is no second one
    have := Text.toNat_lt_or_gt c
    rw [List.append_assoc, lowUnit?_unitEscape, unit?_hexDigits (by omega)]
    have hhigh : Text.isLowHalf (0xD800 + (c.toNat - 0x10000) / 0x400) = false := by
      simp only [Text.isLowHalf, Bool.and_eq_false_iff, decide_eq_false_iff_not]
      omega
    simp [Option.filter, hhigh]

/-- **What is written for a character is read as that.** A first half by itself
must have no second half behind it. -/
theorem Escaped.stringChar?_eq_some {c : Char} {cs rest : List Char} (h : Escaped c cs)
    (hrest : Text.isHighHalf (Text.codeOf c) = true → lowUnit? rest = none) :
    stringChar? (cs ++ rest) = some (c, rest) := by
  cases h with
  | plain hquote hslash hspace =>
    rw [stringChar?.eq_def]
    split
    · next heq => exact absurd (List.cons.inj heq).1 hslash
    · next heq => exact absurd (List.cons.inj heq).1 hslash
    · next heq =>
      cases heq
      exact if_neg (Char.not_lt.2 hspace)
    · next heq => cases heq
  | @short e hshort hunit =>
    have hread : stringChar? ('\\' :: e :: rest) = (shortEscape? e).map (·, rest) := by
      rw [stringChar?.eq_def]
      split
      · next heq => exact absurd (List.cons.inj (List.cons.inj heq).2).1 hunit
      · next heq =>
        cases heq
        rfl
      · next hno heq =>
        cases heq
        exact absurd rfl (hno _ _ rfl)
      · next heq => cases heq
    exact hread.trans (by rw [hshort]; rfl)
  | unit hcode =>
    rw [stringChar?_unitEscape, unitChar?_of_unit hcode hrest, Text.charOf_codeOf]
  | pair hcode =>
    have := Text.toNat_lt_or_gt c
    have hhigh : Text.isHighHalf (0xD800 + (c.toNat - 0x10000) / 0x400) = true := by
      simp only [Text.isHighHalf, Bool.and_eq_true, decide_eq_true_eq]
      omega
    have hlow : Text.isLowHalf (0xDC00 + (c.toNat - 0x10000) % 0x400) = true := by
      simp only [Text.isLowHalf, Bool.and_eq_true, decide_eq_true_eq]
      omega
    rw [List.append_assoc, stringChar?_unitEscape, unitChar?_of_halves hhigh hlow, Text.ofHalves_eq,
      Nat.add_sub_of_le hcode, Char.ofNat_toNat]

/-- What is written for a character does not start as the end of a string. -/
theorem Escaped.ne_quote {c : Char} {cs : List Char} (h : Escaped c cs) (rest others : List Char) :
    cs ++ rest ≠ '"' :: others := by
  intro heq
  cases h with
  | plain hquote hslash hspace => exact hquote (List.cons.inj heq).1
  | short hshort hunit => exact absurd (List.cons.inj heq).1 (by decide)
  | unit hcode => exact absurd (List.cons.inj heq).1 (by decide)
  | pair hcode => exact absurd (List.cons.inj heq).1 (by decide)

/-! ## Strings -/

/-- Behind a first half by itself there is no second half. -/
theorem lowUnit?_behind {c : Char} {cs : List Char} (h : Text.Unsplit (c :: cs))
    (hhigh : Text.isHighHalf (Text.codeOf c) = true) (rest : List Char) :
    lowUnit? (cs.flatMap escapedChar ++ '"' :: rest) = none := by
  cases cs with
  | nil => rfl
  | cons d cs =>
    have hlow : Text.isLowHalf (Text.codeOf d) = false :=
      Bool.eq_false_iff.2 fun hlow => (List.isChain_cons_cons.1 h).1 ⟨hhigh, hlow⟩
    rw [List.flatMap_cons, List.append_assoc]
    exact (escaped_escapedChar d).lowUnit?_eq_none hlow _

/-- **A string is read as it was written.** -/
theorem stringBody?_flatMap_escapedChar {cs : List Char} (h : Text.Unsplit cs) {fuel : Nat}
    (hfuel : cs.length < fuel) (rest : List Char) :
    stringBody? fuel (cs.flatMap escapedChar ++ '"' :: rest) = some (cs, rest) := by
  induction cs generalizing fuel with
  | nil =>
    obtain ⟨fuel, rfl⟩ := Nat.exists_eq_succ_of_ne_zero (Nat.ne_of_gt hfuel)
    rfl
  | cons c cs ih =>
    obtain ⟨fuel, rfl⟩ := Nat.exists_eq_succ_of_ne_zero (Nat.ne_of_gt (Nat.zero_lt_of_lt hfuel))
    have hescaped := escaped_escapedChar c
    have hchar := hescaped.stringChar?_eq_some fun hhigh => lowUnit?_behind h hhigh rest
    have hbody := ih (List.isChain_cons.1 h).2 (Nat.lt_of_succ_lt_succ hfuel)
    rw [List.flatMap_cons, List.append_assoc, stringBody?.eq_3 _ _ (hescaped.ne_quote _), hchar]
    simp [hbody]

end Json

end Backlog
