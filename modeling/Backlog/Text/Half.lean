/-!
# Halves of pairs

In units of 16 bits a character beyond U+FFFF takes a pair of units. Half of
such a pair by itself is no character, yet text that comes from outside can
hold one. It is kept as the code point that is `halfOffset` higher, in a plane
without characters, and is written as the half that it stands for.

So the code points from U+DD800 to U+DDFFF are taken away from texts: no text is
assumed to hold one of them for itself. Unicode assigns none of them. One that
came in would be taken for a half here, and refused or written as such.
-/

namespace Backlog

namespace Text

/-- How far what is kept for a half is from it. -/
def halfOffset : Nat := 0xD0000

/-- Whether a unit is the first half of a pair. -/
def isHighHalf (unit : Nat) : Bool := 0xD800 ≤ unit && unit ≤ 0xDBFF

/-- Whether a unit is the second half of a pair. -/
def isLowHalf (unit : Nat) : Bool := 0xDC00 ≤ unit && unit ≤ 0xDFFF

/-- The character beyond U+FFFF that two halves make. -/
def ofHalves (high low : Nat) : Char :=
  Char.ofNat (0x10000 + (high - 0xD800) * 0x400 + (low - 0xDC00))

/-- The character of a code point. For a half it is what is kept for it. -/
def charOf (code : Nat) : Char :=
  if isHighHalf code || isLowHalf code then Char.ofNat (code + halfOffset) else Char.ofNat code

/-- Whether a character is kept for a half. -/
def isHalf (c : Char) : Bool :=
  isHighHalf (c.toNat - halfOffset) || isLowHalf (c.toNat - halfOffset)

/-- The code point that a character stands for. -/
def codeOf (c : Char) : Nat := if isHalf c then c.toNat - halfOffset else c.toNat

/-- Whether a text holds half of a pair. Texts are assumed to hold no code point
from U+DD800 to U+DDFFF but for a half. -/
def hasHalf (s : String) : Bool := s.toList.any isHalf

/-! ## Nothing is lost -/

/-- **The character of a code point stands for that code point.** -/
theorem codeOf_charOf_half {unit : Nat} (h : isHighHalf unit || isLowHalf unit) :
    codeOf (charOf unit) = unit := by
  have bounds : 0xD800 ≤ unit ∧ unit ≤ 0xDFFF := by
    simp only [isHighHalf, isLowHalf, Bool.or_eq_true, Bool.and_eq_true, decide_eq_true_eq] at h
    omega
  have valid : (unit + halfOffset).isValidChar := Or.inr (by unfold halfOffset; omega)
  have code : (Char.ofNat (unit + halfOffset)).toNat = unit + halfOffset := by
    rw [Char.ofNat, dif_pos valid]
    rfl
  have kept : charOf unit = Char.ofNat (unit + halfOffset) := by simp only [charOf, h, if_true]
  simp only [codeOf, isHalf, kept, code, Nat.add_sub_cancel, h, if_true]

end Text

end Backlog
