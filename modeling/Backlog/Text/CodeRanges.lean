/-!
# Sets of characters

A class of characters as a list of ranges of code points.
-/

namespace Backlog

namespace Text

/-- A set of characters, as ranges of code points with both ends included. -/
abbrev CodeRanges := List (Nat × Nat)

/-- Whether one of the ranges holds the character. -/
def CodeRanges.contains (ranges : CodeRanges) (c : Char) : Bool :=
  ranges.any fun range => range.1 ≤ c.toNat && c.toNat ≤ range.2

/-- Sets with no code point in common have no character in common. -/
theorem CodeRanges.contains_eq_false {ranges others : CodeRanges} {c : Char}
    (h : ∀ range ∈ ranges, ∀ other ∈ others, range.2 < other.1 ∨ other.2 < range.1)
    (hc : ranges.contains c = true) : others.contains c = false := by
  obtain ⟨range, hrange, hbounds⟩ := List.any_eq_true.1 hc
  rw [CodeRanges.contains, List.any_eq_false]
  intro other hother
  have hapart := h range hrange other hother
  simp only [Bool.and_eq_true, decide_eq_true_eq] at hbounds ⊢
  omega

end Text

end Backlog
