import Backlog.Proofs.Query.Token
import Backlog.Proofs.Run
import Backlog.Query.Compile
/-!
# Texts that need no quotes

A text with neither blanks nor quotes is `Plain` and cannot disturb what
stands around it. More generally a text is `Whole` when it can stand in a row
with others: its blanks are quoted and its quotes are closed. Values are
shown whole if they hold no quote, and a date expression that passes its
check is plain, whatever blanks were around it.
-/

namespace Backlog

namespace Query

/-! ## Texts that stand for themselves -/

/-- A text without blanks and quotes. -/
def Plain (s : String) : Prop := Text.hasBlank s = false ∧ quote ∉ s.toList

instance (s : String) : Decidable (Plain s) := inferInstanceAs (Decidable (_ ∧ _))

/-- A text without blanks outside its quotes, which it leaves closed. -/
def Whole (s : String) : Prop := Solid false s.toList ∧ quotedAfter false s.toList = false

theorem plain_iff {s : String} : Plain s ↔ ∀ c ∈ s.toList, Text.isBlank c = false ∧ c ≠ quote := by
  rw [Plain, Text.hasBlank, List.any_eq_false]
  constructor
  · rintro ⟨hblank, hquote⟩ c hc
    exact ⟨Bool.eq_false_iff.2 (hblank c hc), fun heq => hquote (heq ▸ hc)⟩
  · intro h
    exact ⟨fun c hc => Bool.eq_false_iff.1 (h c hc).1, fun hmem => (h quote hmem).2 rfl⟩

theorem Plain.append {s t : String} (hs : Plain s) (ht : Plain t) : Plain (s ++ t) := by
  refine ⟨?_, ?_⟩
  · rw [Text.hasBlank, String.toList_append, List.any_append, Bool.or_eq_false_iff]
    exact ⟨hs.1, ht.1⟩
  · rw [String.toList_append, List.mem_append, not_or]
    exact ⟨hs.2, ht.2⟩

theorem Plain.whole {s : String} (h : Plain s) : Whole s :=
  ⟨solid_of_no_blank h.1, quotedAfter_of_no_quote h.2⟩

theorem Whole.append {s t : String} (hs : Whole s) (ht : Whole t) : Whole (s ++ t) := by
  rw [Whole, String.toList_append, solid_append_iff, quotedAfter_append, hs.2]
  exact ⟨⟨hs.1, ht.1⟩, ht.2⟩

/-- Text between two quotes of its own is whole if it holds no further
one. -/
theorem whole_quoted {s : String} (h : quote ∉ s.toList) : Whole ("\"" ++ s ++ "\"") := by
  obtain ⟨hsolid, hinside⟩ := solid_inside h
  have hopen : Solid false ("\"" : String).toList ∧
      quotedAfter false ("\"" : String).toList = true := by decide
  have hclose : Solid true ("\"" : String).toList ∧
      quotedAfter true ("\"" : String).toList = false := by decide
  rw [Whole, String.toList_append, String.toList_append, solid_append_iff, solid_append_iff,
    quotedAfter_append _ ("\"" : String).toList, quotedAfter_append, hopen.2, hinside]
  exact ⟨⟨⟨hopen.1, hsolid⟩, hclose.1⟩, hclose.2⟩

/-- Whole texts are separable. -/
theorem separable_of_whole {texts : List String} (h : ∀ s ∈ texts, Whole s) :
    Separable false (texts.map String.toList) := by
  induction texts with
  | nil => trivial
  | cons s texts ih =>
    obtain ⟨hsolid, hclosed⟩ := h s List.mem_cons_self
    have hrest := ih fun t ht => h t (List.mem_cons_of_mem s ht)
    cases texts with
    | nil => exact hsolid
    | cons t texts => exact ⟨hsolid, hclosed, hrest⟩

/-- A shown value is whole if it holds no quote. -/
theorem whole_clauseValue {v : Value} (h : quote ∉ v.display.toList) : Whole (clauseValue v) := by
  rw [clauseValue]
  split
  · exact whole_quoted h
  · next hblank => exact Plain.whole ⟨Bool.not_eq_true _ ▸ hblank, h⟩

theorem plain_negation (negated : Bool) : Plain (negation negated) := by
  cases negated <;> decide

end Query

namespace Date

open Query

/-- A digit is no blank and no quote. -/
theorem isDigit_plain {c : Char} (h : c.isDigit = true) : Text.isBlank c = false ∧ c ≠ quote := by
  have hcode := Decimal.digit_bounds h
  constructor
  · simp only [Text.isBlank, Text.CodeRanges.contains, Text.blanks, List.any_cons, List.any_nil,
      Bool.or_false, Bool.or_eq_false_iff, Bool.and_eq_false_iff, decide_eq_false_iff_not]
    omega
  · rintro rfl
    exact absurd hcode (by decide)

/-- A calendar date is digits and dashes. -/
theorem digit_or_dash {cs : List Char} (h : isCalendarDate cs = true) :
    ∀ c ∈ cs, c.isDigit = true ∨ c = '-' := by
  rw [isCalendarDate.eq_def] at h
  split at h
  · next y1 y2 y3 y4 m1 m2 d1 d2 =>
    have hdigits := List.all_eq_true.1 (Bool.and_eq_true_iff.1 h).1
    intro c hc
    by_cases hdash : c = '-'
    · exact .inr hdash
    · refine .inl (hdigits c ?_)
      simpa [hdash] using hc
  · cases h

/-- A bound that can be read is plain. -/
theorem plain_of_ofText {raw bound : String} {b : Bound} (h : Bound.ofText raw bound = .ok b) :
    Plain bound := by
  rw [Bound.ofText] at h
  split at h
  · next hopen => rw [hopen]; decide
  split at h
  · next hword =>
    have hwords : ∀ word ∈ words, Plain word := by decide
    exact hwords bound hword
  split at h
  · split at h
    · next hdate =>
      refine plain_iff.2 fun c hc => ?_
      rcases digit_or_dash hdate c hc with hdigit | rfl
      · exact isDigit_plain hdigit
      · decide
    · cases h
  · cases h

/-- **A date expression that passes its check is plain.** -/
theorem plain_of_validate {raw expression : String} (h : validate raw = .ok expression) :
    Plain expression := by
  simp only [validate] at h
  split at h
  · cases h
  -- one bound, or two with the mark of a range between
  split at h
  · split at h
    · cases h
    · cases h
    · next hbound =>
      cases h
      exact plain_of_ofText hbound
  · next first second hcut =>
    split at h
    · cases h
    · obtain ⟨a, ha, h⟩ := Except.bind_eq_ok.1 h
      obtain ⟨b, hb, h⟩ := Except.bind_eq_ok.1 h
      obtain ⟨-, -, h⟩ := Except.bind_eq_ok.1 h
      cases h
      have hparts : Text.strip raw =
          String.ofList first ++ String.ofList rangeMark ++ String.ofList second := by
        rw [← String.ofList_append, ← String.ofList_append, ← Text.eq_append_of_cutAt? hcut,
          String.ofList_toList]
      have hmark : Plain (String.ofList rangeMark) := by decide
      rw [hparts]
      exact ((plain_of_ofText ha).append hmark).append (plain_of_ofText hb)

/-- A date clause shows an expression that passed its check. -/
theorem clause_eq_ok {operator raw text : String} {negated : Bool}
    (h : (clause operator raw negated).mapError Backlog.Fault.date = .ok text) :
    ∃ expression, validate raw = .ok expression ∧
      text = negation negated ++ (operator ++ ":" ++ expression) := by
  rw [clause] at h
  cases hvalid : validate raw with
  | error fault =>
    rw [hvalid] at h
    cases h
  | ok expression =>
    rw [hvalid] at h
    cases h
    refine ⟨expression, rfl, ?_⟩
    simp only [negation, String.append_assoc]

end Date

end Backlog
