import Backlog.Proofs.Date.Day
import Backlog.Proofs.Query.Plain
/-!
# The grammar of date expressions

The expressions that a search accepts, said as a grammar: a bound is open, one
of three words or a day of the calendar (`Date.Term`), and an expression is a
word or a day by itself, or two bounds with the mark of a range between them that
fit together (`Date.Expression`). The check accepts the expressions of the
grammar and gives them back as they are, without the blanks around them
(`Date.validate_grammar`).

A bound holds no dot. So the first mark of a range stands between the two bounds,
there is no second one, and cutting there takes an expression apart in the one
way in which it was put together.
-/

namespace Backlog

/-! ## Blanks at the ends -/

namespace Text

/-- A text without blanks has none to drop. -/
theorem strip_eq_self {s : String} (h : ∀ c ∈ s.toList, isBlank c = false) : strip s = s := by
  have hdrop : ∀ cs : List Char, (∀ c ∈ cs, isBlank c = false) → cs.dropWhile isBlank = cs := by
    intro cs hcs
    cases cs with
    | nil => rfl
    | cons c cs => exact List.dropWhile_cons_of_neg (Bool.eq_false_iff.1 (hcs c List.mem_cons_self))
  rw [strip, stripChars, hdrop _ h, hdrop _ fun c hc => h c (List.mem_reverse.1 hc),
    List.reverse_reverse, String.ofList_toList]

end Text

namespace Date

/-! ## The grammar -/

/-- The texts of the bounds. -/
inductive Term : Bound → String → Prop where
  | openEnd : Term .openEnd "*"
  | today : Term .word "today"
  | yesterday : Term .word "yesterday"
  | tomorrow : Term .word "tomorrow"
  | day {year month day : Nat} (h : OfCalendar year month day) :
      Term .day (String.ofList (dayChars year month day))

/-- Whether two bounds make a range: one of them is closed, and no word stands
against a day. -/
def Ranges (a b : Bound) : Prop :=
  ¬ (a = .openEnd ∧ b = .openEnd) ∧ ¬ (a = .word ∧ b = .day) ∧ ¬ (a = .day ∧ b = .word)

/-- The date expressions. -/
inductive Expression : String → Prop where
  | word {text : String} (h : Term .word text) : Expression text
  | day {text : String} (h : Term .day text) : Expression text
  | range {a b : Bound} {first second : String} (hfirst : Term a first) (hsecond : Term b second)
      (h : Ranges a b) : Expression (first ++ ".." ++ second)

/-! ## Bounds -/

theorem mem_words_iff {text : String} : text ∈ words ↔ Term .word text := by
  constructor
  · intro h
    simp only [words, List.mem_cons, List.not_mem_nil, or_false] at h
    rcases h with rfl | rfl | rfl
    · exact .today
    · exact .yesterday
    · exact .tomorrow
  · intro h
    cases h with
    | today => decide
    | yesterday => decide
    | tomorrow => decide

/-- The characters of a written day are those of a literal date. -/
theorem isCalendarDate_dayChars {year month day : Nat} (h : OfCalendar year month day) :
    isCalendarDate (dayChars year month day) = true :=
  isCalendarDate_iff.2 ⟨year, month, day, h, rfl⟩

/-- A literal date is neither open nor a word. -/
theorem not_open_not_word {text : String} (h : isCalendarDate text.toList = true) :
    text ≠ "*" ∧ text ∉ words := by
  have hwords : ∀ word ∈ words, isCalendarDate word.toList = false := by decide
  refine ⟨?_, fun hmem => ?_⟩
  · rintro rfl
    exact absurd h (by decide)
  · rw [hwords text hmem] at h
    cases h

/-- **A bound is read as what the grammar says it is.** -/
theorem ofText_eq_ok_iff {raw text : String} {b : Bound} :
    Bound.ofText raw text = .ok b ↔ Term b text := by
  constructor
  · intro h
    rw [Bound.ofText] at h
    split at h
    · next hopen =>
      cases h
      exact hopen ▸ .openEnd
    split at h
    · next hword =>
      cases h
      exact mem_words_iff.1 hword
    split at h
    · split at h
      · next hdate =>
        cases h
        obtain ⟨year, month, day, hday, hchars⟩ := isCalendarDate_iff.1 hdate
        rw [← String.ofList_toList (s := text), hchars]
        exact .day hday
      · cases h
    · cases h
  · intro h
    cases h with
    | openEnd => rfl
    | today => rfl
    | yesterday => rfl
    | tomorrow => rfl
    | day hday =>
      have hdate := isCalendarDate_dayChars hday
      rw [← String.toList_ofList (l := dayChars _ _ _)] at hdate
      obtain ⟨hopen, hword⟩ := not_open_not_word hdate
      rw [Bound.ofText, if_neg hopen, if_neg hword, if_pos (looksLikeDate_of_isCalendarDate hdate),
        if_pos hdate]

/-- What holds no blank, no quote and no dot, told character by character. -/
theorem chars_of_all {text : String}
    (h : text.toList.all (fun c => !Text.isBlank c && c != '"' && c != '\'' && c != '.') = true) :
    ∀ c ∈ text.toList, (Text.isBlank c = false ∧ c ≠ '"' ∧ c ≠ '\'') ∧ c ≠ '.' := by
  intro c hc
  have hchar := List.all_eq_true.1 h c hc
  simp only [Bool.and_eq_true, Bool.not_eq_true', bne_iff_ne] at hchar
  obtain ⟨⟨⟨hblank, hdouble⟩, hsingle⟩, hdot⟩ := hchar
  exact ⟨⟨hblank, hdouble, hsingle⟩, hdot⟩

/-- A bound holds no blank, no quote and no dot. -/
theorem Term.chars {b : Bound} {text : String} (h : Term b text) :
    ∀ c ∈ text.toList, (Text.isBlank c = false ∧ c ≠ '"' ∧ c ≠ '\'') ∧ c ≠ '.' := by
  cases h with
  | openEnd => exact chars_of_all rfl
  | today => exact chars_of_all rfl
  | yesterday => exact chars_of_all rfl
  | tomorrow => exact chars_of_all rfl
  | day hday =>
    intro c hc
    rw [String.toList_ofList] at hc
    rcases digit_or_dash (isCalendarDate_dayChars hday) c hc with hdigit | rfl
    · obtain ⟨hblank, hquote⟩ := isDigit_plain hdigit
      refine ⟨⟨hblank, hquote, ?_⟩, ?_⟩
      · rintro rfl
        cases hdigit
      · rintro rfl
        cases hdigit
    · decide

theorem Term.no_dot {b : Bound} {text : String} (h : Term b text) : '.' ∉ text.toList :=
  fun hdot => (h.chars _ hdot).2 rfl

/-! ## Ranges -/

theorem checkRange_eq_ok_iff {raw : String} {a b : Bound} :
    checkRange raw a b = .ok () ↔ Ranges a b := by
  cases a <;> cases b <;> simp [checkRange, Ranges]

/-- A text without dots has no mark of a range. -/
theorem cutAt?_of_no_dot {cs : List Char} (h : '.' ∉ cs) : Text.cutAt? rangeMark cs = none :=
  Text.cutAt?_eq_none List.mem_cons_self h

/-- **A range is cut between its bounds.** -/
theorem cutAt?_range {first : List Char} (h : '.' ∉ first) (second : List Char) :
    Text.cutAt? rangeMark (first ++ (rangeMark ++ second)) = some (first, second) := by
  refine Text.cutAt?_append second fun front back hsplit hne => ?_
  obtain ⟨c, cs, rfl⟩ := List.exists_cons_of_ne_nil hne
  have hc : '.' ≠ c := by
    rintro rfl
    exact h (hsplit ▸ List.mem_append_right front List.mem_cons_self)
  rw [List.cons_append, rangeMark, Text.afterStart?, if_neg hc]

/-! ## Expressions -/

theorem Term.ne_empty {b : Bound} {text : String} (h : Term b text) : text ≠ "" := by
  rintro rfl
  have hread : Bound.ofText "" "" = .ok b := ofText_eq_ok_iff.2 h
  cases hread

/-- The bound of an expression without a range is closed. -/
theorem validate_of_term {raw : String} {b : Bound} (h : Term b (Text.strip raw))
    (hclosed : b ≠ .openEnd) : validate raw = .ok (Text.strip raw) := by
  simp only [validate]
  rw [if_neg h.ne_empty, cutAt?_of_no_dot h.no_dot, ofText_eq_ok_iff.2 h]
  cases b with
  | openEnd => exact absurd rfl hclosed
  | word => rfl
  | day => rfl

/-- Two bounds that fit together are accepted with the mark between them. -/
theorem validate_of_range {raw first second : String} {a b : Bound} (hfirst : Term a first)
    (hsecond : Term b second) (h : Ranges a b) (hraw : Text.strip raw = first ++ ".." ++ second) :
    validate raw = .ok (Text.strip raw) := by
  have hchars : (Text.strip raw).toList = first.toList ++ (rangeMark ++ second.toList) := by
    rw [hraw, String.toList_append, String.toList_append, List.append_assoc]
    rfl
  have hne : Text.strip raw ≠ "" := by
    intro hempty
    rw [hempty] at hchars
    have hmark : ('.' : Char) ∈ first.toList ++ (rangeMark ++ second.toList) :=
      List.mem_append_right _ List.mem_cons_self
    rw [← hchars] at hmark
    cases hmark
  have honce : Text.occursIn rangeMark second.toList = false := by
    rw [Text.occursIn, cutAt?_of_no_dot hsecond.no_dot]
    rfl
  simp only [validate]
  rw [if_neg hne, hchars, cutAt?_range hfirst.no_dot]
  simp only [honce, String.ofList_toList]
  exact Except.bind_eq_ok.2 ⟨a, ofText_eq_ok_iff.2 hfirst,
    Except.bind_eq_ok.2 ⟨b, ofText_eq_ok_iff.2 hsecond,
      Except.bind_eq_ok.2 ⟨(), checkRange_eq_ok_iff.2 h, rfl⟩⟩⟩

/-- An expression holds no blank and no quote. -/
theorem Expression.chars {text : String} (h : Expression text) :
    ∀ c ∈ text.toList, Text.isBlank c = false ∧ c ≠ '"' ∧ c ≠ '\'' := by
  cases h with
  | word h => exact fun c hc => (h.chars c hc).1
  | day h => exact fun c hc => (h.chars c hc).1
  | range hfirst hsecond _ =>
    intro c hc
    rw [String.toList_append, String.toList_append, List.mem_append, List.mem_append] at hc
    rcases hc with (hc | hc) | hc
    · exact (hfirst.chars c hc).1
    · have hdot : c = '.' := by simpa using hc
      rw [hdot]
      decide
    · exact (hsecond.chars c hc).1

/-- Every expression of the grammar is accepted. -/
theorem validate_of_expression {raw : String} (h : Expression (Text.strip raw)) :
    validate raw = .ok (Text.strip raw) := by
  generalize htext : Text.strip raw = text at h
  cases h with
  | word h => exact htext ▸ validate_of_term (htext ▸ h) Bound.noConfusion
  | day h => exact htext ▸ validate_of_term (htext ▸ h) Bound.noConfusion
  | range hfirst hsecond h => exact htext ▸ validate_of_range hfirst hsecond h htext

/-- What is accepted is an expression of the grammar. -/
theorem expression_of_validate {raw expression : String} (h : validate raw = .ok expression) :
    expression = Text.strip raw ∧ Expression (Text.strip raw) := by
  simp only [validate] at h
  split at h
  · cases h
  split at h
  · split at h
    · cases h
    · cases h
    · next b hopen hbound =>
      cases h
      have hterm := ofText_eq_ok_iff.1 hbound
      cases b with
      | openEnd => exact absurd rfl hopen
      | word => exact ⟨rfl, .word hterm⟩
      | day => exact ⟨rfl, .day hterm⟩
  · next first second hcut =>
    split at h
    · cases h
    · obtain ⟨a, hfirst, h⟩ := Except.bind_eq_ok.1 h
      obtain ⟨b, hsecond, h⟩ := Except.bind_eq_ok.1 h
      obtain ⟨⟨⟩, hrange, h⟩ := Except.bind_eq_ok.1 h
      cases h
      have hparts : Text.strip raw = String.ofList first ++ ".." ++ String.ofList second := by
        rw [← String.ofList_toList (s := Text.strip raw), Text.eq_append_of_cutAt? hcut,
          String.ofList_append, String.ofList_append]
        rfl
      rw [hparts]
      exact ⟨rfl, .range (ofText_eq_ok_iff.1 hfirst) (ofText_eq_ok_iff.1 hsecond)
        (checkRange_eq_ok_iff.1 hrange)⟩

/-- **The check of a date accepts the expressions of the grammar and nothing
else.** What it accepts it gives back without the blanks around it; then there is
nothing in it that would need quotes, and checking it once more changes nothing.
Everything else it refuses. -/
theorem validate_grammar (raw : String) :
    (∀ expression, validate raw = .ok expression ↔
      expression = Text.strip raw ∧ Expression (Text.strip raw)) ∧
    ((∃ fault, validate raw = .error fault) ↔ ¬ Expression (Text.strip raw)) ∧
    (∀ expression, validate raw = .ok expression →
      validate expression = .ok expression ∧
        ∀ c ∈ expression.toList, Text.isBlank c = false ∧ c ≠ '"' ∧ c ≠ '\'') := by
  have hiff : ∀ expression, validate raw = .ok expression ↔
      expression = Text.strip raw ∧ Expression (Text.strip raw) := by
    intro expression
    constructor
    · exact expression_of_validate
    · rintro ⟨rfl, h⟩
      exact validate_of_expression h
  refine ⟨hiff, ?_, ?_⟩
  · constructor
    · rintro ⟨fault, hfault⟩ h
      rw [validate_of_expression h] at hfault
      cases hfault
    · intro h
      cases hvalid : validate raw with
      | error fault => exact ⟨fault, rfl⟩
      | ok expression => exact absurd ((hiff expression).1 hvalid).2 h
  · intro expression hvalid
    obtain ⟨rfl, h⟩ := expression_of_validate hvalid
    have hchars := h.chars
    have hstrip : Text.strip (Text.strip raw) = Text.strip raw :=
      Text.strip_eq_self fun c hc => (hchars c hc).1
    refine ⟨?_, hchars⟩
    rw [validate_of_expression (by rw [hstrip]; exact h), hstrip]

end Date

end Backlog
