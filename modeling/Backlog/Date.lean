import Backlog.Text.Blank
import Backlog.Decimal.Digit
import Backlog.Text.Parts
/-!
# Date expressions

The dates that a search accepts: a calendar date, one of three words for the
days around today, or a range `A..B` of two of those in which one bound may
be open. A range does not mix a word with a calendar date, since the words
get their meaning elsewhere and cannot be ordered against dates here.
-/

namespace Backlog

namespace Date

/-- Why a date expression is refused. -/
inductive Fault where
  /-- There is nothing but blanks. -/
  | empty
  /-- `bound` looks like a calendar date and is none. -/
  | notADay (bound raw : String)
  /-- A bound is neither a date nor a word nor open. -/
  | unreadable (raw : String)
  /-- An open bound stands alone. -/
  | openAlone
  /-- A range has more than two bounds. -/
  | manyBounds (raw : String)
  /-- Both bounds of a range are open. -/
  | bothOpen (raw : String)
  /-- A range mixes a word with a calendar date. -/
  | mixed (raw : String)
  deriving DecidableEq

/-- The wording of a refusal. -/
def Fault.message : Fault → String
  | .empty => "Date expression cannot be empty"
  | .notADay bound raw => "Invalid date '" ++ bound ++ "' in '" ++ raw ++ "'"
  | .unreadable raw =>
    "Invalid date expression '" ++ raw ++
      "': expected YYYY-MM-DD, today, yesterday, tomorrow or a range A..B"
  | .openAlone => "'*' is only valid as a range bound"
  | .manyBounds raw => "Invalid date range '" ++ raw ++ "': more than one '..'"
  | .bothOpen raw => "Invalid date range '" ++ raw ++ "': both bounds are open"
  | .mixed raw =>
    "Invalid date range '" ++ raw ++
      "': relative keywords cannot be combined with literal dates"

/-! ## Calendar dates -/

/-- Whether a year has a leap day. -/
def isLeapYear (year : Nat) : Bool :=
  year % 4 = 0 && (year % 100 != 0 || year % 400 = 0)

/-- The number of days of a month, zero for a month that does not exist. -/
def daysInMonth (year : Nat) : Nat → Nat
  | 2 => if isLeapYear year then 29 else 28
  | 4 | 6 | 9 | 11 => 30
  | 1 | 3 | 5 | 7 | 8 | 10 | 12 => 31
  | _ => 0

/-- Whether the calendar has the day. Years run from 1 to 9999. -/
def isDay (year month day : Nat) : Bool :=
  1 ≤ year && year ≤ 9999 && 1 ≤ day && day ≤ daysInMonth year month

/-- Whether the characters are a day of the calendar as `YYYY-MM-DD`, in
ASCII. -/
def isCalendarDate : List Char → Bool
  | [y1, y2, y3, y4, '-', m1, m2, '-', d1, d2] =>
    [y1, y2, y3, y4, m1, m2, d1, d2].all Char.isDigit &&
      isDay (Decimal.ofAsciiDigits [y1, y2, y3, y4]) (Decimal.ofAsciiDigits [m1, m2])
        (Decimal.ofAsciiDigits [d1, d2])
  | _ => false

/-- Whether the characters have the layout of a calendar date, with digits of
any script. A line end may follow. -/
def looksLikeDate : List Char → Bool
  | y1 :: y2 :: y3 :: y4 :: '-' :: m1 :: m2 :: '-' :: d1 :: d2 :: rest =>
    [y1, y2, y3, y4, m1, m2, d1, d2].all Decimal.isDigit && (rest = [] || rest = ['\n'])
  | _ => false

/-! ## Bounds and ranges -/

/-- The words for the days around today. -/
def words : List String := ["today", "yesterday", "tomorrow"]

/-- What a bound of a range can be. -/
inductive Bound where
  /-- No bound. -/
  | openEnd
  /-- One of the words. -/
  | word
  /-- A calendar date. -/
  | day
  deriving DecidableEq

/-- Reads a bound of the expression `raw`. -/
def Bound.ofText (raw bound : String) : Except Fault Bound :=
  if bound = "*" then .ok .openEnd
  else if bound ∈ words then .ok .word
  else if looksLikeDate bound.toList then
    if isCalendarDate bound.toList then .ok .day else .error (.notADay bound raw)
  else .error (.unreadable raw)

/-- Whether two bounds make a range. -/
def checkRange (raw : String) : Bound → Bound → Except Fault Unit
  | .openEnd, .openEnd => .error (.bothOpen raw)
  | .word, .day => .error (.mixed raw)
  | .day, .word => .error (.mixed raw)
  | _, _ => .ok ()

/-- What separates the bounds of a range. -/
def rangeMark : List Char := ['.', '.']

/-- Checks a date expression. The answer is the expression without the
blanks around it. -/
def validate (raw : String) : Except Fault String :=
  let expression := Text.strip raw
  if expression = "" then .error .empty
  else
    match Text.cutAt? rangeMark expression.toList with
    | none =>
      match Bound.ofText raw expression with
      | .error fault => .error fault
      | .ok .openEnd => .error .openAlone
      | .ok _ => .ok expression
    | some (first, second) =>
      if Text.occursIn rangeMark second then .error (.manyBounds raw)
      else do
        let a ← Bound.ofText raw (String.ofList first)
        let b ← Bound.ofText raw (String.ofList second)
        checkRange raw a b
        .ok expression

/-- The search clause of a date expression. -/
def clause (operator raw : String) (negated : Bool) : Except Fault String := do
  let expression ← validate raw
  .ok ((if negated then "!" else "") ++ operator ++ ":" ++ expression)

end Date

end Backlog
