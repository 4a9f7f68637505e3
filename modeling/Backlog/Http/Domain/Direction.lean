import Backlog.Http.Domain.Fault
import Backlog.Http.Domain.Letter
import Backlog.Http.Domain.Mark
/-!
# Directions of labels

The direction in which the characters of a label run. A label with characters
that run to the left is fit to be shown only when none of it runs to the
right, its numerals are of one sort, and it starts and ends with characters
that hold their place. `checkOrder` says so; a label that runs to the right
altogether has no such constraint.
-/

namespace Backlog

namespace Http

namespace Domain

/-- How a character runs. -/
inductive Direction where
  /-- To the right. -/
  | rightward
  /-- To the left. -/
  | leftward
  /-- A digit of the numerals of Europe. -/
  | europeanDigit
  /-- A digit of the numerals of Arabia. -/
  | arabicDigit
  /-- With its neighbours. -/
  | neutral
  /-- With the letter that it is put on. -/
  | mark
  /-- In a way that is not known. -/
  | unknown
  deriving DecidableEq

/-- The code points of the letters that run to the left. -/
def leftwardLetters : Text.CodeRanges :=
  [(0x5D0, 0x5EA), (0x5EF, 0x5F4), (0x620, 0x63F), (0x641, 0x64A), (0x66E, 0x66F), (0x671, 0x674),
   (0x679, 0x6D3), (0x6D5, 0x6D5), (0x6E5, 0x6E6), (0x6EE, 0x6EF), (0x6FA, 0x6FF), (0x710, 0x710),
   (0x712, 0x72F), (0x74D, 0x7A5), (0x7B1, 0x7B1), (0x7C0, 0x7EA), (0x7F4, 0x7F5), (0x800, 0x815),
   (0x81A, 0x81A), (0x824, 0x824), (0x828, 0x828), (0x840, 0x858), (0x860, 0x86A), (0x870, 0x887),
   (0x889, 0x88E), (0x8A0, 0x8C9), (0xFE73, 0xFE73), (0x10800, 0x10805), (0x10808, 0x10808),
   (0x1080A, 0x10835), (0x10837, 0x10838), (0x1083C, 0x1083C), (0x1083F, 0x10855),
   (0x10860, 0x10876), (0x10880, 0x1089E), (0x108E0, 0x108F2), (0x108F4, 0x108F5),
   (0x10900, 0x10915), (0x10920, 0x10939), (0x10980, 0x109B7), (0x109BE, 0x109BF),
   (0x10A00, 0x10A00), (0x10A10, 0x10A13), (0x10A15, 0x10A17), (0x10A19, 0x10A35),
   (0x10A60, 0x10A7C), (0x10A80, 0x10A9C), (0x10AC0, 0x10AC7), (0x10AC9, 0x10AE4),
   (0x10B00, 0x10B35), (0x10B40, 0x10B55), (0x10B60, 0x10B72), (0x10B80, 0x10B91),
   (0x10C00, 0x10C48), (0x10CC0, 0x10CF2), (0x10D00, 0x10D23), (0x10E80, 0x10EA9),
   (0x10EB0, 0x10EB1), (0x10F00, 0x10F1C), (0x10F27, 0x10F27), (0x10F30, 0x10F45),
   (0x10F70, 0x10F81), (0x10FB0, 0x10FC4), (0x10FE0, 0x10FF6), (0x1E800, 0x1E8C4),
   (0x1E922, 0x1E943), (0x1E94B, 0x1E94B), (0x1E950, 0x1E959)]

/-- The code points of the digits of the numerals of Arabia. -/
def arabicDigits : Text.CodeRanges :=
  [(0x660, 0x669), (0x10D30, 0x10D39)]

/-- The code points of the digits of the numerals of Europe. -/
def europeanDigits : Text.CodeRanges :=
  [(0x30, 0x39), (0x6F0, 0x6F9)]

/-- The code points of the characters that run with their neighbours. -/
def neutrals : Text.CodeRanges :=
  [(0x2D, 0x2D), (0xB7, 0xB7), (0x2B9, 0x2BA), (0x2C6, 0x2CF), (0x2EC, 0x2EC), (0x375, 0x375),
   (0x200C, 0x200D), (0x2E2F, 0x2E2F), (0x30FB, 0x30FB), (0xA67F, 0xA67F), (0xA717, 0xA71F),
   (0xA788, 0xA788)]

/-- The code points of the marks that run to the right by themselves. -/
def rightwardMarks : Text.CodeRanges :=
  [(0xCBF, 0xCBF), (0xCC6, 0xCC6), (0x11A07, 0x11A08), (0x11C3F, 0x11C3F)]

/-- How a character of a label runs. -/
def direction (c : Char) : Direction :=
  if isBarelyKnown c then .unknown
  else if leftwardLetters.contains c then .leftward
  else if arabicDigits.contains c then .arabicDigit
  else if europeanDigits.contains c then .europeanDigit
  else if neutrals.contains c then .neutral
  else if isNonspacing c && !rightwardMarks.contains c then .mark
  else .rightward

/-- Whether characters of the direction make a label run to the left. -/
def Direction.turns (d : Direction) : Bool := d = .leftward || d = .arabicDigit

/-- Whether characters of the direction are digits. -/
def Direction.isNumeral (d : Direction) : Bool := d = .europeanDigit || d = .arabicDigit

/-- Whether a label that runs to the left may end with the direction. -/
def Direction.ends (d : Direction) : Bool := d.turns || d = .europeanDigit

/-- Checks a label that runs to the left from a place on: nothing runs to the
right, and all numerals are of the sort of those before. -/
def checkLeftward (place : Nat) (numeral : Option Direction) :
    List Direction → Except OrderFault Unit
  | [] => .ok ()
  | d :: rest =>
    if d = .rightward then .error (.against true place)
    else if d.isNumeral then
      if numeral.any (· ≠ d) then .error .mixedNumerals
      else checkLeftward (place + 1) (some d) rest
    else checkLeftward (place + 1) numeral rest

/-- Checks that the last character of a label that runs to the left, marks
aside, holds its place. -/
def checkEnd (directions : List Direction) : Except OrderFault Unit :=
  if (directions.reverse.dropWhile (· = .mark)).head?.any Direction.ends then .ok ()
  else .error .looseEnd

/-- Checks that the characters of a label run in an order fit to be shown. -/
def checkOrder (label : List Char) : Except OrderFault Unit :=
  let directions := label.map direction
  match directions.findIdx? (· = .unknown), directions.findIdx? Direction.turns with
  | some place, _ => .error (.unknown label (place + 1))
  | none, none => .ok ()
  | none, some place =>
    match directions.head? with
    | some .leftward => do
      checkLeftward 1 none directions
      checkEnd directions
    | some .rightward => .error (.against false (place + 1))
    | _ => .error (.undecided label)

end Domain

end Http

end Backlog
