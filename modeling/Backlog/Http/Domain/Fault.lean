import Backlog.Text.Quoted
/-!
# Faults of host names

Why characters are no host name, by cause, and the wording of each. Places in
a label are counted from one.
-/

namespace Backlog

namespace Http

namespace Domain

/-- Why the characters of a label do not run in an order fit to be shown. -/
inductive OrderFault where
  /-- Nothing is known of how a character runs. -/
  | unknown (label : List Char) (place : Nat)
  /-- The label starts with a character that does not say how it runs. -/
  | undecided (label : List Char)
  /-- A character runs against its label, which runs to the left or to the
  right. -/
  | against (isLeftward : Bool) (place : Nat)
  /-- Numerals of two sorts in one label. -/
  | mixedNumerals
  /-- The label ends with a character that does not hold its place. -/
  | looseEnd

/-- A label in quotes. -/
def quotedLabel (label : List Char) : String := Text.quoted (String.ofList label)

/-- The wording of a fault in the order. -/
def OrderFault.message : OrderFault → String
  | .unknown label place =>
    "Unknown directionality in label " ++ quotedLabel label ++ " at position " ++ toString place
  | .undecided label =>
    "First codepoint in label " ++ quotedLabel label ++ " must be directionality L, R or AL"
  | .against isLeftward place =>
    "Invalid direction for codepoint at position " ++ toString place ++ " in a " ++
      (if isLeftward then "right-to-left" else "left-to-right") ++ " label"
  | .mixedNumerals => "Can not mix numeral types in a right-to-left label"
  | .looseEnd => "Label ends with illegal codepoint directionality"

/-- A character of a label at its place. -/
structure Spot where
  /-- The character. -/
  char : Char
  /-- Its place. -/
  place : Nat
  /-- The label. -/
  label : List Char

/-- Why characters are no host name. -/
inductive NameFault where
  /-- There is no label. -/
  | emptyName
  /-- The name is too long. -/
  | longName
  /-- A label is empty. -/
  | emptyLabel
  /-- The ASCII form of a label is too long. -/
  | longLabel
  /-- Nothing stands behind the mark of an ASCII form. -/
  | nothingCoded
  /-- An ASCII form ends with a hyphen. -/
  | hyphenCoded
  /-- An ASCII form stands for nothing. -/
  | miscoded
  /-- A label is not written in composed form. -/
  | notComposed
  /-- A label has hyphens in the third and fourth place. -/
  | hyphenPair
  /-- A label starts or ends with a hyphen. -/
  | hyphenAtEnd
  /-- A label starts with a mark. -/
  | markInFront
  /-- A character that no label holds. -/
  | stranger (spot : Spot)
  /-- A joiner that is not at home between its neighbours. -/
  | strayJoiner (spot : Spot)
  /-- Another character that is not at home between its neighbours. -/
  | misplaced (spot : Spot)
  /-- A label that does not run in an order fit to be shown. -/
  | order (fault : OrderFault)

/-- The code point of a character, for people. -/
def codeName (c : Char) : String :=
  let digits := (Nat.toDigits 16 (Text.codeOf c)).map Char.toUpper
  "U+" ++ String.ofList (List.replicate (4 - digits.length) '0' ++ digits)

/-- The place and the label of a character, for people. -/
def Spot.within (spot : Spot) (word : String) : String :=
  " at position " ++ toString spot.place ++ " " ++ word ++ " " ++ quotedLabel spot.label

/-- The wording of a fault in a host name. -/
def NameFault.message : NameFault → String
  | .emptyName => "Empty domain"
  | .longName => "Domain too long"
  | .emptyLabel => "Empty Label"
  | .longLabel => "Label too long"
  | .nothingCoded => "Malformed A-label, no Punycode eligible content found"
  | .hyphenCoded => "A-label must not end with a hyphen"
  | .miscoded => "Invalid A-label"
  | .notComposed => "Label must be in Normalization Form C"
  | .hyphenPair => "Label has disallowed hyphens in 3rd and 4th position"
  | .hyphenAtEnd => "Label must not start or end with a hyphen"
  | .markInFront => "Label begins with an illegal combining character"
  | .stranger spot => "Codepoint " ++ codeName spot.char ++ spot.within "of" ++ " not allowed"
  | .strayJoiner spot =>
    "Unknown codepoint adjacent to joiner " ++ codeName spot.char ++ spot.within "in"
  | .misplaced spot => "Codepoint " ++ codeName spot.char ++ " not allowed" ++ spot.within "in"
  | .order fault => fault.message

end Domain

end Http

end Backlog
