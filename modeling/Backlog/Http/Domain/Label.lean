import Backlog.Http.Domain.Composed
import Backlog.Http.Domain.Direction
import Backlog.Http.Domain.Joining
import Backlog.Http.Domain.Letter
import Backlog.Http.Domain.Punycode
import Backlog.Text.Parts
/-!
# Labels of host names

A host name is a list of labels. A label is fit for a name when it is written
in composed form, has no hyphens where they would mislead, holds only letters
and characters that are at home among them, and runs in an order fit to be
shown. Outside, a label that is not ASCII goes by its ASCII form, which starts
with `xn--`.
-/

namespace Backlog

namespace Http

namespace Domain

/-- What the ASCII form of a label that is not ASCII starts with. -/
def codedMark : List Char := ['x', 'n', '-', '-']

/-- The longest ASCII form of a label. -/
def maxLabel : Nat := 63

/-! ## Labels -/

/-- Checks that hyphens stand nowhere where they would mislead: in the third
and fourth place, or at an end. -/
def checkHyphens (label : List Char) : Except NameFault Unit :=
  if (label.drop 2).take 2 = ['-', '-'] then .error .hyphenPair
  else if label.head? = some '-' || label.getLast? = some '-' then .error .hyphenAtEnd
  else .ok ()

/-- Checks that a character may stand where it stands in a label. `before` is
what stands before it, nearest first. -/
def checkCharacter (label before : List Char) (c : Char) (after : List Char) :
    Except NameFault Unit :=
  let spot : Spot := ⟨c, before.length + 1, label⟩
  if isLetter c then .ok ()
  else if !needsNeighbours c then .error (.stranger spot)
  else if isJoiner c then
    if fits before c after && !before.head?.any isBarelyKnown then .ok ()
    else .error (.strayJoiner spot)
  else if fits before c after then .ok ()
  else .error (.misplaced spot)

/-- Checks the characters of a label from behind those in `before` on. -/
def checkCharacters (label before : List Char) : List Char → Except NameFault Unit
  | [] => .ok ()
  | c :: after => do
    checkCharacter label before c after
    checkCharacters label (c :: before) after

/-- Checks that characters are a label fit for a name. -/
def checkLabel (label : List Char) : Except NameFault Unit := do
  if label.isEmpty then throw .emptyLabel
  if !isComposed label then throw .notComposed
  checkHyphens label
  if label.head?.any isMark then throw .markInFront
  checkCharacters label [] label
  (checkOrder label).mapError .order

/-! ## ASCII forms -/

/-- The label that an ASCII form in small letters stands for. -/
def decodeLabel (form : List Char) : Except NameFault (List Char) :=
  match Text.afterStart? codedMark form with
  | none => (checkLabel form).map fun _ => form
  | some coded => do
    if coded.isEmpty then throw .nothingCoded
    if coded.getLast? = some '-' then throw .hyphenCoded
    match Punycode.decode? coded with
    | none => throw .miscoded
    | some label =>
      checkLabel label
      pure label

/-- The ASCII form of a label in small letters. -/
def encodeLabel (label : List Char) : Except NameFault (List Char) := do
  let form ←
    if label.all Punycode.isPlain then (decodeLabel label).map fun _ => label
    else (checkLabel label).map fun _ => codedMark ++ Punycode.encode label
  if maxLabel < form.length then throw .longLabel
  pure form

end Domain

end Http

end Backlog
