import Backlog.Http.Domain.Combining
/-!
# Composed letters

A letter with marks can be written in more than one way: as one character, or
as a letter and the marks after it, in several orders. Of all ways one is
composed: the marks are in the order of their classes, and what has a
character of its own is written as that. `isComposed` says whether characters
are written that way; none that stands for others can be among them.
-/

namespace Backlog

namespace Http

namespace Domain

/-- Puts a character behind those before it, given last first: a mark goes in
front of the marks of a higher class. -/
def pushOrdered (before : List Nat) (code : Nat) : List Nat :=
  match before with
  | [] => [code]
  | last :: rest =>
    if combiningClass code ≠ 0 ∧ combiningClass code < combiningClass last then
      last :: pushOrdered rest code
    else code :: before

/-- The characters with their marks in order. -/
def ordered (codes : List Nat) : List Nat := (codes.foldl pushOrdered []).reverse

/-- How many marks a character can hold. -/
def mostMarks : Nat := 3

/-- The letter and the marks that a character is made of. `marks` bounds how
many are taken off. -/
def takenApart (marks : Nat) (code : Nat) : List Nat :=
  match marks, parts? code with
  | marks + 1, some (letter, mark) => takenApart marks letter ++ [mark]
  | _, _ => [code]

/-- Characters on the way to being composed. -/
structure Composing where
  /-- What is finished, last first. -/
  finished : List Nat := []
  /-- The letter that marks may still be put on. -/
  letter : Option Nat := none
  /-- The marks behind the letter that stay by themselves, last first. -/
  marks : List Nat := []

/-- All characters so far, last first. -/
def Composing.all (state : Composing) : List Nat :=
  state.marks ++ state.letter.toList ++ state.finished

/-- Adds a character that stays by itself. -/
def Composing.append (state : Composing) (code : Nat) : Composing :=
  if combiningClass code = 0 then { finished := state.all, letter := some code }
  else { state with marks := code :: state.marks }

/-- Adds a character, as part of the letter if it can be. A mark of the same
or a higher class in between keeps it apart. -/
def Composing.push (state : Composing) (code : Nat) : Composing :=
  let isApart := state.marks.head?.any fun mark => combiningClass code ≤ combiningClass mark
  match state.letter with
  | some letter =>
    match composite? letter code with
    | some whole => if isApart then state.append code else { state with letter := some whole }
    | none => state.append code
  | none => state.append code

/-- The characters in composed form. -/
def composed (codes : List Nat) : List Nat :=
  ((ordered (codes.flatMap (takenApart mostMarks))).foldl Composing.push {}).all.reverse

/-- Whether characters are written in composed form. -/
def isComposed (cs : List Char) : Bool :=
  !cs.any replacedCharacters.contains && composed (cs.map Char.toNat) == cs.map Char.toNat

end Domain

end Http

end Backlog
