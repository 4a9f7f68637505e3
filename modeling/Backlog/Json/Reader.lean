import Backlog.Decimal.Digit
import Backlog.Json.Encoding
import Backlog.Text.Hex
import Backlog.Text.Parts
import Backlog.Value.Basic
/-!
# Reading JSON

A reader of JSON text. Besides the standard it knows the words `NaN`,
`Infinity` and `-Infinity`. A number with a fraction or a power of ten is a
double, any other an integer of at most 4300 digits. A field that is
written twice keeps its first place and its last value. Half of a pair of units
may stand by itself. How deep lists and objects may be nested has a limit.
-/

namespace Backlog

namespace Json

/-- Whether a character may stand between the parts of a JSON text. -/
def isSpace (c : Char) : Bool := c = ' ' || c = '\t' || c = '\n' || c = '\r'

/-- Drops the white space in front. -/
def skipSpace (cs : List Char) : List Char := cs.dropWhile isSpace

/-- Reads the four digits of a unit and the rest. -/
def unit? : List Char → Option (Nat × List Char)
  | a :: b :: c :: d :: rest => do
    let a ← Text.hexValue? a
    let b ← Text.hexValue? b
    let c ← Text.hexValue? c
    let d ← Text.hexValue? d
    pure (a * 0x1000 + b * 0x100 + c * 0x10 + d, rest)
  | _ => none

/-- Reads the second half of a pair, if it is there. -/
def lowUnit? : List Char → Option (Nat × List Char)
  | '\\' :: 'u' :: rest => (unit? rest).filter fun (unit, _) => Text.isLowHalf unit
  | _ => none

/-- Reads what stands after `\u`: a unit, or two that form a pair. -/
def unitChar? (cs : List Char) : Option (Char × List Char) := do
  let (unit, rest) ← unit? cs
  if Text.isHighHalf unit then
    match lowUnit? rest with
    | some (low, rest) => pure (Text.ofHalves unit low, rest)
    | none => pure (Text.charOf unit, rest)
  else pure (Text.charOf unit, rest)

/-- The character of a short escape. -/
def shortEscape? : Char → Option Char
  | '"' => some '"'
  | '\\' => some '\\'
  | '/' => some '/'
  | 'b' => some '\x08'
  | 'f' => some '\x0c'
  | 'n' => some '\n'
  | 'r' => some '\r'
  | 't' => some '\t'
  | _ => none

/-- Reads one character of a string, or one escape. -/
def stringChar? : List Char → Option (Char × List Char)
  | '\\' :: 'u' :: rest => unitChar? rest
  | '\\' :: c :: rest => (shortEscape? c).map (·, rest)
  | c :: rest => if c < ' ' then none else some (c, rest)
  | [] => none

/-- Reads a string after its opening quote: its characters and the rest.
`fuel` bounds the number of characters. -/
def stringBody? : (fuel : Nat) → List Char → Option (List Char × List Char)
  | 0, _ => none
  | _ + 1, '"' :: rest => some ([], rest)
  | fuel + 1, cs => do
    let (c, rest) ← stringChar? cs
    let (body, rest) ← stringBody? fuel rest
    pure (c :: body, rest)

/-- Reads the digits of a whole number, which do not start with a zero
unless there is only that. -/
def whole? : List Char → Option (List Char × List Char)
  | '0' :: rest => some (['0'], rest)
  | cs =>
    let digits := cs.takeWhile Char.isDigit
    if digits.isEmpty then none else some (digits, cs.dropWhile Char.isDigit)

/-- Reads a point and digits. What does not go on that way has no
fraction. -/
def fraction : List Char → List Char × List Char
  | '.' :: rest =>
    let digits := rest.takeWhile Char.isDigit
    if digits.isEmpty then ([], '.' :: rest) else (digits, rest.dropWhile Char.isDigit)
  | cs => ([], cs)

/-- Reads a power of ten. What does not go on that way has none. -/
def power (cs : List Char) : Option Int × List Char :=
  match cs with
  | mark :: rest =>
    if mark = 'e' ∨ mark = 'E' then
      let (negative, digits) := Decimal.signed rest
      let read := digits.takeWhile Char.isDigit
      if read.isEmpty then (none, cs)
      else
        let size := Decimal.ofAsciiDigits read
        (some (Decimal.signedInt negative size), digits.dropWhile Char.isDigit)
    else (none, cs)
  | [] => (none, [])

/-- Reads a number after its sign, an integer of at most `maxDigits` digits. -/
def unsigned? (maxDigits : Nat) (negative : Bool) (cs : List Char) :
    Option (Number × List Char) := do
  let (digits, rest) ← whole? cs
  let (decimals, rest) := fraction rest
  let (exponent, rest) := power rest
  if decimals.isEmpty && exponent.isNone then
    if maxDigits < digits.length then none
    else
      pure (.int (Decimal.signedInt negative (Decimal.ofAsciiDigits digits)), rest)
  else
    let exponent := exponent.getD 0 - decimals.length
    let size := Decimal.ofAsciiDigits (digits ++ decimals)
    pure (.float (Double.ofDecimal negative size exponent), rest)

/-- The words that stand for an atom. -/
def words : List (List Char × Atom) :=
  [("null".toList, .null), ("true".toList, .bool true), ("false".toList, .bool false),
   ("NaN".toList, .num (.float Double.nan)),
   ("Infinity".toList, .num (.float (Double.infinity false))),
   ("-Infinity".toList, .num (.float (Double.infinity true)))]

/-- Reads a word or a number. -/
def scalar? (maxDigits : Nat) (cs : List Char) : Option (Atom × List Char) :=
  match words.findSome? fun (word, a) => (Text.afterStart? word cs).map (a, ·) with
  | some read => some read
  | none =>
    let number := match cs with
      | '-' :: rest => unsigned? maxDigits true rest
      | cs => unsigned? maxDigits false cs
    number.map fun (n, rest) => (.num n, rest)

/-- Why a text cannot be read. -/
inductive ReadFault where
  /-- It is no JSON. -/
  | malformed
  /-- Its lists and objects are nested too deeply; `inList` tells which of them
  is the one too many. -/
  | tooDeep (inList : Bool)

/-- What has been read, or that it is no JSON. -/
def orMalformed {α : Type} (result : Option α) : Except ReadFault α :=
  match result with
  | some a => .ok a
  | none => .error .malformed

mutual

/-- Reads a value that starts with the first character: it and the rest.
`fuel` bounds the depth and the length of what is read, `maxDigits` the length of
its integers and `depth` how deep it may be nested. -/
def value (maxDigits fuel depth : Nat) (cs : List Char) : Except ReadFault (Value × List Char) :=
  match fuel, cs with
  | fuel + 1, '"' :: rest => do
    let (s, rest) ← orMalformed (stringBody? fuel rest)
    pure (.text (String.ofList s), rest)
  | fuel + 1, '[' :: rest =>
    match depth, skipSpace rest with
    | 0, _ => .error (.tooDeep true)
    | _ + 1, ']' :: rest => .ok (.list [], rest)
    | depth + 1, rest =>
      (items maxDigits fuel depth rest).map fun (items, rest) => (.list items, rest)
  | fuel + 1, '\x7b' :: rest =>
    match depth, skipSpace rest with
    | 0, _ => .error (.tooDeep false)
    | _ + 1, '\x7d' :: rest => .ok (.object [], rest)
    | depth + 1, rest =>
      (fields maxDigits fuel depth rest).map fun (fields, rest) =>
        (.object (Table.ofList fields), rest)
  | _ + 1, cs => do
    let (a, rest) ← orMalformed (scalar? maxDigits cs)
    pure (.atom a, rest)
  | 0, _ => .error .malformed

/-- Reads the elements of a list that is not empty, up to its end. -/
def items (maxDigits fuel depth : Nat) (cs : List Char) :
    Except ReadFault (List Value × List Char) :=
  match fuel with
  | 0 => .error .malformed
  | fuel + 1 => do
    let (v, rest) ← value maxDigits fuel depth cs
    match skipSpace rest with
    | ']' :: rest => pure ([v], rest)
    | ',' :: rest =>
      let (items, rest) ← items maxDigits fuel depth (skipSpace rest)
      pure (v :: items, rest)
    | _ => throw .malformed

/-- Reads the fields of an object that is not empty, up to its end. -/
def fields (maxDigits fuel depth : Nat) (cs : List Char) :
    Except ReadFault (List (String × Value) × List Char) :=
  match fuel, cs with
  | fuel + 1, '"' :: rest => do
    let (name, rest) ← orMalformed (stringBody? fuel rest)
    match skipSpace rest with
    | ':' :: rest =>
      let (v, rest) ← value maxDigits fuel depth (skipSpace rest)
      match skipSpace rest with
      | '\x7d' :: rest => pure ([(String.ofList name, v)], rest)
      | ',' :: rest =>
        let (fields, rest) ← fields maxDigits fuel depth (skipSpace rest)
        pure ((String.ofList name, v) :: fields, rest)
      | _ => throw .malformed
    | _ => throw .malformed
  | _, _ => .error .malformed

end

/-- Reads a whole JSON text, nested no deeper than `depth` and with no integer of
more than `maxDigits` digits. -/
def ofChars (maxDigits depth : Nat) (cs : List Char) : Except ReadFault Value := do
  let (v, rest) ← value maxDigits (2 * cs.length + 2) depth (skipSpace cs)
  if (skipSpace rest).isEmpty then pure v else throw .malformed

/-- The longest integer that is read, in digits. -/
def maxIntegerDigits : Nat := 4300

/-- How deep lists and objects may be nested in what is received. -/
def maxDepth : Nat := 970

/-- Reads received JSON text in bytes. -/
def ofBytes (bytes : List UInt8) : Except ReadFault Value := do
  let cs ← orMalformed (charsOf? bytes)
  ofChars maxIntegerDigits maxDepth cs

/-- Reads a whole JSON text of any depth. -/
def ofText? (s : String) : Option Value := (ofChars maxIntegerDigits s.length s.toList).toOption

end Json

end Backlog
