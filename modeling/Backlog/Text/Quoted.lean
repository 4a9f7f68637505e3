import Backlog.Text.Half
import Backlog.Text.Hex
import Backlog.Text.Printable
/-!
# Quoted text

A text in quotes, as it appears inside a list and in messages. Single quotes
stand around it unless it holds a single quote and no double one. Inside, the
backslash and the quote are escaped, and so is all that is not printable.
-/

namespace Backlog

namespace Text

/-- The escape that tells a character by its code point. -/
def codeEscape (c : Char) : List Char :=
  let code := codeOf c
  if code < 0x100 then '\\' :: 'x' :: hexDigits 2 code
  else if code < 0x10000 then '\\' :: 'u' :: hexDigits 4 code
  else '\\' :: 'U' :: hexDigits 8 code

/-- One character of a quoted text whose quotes are `quote`. -/
def quotedChar (quote c : Char) : List Char :=
  if c = quote ∨ c = '\\' then ['\\', c]
  else if c = '\t' then ['\\', 't']
  else if c = '\n' then ['\\', 'n']
  else if c = '\r' then ['\\', 'r']
  else if isPrintable c then [c]
  else codeEscape c

/-- The quote that goes around the characters. -/
def quoteFor (cs : List Char) : Char :=
  if '\'' ∈ cs ∧ '"' ∉ cs then '"' else '\''

/-- The text in quotes. -/
def quoted (s : String) : String :=
  let quote := quoteFor s.toList
  String.ofList (quote :: s.toList.flatMap (quotedChar quote) ++ [quote])

end Text

end Backlog
