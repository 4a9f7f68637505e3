import Backlog.Json.Writer
import Backlog.Value.Display
/-!
# Reports

The text that a tool answers with: a message, the data as JSON between two
tags, and the token for the next page between two more, with an empty line
between the parts. The data is assumed to stay within the limits of writing, on the
digits of an integer and on the depth of lists and objects.
-/

namespace Backlog

namespace Report

/-- The data of a report, if there is any. -/
def dataPart (data : Value) : List String :=
  if data.isNull then [] else ["<json>\n" ++ Json.indented data ++ "\n</json>"]

/-- The token of a report, if there is one. -/
def tokenPart (token : Value) : List String :=
  if token.truthy then ["<next-page-token>" ++ token.display ++ "</next-page-token>"] else []

/-- The text of a report. -/
def render (message : String) (data : Value := .null) (token : Value := .null) : String :=
  "\n\n".intercalate (message :: dataPart data ++ tokenPart token)

end Report

end Backlog
