import Backlog.Http.Form
import Backlog.Http.Url
/-!
# Page tokens

The tracker names the next page of a search by an address. The token for it
is the first value named `next` in the query of that address.
-/

namespace Backlog

namespace Http

/-- The first value named `next` in a query. -/
def tokenOfQuery (query : List Char) : Option String :=
  (Form.firstOfEach (Form.decode query)).get? "next"

/-- The page token in an address. No address has no token; what is not a
text is no address. -/
def pageToken? (address : Value) : Except Fault (Option String) :=
  if !address.truthy then .ok none
  else
    match address with
    | .text s => do
      let url ← (Url.ofChars s.toList).mapError .url
      pure (tokenOfQuery (url.query.getD []))
    | _ => .error .wrongType

end Http

end Backlog
