/-!
# Request methods

The three methods that the tracker is asked with.
-/

namespace Backlog

namespace Http

/-- A request method. -/
inductive Method where
  /-- Reads. -/
  | get
  /-- Creates. -/
  | post
  /-- Changes. -/
  | put
  deriving DecidableEq

/-- The name of the method. -/
def Method.name : Method → String
  | .get => "GET"
  | .post => "POST"
  | .put => "PUT"

end Http

end Backlog
