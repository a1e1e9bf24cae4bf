/-!
# Methods

A request gets something, posts something, or deletes something.
-/

namespace NewsReader.Http

/-- What a request does. -/
inductive Method where
  | get
  | post
  | delete
  deriving DecidableEq

/-- The written method. -/
def Method.text : Method → String
  | get => "GET"
  | post => "POST"
  | delete => "DELETE"

end NewsReader.Http
