/-
  What a server that routes with a router can be told instead of an answer: that a route is refused,
  or that a request puts no query.
-/
import HttpRouting.Router.Error

namespace HttpRouting

/-- Why a server gets no answer. -/
inductive Error where
  /-- A route is refused. -/
  | route (error : RouteError)
  /-- The Host header holds a byte that no host holds; `text` is its value, read leniently. -/
  | invalidHost (text : String)
  /-- The path does not start with a slash. -/
  | invalidPath (path : String)
deriving DecidableEq, Repr

/-- The message that names the cause.  A refused route has its own, and nothing is put around it. -/
def Error.message : Error → String
  | route error => error.message
  | invalidHost text => "Invalid host header: " ++ text
  | invalidPath path => "Invalid path: " ++ path

instance : ToString Error := ⟨Error.message⟩

end HttpRouting
