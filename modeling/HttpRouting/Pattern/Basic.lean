/-
  Route patterns: a method, a host and a path whose segments may be wildcards.

  A pattern is written `METHOD [HOST]/PATH` (`Pattern.render`).  Each segment stands for the
  tokens of a request path that it takes: a literal takes the token equal to it, a wildcard one
  token that is not empty, a catch-all all tokens that are left.  Two spellings are special: the
  end of a path written `{$}` is the literal of the empty token, and a path that ends in a slash
  has a catch-all without a name.
-/
import HttpRouting.Path

namespace HttpRouting

/-! ## Segments -/

/-- One segment of a pattern's path. -/
inductive Segment where
  /-- Takes the token equal to `text`.  The empty text marks the end of the path, `{$}`. -/
  | literal (text : String)
  /-- Takes one token that is not empty, and binds it to `name`. -/
  | wildcard (name : String)
  /-- Takes all tokens that are left, and binds them to `name`.  A trailing slash has the empty
  name. -/
  | catchAll (name : String)
deriving DecidableEq, Hashable, Repr

namespace Segment

/-- The name that a segment binds. -/
def name? : Segment → Option String
  | literal _ => none
  | wildcard name => some name
  | catchAll name => some name

/-- The text or the name that a segment carries. -/
def text : Segment → String
  | literal text => text
  | wildcard name => name
  | catchAll name => name

/-- Whether a segment binds a name. -/
def isWild (segment : Segment) : Bool :=
  segment.name?.isSome

/-- Whether a segment takes more than one token. -/
def isMulti : Segment → Bool
  | catchAll _ => true
  | _ => false

/-- The token that writes a segment. -/
def render : Segment → String
  | literal text => if text = "" then "\x7b$\x7d" else text
  | wildcard name => "\x7b" ++ name ++ "\x7d"
  | catchAll name => if name = "" then "" else "\x7b" ++ name ++ "...\x7d"

end Segment

/-! ## Patterns -/

/-- A route pattern. -/
structure Pattern where
  /-- The request method, compared exactly. -/
  method : String
  /-- The host, compared exactly; empty for any host. -/
  host : String
  /-- The segments of the path. -/
  segments : List Segment
deriving DecidableEq, Hashable, Repr

namespace Pattern

/-- The canonical text of a pattern. -/
def render (p : Pattern) : String :=
  p.method ++ " " ++ p.host ++ Path.ofTokens (p.segments.map Segment.render)

instance : ToString Pattern := ⟨render⟩

/-- The names that a pattern binds, in path order. -/
def paramNames (p : Pattern) : List String :=
  p.segments.filterMap Segment.name?

example : render ⟨"GET", "h", [.literal "a", .wildcard "x", .catchAll "r"]⟩ =
    "GET h/a/\x7bx\x7d/\x7br...\x7d" := by decide
example : render ⟨"GET", "", [.literal "a", .literal ""]⟩ = "GET /a/\x7b$\x7d" := by decide
example : render ⟨"GET", "", [.catchAll ""]⟩ = "GET /" := by decide

end Pattern

end HttpRouting
