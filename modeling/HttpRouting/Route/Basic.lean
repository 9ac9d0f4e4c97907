/-
  Routes, requests for them, and matches.

  A route is a handler under a pattern.  Its place in the trie is the address of the pattern: the
  host, the method, and the segments with their names forgotten, so that two patterns share a
  place when they differ in names only.  A match gives the names back: it binds the names of the
  pattern that was found to the tokens captured on the way to it (`Pattern.params`).
-/
import HttpRouting.Pattern.Basic
import HttpRouting.Trie.Search

namespace HttpRouting

universe u

/-! ## The place of a pattern -/

/-- The label of a segment: the segment without its name. -/
def Segment.label : Segment → Label
  | literal text => .literal text
  | wildcard _ => .wildcard
  | catchAll _ => .catchAll

/-- The place of a pattern in the trie. -/
def Pattern.address (p : Pattern) : List Label :=
  .literal p.host :: .literal p.method :: p.segments.map Segment.label

/-! ## Parameters -/

/-- Names with their values, in path order. -/
abbrev Params := List (String × String)

/-- Binds the names of segments to captured tokens: a wildcard takes one token, and a catch-all
takes all that are left, with a slash between them.  A wildcard stays unbound if no token is
left. -/
def Segment.params : List Segment → Captures → Params
  | [], _ => []
  | literal _ :: rest, captures => params rest captures
  | wildcard _ :: rest, [] => params rest []
  | wildcard name :: rest, token :: captures => (name, token) :: params rest captures
  | catchAll name :: _, captures => [(name, "/".intercalate captures)]

/-- Binds the names of a pattern to captured tokens. -/
def Pattern.params (p : Pattern) (captures : Captures) : Params :=
  Segment.params p.segments captures

/-! ## Routes and matches -/

/-- A handler under a pattern. -/
structure Route (H : Type u) where
  /-- What a match hands out. -/
  handler : H
  /-- What the route answers. -/
  pattern : Pattern
deriving DecidableEq, Repr

/-- What a router is asked for. -/
structure Query where
  /-- The request method. -/
  method : String
  /-- The request host; empty if there is none. -/
  host : String
  /-- The request path. -/
  path : String
deriving DecidableEq, Repr

/-- The answer to a query. -/
structure Match (H : Type u) where
  /-- The handler of the route that was found. -/
  handler : H
  /-- The names of its pattern, bound. -/
  params : Params
  /-- Its pattern. -/
  pattern : Pattern
deriving BEq, Repr

/-- The match of a route that was found with some tokens captured. -/
def Route.toMatch {H : Type u} (route : Route H) (captures : Captures) : Match H where
  handler := route.handler
  params := route.pattern.params captures
  pattern := route.pattern

/-- The value of a name. -/
def Match.param? {H : Type u} (found : Match H) (name : String) : Option String :=
  found.params.lookup name

example : Segment.params [.wildcard "x", .literal "f", .catchAll "r"] ["a", "b", "", "c"] =
    [("x", "a"), ("r", "b//c")] := by decide

end HttpRouting
