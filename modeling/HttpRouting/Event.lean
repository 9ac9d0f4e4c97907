/-
  What a router reports of its work: each registration, each lookup, and each request that no
  route answers.
-/
import HttpRouting.Router.Basic

namespace HttpRouting

/-- How much an event matters. -/
inductive Level where
  | trace
  | debug
  | warn
deriving DecidableEq, Repr

/-- The name of a level. -/
def Level.name : Level → String
  | trace => "TRACE"
  | debug => "DEBUG"
  | warn => "WARN"

/-- A value in the record of an event. -/
inductive Field where
  | text (value : String)
  | flag (value : Bool)
deriving DecidableEq, Repr

/-- An event in the work of a router. -/
inductive Event where
  /-- A route took a free place. -/
  | routeRegistered (pattern : Pattern)
  /-- A route took the place of another. -/
  | routeReplaced (pattern previous : Pattern)
  /-- A route was refused. -/
  | routeRejected (error : RouteError)
  /-- A query was looked up; `matched` says whether a route answers it. -/
  | routeLookup (query : Query) (matched : Bool)
  /-- No route answers a request. -/
  | noRouteMatched (query : Query)
deriving DecidableEq, Repr

namespace Event

/-- How much an event matters. -/
def level : Event → Level
  | routeRegistered _ => .debug
  | routeReplaced _ _ => .warn
  | routeRejected _ => .debug
  | routeLookup _ _ => .trace
  | noRouteMatched _ => .debug

/-- What happened. -/
def message : Event → String
  | routeRegistered _ => "route registered"
  | routeReplaced _ _ => "route replaced"
  | routeRejected _ => "route rejected"
  | routeLookup _ _ => "route lookup"
  | noRouteMatched _ => "no route matched"

/-- The fields that record a query. -/
def queryFields (q : Query) : List (String × Field) :=
  [("method", .text q.method), ("host", .text q.host), ("path", .text q.path)]

/-- The fields that record an event, by name. -/
def fields : Event → List (String × Field)
  | routeRegistered p =>
    [("pattern", .text p.render), ("method", .text p.method), ("host", .text p.host)]
  | routeReplaced p previous =>
    [("pattern", .text p.render), ("replaced", .text previous.render)]
  | routeRejected e => [("pattern", .text e.spec), ("error", .text e.fault.message)]
  | routeLookup q matched => queryFields q ++ [("matched", .flag matched)]
  | noRouteMatched q => queryFields q

/-- The event of a registration. -/
def ofRegistration : Except RouteError Registration → Event
  | .ok (.added p) => routeRegistered p
  | .ok (.replaced p previous) => routeReplaced p previous
  | .error e => routeRejected e

end Event

end HttpRouting
