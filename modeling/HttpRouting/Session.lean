/-
  Sessions: calls made on a router one after another, each with its reply and its events.

  Every call is one step of the router (`Router.step`); only a registration changes it.  A lookup
  reports itself, whether or not a route answers; a request reports nothing if it is refused, and
  reports once more if no route answers it.
-/
import HttpRouting.Event
import HttpRouting.Request.Basic

namespace HttpRouting

universe u

/-- A call on a router. -/
inductive Call (H : Type u) where
  /-- Registers a handler under the pattern that `spec` writes. -/
  | register (spec : String) (handler : Option H)
  /-- Looks up a query. -/
  | lookup (query : Query)
  /-- Answers a request. -/
  | answer (request : Request)
  /-- Asks for the number of routes. -/
  | size
  /-- Asks whether there are no routes. -/
  | isEmpty
  /-- Asks for the canonical texts of the routes. -/
  | patterns
  /-- Asks whether a method has a route. -/
  | hasMethod (method : String)
  /-- Asks for the set-up. -/
  | config

/-- Whether a call is a registration; all others leave the router as it is. -/
def Call.registers {H : Type u} : Call H → Bool
  | register _ _ => true
  | _ => false

/-- The reply to a call. -/
inductive Reply (H : Type u) where
  /-- What a registration did, or why it was refused; and the number of routes after it. -/
  | registration (result : Except RouteError Registration) (size : Nat)
  /-- What answers a query. -/
  | found (result : Option (Match H))
  /-- What answers a request, or why it puts no query. -/
  | answered (result : Except Error (Option (Match H)))
  /-- A number. -/
  | number (value : Nat)
  /-- A truth value. -/
  | truth (value : Bool)
  /-- Texts, in order. -/
  | texts (values : List String)
  /-- A set-up. -/
  | config (value : Config)

namespace Router

variable {H : Type u}

/-- Looks up a query, and reports it. -/
def lookupEvents (q : Query) (found : Option (Match H)) : List Event :=
  [.routeLookup q found.isSome]

/-- The events of the answer to a query that a request puts. -/
def answerEvents (q : Query) (found : Option (Match H)) : List Event :=
  lookupEvents q found ++ if found.isNone then [.noRouteMatched q] else []

/-- Makes a call: the router after it, the reply, and the events. -/
def step (r : Router H) : Call H → Router H × Reply H × List Event
  | .register spec handler =>
    let (after, result) := r.register spec handler
    (after, .registration result after.size, [.ofRegistration result])
  | .lookup q => (r, .found (r.lookup q), lookupEvents q (r.lookup q))
  | .answer request =>
    match request.query with
    | .error e => (r, .answered (.error e), [])
    | .ok q => (r, .answered (.ok (r.lookup q)), answerEvents q (r.lookup q))
  | .size => (r, .number r.size, [])
  | .isEmpty => (r, .truth r.isEmpty, [])
  | .patterns => (r, .texts r.patterns, [])
  | .hasMethod method => (r, .truth (r.hasMethod method), [])
  | .config => (r, .config r.config, [])

/-- Makes calls in order: the router after them, the replies, and the events of each. -/
def run (r : Router H) : List (Call H) → Router H × List (Reply H × List Event)
  | [] => (r, [])
  | call :: rest =>
    let (after, reply, events) := r.step call
    let (final, replies) := after.run rest
    (final, (reply, events) :: replies)

end Router

end HttpRouting
