/-
  Routers: a table of routes, its set-up, and the number of its routes.

  A registration checks that there is a handler, reads the pattern, and enters the route; the
  first of these that fails is the cause of the refusal, and a refusal leaves the router as it is.
  Lookups never change a router.
-/
import HttpRouting.Pattern.Parser
import HttpRouting.Route.Table
import HttpRouting.Router.Error

namespace HttpRouting

universe u

/-- A router. -/
structure Router (H : Type u) where
  /-- The routes. -/
  table : RouteTable H
  /-- The set-up. -/
  config : Config
  /-- The number of routes. -/
  size : Nat

/-- What a registration did. -/
inductive Registration where
  /-- The route took a free place. -/
  | added (pattern : Pattern)
  /-- The route took the place of another. -/
  | replaced (pattern previous : Pattern)
deriving DecidableEq, Repr

namespace Router

variable {H : Type u}

/-- The router without routes. -/
def empty (config : Config) : Router H := ⟨∅, config, 0⟩

instance : EmptyCollection (Router H) := ⟨empty {}⟩

instance : Inhabited (Router H) := ⟨∅⟩

/-! ## Registration -/

/-- Enters a handler under a pattern. -/
def enter (r : Router H) (p : Pattern) (handler : H) :
    Router H × Except RouteFault Registration :=
  match r.table.enter r.config.collision p handler with
  | (table, .error held) => ({ r with table }, .error (.conflict held.render))
  | (table, .ok none) => ({ r with table, size := r.size + 1 }, .ok (.added p))
  | (table, .ok (some previous)) => ({ r with table }, .ok (.replaced p previous))

/-- Registers a handler under the pattern that `spec` writes. -/
def register (r : Router H) (spec : String) (handler : Option H) :
    Router H × Except RouteError Registration :=
  match handler, Pattern.parse spec with
  | none, _ => (r, .error ⟨spec, .missingHandler⟩)
  | some _, .error e => (r, .error ⟨spec, .malformed e⟩)
  | some handler, .ok p =>
    let (r, result) := r.enter p handler
    (r, result.mapError (RouteError.mk spec))

/-- Registers handlers in order, up to the first refusal. -/
def registerAll (r : Router H) : List (String × H) → Except RouteError (Router H)
  | [] => .ok r
  | (spec, handler) :: rest =>
    match r.register spec (some handler) with
    | (_, .error e) => .error e
    | (r, .ok _) => r.registerAll rest

/-! ## Lookup -/

/-- The answer to a query. -/
def lookup (r : Router H) (q : Query) : Option (Match H) :=
  (r.table.lookup r.config.headFallback q).map fun found => found.1.toMatch found.2

/-! ## Contents -/

/-- Whether there are no routes. -/
def isEmpty (r : Router H) : Bool :=
  r.size == 0

/-- The canonical texts of the routes, in the order of code points. -/
def patterns (r : Router H) : List String :=
  (r.table.routes.map fun route => route.pattern.render).mergeSort (· ≤ ·)

/-- Whether a method has a route, on any host. -/
def hasMethod (r : Router H) (method : String) : Bool :=
  r.table.hasMethod method

/-! ## A router at work -/

example :
    let r := ((∅ : Router Nat).register "GET /users/\x7bid\x7d" (some 7)).1
    (r.lookup ⟨"GET", "", "/users/3"⟩).map Match.params = some [("id", "3")] := by
  decide +kernel

example :
    let r := ((∅ : Router Nat).register "GET /users/\x7bid\x7d" (some 7)).1
    (r.register "GET /users/\x7bname\x7d" (some 8)).2 =
      .error ⟨"GET /users/\x7bname\x7d", .conflict "GET /users/\x7bid\x7d"⟩ := rfl

end Router

end HttpRouting
