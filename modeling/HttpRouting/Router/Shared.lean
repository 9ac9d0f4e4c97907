/-
  One router behind any number of handles.

  The router stands behind a lock, and a handle points to the lock.  Handles are numbered in the
  order they were made.  Cloning a handle copies what it points to and nothing else, so what ties
  the handles together is only that they all descend from the first one.

  Each call through a handle holds the lock from its beginning to its end.  So it is one step, and
  the calls of several clients line up in one order.  Several looks may share one lock, and then no
  other call comes between them.

  A handle does not hand out what the router hands out.  It tells of a registration only that it was
  done, or the refusal as an error of the server; and what is to outlive the lock is a copy of the
  match (`RouteMatch`), unless the match is handed to a function while the lock is held.  A request
  answered by `resolveRequest` is reported as a lookup only.
-/
import HttpRouting.Session

namespace HttpRouting

universe u v

/-! ## Copies -/

/-- A match that outlives the lock. -/
structure RouteMatch (H : Type u) where
  /-- A copy of the handler. -/
  value : H
  /-- The names of the pattern, bound. -/
  params : Params
  /-- The canonical text of the pattern. -/
  pattern : String
deriving DecidableEq, Repr

/-- The copy of a match. -/
def RouteMatch.ofMatch {H : Type u} (found : Match H) : RouteMatch H where
  value := found.handler
  params := found.params
  pattern := found.pattern.render

/-! ## Calls while the lock is held -/

namespace Router

variable {H : Type u} {R : Type v}

/-- Registers a handler, and tells whether it was done. -/
def tryRegister (r : Router H) (spec : String) (handler : Option H) : Router H × Except Error Unit :=
  match r.register spec handler with
  | (after, .ok _) => (after, .ok ())
  | (after, .error e) => (after, .error (.route e))

/-- Looks up a query, and hands what answers it to `f`. -/
def matchWith (r : Router H) (q : Query) (f : Option (Match H) → R) : R :=
  f (r.lookup q)

/-- Looks up a query, and copies what answers it. -/
def resolve (r : Router H) (q : Query) : Option (RouteMatch H) :=
  r.matchWith q fun found => found.map RouteMatch.ofMatch

/-- Looks up the query that a request puts, and copies what answers it. -/
def resolveRequest (r : Router H) (request : Request) : Except Error (Option (RouteMatch H)) :=
  request.query.map r.resolve

end Router

/-! ## Calls through handles -/

/-- A call that leaves the router as it is. -/
abbrev Look (H : Type u) := { call : Call H // call.registers = false }

/-- Routers behind locks, and the handles that point to them. -/
structure SharedRouter (H : Type u) where
  /-- The router behind each lock. -/
  locks : List (Router H)
  /-- The lock that each handle points to. -/
  handles : List Nat

/-- A call through a handle; `R` is what the functions give that matches are handed to. -/
inductive SharedCall (H : Type u) (R : Type v) where
  /-- Makes another handle. -/
  | clone
  /-- Registers a handler under the pattern that `spec` writes. -/
  | register (spec : String) (handler : Option H)
  /-- Looks up a query, and hands what answers it to `f`. -/
  | matchWith (query : Query) (f : Option (Match H) → R)
  /-- Looks up a query, and copies what answers it. -/
  | resolve (query : Query)
  /-- Looks up the query that a request puts, and copies what answers it. -/
  | resolveRequest (request : Request)
  /-- Looks at the router, any number of times under one lock. -/
  | read (looks : List (Look H))
  /-- Asks for the number of routes. -/
  | size
  /-- Asks whether there are no routes. -/
  | isEmpty

/-- The reply to a call through a handle. -/
inductive SharedReply (H : Type u) (R : Type v) where
  /-- The number of handles, after a clone. -/
  | handles (count : Nat)
  /-- Whether a registration was done. -/
  | registered (result : Except Error Unit)
  /-- What a function gave. -/
  | used (result : R)
  /-- A copy of what answers a query. -/
  | resolved (result : Option (RouteMatch H))
  /-- A copy of what answers a request, or why it puts no query. -/
  | answered (result : Except Error (Option (RouteMatch H)))
  /-- The replies to looks. -/
  | seen (replies : List (Reply H))
  /-- A number. -/
  | number (value : Nat)
  /-- A truth value. -/
  | truth (value : Bool)

namespace SharedRouter

variable {H : Type u} {R : Type v}

/-- A router behind a lock, and the first handle to it. -/
def ofRouter (r : Router H) : SharedRouter H := ⟨[r], [0]⟩

/-- The router without routes behind a lock, and the first handle to it. -/
def empty (config : Config) : SharedRouter H := ofRouter (.empty config)

/-- The router that a handle reaches. -/
def router? (s : SharedRouter H) (via : Nat) : Option (Router H) :=
  s.handles[via]?.bind fun lock => s.locks[lock]?

/-- Makes a call through a handle to `lock`, behind which `r` stands: what is shared after it, and the
reply. -/
def perform (s : SharedRouter H) (lock : Nat) (r : Router H) :
    SharedCall H R → SharedRouter H × SharedReply H R
  | .clone => ({ s with handles := s.handles ++ [lock] }, .handles (s.handles.length + 1))
  | .register spec handler =>
    let (after, result) := r.tryRegister spec handler
    ({ s with locks := s.locks.set lock after }, .registered result)
  | .matchWith q f => (s, .used (r.matchWith q f))
  | .resolve q => (s, .resolved (r.resolve q))
  | .resolveRequest request => (s, .answered (r.resolveRequest request))
  | .read looks => (s, .seen (looks.map fun look => (r.step look.1).2.1))
  | .size => (s, .number r.size)
  | .isEmpty => (s, .truth r.isEmpty)

/-- The events of a call through a handle to a lock behind which `r` stands. -/
def events (r : Router H) : SharedCall H R → List Event
  | .register spec handler => [.ofRegistration (r.register spec handler).2]
  | .matchWith q _ => Router.lookupEvents q (r.lookup q)
  | .resolve q => Router.lookupEvents q (r.lookup q)
  | .resolveRequest request =>
    match request.query with
    | .error _ => []
    | .ok q => Router.lookupEvents q (r.lookup q)
  | .read looks => looks.flatMap fun look => (r.step look.1).2.2
  | .clone => []
  | .size => []
  | .isEmpty => []

/-- Makes a call through the handle `via`; `none` if there is no such handle. -/
def step (s : SharedRouter H) (via : Nat) (call : SharedCall H R) :
    Option (SharedRouter H × SharedReply H R × List Event) :=
  s.handles[via]?.bind fun lock => s.locks[lock]?.map fun r =>
    ((s.perform lock r call).1, (s.perform lock r call).2, events r call)

/-- Makes calls in order, each through a handle: what is shared after them, the replies, and the
events of each.  `none` if one of them goes through a handle that is not there. -/
def run (s : SharedRouter H) :
    List (Nat × SharedCall H R) → Option (SharedRouter H × List (SharedReply H R × List Event))
  | [] => some (s, [])
  | (via, call) :: rest =>
    (s.step via call).bind fun (after, reply, events) =>
      (after.run rest).map fun (final, replies) => (final, (reply, events) :: replies)

end SharedRouter

end HttpRouting
