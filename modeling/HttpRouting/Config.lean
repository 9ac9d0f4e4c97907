/-
  How a router is set up: what a second route at one place does, and whether HEAD requests may be
  answered by GET routes.
-/

namespace HttpRouting

/-- What happens to a route whose place is taken. -/
inductive Collision where
  /-- The route is refused and the first one stays. -/
  | reject
  /-- The route takes the place. -/
  | replace
deriving DecidableEq, Inhabited, Repr

/-- The set-up of a router.  By default a taken place is kept and HEAD stands for itself. -/
structure Config where
  /-- What happens to a route whose place is taken. -/
  collision : Collision := .reject
  /-- Whether a HEAD request that no HEAD route of a host answers may be answered by a GET route of
  that host. -/
  headFallback : Bool := false
deriving DecidableEq, Inhabited, Repr

/-- The set-up with the given settings changed; what is not given stays. -/
def Config.update (config : Config) (collision : Option Collision) (headFallback : Option Bool) :
    Config where
  collision := collision.getD config.collision
  headFallback := headFallback.getD config.headFallback

end HttpRouting
