/-
  Why a router refuses a route: the text it was given, the cause, and the message that names both.
-/
import HttpRouting.Pattern.Error

namespace HttpRouting

/-- Why a router refuses a route. -/
inductive RouteFault where
  /-- The text is no pattern. -/
  | malformed (error : PatternError)
  /-- There is no handler. -/
  | missingHandler
  /-- The place is taken by the route with the canonical text `existing`. -/
  | conflict (existing : String)
deriving DecidableEq, Repr

/-- The message that names the cause. -/
def RouteFault.message : RouteFault → String
  | malformed error => error.message
  | missingHandler => "handler cannot be empty"
  | conflict existing => "conflicts with registered route " ++ Text.quote existing

instance : ToString RouteFault := ⟨RouteFault.message⟩

/-- A refusal: the text exactly as it was given, and the cause. -/
structure RouteError where
  /-- The text given for a pattern. -/
  spec : String
  /-- The cause. -/
  fault : RouteFault
deriving DecidableEq, Repr

/-- The message that names the text and the cause. -/
def RouteError.message (e : RouteError) : String :=
  "invalid route " ++ Text.quote e.spec ++ ": " ++ e.fault.message

instance : ToString RouteError := ⟨RouteError.message⟩

end HttpRouting
