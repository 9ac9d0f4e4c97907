/-
  The query that a request puts to a router.

  The host of a query is the one that the target names, else the one in the first Host header, else
  empty.  In a header a host is read by a rule of its own, which lets a host without brackets hold
  colons (`Authority.fieldHost`), and a header that is no text is refused.  The path counts only if it
  starts with a slash.  The host is looked at before the path.
-/
import HttpRouting.Error
import HttpRouting.Message.Request
import HttpRouting.Router.Basic

namespace HttpRouting

universe u

/-- The host in the value of a Host header: the value through its bracket or before its last
colon. -/
def Authority.fieldHost (value : String) : String :=
  if isBracketed value then Text.through ']' value else Text.beforeLast ':' value

namespace Request

/-- The host of a request; empty if the request names none. -/
def host (r : Request) : Except Error String :=
  match r.target.host?, r.hostField? with
  | some host, _ => .ok host
  | none, none => .ok ""
  | none, some value =>
    match fieldText? value with
    | some text => .ok (Authority.fieldHost text)
    | none => .error (.invalidHost (Text.ofUtf8 value))

/-- The path of a request. -/
def path (r : Request) : Except Error String :=
  let path := r.target.path
  if (Text.dropFront? "/" path).isSome then .ok path else .error (.invalidPath path)

/-- The query that a request puts to a router. -/
def query (r : Request) : Except Error Query := do
  let host ← r.host
  let path ← r.path
  return { method := r.method, host, path }

end Request

/-- The answer to a request. -/
def Router.answer {H : Type u} (r : Router H) (request : Request) :
    Except Error (Option (Match H)) :=
  request.query.map r.lookup

example : Authority.fieldHost "[::1]:80" = "[::1]" ∧ Authority.fieldHost "a:b:80" = "a:b" ∧
    Authority.fieldHost "[x" = "[x" := by
  decide

end HttpRouting
