/-
  Request targets, as the library that reads requests off the wire hands them over.

  Nothing here is decided by a router.  What is relied on:

  1. **Forms** - a target has one of four forms: the asterisk, a path with an optional query, a URL
     with a scheme and an authority, or an authority alone.  An authority is not empty, and what
     stands in place of a path starts with a slash, or with the mark of a query.

  2. **The host** - the last two forms name one.  It is what follows the last `@` of the authority,
     through its bracket if it starts with one, and before its first colon otherwise.

  3. **The path** - it ends before the first `?` or `#`, and is `/` if nothing stands there.  The
     asterisk is its own path, and the path beside an authority alone is empty.
-/
import HttpRouting.Text.Split

namespace HttpRouting

namespace Authority

/-- Whether a host starts with a bracket.  It is an address then, which holds colons of its own and
ends with its bracket. -/
def isBracketed (s : String) : Bool :=
  (Text.dropFront? "[" s).isSome

/-- The host in the authority of a target. -/
def host (authority : String) : String :=
  let place := Text.afterLast '@' authority
  if isBracketed place then Text.through ']' place else Text.before ':' place

example : host "u:p@[::1]:2" = "[::1]" ∧ host "h.io:81" = "h.io" ∧ host "H.io" = "H.io" := by
  decide

end Authority

/-- The target of a request. -/
inductive Target where
  /-- The asterisk, for the server as a whole. -/
  | asteriskForm
  /-- A path, with what follows it. -/
  | originForm (path : String)
  /-- An authority, with the path that follows it and what follows that. -/
  | absoluteForm (authority rest : String)
  /-- An authority alone. -/
  | authorityForm (authority : String)
deriving DecidableEq, Repr

namespace Target

/-- The characters that end a path. -/
def endsPath (c : Char) : Bool :=
  c == '?' || c == '#'

/-- The characters that end an authority. -/
def endsAuthority (c : Char) : Bool :=
  c == '/' || endsPath c

/-- What follows the scheme and its `://` in a URL. -/
def afterScheme? (s : String) : Option String :=
  (Text.after? ':' s).bind (Text.dropFront? "//")

/-- The target that a text writes. -/
def ofString (s : String) : Target :=
  if s = "*" then .asteriskForm
  else if (Text.dropFront? "/" s).isSome then .originForm s
  else
    match afterScheme? s with
    | some rest =>
      .absoluteForm (Text.beforeAny endsAuthority rest) (Text.fromAny endsAuthority rest)
    | none => .authorityForm s

/-- The host that a target names. -/
def host? : Target → Option String
  | asteriskForm => none
  | originForm _ => none
  | absoluteForm authority _ => some (Authority.host authority)
  | authorityForm authority => some (Authority.host authority)

/-- The path at the beginning of a text, without what follows it. -/
def leadingPath (s : String) : String :=
  if Text.beforeAny endsPath s = "" then "/" else Text.beforeAny endsPath s

/-- The path of a target. -/
def path : Target → String
  | asteriskForm => "*"
  | originForm path => leadingPath path
  | absoluteForm _ rest => leadingPath rest
  | authorityForm _ => ""

example : (ofString "HTTP://u@Ex.com:80?q").host? = some "Ex.com" := by decide
example : (ofString "HTTP://u@Ex.com:80?q").path = "/" := by decide
example : (ofString "//h/x?y").host? = none ∧ (ofString "//h/x?y").path = "//h/x" := by decide
example : ofString "example.com:443" = .authorityForm "example.com:443" := by decide

end Target

end HttpRouting
