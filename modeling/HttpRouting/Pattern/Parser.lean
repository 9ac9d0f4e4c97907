/-
  Reading a pattern from its text.

  The text has two fields, the method and the target; the target is a host and a path.  The path
  is read token by token from the left, and the first fault is reported.  A token is first read by
  itself (`Segment.read`, which inverts `Segment.render`); only then does it count where it stands
  and which names are bound before it (`Segment.fault?`).
-/
import HttpRouting.Pattern.Basic
import HttpRouting.Pattern.Error
import HttpRouting.Text.Blank

namespace HttpRouting

/-! ## Characters -/

namespace Pattern

/-- The characters of a method: those of an HTTP token. -/
def isTokenChar (c : Char) : Bool :=
  c.isAlphanum || "!#$%&'*+-.^_`|~".toList.contains c

/-- The characters that mark a wildcard. -/
def isBrace (c : Char) : Bool :=
  c == '{' || c == '}'

/-- Whether a text holds no brace. -/
def isBraceFree (s : String) : Bool :=
  s.toList.all (!isBrace ·)

/-- Whether a text is an identifier: a letter or an underscore, then letters, digits and
underscores, all ASCII. -/
def isIdentifier (s : String) : Bool :=
  match s.toList with
  | [] => false
  | c :: rest => (c.isAlpha || c == '_') && rest.all fun d => d.isAlphanum || d == '_'

/-- What stands between the braces of a token. -/
def inBraces? (token : String) : Option String :=
  (Text.dropFront? "\x7b" token).bind (Text.dropBack? "\x7d")

end Pattern

/-! ## Segments -/

namespace Segment

open Pattern

/-- The segment that a token writes, wherever the token stands. -/
def read (token : String) : Except PatternError Segment :=
  if token = "" then .ok (.catchAll "")
  else if token = "\x7b$\x7d" then .ok (.literal "")
  else if isBraceFree token then .ok (.literal token)
  else
    match (inBraces? token).filter isBraceFree with
    | none => .error (.malformedWildcard token)
    | some inner =>
      match Text.dropBack? "..." inner with
      | some name => if isIdentifier name then .ok (.catchAll name) else .error (.invalidName name)
      | none => if isIdentifier inner then .ok (.wildcard inner) else .error (.invalidName inner)

/-- What is wrong with a segment where it stands, `bound` being the names bound before it. -/
def fault? (bound : List String) (isLast : Bool) : Segment → Option PatternError
  | literal text => if text = "" ∧ ¬isLast then some .anchorNotLast else none
  | wildcard name => if name ∈ bound then some (.duplicateName name) else none
  | catchAll name =>
    if ¬isLast then some (if name = "" then .emptySegment else .catchAllNotLast name)
    else if name ∈ bound then some (.duplicateName name)
    else none

/-- The segments that the tokens of a path write, `bound` being the names bound before them. -/
def readAll (bound : List String) : List String → Except PatternError (List Segment)
  | [] => .ok []
  | token :: rest => do
    let segment ← read token
    match segment.fault? bound rest.isEmpty with
    | some fault => .error fault
    | none => return segment :: (← readAll (bound ++ segment.name?.toList) rest)

end Segment

/-! ## Patterns -/

namespace Pattern

/-- The pattern of a method and a target. -/
def ofFields (method target : String) : Except PatternError Pattern :=
  if ¬method.toList.all isTokenChar then .error (.invalidMethod method)
  else
    match Text.after? '/' target with
    | none => .error .missingPath
    | some path =>
      let host := Text.before '/' target
      if ¬isBraceFree host then .error (.wildcardInHost host)
      else do
        let segments ← Segment.readAll [] (Text.pieces '/' path)
        return { method, host, segments }

/-- The pattern that a text writes. -/
def parse (spec : String) : Except PatternError Pattern :=
  match Text.fields spec with
  | [] => .error .empty
  | [_] => .error .missingPath
  | [method, target] => ofFields method target
  | _ :: _ :: extra :: _ => .error (.trailingField extra)

example : parse "GET  h/a/\x7bx\x7d/" =
    .ok ⟨"GET", "h", [.literal "a", .wildcard "x", .catchAll ""]⟩ := rfl
example : parse "GET /\x7bx\x7d/\x7bx...\x7d" = .error (.duplicateName "x") := rfl
example : parse "GET /\x7b\x7d" = .error (.invalidName "") := rfl
example : parse "GET /a\x7bx\x7d" = .error (.malformedWildcard "a\x7bx\x7d") := rfl
example : parse "GET /a//\x7b" = .error .emptySegment := rfl

end Pattern

end HttpRouting
