/-
  Why a text is no pattern: one cause each, with the part of the text that is at fault, and the
  message that names it.
-/
import HttpRouting.Text.Quoted

namespace HttpRouting

/-- Why a text is no pattern. -/
inductive PatternError where
  /-- The text is blank. -/
  | empty
  /-- There is no second field, or no slash in it. -/
  | missingPath
  /-- There is a third field. -/
  | trailingField (field : String)
  /-- The method holds a character that no method may hold. -/
  | invalidMethod (method : String)
  /-- The host holds a brace. -/
  | wildcardInHost (host : String)
  /-- A token that is not the last is empty. -/
  | emptySegment
  /-- A token holds braces and is no wildcard. -/
  | malformedWildcard (token : String)
  /-- A wildcard's name is no identifier. -/
  | invalidName (name : String)
  /-- A catch-all is not the last segment. -/
  | catchAllNotLast (name : String)
  /-- The end of the path is not the last segment. -/
  | anchorNotLast
  /-- A name is bound a second time. -/
  | duplicateName (name : String)
deriving DecidableEq, Repr

/-- The message that names the cause. -/
def PatternError.message : PatternError → String
  | empty => "empty pattern"
  | missingPath => "missing path: expected \"METHOD [HOST]/PATH\""
  | trailingField field => "unexpected field " ++ Text.quote field ++ " after path"
  | invalidMethod method => "invalid method " ++ Text.quote method
  | wildcardInHost host => "host " ++ Text.quote host ++ " contains a wildcard"
  | emptySegment => "empty path segment"
  | malformedWildcard token => "malformed wildcard segment " ++ Text.quote token
  | invalidName name => "invalid wildcard name " ++ Text.quote name
  | catchAllNotLast name => "catch-all \x7b" ++ name ++ "...\x7d must be the final segment"
  | anchorNotLast => "\x7b$\x7d must be the final segment"
  | duplicateName name => "duplicate wildcard name " ++ Text.quote name

instance : ToString PatternError := ⟨PatternError.message⟩

end HttpRouting
