/-
  Blank characters and the fields of a line.

  Blank are the characters with the Unicode property White_Space: the six ASCII blanks, NEL, the
  no-break spaces and the separators of lines, paragraphs and words.  The fields of a text are
  its longest runs without a blank (`fields`), so none is empty and none holds a blank.
-/

namespace HttpRouting.Text

/-- The Unicode property White_Space. -/
def isBlank (c : Char) : Bool :=
  ('\t' ≤ c && c ≤ '\r') || c == ' ' || c == '\u0085' || c == '\u00a0' || c == '\u1680' ||
  ('\u2000' ≤ c && c ≤ '\u200a') || c == '\u2028' || c == '\u2029' || c == '\u202f' ||
  c == '\u205f' || c == '\u3000'

/-- The longest runs of `s` that hold no blank, in order. -/
def fields (s : String) : List String :=
  ((s.toList.splitOnP isBlank).filter (· ≠ [])).map String.ofList

example : fields "  GET\t/a\u3000/b " = ["GET", "/a", "/b"] := by decide
example : fields " \n " = [] := by decide

end HttpRouting.Text
