/-
  Text in double quotes, as the messages of this library show it.

  A quote, a backslash, NUL, tab, line feed and carriage return have a short escape; any other
  character without a glyph of its own, or that joins its neighbour, is written by its code point,
  `\u` and lower-case hexadecimal digits in braces; all else stands for itself.  The apostrophe is
  not escaped.  Text is quoted character by character (`toList_quote`), so that what one character
  becomes never depends on the next.
-/
import HttpRouting.Text.GraphemeExtend
import HttpRouting.Text.Unprintable

namespace HttpRouting.Text

/-- Whether a character without a short escape stands for itself. -/
def isPlain (c : Char) : Bool :=
  (' ' ≤ c && c ≤ '~') || !(unprintable.contains c || graphemeExtend.contains c)

/-- The escape of a character by its code point. -/
def codePointEscape (c : Char) : List Char :=
  ['\\', 'u', '{'] ++ Nat.toDigits 16 c.toNat ++ ['}']

/-- What a character becomes inside quotes. -/
def quoteChar (c : Char) : List Char :=
  if c = '"' then ['\\', '"']
  else if c = '\\' then ['\\', '\\']
  else if c = '\x00' then ['\\', '0']
  else if c = '\t' then ['\\', 't']
  else if c = '\n' then ['\\', 'n']
  else if c = '\r' then ['\\', 'r']
  else if isPlain c then [c]
  else codePointEscape c

/-- The text `s` in double quotes. -/
def quote (s : String) : String :=
  String.ofList ('"' :: s.toList.flatMap quoteChar ++ ['"'])

@[simp]
theorem toList_quote (s : String) :
    (quote s).toList = '"' :: s.toList.flatMap quoteChar ++ ['"'] := by
  simp [quote]

example : quote "a'b" = "\"a'b\"" := by decide
example : quote "\"\\\t" = "\"\\\"\\\\\\t\"" := by decide
example : quote "\x7f\u00e9" = "\"\\u\x7b7f\x7d\u00e9\"" := by decide +kernel
example : quote "\u200d\u0301" = "\"\\u\x7b200d\x7d\\u\x7b301\x7d\"" := by decide +kernel

end HttpRouting.Text
