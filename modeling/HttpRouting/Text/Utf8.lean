/-
  UTF-8: the bytes of a text, and a reading of bytes that never fails.

  A reader holds at most one unfinished character (`Pending`): how many bytes it still lacks, which
  bytes may come next, and the bits read so far.  A byte that cannot come next ends the unfinished
  character with U+FFFD and is then read on its own, so that each longest beginning of a character
  that leads nowhere becomes one U+FFFD.  The range of the second byte is what excludes overlong
  forms, surrogates and code points above U+10FFFF.
-/

namespace HttpRouting.Text

/-- The bytes of a text in UTF-8. -/
def utf8 (s : String) : List UInt8 :=
  s.toList.flatMap String.utf8EncodeChar

namespace Utf8

/-- An unfinished character. -/
structure Pending where
  /-- The bytes it lacks. -/
  missing : Nat
  /-- The least byte that may come next. -/
  low : Nat
  /-- The greatest byte that may come next. -/
  high : Nat
  /-- The bits read so far. -/
  code : Nat
deriving DecidableEq, Repr

/-- The replacement character, which stands for what is not UTF-8. -/
def replacement : Char := '\ufffd'

/-- Reads a byte between characters: what it adds to the text, and the character it begins. -/
def start (b : Nat) : List Char × Option Pending :=
  if b < 0x80 then ([Char.ofNat b], none)
  else if b < 0xc2 then ([replacement], none)
  else if b < 0xe0 then ([], some ⟨1, 0x80, 0xbf, b - 0xc0⟩)
  else if b = 0xe0 then ([], some ⟨2, 0xa0, 0xbf, 0⟩)
  else if b = 0xed then ([], some ⟨2, 0x80, 0x9f, 0xd⟩)
  else if b < 0xf0 then ([], some ⟨2, 0x80, 0xbf, b - 0xe0⟩)
  else if b = 0xf0 then ([], some ⟨3, 0x90, 0xbf, 0⟩)
  else if b < 0xf4 then ([], some ⟨3, 0x80, 0xbf, b - 0xf0⟩)
  else if b = 0xf4 then ([], some ⟨3, 0x80, 0x8f, 4⟩)
  else ([replacement], none)

/-- Reads a byte with a character unfinished. -/
def Pending.next (p : Pending) (b : Nat) : List Char × Option Pending :=
  if p.low ≤ b ∧ b ≤ p.high then
    let code := p.code * 64 + (b - 0x80)
    if p.missing ≤ 1 then ([Char.ofNat code], none)
    else ([], some ⟨p.missing - 1, 0x80, 0xbf, code⟩)
  else (replacement :: (start b).1, (start b).2)

/-- Reads the bytes to the end; a character left unfinished there becomes U+FFFD. -/
def read : Option Pending → List UInt8 → List Char
  | none, [] => []
  | some _, [] => [replacement]
  | none, b :: rest =>
    let (cs, pending) := start b.toNat
    cs ++ read pending rest
  | some p, b :: rest =>
    let (cs, pending) := p.next b.toNat
    cs ++ read pending rest

end Utf8

/-- The text that the bytes hold in UTF-8, with U+FFFD for each part that is not UTF-8. -/
def ofUtf8 (bytes : List UInt8) : String :=
  String.ofList (Utf8.read none bytes)

example : ofUtf8 (utf8 "a\u00e9\u65e5😀") = "a\u00e9\u65e5😀" := by decide
example : ofUtf8 [0xe2, 0x82, 0x61] = "\ufffda" := by decide
example : ofUtf8 [0xe0, 0x80, 0xaf] = "\ufffd\ufffd\ufffd" := by decide
example : ofUtf8 [0xf1, 0x80, 0x80, 0x41, 0xff] = "\ufffdA\ufffd" := by decide

end HttpRouting.Text
