/-
  Requests, as the library that reads them off the wire hands them over.

  A request has a method, a target and headers in order.  Nothing here is decided by a router; beside
  what is said of targets, two things are relied on:

  1. **Names** - a header is looked up by its name in any case, and the first of that name is found.

  2. **Values** - a value is a list of bytes.  It is given as a text if all of them are visible ASCII,
     blanks or tabs, and not at all otherwise.
-/
import HttpRouting.Message.Target
import HttpRouting.Text.Utf8

namespace HttpRouting

/-- A header of a request. -/
structure Header where
  /-- The name, in any case. -/
  name : String
  /-- The bytes of the value. -/
  value : List UInt8
deriving DecidableEq, Repr

namespace Header

/-- The header whose value is a text. -/
def ofText (name text : String) : Header := ⟨name, Text.utf8 text⟩

/-- Whether this is a Host header. -/
def isHost (header : Header) : Bool :=
  header.name.toList.map Char.toLower == "host".toList

end Header

/-- A request, as far as a router is concerned. -/
structure Request where
  /-- The method. -/
  method : String
  /-- The target. -/
  target : Target
  /-- The headers, in order. -/
  headers : List Header
deriving DecidableEq, Repr

namespace Request

/-- Whether a byte is visible ASCII, a blank or a tab. -/
def isFieldByte (b : UInt8) : Bool :=
  (0x20 ≤ b && b ≤ 0x7e) || b == 0x09

/-- The text of a header's value. -/
def fieldText? (value : List UInt8) : Option String :=
  if value.all isFieldByte then some (String.ofList (value.map fun b => Char.ofNat b.toNat))
  else none

/-- The value of the first Host header. -/
def hostField? (r : Request) : Option (List UInt8) :=
  (r.headers.find? Header.isHost).map Header.value

end Request

end HttpRouting
