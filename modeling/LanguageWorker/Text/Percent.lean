import LanguageWorker.Text.Bytes

namespace LanguageWorker.Text

/-! Percent-encoding of the path part of a URI. -/

/-- A digit in upper-case hexadecimal. -/
def upperHexDigit (digit : Nat) : Char :=
  if digit < 10 then Char.ofNat ('0'.toNat + digit)
  else Char.ofNat ('A'.toNat + (digit - 10))

/-- The three characters that stand for a byte. -/
def percentByte (byte : UInt8) : List Char :=
  ['%', upperHexDigit (byte.toNat / 16), upperHexDigit (byte.toNat % 16)]

/-- The characters of a path that a URI cannot hold as they are: the space and
the control characters, all that is not ASCII, and ten marks. -/
def needsPercent (character : Char) : Bool :=
  character.toNat ≤ 0x20 || 0x7F ≤ character.toNat ||
    ['"', '#', '%', '<', '>', '?', '\x60', '\x7b', '\x7d', '\\'].contains character

/-- A path as a URI holds it. -/
def percentEncoded (path : String) : String :=
  String.ofList <| path.toList.flatMap fun character =>
    if needsPercent character then (String.utf8EncodeChar character).flatMap percentByte
    else [character]

example : percentEncoded "/a b/é.ts" = "/a%20b/%C3%A9.ts" := by decide

end LanguageWorker.Text
