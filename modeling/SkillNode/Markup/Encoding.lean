import SkillNode.Text.Utf8

/-!
# Encodings

How the bytes of a document become characters: UTF-8 and UTF-16 by their rules,
Latin-1 and ASCII byte by byte, any other encoding by a converter that comes from
outside; and how a document shows which of them it is in. Decoding stops at the
first byte that the encoding does not admit and says so.
-/

namespace SkillNode
namespace Markup

open Text (Decoded decodeUtf8)

/-! ## Encodings of fixed width -/

/-- Decode bytes that each stand for the code point of their value. -/
def decodeLatin1 (bytes : Bytes) : Decoded := ⟨bytes.map fun byte => Char.ofNat byte.toNat, true⟩

/-- Decode bytes of ASCII. -/
def decodeAscii : Bytes → Decoded
  | [] => .finished
  | byte :: rest =>
      if byte < 0x80 then (decodeAscii rest).push (Char.ofNat byte.toNat) else .stopped

/-- The two-byte units of bytes, given which byte comes first. -/
def units16 (littleEndian : Bool) : Bytes → List Nat
  | first :: second :: rest =>
      (if littleEndian then
        first.toNat + 256 * second.toNat
      else
        256 * first.toNat + second.toNat) :: units16 littleEndian rest
  | _ => []

/-- Decode units of UTF-16. -/
def decodeUnits16 : List Nat → Decoded
  | [] => .finished
  | unit :: rest =>
      if 0xD800 ≤ unit && unit < 0xDC00 then
        match rest with
        | low :: rest =>
            if 0xDC00 ≤ low && low < 0xE000 then
              (decodeUnits16 rest).push
                (Char.ofNat (0x10000 + (unit - 0xD800) * 1024 + (low - 0xDC00)))
            else
              .stopped
        | [] => .stopped
      else if 0xDC00 ≤ unit && unit < 0xE000 then
        .stopped
      else
        (decodeUnits16 rest).push (Char.ofNat unit)

/-! ## Choice of encoding -/

/-- The encodings that documents may be in. -/
inductive Encoding
  | utf8
  | utf16 (littleEndian : Bool)
  | latin1
  | ascii
  /-- An encoding of a name for which there is a converter. -/
  | other (name : Text)
  deriving DecidableEq, Repr

/-- The converters that there are beside the known encodings: by the name of an encoding, how bytes
in it become characters. The characters of ASCII stand for themselves in each of them. -/
abbrev Converters := Text → Option (Bytes → Decoded)

/-- No converters. -/
def Converters.none : Converters := fun _ => .none

/-- Decode bytes in an encoding. -/
def Encoding.decode (encoding : Encoding) (bytes : Bytes) (converters : Converters := .none) :
    Decoded :=
  match encoding with
  | .utf8 => decodeUtf8 bytes
  | .utf16 littleEndian => decodeUnits16 (units16 littleEndian bytes)
  | .latin1 => decodeLatin1 bytes
  | .ascii => decodeAscii bytes
  | .other name => ((converters name).map fun convert => convert bytes).getD .stopped

/-- The encoding that a byte order mark or the shape of the first bytes gives
away, and the bytes after the mark. -/
def sniff : Bytes → Option Encoding × Bytes
  | 0xEF :: 0xBB :: 0xBF :: rest => (some .utf8, rest)
  | 0xFF :: 0xFE :: rest => (some (.utf16 true), rest)
  | 0xFE :: 0xFF :: rest => (some (.utf16 false), rest)
  | 0x3C :: 0x00 :: 0x3F :: 0x00 :: rest =>
      (some (.utf16 true), 0x3C :: 0x00 :: 0x3F :: 0x00 :: rest)
  | 0x00 :: 0x3C :: 0x00 :: 0x3F :: rest =>
      (some (.utf16 false), 0x00 :: 0x3C :: 0x00 :: 0x3F :: rest)
  | bytes => (none, bytes)

/-- The names of UTF-8, in capitals. -/
def utf8Names : List Text := ["UTF-8", "UTF8"]

/-- The names of Latin-1, in capitals. -/
def latin1Names : List Text :=
  ["ISO-8859-1", "ISO8859-1", "ISO_8859-1", "ISO88591", "LATIN1", "LATIN-1", "L1", "ISO-LATIN-1",
    "ISO-IR-100", "IBM819", "CP819"]

/-- The names of ASCII, in capitals. -/
def asciiNames : List Text := ["US-ASCII", "ASCII", "ISO646-US", "ANSI_X3.4-1968", "CP367"]

/-- The names of UTF-16, in capitals. A document in it shows so by its first bytes; one that does
not must not declare it. -/
def utf16Names : List Text := ["UTF-16", "UTF16"]

/-- The encoding that a document may declare by name, in letters of any case. -/
def Encoding.ofName? (name : Text) (converters : Converters := .none) : Option Encoding :=
  let upper := name.map Char.toUpper
  if utf8Names.contains upper then
    some .utf8
  else if latin1Names.contains upper then
    some .latin1
  else if asciiNames.contains upper then
    some .ascii
  else if utf16Names.contains upper then
    none
  else
    (converters name).map fun _ => .other name

end Markup
end SkillNode
