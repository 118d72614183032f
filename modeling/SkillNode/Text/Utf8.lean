import SkillNode.Text.Basic

/-!
# UTF-8

How a text becomes bytes and bytes become a text. Only shortest forms are
admitted, and surrogates are not. Decoding stops at the first byte that cannot be
decoded; what is wrong there can be said.
-/

namespace SkillNode

/-- The bytes of a file. -/
abbrev Bytes := List UInt8

namespace Text

/-- The decoded beginning of a file, and whether all of it could be decoded. -/
structure Decoded where
  text : Text
  whole : Bool
  deriving DecidableEq, Repr

/-- Put a character before decoded text. -/
def Decoded.push (c : Char) (decoded : Decoded) : Decoded := ⟨c :: decoded.text, decoded.whole⟩

/-- Everything was decoded. -/
def Decoded.finished : Decoded := ⟨[], true⟩

/-- The next byte could not be decoded. -/
def Decoded.stopped : Decoded := ⟨[], false⟩

/-- The bytes of a character in UTF-8. -/
def utf8Of (c : Char) : Bytes :=
  let code := c.toNat
  if code < 0x80 then
    [code.toUInt8]
  else if code < 0x800 then
    [(0xC0 + code / 64).toUInt8, (0x80 + code % 64).toUInt8]
  else if code < 0x10000 then
    [(0xE0 + code / 4096).toUInt8, (0x80 + code / 64 % 64).toUInt8, (0x80 + code % 64).toUInt8]
  else
    [(0xF0 + code / 262144).toUInt8, (0x80 + code / 4096 % 64).toUInt8,
      (0x80 + code / 64 % 64).toUInt8, (0x80 + code % 64).toUInt8]

/-- The bytes of a text in UTF-8. -/
def utf8 (text : Text) : Bytes := text.flatMap utf8Of

/-- The payload of a byte that continues a character. -/
def continuation? (byte : UInt8) : Option Nat :=
  if 0x80 ≤ byte && byte < 0xC0 then some (byte.toNat - 0x80) else none

/-- The character of a code point that lies in a range and is no surrogate. -/
def charWithin? (least code : Nat) : Option Char :=
  if least ≤ code && code.isValidChar then some (Char.ofNat code) else none

/-- Decode UTF-8, shortest forms only. -/
def decodeUtf8 : Bytes → Decoded
  | [] => .finished
  | first :: rest =>
      if first < 0x80 then
        (decodeUtf8 rest).push (Char.ofNat first.toNat)
      else if 0xC0 ≤ first && first < 0xE0 then
        match rest with
        | second :: rest =>
            match (continuation? second).bind fun low =>
                charWithin? 0x80 ((first.toNat - 0xC0) * 64 + low) with
            | some c => (decodeUtf8 rest).push c
            | none => .stopped
        | [] => .stopped
      else if 0xE0 ≤ first && first < 0xF0 then
        match rest with
        | second :: third :: rest =>
            match (continuation? second).bind fun middle => (continuation? third).bind fun low =>
                charWithin? 0x800 ((first.toNat - 0xE0) * 4096 + middle * 64 + low) with
            | some c => (decodeUtf8 rest).push c
            | none => .stopped
        | _ => .stopped
      else if 0xF0 ≤ first && first < 0xF8 then
        match rest with
        | second :: third :: fourth :: rest =>
            match (continuation? second).bind fun high => (continuation? third).bind fun middle =>
                (continuation? fourth).bind fun low =>
                charWithin? 0x10000
                  ((first.toNat - 0xF0) * 262144 + high * 4096 + middle * 64 + low) with
            | some c => (decodeUtf8 rest).push c
            | none => .stopped
        | _ => .stopped
      else
        .stopped

/-! ## What is wrong -/

/-- Why bytes are not UTF-8. -/
inductive Utf8Reason
  | invalidStart
  | invalidContinuation
  | unexpectedEnd
  deriving DecidableEq, Repr

/-- The words for a reason. -/
def Utf8Reason.text : Utf8Reason → Text
  | .invalidStart => "invalid start byte"
  | .invalidContinuation => "invalid continuation byte"
  | .unexpectedEnd => "unexpected end of data"

/-- The bytes that cannot be decoded: how many come before them, the first of them,
their number, and the reason. -/
structure Utf8Fault where
  offset : Nat
  first : UInt8
  length : Nat
  reason : Utf8Reason
  deriving DecidableEq, Repr

/-- What is said of bytes that cannot be decoded. -/
def Utf8Fault.message (fault : Utf8Fault) : Text :=
  let place : Text :=
    if fault.length = 1 then
      "byte 0x" ++ hexadecimal 2 fault.first.toNat ++ " in position " ++ ofNat fault.offset
    else
      "bytes in position " ++ ofNat fault.offset ++ "-" ++
        ofNat (fault.offset + fault.length - 1)
  "'utf-8' codec can't decode " ++ place ++ ": " ++ fault.reason.text

/-- Whether a byte may follow a first byte. The first of the continuation bytes is
bound more tightly where a shorter form, a surrogate or no code point would
result. -/
def continues (first second : UInt8) : Bool :=
  (0x80 ≤ second && second < 0xC0) &&
    !(first = 0xE0 && second < 0xA0) && !(first = 0xED && 0xA0 ≤ second) &&
    !(first = 0xF0 && second < 0x90) && !(first = 0xF4 && 0x90 ≤ second)

/-- Number of bytes that a first byte announces, none if it starts no character. -/
def announcedLength? (first : UInt8) : Option Nat :=
  if first < 0x80 then some 1
  else if first < 0xC2 then none
  else if first < 0xE0 then some 2
  else if first < 0xF0 then some 3
  else if first < 0xF5 then some 4
  else none

/-- Number of bytes at the start of some that continue a character. -/
def continuationCount (bytes : Bytes) : Nat :=
  (bytes.takeWhile fun byte => 0x80 ≤ byte && byte < 0xC0).length

/-- What is wrong at the start of bytes that cannot be decoded, and the number of
bytes at fault. -/
def faultAtStart (first : UInt8) (rest : Bytes) : Nat × Utf8Reason :=
  match announcedLength? first with
  | none => (1, .invalidStart)
  | some announced =>
      match rest with
      | [] => (1, .unexpectedEnd)
      | second :: later =>
          if continues first second then
            let given := 2 + min (continuationCount later) (announced - 2)
            (given, if given = rest.length + 1 then .unexpectedEnd else .invalidContinuation)
          else
            (1, .invalidContinuation)

/-- The text of bytes in UTF-8, or what is wrong with them. -/
def ofUtf8 (bytes : Bytes) : Except Utf8Fault Text :=
  let decoded := decodeUtf8 bytes
  let offset := (utf8 decoded.text).length
  match decoded.whole, bytes.drop offset with
  | false, first :: rest =>
      let (length, reason) := faultAtStart first rest
      .error ⟨offset, first, length, reason⟩
  | _, _ => .ok decoded.text

end Text
end SkillNode
