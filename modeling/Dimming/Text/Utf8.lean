import Dimming.Text.Numeral

/-!
Eight-bit encoding of text. A run of bytes is cut into well-formed sequences and maximal
ill-formed parts: an ill-formed part is the longest beginning of a well-formed sequence,
or one byte that begins none. Strict reading refuses a run with an ill-formed part
and says where the first one is; lenient reading puts U+FFFD in its place.
-/

set_option autoImplicit false

namespace Dimming

namespace Utf8

/-- What a first byte announces: its own payload, the number of bytes that follow it and
the range of the first of these. -/
structure Lead where
  payload : Nat
  following : Nat
  low : Nat
  high : Nat

/-- Overlong forms, surrogates and values past 0x10FFFF are ruled out by the range of
the second byte. -/
def lead? (byte : UInt8) : Option Lead :=
  let value := byte.toNat
  if value < 0x80 then some ⟨value, 0, 0x80, 0xBF⟩
  else if value < 0xC2 then none
  else if value < 0xE0 then some ⟨value - 0xC0, 1, 0x80, 0xBF⟩
  else if value = 0xE0 then some ⟨0, 2, 0xA0, 0xBF⟩
  else if value = 0xED then some ⟨0xD, 2, 0x80, 0x9F⟩
  else if value < 0xF0 then some ⟨value - 0xE0, 2, 0x80, 0xBF⟩
  else if value = 0xF0 then some ⟨0, 3, 0x90, 0xBF⟩
  else if value < 0xF4 then some ⟨value - 0xF0, 3, 0x80, 0xBF⟩
  else if value = 0xF4 then some ⟨4, 3, 0x80, 0x8F⟩
  else none

/-- Reads the bytes that follow a first byte. No value means that they break off. -/
def readFollowing : Nat → Nat → Nat → Nat → List UInt8 → Option Nat × List UInt8
  | 0, _, _, value, bytes => (some value, bytes)
  | _ + 1, _, _, _, [] => (none, [])
  | following + 1, low, high, value, byte :: bytes =>
      if low ≤ byte.toNat ∧ byte.toNat ≤ high then
        readFollowing following 0x80 0xBF (value * 64 + (byte.toNat - 0x80)) bytes
      else (none, byte :: bytes)

/-- What makes a part ill-formed: its byte begins no sequence, the next byte does not go on
with it, or there is no next byte. -/
inductive Defect where
  | noStart
  | noContinuation
  | brokenOff
deriving DecidableEq

inductive Part where
  | point (point : CodePoint)
  | illFormed (bytes : List UInt8) (defect : Defect)

def partsWithin : Nat → List UInt8 → List Part
  | 0, _ => []
  | _ + 1, [] => []
  | fuel + 1, byte :: bytes =>
      match lead? byte with
      | none => .illFormed [byte] .noStart :: partsWithin fuel bytes
      | some lead =>
          let (value, rest) := readFollowing lead.following lead.low lead.high lead.payload bytes
          match value.bind CodePoint.ofNat? with
          | some point => .point point :: partsWithin fuel rest
          | none =>
              let part := byte :: bytes.take (bytes.length - rest.length)
              let defect : Defect := if rest.isEmpty then .brokenOff else .noContinuation
              .illFormed part defect :: partsWithin fuel rest

def parts (bytes : List UInt8) : List Part := partsWithin bytes.length bytes

def replacement : CodePoint := ⟨0xFFFD, by decide⟩

def decodeLenient (bytes : List UInt8) : Text :=
  (parts bytes).map fun
    | .point point => point
    | .illFormed _ _ => replacement

def encodePoint (point : CodePoint) : List UInt8 :=
  let value := point.value
  if value < 0x80 then [UInt8.ofNat value]
  else if value < 0x800 then [UInt8.ofNat (0xC0 + value / 64), UInt8.ofNat (0x80 + value % 64)]
  else if value < 0x10000 then
    [UInt8.ofNat (0xE0 + value / 4096), UInt8.ofNat (0x80 + value / 64 % 64),
      UInt8.ofNat (0x80 + value % 64)]
  else
    [UInt8.ofNat (0xF0 + value / 262144), UInt8.ofNat (0x80 + value / 4096 % 64),
      UInt8.ofNat (0x80 + value / 64 % 64), UInt8.ofNat (0x80 + value % 64)]

/-- A lone surrogate is written in three bytes, which strict reading refuses again. -/
def encode (text : Text) : List UInt8 := text.flatMap encodePoint

/-- The first ill-formed part of a run of bytes, with its offset. -/
structure Flaw where
  offset : Nat
  bytes : List UInt8
  defect : Defect
deriving DecidableEq

def join : Nat → List Part → Except Flaw Text
  | _, [] => .ok []
  | offset, .point point :: parts =>
      (join (offset + (encodePoint point).length) parts).map (point :: ·)
  | offset, .illFormed bytes defect :: _ => .error ⟨offset, bytes, defect⟩

def decode (bytes : List UInt8) : Except Flaw Text := join 0 (parts bytes)

namespace Flaw

def cause (flaw : Flaw) : Text :=
  match flaw.defect with
  | .noStart => "invalid start byte"
  | .noContinuation => "invalid continuation byte"
  | .brokenOff => "unexpected end of data"

/-- A single byte is shown, several are told by their offsets. -/
def place (flaw : Flaw) : Text :=
  match flaw.bytes with
  | [byte] =>
      "byte 0x" ++ Text.ofNatHex 2 byte.toNat ++ " in position " ++ Text.ofNat flaw.offset
  | bytes =>
      "bytes in position " ++ Text.ofNat flaw.offset ++ "-" ++
        Text.ofNat (flaw.offset + bytes.length - 1)

def message (flaw : Flaw) : Text :=
  "'utf-8' codec can't decode " ++ flaw.place ++ ": " ++ flaw.cause

end Flaw

end Utf8

end Dimming
