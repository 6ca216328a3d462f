import Mathlib.Tactic

/-!
# Unicode encodings of a JSON document

`json.loads` guesses the encoding of a byte string from its byte-order mark or from
the position of its zero bytes, and then decodes it.  Text is a list of Unicode
scalar values: an encoded lone surrogate is refused.
-/

namespace Portcullis.Lib.Encoding

abbrev Bytes := List UInt8

inductive Charset where
  | utf8
  | utf16 (bigEndian : Bool)
  | utf32 (bigEndian : Bool)
  deriving DecidableEq, Repr

/-- The encoding, and what follows the byte-order mark. -/
def detectEncoding : Bytes → Charset × Bytes
  | 0x00 :: 0x00 :: 0xFE :: 0xFF :: rest => (.utf32 true, rest)
  | 0xFF :: 0xFE :: 0x00 :: 0x00 :: rest => (.utf32 false, rest)
  | 0xFE :: 0xFF :: rest => (.utf16 true, rest)
  | 0xFF :: 0xFE :: rest => (.utf16 false, rest)
  | 0xEF :: 0xBB :: 0xBF :: rest => (.utf8, rest)
  | a :: b :: c :: d :: rest =>
    let all := a :: b :: c :: d :: rest
    if a = 0 then (if b ≠ 0 then .utf16 true else .utf32 true, all)
    else if b = 0 then (if c ≠ 0 ∨ d ≠ 0 then .utf16 false else .utf32 false, all)
    else (.utf8, all)
  | [a, b] => (if a = 0 then .utf16 true else if b = 0 then .utf16 false else .utf8, [a, b])
  | bytes => (.utf8, bytes)

/-- One octet at a time: `owed` continuation octets, the next of them between `low`
and `high`, complete the code point begun in `value`. -/
def decodeUtf8 (owed low high value : Nat) : List Nat → Option (List Char)
  | [] => if owed = 0 then some [] else none
  | octet :: rest =>
    if owed = 0 then
      if octet < 0x80 then
        (decodeUtf8 0 0x80 0xBF 0 rest).map (Char.ofNat octet :: ·)
      else if 0xC2 ≤ octet ∧ octet ≤ 0xDF then
        decodeUtf8 1 0x80 0xBF (octet - 0xC0) rest
      else if octet = 0xE0 then decodeUtf8 2 0xA0 0xBF 0 rest
      else if octet = 0xED then decodeUtf8 2 0x80 0x9F 0xD rest
      else if 0xE1 ≤ octet ∧ octet ≤ 0xEF then
        decodeUtf8 2 0x80 0xBF (octet - 0xE0) rest
      else if octet = 0xF0 then decodeUtf8 3 0x90 0xBF 0 rest
      else if 0xF1 ≤ octet ∧ octet ≤ 0xF3 then
        decodeUtf8 3 0x80 0xBF (octet - 0xF0) rest
      else if octet = 0xF4 then decodeUtf8 3 0x80 0x8F 4 rest
      else none
    else if low ≤ octet ∧ octet ≤ high then
      let grown := value * 64 + (octet - 0x80)
      if owed = 1 then (decodeUtf8 0 0x80 0xBF 0 rest).map (Char.ofNat grown :: ·)
      else decodeUtf8 (owed - 1) 0x80 0xBF grown rest
    else none

def units16 (bigEndian : Bool) : List Nat → Option (List Nat)
  | [] => some []
  | [_] => none
  | a :: b :: rest =>
    (units16 bigEndian rest).map ((if bigEndian then a * 256 + b else b * 256 + a) :: ·)

def units32 (bigEndian : Bool) : List Nat → Option (List Nat)
  | [] => some []
  | a :: b :: c :: d :: rest =>
    (units32 bigEndian rest).map ((if bigEndian then ((a * 256 + b) * 256 + c) * 256 + d
        else ((d * 256 + c) * 256 + b) * 256 + a) :: ·)
  | _ => none

def isHighSurrogate (unit : Nat) : Bool := 0xD800 ≤ unit && unit < 0xDC00

def isLowSurrogate (unit : Nat) : Bool := 0xDC00 ≤ unit && unit < 0xE000

def joinSurrogates (high low : Nat) : Nat :=
  0x10000 + (high - 0xD800) * 0x400 + (low - 0xDC00)

def decodeUnits16 : Option Nat → List Nat → Option (List Char)
  | none, [] => some []
  | some _, [] => none
  | none, unit :: rest =>
    if isHighSurrogate unit then decodeUnits16 (some unit) rest
    else if isLowSurrogate unit then none
    else (decodeUnits16 none rest).map (Char.ofNat unit :: ·)
  | some high, unit :: rest =>
    if isLowSurrogate unit then
      (decodeUnits16 none rest).map (Char.ofNat (joinSurrogates high unit) :: ·)
    else none

def decodeUnits32 : List Nat → Option (List Char)
  | [] => some []
  | unit :: rest =>
    if 0x110000 ≤ unit ∨ isHighSurrogate unit ∨ isLowSurrogate unit then none
    else (decodeUnits32 rest).map (Char.ofNat unit :: ·)

/-- `bytes.decode(detect_encoding(bytes))`. -/
def decode (bytes : Bytes) : Option (List Char) :=
  let (charset, payload) := detectEncoding bytes
  let octets := payload.map UInt8.toNat
  match charset with
  | .utf8 => decodeUtf8 0 0x80 0xBF 0 octets
  | .utf16 bigEndian => (units16 bigEndian octets).bind (decodeUnits16 none)
  | .utf32 bigEndian => (units32 bigEndian octets).bind decodeUnits32

/-- The bytes of an ASCII text. -/
def asciiBytes (text : String) : Bytes := text.toList.map fun char => char.toNat.toUInt8

example : decode (asciiBytes "ping") = some ['p', 'i', 'n', 'g'] := by decide

end Portcullis.Lib.Encoding
