import PragmaAssist.Text.Basic

/-! UTF-8. A strict reading names the first fault with its place; a lossy one writes a
replacement character for each fault and goes on behind it. -/
namespace PragmaAssist

/-- A character whose encoding was read in part: `taken` bytes are read and `missing` ones must
follow, the next between `low` and `high`. -/
structure Unfinished where
  first : UInt8
  taken : Nat
  missing : Nat
  low : UInt8
  high : UInt8
  value : Nat

inductive Lead where
  | whole (c : Char)
  | part (p : Unfinished)
  | invalid

/-- The range of the second byte keeps out overlong forms, surrogates and what lies past the
last code point. -/
def Lead.ofByte (b : UInt8) : Lead :=
  if b < 0x80 then .whole (Char.ofNat b.toNat)
  else if b < 0xC2 then .invalid
  else if b < 0xE0 then .part ⟨b, 1, 1, 0x80, 0xBF, b.toNat - 0xC0⟩
  else if b < 0xF0 then
    .part ⟨b, 1, 2, if b = 0xE0 then 0xA0 else 0x80, if b = 0xED then 0x9F else 0xBF, b.toNat - 0xE0⟩
  else if b < 0xF5 then
    .part ⟨b, 1, 3, if b = 0xF0 then 0x90 else 0x80, if b = 0xF4 then 0x8F else 0xBF, b.toNat - 0xF0⟩
  else .invalid

def Unfinished.next (p : Unfinished) (b : UInt8) : Lead :=
  if p.low ≤ b ∧ b ≤ p.high then
    let value := p.value * 64 + (b.toNat - 0x80)
    if p.missing = 1 then .whole (Char.ofNat value)
    else .part ⟨p.first, p.taken + 1, p.missing - 1, 0x80, 0xBF, value⟩
  else .invalid

inductive Utf8Reason where
  | invalidStart | invalidContinuation | endOfData
  deriving DecidableEq

def Utf8Reason.message : Utf8Reason → Text
  | .invalidStart => "invalid start byte".toList
  | .invalidContinuation => "invalid continuation byte".toList
  | .endOfData => "unexpected end of data".toList

structure Utf8Fault where
  byte : UInt8
  position : Nat
  length : Nat
  reason : Utf8Reason
  deriving DecidableEq

def Utf8Fault.message (f : Utf8Fault) : Text :=
  (if f.length = 1 then
    "'utf-8' codec can't decode byte 0x".toList ++ Nat.toDigits 16 f.byte.toNat
      ++ " in position ".toList ++ Text.ofNat f.position
  else
    "'utf-8' codec can't decode bytes in position ".toList ++ Text.ofNat f.position
      ++ ['-'] ++ Text.ofNat (f.position + f.length - 1))
    ++ ": ".toList ++ f.reason.message

def replacement : Char := '\uFFFD'

namespace Text

def decodeFrom (n : Nat) : Option Unfinished → List UInt8 → Except Utf8Fault Text
  | none, [] => .ok []
  | some p, [] => .error ⟨p.first, n - p.taken, p.taken, .endOfData⟩
  | none, b :: r =>
    match Lead.ofByte b with
    | .whole c => (decodeFrom (n + 1) none r).map (c :: ·)
    | .part p => decodeFrom (n + 1) (some p) r
    | .invalid => .error ⟨b, n, 1, .invalidStart⟩
  | some p, b :: r =>
    match p.next b with
    | .whole c => (decodeFrom (n + 1) none r).map (c :: ·)
    | .part q => decodeFrom (n + 1) (some q) r
    | .invalid => .error ⟨p.first, n - p.taken, p.taken, .invalidContinuation⟩

def decode (bytes : List UInt8) : Except Utf8Fault Text := decodeFrom 0 none bytes

/-- Reads the bytes with a replacement character for each fault; a byte that breaks a
character off starts the next one. -/
def decodeLossyFrom : Option Unfinished → List UInt8 → Text
  | none, [] => []
  | some _, [] => [replacement]
  | none, b :: r =>
    match Lead.ofByte b with
    | .whole c => c :: decodeLossyFrom none r
    | .part p => decodeLossyFrom (some p) r
    | .invalid => replacement :: decodeLossyFrom none r
  | some p, b :: r =>
    match p.next b with
    | .whole c => c :: decodeLossyFrom none r
    | .part q => decodeLossyFrom (some q) r
    | .invalid => replacement ::
      match Lead.ofByte b with
      | .whole c => c :: decodeLossyFrom none r
      | .part q => decodeLossyFrom (some q) r
      | .invalid => replacement :: decodeLossyFrom none r

def decodeLossy (bytes : List UInt8) : Text := decodeLossyFrom none bytes

def encode (t : Text) : List UInt8 := t.flatMap String.utf8EncodeChar

end Text
end PragmaAssist
