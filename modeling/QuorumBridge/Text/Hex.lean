import QuorumBridge.Bytes.Octets

/-!
# Hexadecimal text

Bytes are written as two lower-case digits each, high half first. Reading
accepts either case and works on the bytes of the text, so that a fault can
name the byte and the byte position at which the text stops being
hexadecimal, also when that byte is a part of a longer character.

An odd number of bytes is reported before any digit is looked at: with one
digit missing no position could be called the wrong one.

## Main definitions

* `utf8`: The bytes of a text.
* `Hex.encode`: The digits of a byte string.
* `Hex.digit?`: The value of one digit.
* `Hex.decode`: The bytes that a run of digits stands for, or the fault.
* `Hex.ofNat`: A number in the fewest lower-case digits.
-/

namespace QuorumBridge

/-- The bytes of a text. -/
def utf8 (text : List Char) : List UInt8 :=
  text.flatMap String.utf8EncodeChar

namespace Hex

/-- The two digits of a byte, high half first. -/
def pair (byte : UInt8) : List Char :=
  [Nat.digitChar (byte.toNat / 16), Nat.digitChar (byte.toNat % 16)]

/-- The digits of a byte string. -/
def encode (bytes : List UInt8) : List Char :=
  bytes.flatMap pair

/-- The value of a digit of either case. -/
def value? (c : Char) : Option Nat :=
  if '0' ≤ c ∧ c ≤ '9' then some (c.toNat - '0'.toNat)
  else if 'a' ≤ c ∧ c ≤ 'f' then some (c.toNat - 'a'.toNat + 10)
  else if 'A' ≤ c ∧ c ≤ 'F' then some (c.toNat - 'A'.toNat + 10)
  else none

/-- The value of a byte that is an ASCII digit of either case. -/
def digit? (byte : UInt8) : Option Nat :=
  value? (Char.ofUInt8 byte)

/-- Why bytes are not the digits of other bytes. -/
inductive Fault
  /-- The last byte would have one digit only. -/
  | oddLength
  /-- The byte at this position is no digit, and all before it are. -/
  | badDigit (byte : UInt8) (position : Nat)
deriving DecidableEq

/-- Reads two digits at a time, counting positions from `position`. -/
def decodePairs (position : Nat) : List UInt8 → Except Fault (List UInt8)
  | [] => .ok []
  | [_] => .error .oddLength
  | high :: low :: rest =>
    match digit? high, digit? low with
    | none, _ => .error (.badDigit high position)
    | some _, none => .error (.badDigit low (position + 1))
    | some h, some l =>
      match decodePairs (position + 2) rest with
      | .error fault => .error fault
      | .ok bytes => .ok (UInt8.ofNat (16 * h + l) :: bytes)

/-- The byte string that the digits stand for. -/
def decode (digits : List UInt8) : Except Fault (List UInt8) :=
  -- The case of a single digit in `decodePairs` is for what this leaves out.
  if digits.length % 2 = 1 then .error .oddLength else decodePairs 0 digits

/-- A number in the fewest lower-case digits, zero as one digit. -/
def ofNat (value : Nat) : List Char :=
  Nat.toDigits 16 value

end Hex

namespace Octets

variable {n : Nat}

/-- The written form of a byte string: a marker and two digits per byte. -/
def hexChars (x : Octets n) : List Char :=
  '0' :: 'x' :: Hex.encode x.toList

/-- The digits of bytes as a text, behind a marker. -/
def hex (x : Octets n) : String :=
  String.ofList x.hexChars

end Octets

end QuorumBridge
