import QuorumBridge.Keccak
import QuorumBridge.Text.Hex

/-!
# Addresses and hashes

An account is named by 20 bytes and a transaction or a message by 32. Where a
reader is addressed, an account is shown with a checksum in the case of its
letters: a letter is upper case when the digit at the same place of the hash
of the lower-case digits is at least 8. The digits themselves do not change,
so the checksum is lost on anyone who ignores case and harmless to them.

## Main definitions

* `Address`, `Hash`: The names of accounts, and of transactions and messages.
* `Address.checksummed`: An address with its checksum.
* `messageHash`: The name of a message.
-/

namespace QuorumBridge

/-- The name of an account. -/
abbrev Address := Octets 20

/-- The name of a transaction or a message. -/
abbrev Hash := Octets 32

namespace Address

/-- The address that no account has. -/
def zero : Address := Octets.zero 20

/-- A digit in the case that its weight asks for. -/
def weighted (digit : Char) (weight : Nat) : Char :=
  if 8 ≤ weight then digit.toUpper else digit

/-- The digits of an address in the case that its checksum asks for. -/
def checksumDigits (a : Address) : List Char :=
  let digits := Hex.encode a.toList
  let weights := (keccak256 (utf8 digits)).toList.flatMap fun byte =>
    [byte.toNat / 16, byte.toNat % 16]
  List.zipWith weighted digits weights

/-- An address with its checksum. -/
def checksummed (a : Address) : String :=
  String.ofList ('0' :: 'x' :: checksumDigits a)

end Address

/-- The name of a message: the hash of its bytes. -/
def messageHash (message : List UInt8) : Hash :=
  keccak256 message

end QuorumBridge
