import QuorumBridge.Refusal

/-!
# Transfer instructions

An instruction says that a value shall be paid to a recipient, which
transaction on the other ledger the value comes from, and at which gas price
its relayer is to be paid. Authorities sign an instruction as a message of
exactly 116 bytes: the four fields one after the other, numbers big-endian,
with no lengths and no separators. A message of another length is refused
before a field of it is read. Were bytes at the end allowed, two messages
could carry the same instruction and would be signed separately.

## Main definitions

* `Instruction`: The four fields.
* `Instruction.encode`: The message of an instruction.
* `Instruction.checkLength`: Whether a message has the right length.
* `Instruction.decode`: The instruction of a message.

## Theorems

* `Instruction.length_encode`: A message has 116 bytes.
* `Instruction.checkLength_eq_ok_iff`, `Instruction.exists_decode_iff`: Its
  length is all that decides whether a message is looked at.
-/

namespace QuorumBridge

/-- One movement of value between the ledgers. -/
structure Instruction where
  /-- The account to be paid. -/
  recipient : Address
  /-- The value that was locked for it. -/
  value : Amount
  /-- The transaction that locked it. -/
  transaction : Hash
  /-- The price of gas at which its relayer is paid. -/
  gasPrice : Amount
deriving DecidableEq

namespace Instruction

/-- The length of a message. -/
def messageLength : Nat := 116

/-- The message of an instruction. -/
def encode (x : Instruction) : List UInt8 :=
  x.recipient.toList ++ (bigEndian 32 x.value.toNat ++
    (x.transaction.toList ++ bigEndian 32 x.gasPrice.toNat))

/-- The widths of the fields add up to the length of a message. -/
@[simp] theorem length_encode (x : Instruction) : x.encode.length = messageLength := by
  simp only [encode, List.length_append, x.recipient.length_toList, x.transaction.length_toList,
    length_bigEndian, messageLength]

/-- What is said to a message of a wrong length. -/
def lengthRefusal (length : Nat) : Refusal :=
  if length < messageLength then .messageTooShort length messageLength
  else .messageTooLong length messageLength

/-- Refuses a message of a wrong length. -/
def checkLength (message : List UInt8) : Except Refusal Unit :=
  if message.length = messageLength then .ok () else .error (lengthRefusal message.length)

/-- Messages of the right length pass, and no others. -/
theorem checkLength_eq_ok_iff (message : List UInt8) :
    checkLength message = .ok () ↔ message.length = messageLength := by
  unfold checkLength
  by_cases h : message.length = messageLength
  · rw [if_pos h]
    exact ⟨fun _ => h, fun _ => rfl⟩
  · rw [if_neg h]
    exact ⟨fun hc => absurd hc (by simp only [reduceCtorEq, not_false_eq_true]),
      fun hc => absurd hc h⟩

/-- The `n` bytes of a byte string from a given place on. -/
def field (n start : Nat) (bytes : List UInt8) (h : start + n ≤ bytes.length) : Octets n :=
  ⟨(bytes.drop start).take n, by
    simp only [List.length_take, List.length_drop]
    omega⟩

/-- The instruction of a message. -/
def decode (message : List UInt8) : Except Refusal Instruction :=
  if h : message.length = messageLength then
    .ok {
      recipient := field 20 0 message (by simp only [messageLength] at h; omega)
      value := BitVec.ofNat 256 (fromBigEndian ((message.drop 20).take 32))
      transaction := field 32 52 message (by simp only [messageLength] at h; omega)
      gasPrice := BitVec.ofNat 256 (fromBigEndian ((message.drop 84).take 32)) }
  else .error (lengthRefusal message.length)

/-- A message of the right length carries an instruction, and no other does. -/
theorem exists_decode_iff (message : List UInt8) :
    (∃ x, decode message = .ok x) ↔ message.length = messageLength := by
  unfold decode
  by_cases h : message.length = messageLength
  · rw [dif_pos h]
    exact ⟨fun _ => h, fun _ => ⟨_, rfl⟩⟩
  · rw [dif_neg h]
    exact ⟨fun ⟨_, hc⟩ => absurd hc (by simp only [reduceCtorEq, not_false_eq_true]),
      fun hc => absurd hc h⟩

/-- The name of the message of an instruction. -/
def hash (x : Instruction) : Hash :=
  messageHash x.encode

end Instruction

end QuorumBridge
