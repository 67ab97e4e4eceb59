import QuorumBridge.Proofs.BigEndian
import QuorumBridge.Proofs.Bundles.Relay
import QuorumBridge.Proofs.Verification.Fault

/-!
# Messages and instructions

Messages of 116 bytes and instructions are the same thing.

An authority signs bytes and means an instruction. For that to be safe the
bytes must not be taken for another instruction, and the instruction must not
be written as other bytes, or there would be two names under which to collect
signatures for one transfer. Both follow from the widths. The fields have fixed
ones and nothing stands between them, so a message can be cut at the same
places whatever it says, and no field can reach into the next.

It is the length alone that this depends on, and it is asked for at every door.
A message of another length is turned down before anything is made of it: no
signature is looked at, no registry and nothing that is stored, so the answer
does not depend on them. All doors give the same answer.

## Main definitions

* `Instruction.Misfit`: A message is turned down at every door.
* `Instruction.Faithful`: Messages and instructions are the same thing.

## Theorems

* `Instruction.encode_injective`: Instructions have messages of their own.
* `Instruction.encode_of_decode`: A message is that of its instruction.
* `Instruction.decode_encode`: The instruction of a message comes back.
* `Instruction.misfit`: Wrong lengths are told at every door.
* `Bundles.Sound.message?_inj`: What is stored under two names is not one
  transfer.
* `Instruction.faithful_messages`: All of this, for all messages.
-/

namespace QuorumBridge

/-- An amount has the width of 32 bytes. -/
theorem Amount.fromBigEndian_bigEndian (a : Amount) :
    fromBigEndian (bigEndian 32 a.toNat) = a.toNat :=
  fromBigEndian_bigEndian_of_lt a.isLt

theorem Amount.bigEndian_inj {a b : Amount} (h : bigEndian 32 a.toNat = bigEndian 32 b.toNat) :
    a = b := by
  have hread := congrArg fromBigEndian h
  rw [Amount.fromBigEndian_bigEndian, Amount.fromBigEndian_bigEndian] at hread
  exact BitVec.eq_of_toNat_eq hread

namespace Instruction

/-- Instructions have messages of their own. A message is cut at the widths of
    the fields, and each piece determines its field. -/
theorem encode_injective : Function.Injective encode := by
  intro x y h
  unfold encode at h
  -- All fields but the last have a width of their own, and what is left is the last.
  rcases List.append_inj h (x.recipient.length_toList.trans y.recipient.length_toList.symm) with
    ⟨hrecipient, h⟩
  rcases List.append_inj h (by rw [length_bigEndian, length_bigEndian]) with ⟨hvalue, h⟩
  rcases List.append_inj h (x.transaction.length_toList.trans y.transaction.length_toList.symm)
    with ⟨htransaction, hgasPrice⟩
  cases x
  cases y
  rw [mk.injEq]
  exact ⟨Octets.toList_inj hrecipient, Amount.bigEndian_inj hvalue,
    Octets.toList_inj htransaction, Amount.bigEndian_inj hgasPrice⟩

/-- The bytes of a field are those of the amount that is read off them. -/
theorem bigEndian_ofNat {bytes : List UInt8} (h : bytes.length = 32) :
    bigEndian 32 (BitVec.ofNat 256 (fromBigEndian bytes)).toNat = bytes := by
  have hlt := fromBigEndian_lt bytes
  rw [h] at hlt
  have hexact : (BitVec.ofNat 256 (fromBigEndian bytes)).toNat = fromBigEndian bytes :=
    Nat.mod_eq_of_lt hlt
  have hback := bigEndian_fromBigEndian bytes
  rw [h] at hback
  rw [hexact, hback]

/-- A message is that of the instruction that it carries. -/
theorem encode_of_decode {message : List UInt8} {x : Instruction}
    (h : decode message = .ok x) : x.encode = message := by
  have hlength := (exists_decode_iff message).1 ⟨x, h⟩
  rw [decode, dif_pos hlength, Except.ok.injEq] at h
  rw [messageLength] at hlength
  -- The pieces between the cuts are the fields, and put together they are the message.
  have hvalue : ((message.drop 20).take 32).length = 32 := by
    rw [List.length_take, List.length_drop, hlength]
    rfl
  have hgasPrice : ((message.drop 84).take 32).length = 32 := by
    rw [List.length_take, List.length_drop, hlength]
    rfl
  have hlast : (message.drop 84).take 32 = message.drop 84 :=
    List.take_of_length_le (by rw [List.length_drop]; omega)
  have htransaction : message.drop 84 = (message.drop 52).drop 32 := by rw [List.drop_drop]
  have hrest : message.drop 52 = (message.drop 20).drop 32 := by rw [List.drop_drop]
  rw [← h, encode]
  simp only [field, List.drop_zero]
  rw [bigEndian_ofNat hvalue, bigEndian_ofNat hgasPrice, hlast]
  calc message.take 20 ++ ((message.drop 20).take 32 ++ ((message.drop 52).take 32 ++
        message.drop 84))
      = message.take 20 ++ ((message.drop 20).take 32 ++ message.drop 52) := by
        rw [htransaction, List.take_append_drop]
    _ = message.take 20 ++ message.drop 20 := by rw [hrest, List.take_append_drop]
    _ = message := List.take_append_drop 20 message

/-- The instruction of a message comes back. -/
theorem decode_encode (x : Instruction) : decode x.encode = .ok x := by
  rcases (exists_decode_iff x.encode).2 x.length_encode with ⟨y, hdecode⟩
  rw [hdecode, encode_injective (encode_of_decode hdecode)]

/-! ## Doors -/

theorem lengthRefusal_short {length : Nat} (h : length < 116) :
    lengthRefusal length = .messageTooShort length 116 :=
  if_pos h

theorem lengthRefusal_long {length : Nat} (h : 116 < length) :
    lengthRefusal length = .messageTooLong length 116 :=
  if_neg (Nat.lt_asymm h)

/-- A message is turned down at every door, and by the same answer whatever else
    is handed in with it or stored behind the door. -/
structure Misfit (message : List UInt8) (refusal : Refusal) : Prop where
  decode_eq : decode message = .error refusal
  checkLength_eq : checkLength message = .error refusal
  submit_eq : ∀ (book : Bundles) (registry : Registry) (signature : Signature)
    (claimed relayer : Address),
    book.submit registry signature message claimed relayer = (.error refusal, book)
  hasSigned_eq : ∀ (book : Bundles) (registry : Registry) (account : Address),
    book.hasSigned registry account message = .error refusal
  verify_eq : ∀ (registry : Registry) (signatures : List Signature),
    verify registry signatures message = .error refusal

/-- A message of a wrong length is a misfit, and its length is what is said. -/
theorem misfit {message : List UInt8} (h : message.length ≠ messageLength) :
    Misfit message (lengthRefusal message.length) := by
  have hcheck : checkLength message = .error (lengthRefusal message.length) := if_neg h
  -- Each way in checks the length before anything else.
  refine ⟨dif_neg h, hcheck, ?_, ?_, ?_⟩
  · intro book registry signature claimed relayer
    unfold Bundles.submit Bundles.accept
    rw [hcheck]
  · intro book registry account
    unfold Bundles.hasSigned
    rw [hcheck]
  · intro registry signatures
    exact verify_of_unverified (.length h)

end Instruction

/-- What is stored under two names is not one and the same transfer. -/
theorem Bundles.Sound.message?_inj {book : Bundles} {registry : Registry}
    (h : book.Sound registry) {hash other : Hash} {message stored : List UInt8} {x : Instruction}
    (hmessage : book.message? hash = some message) (hstored : book.message? other = some stored)
    (hx : Instruction.decode message = .ok x) (hother : Instruction.decode stored = .ok x) :
    hash = other := by
  have hnamed : ∀ name bytes, book.message? name = some bytes → messageHash bytes = name := by
    intro name bytes hfound
    rcases Option.map_eq_some_iff.1 hfound with ⟨collection, hget, rfl⟩
    exact (h name collection hget).named
  -- Both are the message of the one instruction, and a message has one name.
  rw [← hnamed hash message hmessage, ← hnamed other stored hstored,
    ← Instruction.encode_of_decode hx, ← Instruction.encode_of_decode hother]

namespace Instruction

/-- Messages of 116 bytes and instructions are the same thing. -/
structure Faithful : Prop where
  length_encode : ∀ x, (encode x).length = 116
  decode_encode : ∀ x, decode (encode x) = .ok x
  /-- Every message of the right length is that of some instruction. -/
  encode_decode : ∀ message, message.length = 116 →
    ∃ x, decode message = .ok x ∧ encode x = message
  /-- Shorter and longer ones are turned down at every door. -/
  short : ∀ message, message.length < 116 →
    Misfit message (.messageTooShort message.length 116)
  long : ∀ message, 116 < message.length → Misfit message (.messageTooLong message.length 116)
  injective : Function.Injective encode
  /-- After any submissions, messages stored under two names are two transfers. -/
  stored : ∀ registry submissions hash other message stored x,
    (Bundles.run registry .empty submissions).2.message? hash = some message →
      (Bundles.run registry .empty submissions).2.message? other = some stored →
        decode message = .ok x → decode stored = .ok x → hash = other

/-- Messages and instructions are the same thing. -/
theorem faithful_messages : Faithful where
  length_encode := length_encode
  decode_encode := decode_encode
  encode_decode := by
    intro message hlength
    rcases (exists_decode_iff message).2 hlength with ⟨x, hdecode⟩
    exact ⟨x, hdecode, encode_of_decode hdecode⟩
  short := by
    intro message hshort
    rw [← lengthRefusal_short hshort]
    exact misfit (Nat.ne_of_lt hshort)
  long := by
    intro message hlong
    rw [← lengthRefusal_long hlong]
    exact misfit (Nat.ne_of_gt hlong)
  injective := encode_injective
  stored := by
    intro registry submissions hash other message stored x hmessage hstored hx hother
    -- Two stored messages of one name are one, for their bytes are stored with it.
    have hsound := Bundles.run_sound (Bundles.sound_empty registry) submissions
    exact hsound.message?_inj hmessage hstored hx hother

end Instruction

end QuorumBridge
