import QuorumBridge.Secp256k1
import QuorumBridge.Signature

/-!
# From a signature to its signer

Nobody says who signed: the signer is computed from the signature and the
message. The scalar `r` is the first coordinate of a point, the parity picks
one of the two points that have it, and the key is a sum of multiples of that
point and the generator.

For every signature `(r, s)` there is another, `(r, n - s)` with the opposite
parity, that leads to the same key. Of the two, `normalize` keeps the one with
the smaller `s`, so both are one signature from there on.

What is signed is not the message but a digest of it, made so that no
signature over a message can pass for a signature over a transaction.

## Main definitions

* `Recovery.Scalars`: Two scalars and a parity.
* `Recovery.parity`: The parity that the last byte of a signature tells.
* `Recovery.Scalars.normalize`: The one of two equivalent signatures with the
  smaller scalar.
* `Recovery.digest`: What is signed for a message.
* `Signature.signer`: The signer of a message.
-/

namespace QuorumBridge

namespace Recovery

/-- The content of a signature: two scalars, and whether the point they are
    made from has an odd second coordinate. -/
structure Scalars where
  r : Nat
  s : Nat
  odd : Bool
deriving DecidableEq

/-- The parity that the last byte of a signature tells. The bytes from 35 on
    carry the number of a chain as well, which is left out of account. -/
def parity (byte : Nat) : Except SignatureFault Bool :=
  if byte ≤ 1 then .ok (byte == 1)
  else if byte = 27 ∨ byte = 28 then .ok (byte == 28)
  -- A chain takes two numbers, one for each parity.
  else if 35 ≤ byte then .ok ((byte - 35) % 2 == 1)
  else .error (.badParity byte)

/-- The scalars that the bytes of a signature stand for. -/
def scalars (signature : Signature) : Except SignatureFault Scalars :=
  match parity (fromBigEndian (signature.toList.drop 64)) with
  | .error fault => .error fault
  | .ok odd =>
    .ok {
      r := fromBigEndian (signature.toList.take 32)
      s := fromBigEndian ((signature.toList.drop 32).take 32)
      odd }

namespace Scalars

/-- The one of two equivalent signatures with the smaller second scalar. The
    difference is taken modulo `2 ^ 256`, so a scalar beyond the group order
    stays beyond it. -/
def normalize (x : Scalars) : Scalars :=
  if Secp256k1.n / 2 < x.s then
    { x with
      -- Opposite scalars go with opposite parities.
      s := (BitVec.ofNat 256 Secp256k1.n - BitVec.ofNat 256 x.s).toNat
      odd := !x.odd }
  else x

open Secp256k1 in
/-- The public key that made the signature over a digest, if any did. -/
def key? (x : Scalars) (digest : Nat) : Option (Nat × Nat) :=
  if x.r = 0 ∨ n ≤ x.r ∨ x.s = 0 ∨ n ≤ x.s then none
  else
    -- The point is the one of first coordinate `r`. One of `r + n` is not looked for.
    match Point.lift? x.r x.odd with
    | none => none
    | some point =>
      -- The key is the quotient by `r` of `s` times the point less the digest times the generator.
      let inverse := power n x.r (n - 2)
      let k := (n - digest % n * inverse % n) % n
      let l := x.s * inverse % n
      (Point.combine k Point.generator l point).affine?

end Scalars

/-- The address of a public key: the tail of the hash of its coordinates. -/
def address (key : Nat × Nat) : Address :=
  let hash := keccak256 (bigEndian 32 key.1 ++ bigEndian 32 key.2)
  ⟨hash.toList.drop 12, by simp only [List.length_drop, hash.length_toList]⟩

/-- What is signed for a message. -/
def digest (message : List UInt8) : Hash :=
  keccak256 (utf8 ("\x19Ethereum Signed Message:\n".toList ++ Nat.toDigits 10 message.length) ++
    message)

/-- The signer of a message, from the content of the signature. -/
def signer? (x : Scalars) (message : List UInt8) : Option Address :=
  (x.normalize.key? (fromBigEndian (digest message).toList)).map address

end Recovery

/-- The signer of a message, from the signature. -/
def Signature.signer (signature : Signature) (message : List UInt8) :
    Except SignatureFault Address :=
  match Recovery.scalars signature with
  | .error fault => .error fault
  | .ok scalars =>
    match Recovery.signer? scalars message with
    | some address => .ok address
    | none => .error .unrecoverable

end QuorumBridge
