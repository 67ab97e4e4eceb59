import Mathlib.Algebra.GroupWithZero.Nat
import Mathlib.Data.List.Induction
import QuorumBridge.Bytes.Octets

/-!
# Numbers as bytes

A number of a fixed width and its bytes determine each other.

Two things could be lost on the way from a number to its bytes and back. A
number beyond the width loses its high bytes, which is why the first law has a
remainder in it. Bytes with zeros in front stand for the same number as those
without, and only the width, which is the number of bytes, brings the zeros
back.

Both laws are proved from the last byte on. Writing puts it behind the bytes of
the quotient, so reading is taken apart at the same place
(`fromBigEndian_append_singleton`), although it goes through the bytes from the
front.

## Theorems

* `fromBigEndian_bigEndian`: What is read is what was written, up to the width.
* `fromBigEndian_lt`: Bytes stand for a number of their width.
* `bigEndian_fromBigEndian`: Bytes are those of the number they stand for.
-/

namespace QuorumBridge

theorem fromBigEndian_append_singleton (bytes : List UInt8) (byte : UInt8) :
    fromBigEndian (bytes ++ [byte]) = fromBigEndian bytes * 256 + byte.toNat := by
  unfold fromBigEndian
  rw [List.foldl_append, List.foldl_cons, List.foldl_nil]

/-- What is read is what was written, up to the width. -/
theorem fromBigEndian_bigEndian (n value : Nat) :
    fromBigEndian (bigEndian n value) = value % 256 ^ n := by
  induction n generalizing value with
  | zero => rw [Nat.pow_zero, Nat.mod_one, bigEndian, fromBigEndian, List.foldl_nil]
  | succ k ih =>
    -- The last byte is the remainder by 256; the bytes before it write the quotient.
    have hbyte : (UInt8.ofNat (value % 256)).toNat = value % 256 :=
      UInt8.toNat_ofNat_of_lt' (Nat.mod_lt value (by decide))
    rw [bigEndian, fromBigEndian_append_singleton, ih, hbyte, Nat.pow_succ,
      Nat.mul_comm (256 ^ k) 256, Nat.mod_mul]
    omega

/-- Bytes stand for a number of their width. -/
theorem fromBigEndian_lt (bytes : List UInt8) : fromBigEndian bytes < 256 ^ bytes.length := by
  induction bytes using List.reverseRecOn with
  | nil => decide
  | append_singleton front byte ih =>
    have hbyte : byte.toNat < 256 := byte.toNat_lt
    rw [fromBigEndian_append_singleton, List.length_append, List.length_singleton, Nat.pow_succ]
    omega

/-- Bytes are those of the number that they stand for, zeros in front included. -/
theorem bigEndian_fromBigEndian (bytes : List UInt8) :
    bigEndian bytes.length (fromBigEndian bytes) = bytes := by
  induction bytes using List.reverseRecOn with
  | nil => rfl
  | append_singleton front byte ih =>
    -- A byte is below the base, so division by 256 separates it from the bytes in front.
    have hbyte : byte.toNat < 256 := byte.toNat_lt
    have hfront : (fromBigEndian front * 256 + byte.toNat) / 256 = fromBigEndian front := by omega
    have hlast : (fromBigEndian front * 256 + byte.toNat) % 256 = byte.toNat := by omega
    rw [List.length_append, List.length_singleton, bigEndian, fromBigEndian_append_singleton,
      hfront, hlast, ih, UInt8.ofNat_toNat]

/-- A number of the width is what its bytes stand for. -/
theorem fromBigEndian_bigEndian_of_lt {n value : Nat} (h : value < 256 ^ n) :
    fromBigEndian (bigEndian n value) = value := by
  rw [fromBigEndian_bigEndian, Nat.mod_eq_of_lt h]

end QuorumBridge
