/-!
# Byte strings of a fixed length

Addresses, hashes and signatures are byte strings whose length never varies,
so the length is part of the type: a function that takes an `Octets 32` has no
branch for a hash of the wrong size. Numbers of a fixed width travel as
big-endian byte strings, and the two conversions live here too.

## Main definitions

* `Octets`: A byte string with its length in the type.
* `Octets.ofList?`: Reading one from a list of bytes, if the length is right.
* `bigEndian`: The low bytes of a number, most significant first.
* `fromBigEndian`: The number a big-endian byte string stands for.

## Theorems

* `Octets.toList_inj`: A byte string is determined by its bytes.
* `Octets.ofList?_toList`: The bytes of a byte string read back as it.
* `length_bigEndian`: The width asked for is the width written.
-/

namespace QuorumBridge

/-- A byte string of `n` bytes. -/
structure Octets (n : Nat) where
  /-- The bytes, first byte first. -/
  toList : List UInt8
  /-- There are exactly `n` of them. -/
  length_toList : toList.length = n
deriving DecidableEq

namespace Octets

variable {n : Nat}

/-- Two byte strings with the same bytes are the same, since the length is a
    fact about the bytes. -/
theorem toList_inj {x y : Octets n} (h : x.toList = y.toList) : x = y := by
  cases x
  cases y
  simp only at h
  subst h
  rfl

/-- The byte string with these bytes, if there are `n` of them. -/
def ofList? (n : Nat) (bytes : List UInt8) : Option (Octets n) :=
  if h : bytes.length = n then some ⟨bytes, h⟩ else none

@[simp] theorem ofList?_toList (x : Octets n) : ofList? n x.toList = some x := by
  unfold ofList?
  rw [dif_pos x.length_toList]

/-- The byte string of `n` zero bytes. -/
def zero (n : Nat) : Octets n :=
  ⟨List.replicate n 0, List.length_replicate⟩

end Octets

/-- The low `n` bytes of `value`, most significant first. The last byte is the
    remainder by 256 and the bytes before it are those of the quotient. -/
def bigEndian : Nat → Nat → List UInt8
  | 0, _ => []
  | n + 1, value => bigEndian n (value / 256) ++ [UInt8.ofNat (value % 256)]

/-- As many bytes are written as were asked for. -/
@[simp] theorem length_bigEndian (n value : Nat) : (bigEndian n value).length = n := by
  induction n generalizing value with
  | zero => rfl
  | succ k ih => simp only [bigEndian, List.length_append, ih, List.length_cons, List.length_nil]

/-- The number whose bytes these are, the first one counting most. -/
def fromBigEndian (bytes : List UInt8) : Nat :=
  bytes.foldl (fun value byte => value * 256 + byte.toNat) 0

end QuorumBridge
