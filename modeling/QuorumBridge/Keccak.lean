import QuorumBridge.Bytes.Octets

/-!
# Keccak-256

The hash under every identity in this library: messages are keyed by it,
signatures are made over it, and addresses are the tail of one.

The state is five rows of five 64-bit lanes. Each lane has a name, so the
five step mappings are written out lane by lane and nothing is looked up by
an index that could be out of range. `Row` collects what the steps do to a
whole row at once.

The sponge takes 136 bytes at a time. The padding is a single one bit after
the message and a single one bit at the end of the last block, which fall
into one byte when the message leaves room for just one.

## Main definitions

* `Keccak.State.permute`: The permutation, 24 rounds of the five steps.
* `Keccak.padding`: What is put behind a message of a given length.
* `keccak256`: The hash of a byte string.

## Theorems

* `Keccak.length_padding`: A padded message is a whole number of blocks.
-/

namespace QuorumBridge

namespace Keccak

/-- A lane turned left by `k` bits. -/
def rotate (lane k : UInt64) : UInt64 :=
  (lane <<< k) ||| (lane >>> (64 - k))

/-- Five lanes of one row, by their column. -/
structure Row where
  x0 : UInt64
  x1 : UInt64
  x2 : UInt64
  x3 : UInt64
  x4 : UInt64

namespace Row

/-- Lane by lane exclusive or. -/
def xor (r s : Row) : Row :=
  ⟨r.x0 ^^^ s.x0, r.x1 ^^^ s.x1, r.x2 ^^^ s.x2, r.x3 ^^^ s.x3, r.x4 ^^^ s.x4⟩

/-- Each lane turned by its own amount. -/
def rotate (r amounts : Row) : Row :=
  ⟨Keccak.rotate r.x0 amounts.x0, Keccak.rotate r.x1 amounts.x1,
    Keccak.rotate r.x2 amounts.x2, Keccak.rotate r.x3 amounts.x3,
    Keccak.rotate r.x4 amounts.x4⟩

/-- What a column sum adds to the columns beside it: each column receives the
    sum on its left and, turned by one, the sum on its right. -/
def spread (sums : Row) : Row :=
  ⟨sums.x4 ^^^ Keccak.rotate sums.x1 1, sums.x0 ^^^ Keccak.rotate sums.x2 1,
    sums.x1 ^^^ Keccak.rotate sums.x3 1, sums.x2 ^^^ Keccak.rotate sums.x4 1,
    sums.x3 ^^^ Keccak.rotate sums.x0 1⟩

/-- The one step that is not linear: each lane is flipped where the lane after
    it is clear and the one after that is set. -/
def chi (r : Row) : Row :=
  ⟨r.x0 ^^^ (~~~r.x1 &&& r.x2), r.x1 ^^^ (~~~r.x2 &&& r.x3),
    r.x2 ^^^ (~~~r.x3 &&& r.x4), r.x3 ^^^ (~~~r.x4 &&& r.x0),
    r.x4 ^^^ (~~~r.x0 &&& r.x1)⟩

end Row

/-- Five rows. -/
structure State where
  y0 : Row
  y1 : Row
  y2 : Row
  y3 : Row
  y4 : Row

namespace State

/-- The state of zero bits. -/
def zero : State :=
  let row : Row := ⟨0, 0, 0, 0, 0⟩
  ⟨row, row, row, row, row⟩

/-- Lane by lane exclusive or. -/
def xor (s t : State) : State :=
  ⟨s.y0.xor t.y0, s.y1.xor t.y1, s.y2.xor t.y2, s.y3.xor t.y3, s.y4.xor t.y4⟩

/-- Adds to every column the sums of the columns beside it. -/
def theta (s : State) : State :=
  let d := ((((s.y0.xor s.y1).xor s.y2).xor s.y3).xor s.y4).spread
  ⟨s.y0.xor d, s.y1.xor d, s.y2.xor d, s.y3.xor d, s.y4.xor d⟩

/-- Turns every lane by the amount of its place. -/
def rho (s : State) : State :=
  ⟨s.y0.rotate ⟨0, 1, 62, 28, 27⟩, s.y1.rotate ⟨36, 44, 6, 55, 20⟩,
    s.y2.rotate ⟨3, 10, 43, 25, 39⟩, s.y3.rotate ⟨41, 45, 15, 21, 8⟩,
    s.y4.rotate ⟨18, 2, 61, 56, 14⟩⟩

/-- Moves the lanes about: the lane at `(x, y)` goes to `(y, 2x + 3y)`. -/
def pi (s : State) : State :=
  ⟨⟨s.y0.x0, s.y1.x1, s.y2.x2, s.y3.x3, s.y4.x4⟩,
    ⟨s.y0.x3, s.y1.x4, s.y2.x0, s.y3.x1, s.y4.x2⟩,
    ⟨s.y0.x1, s.y1.x2, s.y2.x3, s.y3.x4, s.y4.x0⟩,
    ⟨s.y0.x4, s.y1.x0, s.y2.x1, s.y3.x2, s.y4.x3⟩,
    ⟨s.y0.x2, s.y1.x3, s.y2.x4, s.y3.x0, s.y4.x1⟩⟩

/-- Applies the step that is not linear to every row. -/
def chi (s : State) : State :=
  ⟨s.y0.chi, s.y1.chi, s.y2.chi, s.y3.chi, s.y4.chi⟩

/-- Adds the constant of the round to the first lane. -/
def iota (constant : UInt64) (s : State) : State :=
  { s with y0 := { s.y0 with x0 := s.y0.x0 ^^^ constant } }

/-- One round. -/
def round (s : State) (constant : UInt64) : State :=
  s.theta.rho.pi.chi.iota constant

/-- The constants of the 24 rounds. -/
def constants : List UInt64 :=
  [0x0000000000000001, 0x0000000000008082, 0x800000000000808A, 0x8000000080008000,
    0x000000000000808B, 0x0000000080000001, 0x8000000080008081, 0x8000000000008009,
    0x000000000000008A, 0x0000000000000088, 0x0000000080008009, 0x000000008000000A,
    0x000000008000808B, 0x800000000000008B, 0x8000000000008089, 0x8000000000008003,
    0x8000000000008002, 0x8000000000000080, 0x000000000000800A, 0x800000008000000A,
    0x8000000080008081, 0x8000000000008080, 0x0000000080000001, 0x8000000080008008]

/-- The permutation. -/
def permute (s : State) : State :=
  constants.foldl round s

/-- The state whose lanes, row by row, are those of the list, and zero where
    the list is too short. -/
def ofLanes (lanes : List UInt64) : State :=
  let row (k : Nat) : Row :=
    ⟨lanes.getD k 0, lanes.getD (k + 1) 0, lanes.getD (k + 2) 0, lanes.getD (k + 3) 0,
      lanes.getD (k + 4) 0⟩
  ⟨row 0, row 5, row 10, row 15, row 20⟩

end State

/-- Bytes absorbed per block. -/
def rate : Nat := 136

/-- The lane that eight bytes stand for, least significant byte first. -/
def laneOfBytes (bytes : List UInt8) : UInt64 :=
  bytes.foldr (fun byte lane => (lane <<< 8) ||| byte.toUInt64) 0

/-- The eight bytes of a lane, least significant first. -/
def laneBytes (lane : UInt64) : List UInt8 :=
  [lane.toUInt8, (lane >>> 8).toUInt8, (lane >>> 16).toUInt8, (lane >>> 24).toUInt8,
    (lane >>> 32).toUInt8, (lane >>> 40).toUInt8, (lane >>> 48).toUInt8, (lane >>> 56).toUInt8]

/-- The first `count` lanes of a byte string. -/
def lanesOfBytes : Nat → List UInt8 → List UInt64
  | 0, _ => []
  | count + 1, bytes => laneOfBytes (bytes.take 8) :: lanesOfBytes count (bytes.drop 8)

/-- What is put behind a message of `length` bytes to fill its last block. -/
def padding (length : Nat) : List UInt8 :=
  let room := rate - length % rate
  -- The two marks are the lowest bit of the first byte and the highest of the last.
  if room = 1 then [0x81] else 0x01 :: List.replicate (room - 2) 0 ++ [0x80]

/-- A padded message is a whole number of blocks, and at least one. -/
theorem length_padding (length : Nat) :
    length + (padding length).length = (length / rate + 1) * rate := by
  have hlt : length % rate < rate := Nat.mod_lt _ (by decide)
  have hdiv : rate * (length / rate) + length % rate = length := Nat.div_add_mod _ _
  unfold padding
  -- With room for a single byte the two marks share it. Either way the message ends where its
  -- last block does.
  by_cases hroom : rate - length % rate = 1
  · simp only [if_pos hroom, List.length_cons, List.length_nil]
    simp only [rate] at *
    omega
  · simp only [if_neg hroom, List.length_append, List.length_cons, List.length_replicate,
      List.length_nil]
    simp only [rate] at *
    omega

/-- Absorbs `blocks` blocks of a byte string, one after the other. -/
def absorb : Nat → State → List UInt8 → State
  | 0, s, _ => s
  | blocks + 1, s, bytes =>
    absorb blocks (s.xor (State.ofLanes (lanesOfBytes (rate / 8) bytes))).permute
      (bytes.drop rate)

/-- The first 32 bytes of a state. -/
def squeeze (s : State) : Octets 32 :=
  -- The hash is shorter than a block, so nothing is permuted once more.
  ⟨laneBytes s.y0.x0 ++ laneBytes s.y0.x1 ++ laneBytes s.y0.x2 ++ laneBytes s.y0.x3, rfl⟩

end Keccak

open Keccak in
/-- The Keccak-256 hash of a byte string. -/
def keccak256 (bytes : List UInt8) : Octets 32 :=
  squeeze (absorb (bytes.length / rate + 1) State.zero (bytes ++ padding bytes.length))

end QuorumBridge
