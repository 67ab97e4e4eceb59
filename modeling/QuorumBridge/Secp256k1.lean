/-!
# The curve secp256k1

Points `(x, y)` with `y² = x³ + 7` over the field of `p` elements, and the
group they form together with a point at infinity. Authorities sign on this
curve, and a signature leads back to the signer's key by a sum of two
multiples of points.

Field elements are natural numbers below `p`. Points are kept as `(x, y, z)`
standing for `(x / z², y / z³)`, so that adding two of them needs no division;
`z = 0` is the point at infinity. Only when a key is read off at the end is
there one division, by the power `p - 2`.

Powers and multiples run over a list of bits, most significant first. The list
is the measure, so neither has a bound to be guessed.

## Main definitions

* `power`: A power modulo a number.
* `Point.add`: The sum of two points.
* `Point.combine`: The sum of multiples of two points.
* `Point.lift?`: The point with a given first coordinate and parity.
* `Point.affine?`: The two coordinates of a point.
-/

namespace QuorumBridge

namespace Secp256k1

/-- The number of field elements. -/
def p : Nat := 0xFFFFFFFFFFFFFFFFFFFFFFFFFFFFFFFFFFFFFFFFFFFFFFFFFFFFFFFEFFFFFC2F

/-- The number of points, the one at infinity included. -/
def n : Nat := 0xFFFFFFFFFFFFFFFFFFFFFFFFFFFFFFFEBAAEDCE6AF48A03BBFD25E8CD0364141

/-- The 256 bits of a number, most significant first. -/
def bits (value : Nat) : List Bool :=
  (List.range 256).reverse.map value.testBit

/-- `base` to the power of `exponent` (below `2 ^ 256`), modulo `modulus`. -/
def power (modulus base exponent : Nat) : Nat :=
  (bits exponent).foldl
    (fun value bit =>
      let square := value * value % modulus
      if bit then square * base % modulus else square)
    1

/-- The difference of two field elements. -/
def sub (a b : Nat) : Nat := (a + (p - b % p)) % p

/-- A point, as `(x / z², y / z³)`, or the point at infinity if `z = 0`. -/
structure Point where
  x : Nat
  y : Nat
  z : Nat

namespace Point

/-- The point at infinity. -/
def infinity : Point := ⟨1, 1, 0⟩

/-- The agreed point whose multiples are the public keys. -/
def generator : Point :=
  ⟨0x79BE667EF9DCBBAC55A06295CE870B07029BFCDB2DCE28D959F2815B16F81798,
    0x483ADA7726A3C4655DA4FBFC0E1108A8FD17B448A68554199C47D08FFB10D4B8, 1⟩

/-- A point and itself. No point other than infinity has `y = 0`, the number of
    points being odd. -/
def double (a : Point) : Point :=
  if a.z = 0 then a
  else
    let yy := a.y * a.y % p
    let s := 4 * a.x * yy % p
    let m := 3 * a.x * a.x % p
    let x := sub (m * m) (2 * s)
    let y := sub (m * sub s x) (8 * yy * yy)
    ⟨x, y, 2 * a.y * a.z % p⟩

/-- The sum of two points. -/
def add (a b : Point) : Point :=
  if a.z = 0 then b
  else if b.z = 0 then a
  else
    let aa := a.z * a.z % p
    let bb := b.z * b.z % p
    let u := a.x * bb % p
    let s := a.y * (bb * b.z % p) % p
    let h := sub (b.x * aa) u
    let r := sub (b.y * (aa * a.z % p)) s
    if h = 0 then
      -- The first coordinates agree: the points are the same or opposite.
      if r = 0 then a.double else infinity
    else
      let hh := h * h % p
      let hhh := hh * h % p
      let v := u * hh % p
      let x := sub (r * r) (hhh + 2 * v)
      ⟨x, sub (r * sub v x) (s * hhh), a.z * b.z * h % p⟩

/-- `k` times `a` and `l` times `b` together. Both multiples are built by
    doubling, and the doublings are shared. -/
def combine (k : Nat) (a : Point) (l : Nat) (b : Point) : Point :=
  let both := a.add b
  (List.zip (bits k) (bits l)).foldl
    (fun sum digits =>
      let sum := sum.double
      match digits with
      | (true, true) => sum.add both
      | (true, false) => sum.add a
      | (false, true) => sum.add b
      | (false, false) => sum)
    infinity

/-- The point whose first coordinate is `x` and whose second is odd or even as
    asked, if there is one. Since `p` leaves 3 modulo 4, a square has the power
    `(p + 1) / 4` for a root. -/
def lift? (x : Nat) (odd : Bool) : Option Point :=
  let square := (x * x * x + 7) % p
  let root := power p square ((p + 1) / 4)
  if x < p ∧ root * root % p = square then
    some ⟨x, if root % 2 = (if odd then 1 else 0) then root else (p - root) % p, 1⟩
  else none

/-- The two coordinates of a point, or nothing at infinity. -/
def affine? (a : Point) : Option (Nat × Nat) :=
  if a.z = 0 then none
  else
    let inverse := power p a.z (p - 2)
    let square := inverse * inverse % p
    some (a.x * square % p, a.y * (square * inverse % p) % p)

end Point

end Secp256k1

end QuorumBridge
