import QuorumBridge.Json
import QuorumBridge.Text.Hex

/-!
# Amounts

Values, prices and fees are whole numbers below `2 ^ 256`. Plain addition and
subtraction of amounts wrap around, as they do on the ledgers themselves; where
a sum may not wrap, `add?` refuses it instead.

An amount is written in two ways. In a message to a reader it is decimal. In
JSON it is `0x` and the fewest hexadecimal digits. Reading JSON is freer than
writing it: a plain count is taken as it is, and a text may use one of four
bases, told by a marker, with underscores between the digits and any number
of zeros in front. A text without digits is zero.

## Main definitions

* `Amount`: A whole number below `2 ^ 256`.
* `Amount.limit`: The first number that is none.
* `Amount.add?`: The sum, unless it passes the limit.
* `Amount.decimal`, `Amount.hex`: The two written forms.
* `Amount.ofText?`, `Amount.ofJson?`: Reading one.
-/

namespace QuorumBridge

/-- A whole number below `2 ^ 256`. -/
abbrev Amount := BitVec 256

namespace Amount

/-- The largest amount. -/
def max : Amount := BitVec.allOnes 256

/-- The first number that is no amount. -/
def limit : Nat := max.toNat + 1

/-- Every amount is below the limit. -/
theorem toNat_lt_limit (a : Amount) : a.toNat < limit := by
  have hlt := a.isLt
  unfold limit max
  rw [BitVec.toNat_allOnes]
  omega

/-- The amount of this many units, if it is one. -/
def ofNat? (value : Nat) : Option Amount :=
  if value < limit then some (BitVec.ofNat 256 value) else none

/-- The sum of two amounts, unless it passes the limit. -/
def add? (a b : Amount) : Option Amount :=
  ofNat? (a.toNat + b.toNat)

/-- The product of two amounts, unless it passes the limit. -/
def mul? (a b : Amount) : Option Amount :=
  ofNat? (a.toNat * b.toNat)

/-- The decimal digits of an amount. -/
def decimal (a : Amount) : String :=
  toString a.toNat

/-- The characters of the shortest hexadecimal form, after a marker. -/
def hexChars (a : Amount) : List Char :=
  '0' :: 'x' :: Hex.ofNat a.toNat

/-- The hexadecimal form of an amount. -/
def hex (a : Amount) : String :=
  String.ofList (hexChars a)

/-- An amount in JSON: the text of its hexadecimal form. -/
def toJson (a : Amount) : Json :=
  .text (hex a)

/-- The value of a digit below `base`. -/
def digit? (base : Nat) (c : Char) : Option Nat :=
  (Hex.value? c).filter (· < base)

/-- The number that the digits stand for, `value` being that of the digits so
    far. Underscores stand for nothing. -/
def readDigits (base : Nat) : Nat → List Char → Option Nat
  | value, [] => some value
  | value, c :: rest =>
    -- An underscore may stand anywhere behind the marker, also at the end.
    if c = '_' then readDigits base value rest
    else
      match digit? base c with
      | none => none
      | some d => readDigits base (value * base + d) rest

/-- The number that a text stands for, in the base that its marker tells. -/
def readNat? : List Char → Option Nat
  | '0' :: 'x' :: rest => readDigits 16 0 rest
  | '0' :: 'X' :: rest => readDigits 16 0 rest
  | '0' :: 'o' :: rest => readDigits 8 0 rest
  | '0' :: 'O' :: rest => readDigits 8 0 rest
  | '0' :: 'b' :: rest => readDigits 2 0 rest
  | '0' :: 'B' :: rest => readDigits 2 0 rest
  -- A marker without digits behind it, or an empty text, is read as zero.
  | text => readDigits 10 0 text

/-- The amount that a text stands for, in any base that a marker may name. -/
def ofText? (text : String) : Option Amount :=
  (readNat? text.toList).bind ofNat?

/-- The amount that a JSON value stands for: a count of 64 bits, or a text. -/
def ofJson? (json : Json) : Option Amount :=
  match json.count? with
  -- A count that does not fit 64 bits is none, and is not read as a text either.
  | some value => ofNat? value
  | none => json.text?.bind ofText?

end Amount

end QuorumBridge
