/-!
# Reading a decimal count

A count is written as decimal digits with at most one plus sign in front. It
must stay below a limit, and the text is read from the left: a character that
is no digit is reported where it is met, unless the digits before it have
already passed the limit.

## Main definitions

* `Decimal.Fault`: Why a text is no count.
* `Decimal.parse`: The count that a text stands for.
-/

namespace QuorumBridge

namespace Decimal

/-- Why a text is no number, or too large a one. -/
inductive Fault
  | empty
  | invalidDigit
  | tooLarge
deriving DecidableEq

/-- What is said about a fault. -/
def Fault.message : Fault → String
  | .empty => "cannot parse integer from empty string"
  | .invalidDigit => "invalid digit found in string"
  | .tooLarge => "number too large to fit in target type"

/-- Reads the digits that remain, `value` being that of the digits so far. -/
def parseDigits (limit : Nat) : Nat → List Char → Except Fault Nat
  | value, [] => .ok value
  | value, c :: rest =>
    if c.isDigit then
      let next := value * 10 + (c.toNat - '0'.toNat)
      -- The limit is looked at with every digit, so a later bad character is not met.
      if next < limit then parseDigits limit next rest else .error .tooLarge
    else .error .invalidDigit

/-- The count below `limit` that a text stands for. A plus sign is allowed in
    front of the digits, but not in place of them. -/
def parse (limit : Nat) : List Char → Except Fault Nat
  | [] => .error .empty
  -- A sign alone is a bad digit, not an empty text.
  | ['+'] => .error .invalidDigit
  | '+' :: rest => parseDigits limit 0 rest
  | text => parseDigits limit 0 text

end Decimal

end QuorumBridge
