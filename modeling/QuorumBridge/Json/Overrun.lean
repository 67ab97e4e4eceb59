import QuorumBridge.Json.Token

/-!
# Behind the last byte of an array

An array that stands for a byte string has a known length. Behind its last
byte the reader tries to read one byte more, only to see that there is none.
The attempt ends in one of three ways. It finds the closing bracket, which
ends the array. It finds a byte, and the array is too long. Or it fails, and
then it counts for nothing: the array is good if its bracket stands where the
attempt stopped.

So the place where an attempt stops is what matters, and it stops as soon as
it is clear that no byte can come of it. A comma too many does no harm, nor
does a word, a text or a number beyond a byte, nor the beginning of one that
breaks off right before the bracket. An array or an object does, because the
attempt stops in front of its opening bracket.

An attempt reads the bytes in which the text is encoded. The byte that it
fails on may be the first of a longer character. It then stops inside that
character, where no bracket can stand.

## Main definitions

* `Json.Overrun.dropBytes`: What remains behind a number of bytes.
* `Json.Overrun.word`, `Json.Overrun.number`, `Json.Overrun.string`: Where an
  attempt stops that meets a word, a number or a text.
* `Json.Overrun.attempt`: Where an attempt at one more byte stops.
* `Json.Overrun.close`: What remains behind an array that has all its bytes.

## Theorems

* `Json.Overrun.close_bracket`: A bracket right behind the last byte closes the array.
-/

namespace QuorumBridge

namespace Json

namespace Overrun

open Token

/-- What remains behind this many bytes, if a character ends with them. -/
def dropBytes : Nat → List Char → Option (List Char)
  | 0, text => some text
  | _ + 1, [] => none
  | count + 1, c :: rest =>
    -- Inside a character there is no place to go on from.
    if c.utf8Size ≤ count + 1 then dropBytes (count + 1 - c.utf8Size) rest else none

/-- Where an attempt stops that has to read the rest of a word: behind its last
    letter, or behind the first byte that differs. -/
def word : List Char → List Char → Option (List Char)
  | [], text => some text
  | _ :: _, [] => none
  | w :: ws, c :: rest => if w = c then word ws rest else dropBytes 1 (c :: rest)

/-- The greatest exponent that is kept as a number. -/
def maxExponent : Nat := 2147483647

/-- Where an attempt stops in the digits of an exponent, of which `value` has
    been read: behind the last of them. A number that is out of all range is
    not read to its end, though: `isHuge` tells that a greater exponent makes a
    greater number, and then the digit that exceeds the greatest exponent is
    the last one read. -/
def exponentDigits (isHuge : Bool) : Nat → List Char → List Char
  | _, [] => []
  | value, c :: rest =>
    if c.isDigit then
      if value * 10 + (c.toNat - '0'.toNat) ≤ maxExponent then
        exponentDigits isHuge (value * 10 + (c.toNat - '0'.toNat)) rest
      -- The value is settled as out of range, and the attempt gives up at this digit.
      else if isHuge then rest
      else (digits rest).2
    else c :: rest

/-- Where an attempt stops in an exponent, from behind its letter. It takes a
    digit behind the sign, and stops behind any other byte there. -/
def exponent (isZero : Bool) (text : List Char) : Option (List Char) :=
  match (sign text).2 with
  | [] => none
  | c :: rest =>
    if c.isDigit then
      some (exponentDigits (!isZero && (sign text).1 != ['-']) (c.toNat - '0'.toNat) rest)
    else dropBytes 1 (c :: rest)

/-- Where an attempt stops behind the digits of a number that may have an exponent. -/
def scaled (isZero : Bool) : List Char → Option (List Char)
  | [] => some []
  | c :: rest => if c = 'e' ∨ c = 'E' then exponent isZero rest else some (c :: rest)

/-- Where an attempt stops behind the whole part of a number. A point without a
    digit behind it ends the attempt. -/
def fractional (isZero : Bool) : List Char → Option (List Char)
  | '.' :: rest =>
    match digits rest with
    | ([], behind) => some behind
    | (ds, behind) => scaled (isZero && ds.all (· = '0')) behind
  | text => scaled isZero text

/-- Where an attempt stops in a number, from behind its sign if it has one. A
    zero ends the whole part, so the attempt ends in front of a further digit. -/
def number : List Char → Option (List Char)
  | [] => none
  | c :: rest =>
    if c = '0' then
      match digits rest with
      | ([], _) => fractional true rest
      | _ => some rest
    else if c.isDigit then fractional false (digits rest).2
    else dropBytes 1 (c :: rest)

/-- Where an attempt stops in a string, from behind its opening quote: behind
    the closing quote, or behind the first thing that no text can hold. Such
    are a control, an escape that means nothing, and half of a character
    without its other half. `afterHigh` tells that the last escape was a first
    half, so that only an escape for a second one may follow. -/
def string (afterHigh : Bool) : List Char → Option (List Char)
  | [] => none
  | '\\' :: 'u' :: a :: b :: c :: d :: rest =>
    match unit? a b c d with
    | none => dropBytes 4 (a :: b :: c :: d :: rest)
    -- A second half where one is due, or any other unit where none is.
    | some unit => if isLow unit = afterHigh then string (isHigh unit) rest else some rest
  | '\\' :: 'u' :: rest => dropBytes 4 rest
  | '\\' :: rest =>
    match afterHigh, rest with
    | false, e :: behind =>
      if (escaped? e).isSome then string false behind else dropBytes 1 (e :: behind)
    | _, rest => dropBytes 1 rest
  | c :: rest =>
    if c = '"' ∨ c.toNat < 0x20 then some rest
    else if afterHigh then dropBytes 1 (c :: rest)
    else string false rest

/-- Whether a text begins with a number that is a byte. -/
def isByte (text : List Char) : Bool :=
  match Token.number text with
  | some (.natural value, _) => value < 256
  | _ => false

/-- Where an attempt at one more byte stops, and nothing if it finds one. -/
def attempt : List Char → Option (List Char)
  | [] => none
  | c :: rest =>
    if c = '"' then string false rest
    else if c = 'n' then word "ull".toList rest
    else if c = 't' then word "rue".toList rest
    else if c = 'f' then word "alse".toList rest
    else if c = '-' then number rest
    -- Here there is a byte too many. Any other number ends the attempt behind it.
    else if isByte (c :: rest) then none
    else if c.isDigit then number (c :: rest)
    else some (c :: rest)

/-- What remains behind the bracket that a text begins with. -/
def bracket : List Char → Option (List Char)
  | ']' :: rest => some rest
  | _ => none

/-- What remains behind an array, from behind the last byte that it is to have. -/
def close (text : List Char) : Option (List Char) :=
  match skip text with
  | ',' :: rest => (attempt (skip rest)).bind fun behind => bracket (skip behind)
  | text => bracket text

/-- A bracket right behind the last byte closes the array. -/
theorem close_bracket (rest : List Char) : close (']' :: rest) = some rest := by
  rw [close, skip, List.dropWhile_cons_of_neg (by decide)]
  rfl

end Overrun

end Json

end QuorumBridge
