import QuorumBridge.Json
import QuorumBridge.Text.Hex

/-!
# The strings, numbers and words of a JSON text

Each reader takes the characters that remain and gives back what it read with
the characters after it. Strings and numbers are read along the text, so the
text is the measure.

A string is first taken to pieces, then the pieces are put together: two
escapes in a row may be the halves of one character beyond the basic plane. A
half on its own does not end the reading. The string is then marked as one
that stands for no text.

## Main definitions

* `Json.Token.skip`: What remains behind any space.
* `Json.Token.pieces`, `Json.Token.assemble`: The two steps of reading a string.
* `Json.Token.quoted`: A string, from behind its opening quote.
* `Json.Token.number`: A number.
* `Json.Token.word`: What remains behind a word.
-/

namespace QuorumBridge

namespace Json

namespace Token

/-- The four characters that may stand between the parts of a text. -/
def isSpace (c : Char) : Bool :=
  c = ' ' || c = '\n' || c = '\t' || c = '\r'

/-- What remains behind any space. -/
def skip (text : List Char) : List Char :=
  text.dropWhile isSpace

/-- The number that four hexadecimal digits stand for. -/
def unit? (a b c d : Char) : Option Nat := do
  let a ← Hex.value? a
  let b ← Hex.value? b
  let c ← Hex.value? c
  let d ← Hex.value? d
  return ((a * 16 + b) * 16 + c) * 16 + d

/-- The character that is meant by one behind a backslash, unless that is a `u`
    or may not stand there. -/
def escaped? (c : Char) : Option Char :=
  if c = '"' then some '"'
  else if c = '\\' then some '\\'
  else if c = '/' then some '/'
  else if c = 'b' then some '\x08'
  else if c = 'f' then some '\x0c'
  else if c = 'n' then some '\n'
  else if c = 'r' then some '\r'
  else if c = 't' then some '\t'
  else none

/-- A part of a string as it was written. -/
inductive Piece
  /-- A character, plain or by a one-letter escape. -/
  | char (c : Char)
  /-- Four hexadecimal digits: a character of the basic plane or half of one beyond it. -/
  | unit (value : Nat)

/-- The pieces of a string from behind its opening quote, and what remains
    behind its closing quote. -/
def pieces : List Char → Option (List Piece × List Char)
  | [] => none
  | '"' :: rest => some ([], rest)
  -- Has to come before the shorter escapes, of which `u` is none.
  | '\\' :: 'u' :: a :: b :: c :: d :: rest =>
    match unit? a b c d, pieces rest with
    | some value, some (read, behind) => some (.unit value :: read, behind)
    | _, _ => none
  | '\\' :: e :: rest =>
    match escaped? e, pieces rest with
    | some c, some (read, behind) => some (.char c :: read, behind)
    | _, _ => none
  | c :: rest =>
    -- A control has to be escaped.
    if c.toNat < 0x20 then none
    else
      match pieces rest with
      | some (read, behind) => some (.char c :: read, behind)
      | none => none

/-- Whether a unit is the first half of a pair. -/
def isHigh (unit : Nat) : Bool := 0xD800 ≤ unit && unit ≤ 0xDBFF

/-- Whether a unit is the second half of a pair. -/
def isLow (unit : Nat) : Bool := 0xDC00 ≤ unit && unit ≤ 0xDFFF

/-- The characters that the pieces make: two halves make one character, and a
    half on its own makes none. -/
def assemble : List Piece → Option (List Char)
  | [] => some []
  | .char c :: rest => (assemble rest).map (c :: ·)
  | .unit high :: .unit low :: rest =>
    if isHigh high && isLow low then
      (assemble rest).map (Char.ofNat (0x10000 + (high - 0xD800) * 0x400 + (low - 0xDC00)) :: ·)
    -- The second unit is looked at again: it may be the first half of the next pair.
    else if isHigh high || isLow high then none
    else (assemble (.unit low :: rest)).map (Char.ofNat high :: ·)
  | .unit value :: rest =>
    if isHigh value || isLow value then none
    else (assemble rest).map (Char.ofNat value :: ·)

/-- The content of a string with these pieces. -/
def content (read : List Piece) : JsonString :=
  match assemble read with
  | some chars => .plain (String.ofList chars)
  | none => .halved

/-- A string from behind its opening quote. -/
def quoted (text : List Char) : Option (JsonString × List Char) :=
  (pieces text).map fun read => (content read.1, read.2)

/-- A run of digits and what remains behind it. -/
def digits (text : List Char) : List Char × List Char :=
  (text.takeWhile Char.isDigit, text.dropWhile Char.isDigit)

/-- The fraction that a number may have. It has at least one digit. -/
def fraction : List Char → Option (List Char × List Char)
  | '.' :: rest =>
    match digits rest with
    | ([], _) => none
    | (ds, behind) => some ('.' :: ds, behind)
  | text => some ([], text)

/-- The sign that an exponent may have. -/
def sign : List Char → List Char × List Char
  | '+' :: rest => (['+'], rest)
  | '-' :: rest => (['-'], rest)
  | text => ([], text)

/-- The exponent that a number may have. It has at least one digit. -/
def exponent : List Char → Option (List Char × List Char)
  | [] => some ([], [])
  | c :: rest =>
    if c = 'e' ∨ c = 'E' then
      match digits (sign rest).2 with
      | ([], _) => none
      | (ds, behind) => some (c :: ((sign rest).1 ++ ds), behind)
    else some ([], c :: rest)

/-- The whole part of a number: one zero, or digits that start with no zero. -/
def whole (text : List Char) : Option (List Char × List Char) :=
  match digits text with
  | ([], _) => none
  -- A zero in front of further digits.
  | ('0' :: _ :: _, _) => none
  | (ds, behind) => some (ds, behind)

/-- A number without its sign: the whole part, then what may follow it. -/
def unsigned (text : List Char) : Option (List Char × List Char × List Char) := do
  let (ds, behind) ← whole text
  let (fs, behind) ← fraction behind
  let (es, behind) ← exponent behind
  return (ds, fs ++ es, behind)

/-- A number. -/
def number : List Char → Option (Json × List Char)
  | '-' :: rest =>
    (unsigned rest).map fun (ds, more, behind) => (.number ('-' :: (ds ++ more)), behind)
  | text => (unsigned text).map fun (ds, more, behind) =>
    -- Only digits alone are kept as a count. A sign, a fraction or an exponent makes it a number
    -- of another kind.
    if more.isEmpty then (.natural (Nat.ofDigitChars 10 ds 0), behind)
    else (.number (ds ++ more), behind)

/-- What remains behind a word, if the text starts with it. -/
def word : List Char → List Char → Option (List Char)
  | [], text => some text
  | w :: ws, c :: rest => if w = c then word ws rest else none
  | _ :: _, [] => none

end Token

end Json

end QuorumBridge
