import QuorumBridge.Json.Overrun
import QuorumBridge.Json.Shape

/-!
# Reading JSON

A reader takes the characters that remain and gives back the value it read
with the characters after it. Values inside values are counted down: every two
levels use up at least one character, so twice the length of the text is more
than any text can need.

The shape of the value that is expected goes along. It takes part in one
place only: an array with a known number of bytes ends behind the last of
them, by the rule for what may still stand there.

## Main definitions

* `Json.Reader.value`: Any value.
* `Json.Reader.elements`, `Json.Reader.members`: What stands in an array or an object.
* `Json.ofText?`: The value that a whole text stands for.
-/

namespace QuorumBridge

namespace Json

namespace Reader

open Token

mutual

/-- A value of which a shape is expected, with any space in front of it. -/
def value : Nat → Shape → List Char → Option (Json × List Char)
  | 0, _, _ => none
  | fuel + 1, shape, text =>
    match skip text with
    | [] => none
    | c :: rest =>
      if c = '"' then (quoted rest).map fun read => (.string read.1, read.2)
      else if c = '[' then
        -- An empty array or object has no first element to be read.
        match skip rest with
        | ']' :: behind => some (.array [], behind)
        | _ => (elements fuel shape rest).map fun read => (.array read.1, read.2)
      else if c = '\x7b' then
        match skip rest with
        | '\x7d' :: behind => some (.object [], behind)
        | _ => (members fuel shape rest).map fun read => (.object read.1, read.2)
      else if c = 'n' then (word "ull".toList rest).map fun behind => (.null, behind)
      else if c = 't' then (word "rue".toList rest).map fun behind => (.bool true, behind)
      else if c = 'f' then (word "alse".toList rest).map fun behind => (.bool false, behind)
      else Token.number (c :: rest)

/-- The elements of an array up to its closing bracket, at least one. -/
def elements : Nat → Shape → List Char → Option (List Json × List Char)
  | 0, _, _ => none
  | fuel + 1, shape, text =>
    match value fuel shape.first text with
    | none => none
    | some (first, behind) =>
      -- All bytes are there: what follows is closed by the rule of its own.
      if shape.rest.isFull then (Overrun.close behind).map fun rest => ([first], rest)
      else
        match skip behind with
        | ',' :: rest => (elements fuel shape.rest rest).map fun read => (first :: read.1, read.2)
        | ']' :: rest => some ([first], rest)
        | _ => none

/-- The members of an object up to its closing brace, at least one. -/
def members : Nat → Shape → List Char → Option (List (JsonString × Json) × List Char)
  | 0, _, _ => none
  | fuel + 1, shape, text =>
    match skip text with
    | '"' :: rest =>
      match quoted rest with
      | none => none
      | some (name, behind) =>
        match skip behind with
        | ':' :: rest =>
          -- Of a name that is given twice both members are kept; who looks for the field refuses
          -- them.
          match value fuel (shape.member name) rest with
          | none => none
          | some (first, behind) =>
            match skip behind with
            | ',' :: rest =>
              (members fuel shape rest).map fun read => ((name, first) :: read.1, read.2)
            | '\x7d' :: rest => some ([(name, first)], rest)
            | _ => none
        | _ => none
    | _ => none

end

end Reader

/-- The value that the characters stand for, with nothing but space behind it. -/
def ofChars? (shape : Shape) (chars : List Char) : Option Json :=
  match Reader.value (2 * chars.length + 2) shape chars with
  | some (value, behind) => if Token.skip behind = [] then some value else none
  | none => none

/-- The value that a whole text stands for, where one of this shape is expected. -/
def ofText? (shape : Shape) (text : String) : Option Json :=
  ofChars? shape text.toList

end Json

end QuorumBridge
