/-!
# JSON values and their written form

What the library writes as JSON and what it reads. Objects keep their members
in the order they were written, repeated names included: whether a repeated
name is a fault is for the reader of the object to say.

Two kinds of value are kept as they were met because nothing in the library
is told by them. A number that is no plain run of digits has only its literal.
A text that names one half of a surrogate pair stands for no text at all; it
may be passed over, but never read.

The written form is compact: no blank anywhere, and only those characters
escaped that must be.

## Main definitions

* `Json`: The values.
* `Json.chars`, `Json.render`: The compact written form.
* `Json.text?`, `Json.count?`: Reading a text or a count of 64 bits.
* `Json.fields?`: The values of known fields, from an object or from an array.
-/

namespace QuorumBridge

/-- The text of a JSON string. -/
inductive JsonString
  /-- A text. -/
  | plain (text : String)
  /-- The string names half of a surrogate pair and stands for no text. -/
  | halved
deriving DecidableEq

/-- A JSON value. -/
inductive Json
  | null
  | bool (value : Bool)
  /-- A number written as digits only. -/
  | natural (value : Nat)
  /-- Any other number, as it was written. -/
  | number (literal : List Char)
  | string (content : JsonString)
  | array (elements : List Json)
  | object (members : List (JsonString × Json))

namespace Json

/-- A text as a value. -/
def text (content : String) : Json :=
  .string (.plain content)

/-- An object with these members, in this order. -/
def record (members : List (String × Json)) : Json :=
  .object (members.map fun member => (.plain member.1, member.2))

/-- What is written for a character inside a string. -/
def escape (c : Char) : List Char :=
  if c = '"' then ['\\', '"']
  else if c = '\\' then ['\\', '\\']
  else if c = '\n' then ['\\', 'n']
  else if c = '\r' then ['\\', 'r']
  else if c = '\t' then ['\\', 't']
  else if c = '\x08' then ['\\', 'b']
  else if c = '\x0c' then ['\\', 'f']
  else if c.toNat < 0x20 then
    ['\\', 'u', '0', '0', Nat.digitChar (c.toNat / 16), Nat.digitChar (c.toNat % 16)]
  else [c]

/-- A string between its quotes. Half of a surrogate pair is written as one. -/
def quote : JsonString → List Char
  | .plain content => '"' :: (content.toList.flatMap escape ++ ['"'])
  | .halved => "\"\\ud800\"".toList

mutual

/-- The compact written form of a value. -/
def chars : Json → List Char
  | .null => "null".toList
  | .bool true => "true".toList
  | .bool false => "false".toList
  | .natural value => Nat.toDigits 10 value
  | .number literal => literal
  | .string content => quote content
  | .array elements => '[' :: (elementChars elements ++ [']'])
  | .object members => '\x7b' :: (memberChars members ++ ['\x7d'])

/-- Elements, with commas between them. -/
def elementChars : List Json → List Char
  | [] => []
  | [element] => chars element
  | element :: rest => chars element ++ ',' :: elementChars rest

/-- Members, with commas between them. -/
def memberChars : List (JsonString × Json) → List Char
  | [] => []
  | [(name, value)] => quote name ++ ':' :: chars value
  | (name, value) :: rest => quote name ++ ':' :: (chars value ++ ',' :: memberChars rest)

end

/-- The text of a JSON value. -/
def render (json : Json) : String :=
  String.ofList json.chars

/-- The text of a value that is one. -/
def text? : Json → Option String
  | .string (.plain content) => some content
  | _ => none

/-- The count of 64 bits that a value is. Counts have no sign, no fraction and
    no exponent, not even when these change nothing. -/
def count? : Json → Option Nat
  | .natural value => if value < UInt64.size then some value else none
  | _ => none

/-- The elements of a value that is an array. -/
def elements? : Json → Option (List Json)
  | .array elements => some elements
  | _ => none

/-- What an object says about one field: nothing, or one value. Two members of
    that name are a fault, since no rule says which of them counts. -/
def field? (members : List (JsonString × Json)) (name : String) : Option (Option Json) :=
  match members.filter (fun member => member.1 == .plain name) with
  | [] => some none
  | [member] => some (some member.2)
  | _ => none

/-- The values of known fields, in the order of their names, with nothing for a
    field that is not given. An object may hold other members too, as long as
    every name in it is a text. An array gives the first fields in order and
    nothing beyond them. -/
def fields? (names : List String) : Json → Option (List (Option Json))
  | .array elements =>
    if elements.length ≤ names.length then
      some (elements.map some ++ List.replicate (names.length - elements.length) none)
    else none
  | .object members =>
    if members.any (fun member => member.1 == .halved) then none
    else names.mapM (field? members)
  | _ => none

end Json

end QuorumBridge
