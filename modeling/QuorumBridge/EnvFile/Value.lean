import QuorumBridge.Environment
import QuorumBridge.Text.Alphanumeric

/-!
# Values in an environment file

A value is text that ends at a blank. Between single quotes every character
stands for itself. Between double quotes blanks are text too. Outside of single
quotes a backslash escapes a quote, a dollar sign, a space or a backslash, or
makes a line feed of an `n`.

A dollar sign, outside of single quotes, begins the name of a variable: letters
and digits, or anything up to the closing brace if a brace follows it. The
value of the variable is put in its place, and nothing if it has none. The
character that ends a name without braces is text whatever it is, also a quote
or a blank, unless it is another dollar sign.

After the blank that ends a value there may be blanks and a comment.

## Main definitions

* `EnvFile.Reading`: What a reader of values is in the middle of.
* `EnvFile.ValueFault`: Why a text is no value.
* `EnvFile.value`: The value that a text stands for.
-/

namespace QuorumBridge

namespace EnvFile

/-- What a reader of values is in the middle of. `quoted` tells whether double
    quotes are open. -/
inductive Reading
  | text (quoted : Bool)
  /-- Single quotes. -/
  | literal
  /-- The place right after a backslash. -/
  | escape (quoted : Bool)
  | name (quoted : Bool) (read : List Char)
  | braced (quoted : Bool) (read : List Char)
  /-- The blanks after the value. -/
  | ended
deriving DecidableEq

/-- Why a text is no value. -/
inductive ValueFault
  /-- The character at this index may not stand there. -/
  | unexpected (index : Nat)
  /-- The text ends in quotes or in braces. -/
  | unclosed
deriving DecidableEq

/-- What is put in the place of a name. -/
def substitute (env : Environment) (name : List Char) : List Char :=
  (env.entryFrom? name).getD []

/-- The character that is meant by one behind a backslash, if that may stand
    there. -/
def unescape? (c : Char) : Option Char :=
  if c = '\\' ∨ c = '\'' ∨ c = '"' ∨ c = '$' ∨ c = ' ' then some c
  else if c = 'n' then some '\n'
  else none

/-- What a reader is in the middle of after a character of a text, and the text
    that the character stands for. -/
def readText (quoted : Bool) (c : Char) : Reading × List Char :=
  -- A dollar sign and a backslash mean the same inside of double quotes and outside.
  if c = '$' then (.name quoted [], [])
  else if c = '\\' then (.escape quoted, [])
  else if c = '"' then (.text !quoted, [])
  else if quoted then (.text true, [c])
  else if c = '\'' then (.literal, [])
  else if c = ' ' ∨ c = '\t' then (.ended, [])
  else (.text false, [c])

/-- What a reader is in the middle of after a character that follows a dollar
    sign and a part of a name, and the text that is thereby known. -/
def readName (env : Environment) (quoted : Bool) (read : List Char) (c : Char) :
    Reading × List Char :=
  if isAlphanumeric c then (.name quoted (read ++ [c]), [])
  else if c = '\x7b' ∧ read = [] then (.braced quoted [], [])
  else if c = '$' then (.name quoted [], substitute env read)
  -- The character after the name is taken as text without a second look.
  else (.text quoted, substitute env read ++ [c])

/-- Reads on from the character at an index. -/
def readValue (env : Environment) : Reading → Nat → List Char → Except ValueFault (List Char)
  | .text true, _, [] => .error .unclosed
  | .text false, _, [] => .ok []
  | .literal, _, [] => .error .unclosed
  | .escape true, _, [] => .error .unclosed
  -- A backslash at the end escapes nothing and is dropped.
  | .escape false, _, [] => .ok []
  | .name true _, _, [] => .error .unclosed
  | .name false read, _, [] => .ok (substitute env read)
  -- Unlike a name without braces, which the end of the text ends too.
  | .braced _ _, _, [] => .error .unclosed
  | .ended, _, [] => .ok []
  | .text quoted, index, c :: rest =>
    let next := readText quoted c
    (readValue env next.1 (index + 1) rest).map (next.2 ++ ·)
  | .literal, index, c :: rest =>
    if c = '\'' then readValue env (.text false) (index + 1) rest
    else (readValue env .literal (index + 1) rest).map (c :: ·)
  | .escape quoted, index, c :: rest =>
    match unescape? c with
    | some meant => (readValue env (.text quoted) (index + 1) rest).map (meant :: ·)
    | none => .error (.unexpected index)
  | .name quoted read, index, c :: rest =>
    let next := readName env quoted read c
    (readValue env next.1 (index + 1) rest).map (next.2 ++ ·)
  | .braced quoted read, index, c :: rest =>
    if c = '\x7d' then
      (readValue env (.text quoted) (index + 1) rest).map (substitute env read ++ ·)
    else readValue env (.braced quoted (read ++ [c])) (index + 1) rest
  | .ended, index, c :: rest =>
    if c = ' ' ∨ c = '\t' then readValue env .ended (index + 1) rest
    else if c = '#' then .ok []
    else .error (.unexpected index)

/-- The value that a text stands for. It begins outside of quotes. -/
def value (env : Environment) (text : List Char) : Except ValueFault (List Char) :=
  readValue env (.text false) 0 text

end EnvFile

end QuorumBridge
