import QuorumBridge.EnvFile.Line
import QuorumBridge.EnvFile.Value
import QuorumBridge.Text.Hex

/-!
# Environment files

An environment file holds one binding on a line: a name, an equals sign and a
value, with blanks around each as one likes. A name has ASCII letters, digits,
underscores and periods, and begins with a letter or an underscore. The word
`export` in front of a binding changes nothing, and may itself be bound. Empty
lines and comments are passed over.

A file is read line by line, and every binding defines its variable before the
next line is read. So a value may name the variables of earlier lines, a
variable that already has a text keeps it, and a line that cannot be read leaves
the variables of the lines before it set. If a variable cannot be set to its
value, the program crashes there and then.

A fault names the text that cannot be read and a place in it. If there is no
binding at all, this is the whole line and the number of bytes read. If the
value is at fault, it is the text of the value and the index of a character.
If something is left open at the end, it is a number of bytes again.

## Main definitions

* `EnvFile.Fault`: Why a line cannot be read.
* `EnvFile.Stop`: Why a file is not read to its end.
* `EnvFile.Cursor`: A place in a line.
* `EnvFile.read`: The binding on a line.
* `EnvFile.apply`: The environment after a file was read.
-/

namespace QuorumBridge

namespace EnvFile

/-- Why a line cannot be read. -/
inductive Fault
  /-- The text is no binding, which shows at a position in it. -/
  | unparsed (text : List Char) (position : Nat)
  /-- There is no getting at the text. -/
  | io (message : String)
deriving DecidableEq

/-- What is said about a fault, and about its causes. -/
def Fault.chain : Fault → List String
  | .unparsed text position =>
    [s!"Error parsing line: '{String.ofList text}', error at line index: {position}"]
  -- The cause of such a fault has the same text once more.
  | .io message => [message, message]

/-- Why a file is not read to its end. -/
inductive Stop
  | fault (fault : Fault)
  /-- The variable of this name cannot be set to its value. The program crashes. -/
  | crash (name : String)
deriving DecidableEq

/-- A place in a line: the bytes before it and the characters from there. -/
structure Cursor where
  position : Nat
  rest : List Char
deriving DecidableEq

/-- Whether a character may begin a name. -/
def isNameStart (c : Char) : Bool :=
  c.isAlpha || c == '_'

/-- Whether a character may stand in a name. -/
def isNamePart (c : Char) : Bool :=
  c.isAlphanum || c == '_' || c == '.'

namespace Cursor

/-- The place after the blanks here. -/
def skipBlanks (cursor : Cursor) : Cursor where
  position := cursor.position + (utf8 (cursor.rest.takeWhile isBlank)).length
  rest := cursor.rest.dropWhile isBlank

/-- The name here and the place after it. -/
def name? (cursor : Cursor) : Option (List Char × Cursor) :=
  if cursor.rest.head?.any isNameStart then
    let name := cursor.rest.takeWhile isNamePart
    some (name, ⟨cursor.position + name.length, cursor.rest.dropWhile isNamePart⟩)
  else none

/-- The place after the equals sign here. -/
def equals? (cursor : Cursor) : Option Cursor :=
  match cursor.rest with
  | '=' :: rest => some ⟨cursor.position + 1, rest⟩
  | _ => none

/-- The name here that has an equals sign after it, and the place after that.
    Otherwise the position where this shows. -/
def bound (cursor : Cursor) : Except Nat (List Char × Cursor) :=
  match cursor.name? with
  | none => .error cursor.position
  | some (name, after) =>
    match after.skipBlanks.equals? with
    | some value => .ok (name, value)
    | none => .error after.skipBlanks.position

/-- The same, with the word `export` allowed in front. -/
def exported (cursor : Cursor) : Except Nat (List Char × Cursor) :=
  match cursor.bound, cursor.name? with
  | .ok found, _ => .ok found
  | .error position, some (name, after) =>
    -- `export` may be a name itself, if an equals sign follows it.
    if name = "export".toList then after.skipBlanks.bound else .error position
  | .error position, none => .error position

/-- Whether nothing but a comment follows. -/
def isOver (cursor : Cursor) : Bool :=
  cursor.rest.isEmpty || cursor.rest.head? == some '#'

end Cursor

/-- The value of a text, or the fault in it. -/
def readBound (env : Environment) (text : List Char) : Except Fault (List Char) :=
  match value env text with
  | .ok meant => .ok meant
  | .error (.unexpected index) => .error (.unparsed text index)
  -- Of what is left open the last byte is told.
  | .error .unclosed => .error (.unparsed text ((utf8 text).length - 1))

/-- The name and the value that a line binds, if it binds any. -/
def readLine (env : Environment) (line : List Char) : Except Fault (Option (String × String)) :=
  let start := Cursor.skipBlanks ⟨0, trimRight line⟩
  if start.isOver then .ok none
  else
    -- Faults in front of the value are told by the whole line.
    match start.exported with
    | .error position => .error (.unparsed line position)
    | .ok (name, after) =>
      let after := after.skipBlanks
      -- A name without a value is bound to the empty text.
      if after.isOver then .ok (some (String.ofList name, ""))
      else
        match readBound env after.rest with
        | .error fault => .error fault
        | .ok meant => .ok (some (String.ofList name, String.ofList meant))

/-- The name and the value that a line binds, if the line is complete. -/
def read (env : Environment) : Line → Except Fault (Option (String × String))
  | .complete text => readLine env text
  | .unfinished text => .error (.unparsed text (utf8 text).length)

/-- The environment after the lines before the first one that cannot be applied,
    and why that one cannot. -/
def applyLines (env : Environment) : List Line → Environment × Option Stop
  | [] => (env, none)
  | line :: rest =>
    match read env line with
    | .error fault => (env, some (.fault fault))
    | .ok none => applyLines env rest
    | .ok (some (name, value)) =>
      match env.define? name value with
      | none => (env, some (.crash name))
      -- Later lines read their values in the environment that this one leaves.
      | some env => applyLines env rest

/-- The environment after a file was read, and why reading ended before its
    end. -/
def apply (env : Environment) (text : String) : Environment × Option Stop :=
  applyLines env (lines text.toList)

end EnvFile

end QuorumBridge
