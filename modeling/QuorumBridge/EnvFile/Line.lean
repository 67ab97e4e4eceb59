import QuorumBridge.Text.Blank

/-!
# The lines of an environment file

A line ends at a line feed, with a carriage return in front of it or without,
unless a quote is open there: a quoted value may run over several lines. To
find the ends, a reader has to follow quotes and backslashes. It does so more
coarsely than the reader of values, since it knows of no names and no comments
inside values: a backslash takes the next character with it even between
single quotes.

A number sign after a blank begins a comment, which is not a part of the line.
A line that begins with one, blanks aside, is all comment and counts as empty.

A file that ends after a blank, or with a quote open, has no last line. What
there is of it is kept, to be reported.

## Main definitions

* `EnvFile.Line`: A line, or what is left where no line ends.
* `EnvFile.Mode`: What a reader is in the middle of.
* `EnvFile.scan`: Following one physical line.
* `EnvFile.lines`: The lines of a file.
-/

namespace QuorumBridge

namespace EnvFile

/-- A line, or what is left of a file where no line ends. -/
inductive Line
  | complete (text : List Char)
  | unfinished (text : List Char)
deriving DecidableEq

/-- What a reader is in the middle of. -/
inductive Mode
  /-- Text outside of quotes. -/
  | plain
  /-- The place right after a blank outside of quotes. -/
  | blank
  /-- The place right after a backslash outside of quotes. -/
  | escape
  /-- Single quotes. -/
  | single
  /-- The place right after a backslash in single quotes. -/
  | singleEscape
  /-- Double quotes. -/
  | double
  /-- The place right after a backslash in double quotes. -/
  | doubleEscape
deriving DecidableEq

namespace Mode

/-- What a character leads to that may open a quote. -/
def opening (c : Char) : Mode :=
  if c = '\\' then .escape
  else if c = '"' then .double
  else if c = '\'' then .single
  else .plain

/-- What a reader is in the middle of after a character. -/
def next (mode : Mode) (c : Char) : Mode :=
  match mode with
  | .plain => if isBlank c && c != '\n' && c != '\r' then .blank else opening c
  | .blank => opening c
  | .escape => .plain
  -- Between single quotes a backslash escapes here, though not in values.
  | .single => if c = '\\' then .singleEscape else if c = '\'' then .plain else .single
  | .singleEscape => .single
  | .double => if c = '\\' then .doubleEscape else if c = '"' then .plain else .double
  | .doubleEscape => .double

end Mode

/-- Follows a physical line. Gives the text before a comment and, if there was
    no comment, what the reader is in the middle of at the end. -/
def scan : Mode → List Char → List Char × Option Mode
  | mode, [] => ([], some mode)
  | mode, c :: rest =>
    if mode = .blank ∧ c = '#' then ([], none)
    else
      let after := scan (mode.next c) rest
      (c :: after.1, after.2)

/-- The physical lines of a text, each with the line feed at its end. -/
def physicalLines : List Char → List (List Char)
  | [] => []
  | c :: rest =>
    if c = '\n' then [c] :: physicalLines rest
    else
      match physicalLines rest with
      | [] => [[c]]
      | line :: lines => (c :: line) :: lines

/-- A text without the line feed at its end, and without a carriage return in
    front of that. -/
def withoutEnd (text : List Char) : List Char :=
  match text.reverse with
  | '\n' :: '\r' :: before => before.reverse
  | '\n' :: before => before.reverse
  | _ => text

/-- Whether a text begins with a number sign, blanks aside. -/
def isComment (text : List Char) : Bool :=
  (trimLeft text).head? == some '#'

/-- Puts physical lines together to lines, with those before them that did not
    end one. -/
def gather : Mode → List Char → List (List Char) → List Line
  | mode, pending, [] => if mode = .plain then [] else [.unfinished pending]
  | mode, pending, physical :: rest =>
    let text := pending ++ physical
    -- A line of comment is not scanned: quotes in it open nothing.
    if isComment text then .complete [] :: gather .plain [] rest
    else
      match scan mode physical with
      -- A comment ends the line, whatever was open before it.
      | (before, none) => .complete (pending ++ before) :: gather .plain [] rest
      | (_, some .plain) => .complete (withoutEnd text) :: gather .plain [] rest
      -- A quote is open: the next physical line belongs to this one.
      | (_, some mode) => gather mode text rest

/-- The lines of a file. A byte order mark at its beginning is not a part of
    the first one. -/
def lines (text : List Char) : List Line :=
  match text with
  | '\uFEFF' :: rest => gather .plain [] (physicalLines rest)
  | text => gather .plain [] (physicalLines text)

end EnvFile

end QuorumBridge
