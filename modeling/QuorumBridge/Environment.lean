import QuorumBridge.Table

/-!
# The environment

The variables that a program is started with. Names and values are handed over
as bytes, and bytes need not be a text. Whoever asks for a variable asks for a
text. A variable whose value is none is then like one that is not set.

An environment is handed over as entries that join a name and a value by an
equals sign. Whoever asks for a variable asks for the entry that begins with
the name and the sign. So a text that holds the sign itself names no variable,
but may still be found, as the beginning of an entry that goes on into the
value.

A variable can be defined as long as nobody who asks for it gets a text. The
empty text is one, so a variable that is set to it is not defined again, while a
variable that is set to other bytes is. Entries end at a null byte, and there is
no way to set a variable to a text that has one in it.

## Main definitions

* `Word`: A name or a value.
* `Environment`: Variables and their values.
* `Environment.word?`: The value of a variable.
* `Environment.get?`: The same, if it is a text.
* `Environment.entryFrom?`: What follows the beginning of an entry.
* `Environment.define?`: Giving a value to a variable that has no text.

## Theorems

* `Environment.entryFrom?_of_not_mem`: Without an equals sign this is the value of a variable.
* `Environment.get?_of_define?`: What the variables are after one was defined.
* `Environment.get?_of_define?_of_get?`: A variable that is set to a text stays
  as it is.
-/

namespace QuorumBridge

/-- A name or a value of the environment. -/
inductive Word
  | text (content : String)
  /-- Bytes that are no text. -/
  | bytes (content : List UInt8)
deriving DecidableEq

/-- The text that a word is, if it is one. -/
def Word.text? : Word → Option String
  | .text content => some content
  | .bytes _ => none

/-- Variables and their values. -/
structure Environment where
  words : Table Word Word

namespace Environment

/-- The environment in which a variable is set to a text, whatever it was set
    to. -/
def put (env : Environment) (name value : String) : Environment :=
  ⟨env.words.put (.text name) (.text value)⟩

/-- The environment of these variables. Of a repeated one the last counts. -/
def ofList (entries : List (String × String)) : Environment :=
  entries.foldl (fun env entry => env.put entry.1 entry.2) ⟨Table.empty⟩

/-- What a variable is set to, be it a text or not. -/
def word? (env : Environment) (name : Word) : Option Word :=
  env.words.get? name

/-- The text that a variable is set to. -/
def get? (env : Environment) (name : String) : Option String :=
  (env.word? (.text name)).bind Word.text?

/-- What follows these characters and an equals sign in the entry that begins
    with them. With `A` set to `B=C`, the characters `A=B` are followed by `C`. -/
def entryFrom? (env : Environment) (start : List Char) : Option (List Char) :=
  match start.dropWhile (· != '=') with
  | [] => (env.get? (String.ofList start)).map String.toList
  | _ :: further =>
    (env.get? (String.ofList (start.takeWhile (· != '=')))).bind fun value =>
      (further ++ ['=']).isPrefixOf? value.toList

/-- Characters without an equals sign can only be the whole name of a variable. -/
theorem entryFrom?_of_not_mem (env : Environment) {start : List Char} (h : '=' ∉ start) :
    env.entryFrom? start = (env.get? (String.ofList start)).map String.toList := by
  -- No character stops the scan, so it leaves nothing behind the name.
  have hnil : start.dropWhile (· != '=') = [] := by
    induction start with
    | nil => rfl
    | cons c rest ih =>
      rw [List.mem_cons, not_or] at h
      have hc : (c != '=') = true := bne_iff_ne.2 (Ne.symm h.1)
      rw [List.dropWhile_cons, if_pos hc, ih h.2]
  rw [entryFrom?, hnil]

/-- The environment in which a variable has a text, namely this one if it had
    none. There is no such environment if the variable cannot be set to it. -/
def define? (env : Environment) (name value : String) : Option Environment :=
  match env.get? name with
  | some _ => some env
  | none => if '\x00' ∈ value.toList then none else some (env.put name value)

theorem word?_put (env : Environment) (name value : String) (k : Word) :
    (env.put name value).word? k = if .text name = k then some (.text value) else env.word? k :=
  Table.get?_put env.words (.text name) k (.text value)

theorem get?_put (env : Environment) (name value k : String) :
    (env.put name value).get? k = if name = k then some value else env.get? k := by
  rw [get?, word?_put]
  by_cases hk : name = k
  · rw [if_pos hk, if_pos (congrArg Word.text hk)]
    rfl
  · rw [if_neg hk, if_neg fun hsame => hk (Word.text.inj hsame)]
    rfl

/-- Only the variable itself is defined, and only if it had no text. -/
theorem get?_of_define? {env after : Environment} {name value : String}
    (h : env.define? name value = some after) (k : String) :
    after.get? k = if name = k then some ((env.get? k).getD value) else env.get? k := by
  unfold define? at h
  cases hget : env.get? name with
  | some old =>
    rw [hget, Option.some.injEq] at h
    rw [← h]
    by_cases hk : name = k
    · rw [if_pos hk, ← hk, hget, Option.getD_some]
    · rw [if_neg hk]
  | none =>
    -- The variable is set now, so it could be set.
    by_cases hnull : '\x00' ∈ value.toList
    · simp only [hget, if_pos hnull, reduceCtorEq] at h
    · simp only [hget, if_neg hnull, Option.some.injEq] at h
      rw [← h, get?_put]
      by_cases hk : name = k
      · rw [if_pos hk, if_pos hk, ← hk, hget, Option.getD_none]
      · rw [if_neg hk, if_neg hk]

/-- A variable that is set to a text stays as it is. -/
theorem get?_of_define?_of_get? {env after : Environment} {name value k old : String}
    (h : env.define? name value = some after) (hold : env.get? k = some old) :
    after.get? k = some old := by
  rw [get?_of_define? h, hold, Option.getD_some, ite_self]

end Environment

end QuorumBridge
