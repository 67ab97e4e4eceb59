import QuorumBridge.Proofs.EnvFile
import QuorumBridge.Settings.Source

/-!
# A file and the environment

A file gives values to variables that have none, and to no others.

Whether a file is read to its end does not matter for this. A fault ends the
reading, and the lines before it have done what they do in any file, so a file
with a fault in some line is as good as one that ends in front of that line.

Settings are read twice if there is a fault, in the file or in what the
variables say. Both times they are read from the same variables, namely from
those that the file has left. So the fault that is passed over the first time
cannot be seen from outside: either it was the fault of the file, and then it
says nothing about the variables, or it is told again.

Settings depend on three variables and on nothing else. If all of them were set
before, then the file has not touched them, and it might as well not be there.

None of this depends on how a line is read, or on what a file is. The statement
is about anybody who applies files line by line (`EnvFile.Applies`). It is also
the only thing that it takes, and it is asked for the one file that is found.

## Main definitions

* `Settings.leftBy`: The environment that is left by what is found.
* `Settings.Prevails`: What was set before counts.
* `Settings.placeLines`, `Settings.readPlace`: What there is to be read at a path.

## Theorems

* `Settings.loadFound_eq`: Settings are those of the environment that is left.
* `Settings.ofEnvironment_congr`: Settings depend on three variables.
* `Settings.get?_load`: What was set to a text before stays as it is.
* `Settings.environment_prevails`: What was set before counts, whatever the file
  says.
* `Settings.applies_applyPlace`: When `Settings.load` is such a case.
-/

namespace QuorumBridge

namespace Settings

section Found

variable {α : Type} (apply : Environment → α → Environment × Option EnvFile.Stop)

/-- The environment that is left by what is found. -/
def leftBy (env : Environment) (found : Option α) : Environment :=
  found.elim env fun content => (apply env content).1

/-- Either the settings are those of the environment that is left, or something
    is said about what was found. -/
theorem ofFound_cases (env : Environment) (path : String) (found : Option α) :
    ofFound apply env path found =
        (ofEnvironment (leftBy apply env found), leftBy apply env found) ∨
      ∃ fault, ofFound apply env path found = (.error fault, leftBy apply env found) := by
  cases found with
  | none => exact .inl rfl
  | some content =>
    rw [ofFound, leftBy, Option.elim_some]
    rcases apply env content with ⟨left, _ | stop⟩
    · exact .inl rfl
    · cases stop <;> exact .inr ⟨_, rfl⟩

/-- Settings after something was applied are those of the environment that is
    left. -/
theorem ofEnvironment_of_ofFound {env : Environment} {path : String} {found : Option α}
    {settings : Settings} (h : (ofFound apply env path found).1 = .ok settings) :
    ofEnvironment (leftBy apply env found) = .ok settings := by
  rcases ofFound_cases apply env path found with hsettings | ⟨fault, hfault⟩
  · rwa [hsettings] at h
  · rw [hfault] at h
    exact absurd h (by simp only [reduceCtorEq, not_false_eq_true])

/-- What the variables say is told as it is, whether it is a fault or not. -/
theorem loadFound_of_ofFound {env left : Environment} {found : Option α}
    (h : ofFound apply env ".env" found = (ofEnvironment left, left)) :
    loadFound apply env found = (ofEnvironment left, left) := by
  unfold loadFound
  rw [h]
  cases hread : ofEnvironment left with
  | ok settings => rfl
  | error fault =>
    -- The variables are read once more, and say the same.
    cases fault <;> simp only [hread]

/-- Whatever is at fault the first time, the settings are those of the
    environment that is left. Only a crash puts an end to that. -/
theorem loadFound_cases (env : Environment) (found : Option α) :
    loadFound apply env found =
        (ofEnvironment (leftBy apply env found), leftBy apply env found) ∨
      ∃ content name, found = some content ∧ (apply env content).2 = some (.crash name) ∧
        loadFound apply env found = (.error (.crashed name), leftBy apply env found) := by
  cases found with
  | none => exact .inl (loadFound_of_ofFound apply rfl)
  | some content =>
    rw [leftBy, Option.elim_some]
    cases happly : apply env content with
    | mk left stop =>
      rcases stop with _ | fault | name
      · exact .inl (loadFound_of_ofFound apply (by rw [ofFound, happly]))
      · exact .inl (by rw [loadFound, ofFound, happly])
      · exact .inr ⟨content, name, rfl, by rw [happly], by rw [loadFound, ofFound, happly]⟩

theorem loadFound_snd (env : Environment) (found : Option α) :
    (loadFound apply env found).2 = leftBy apply env found := by
  rcases loadFound_cases apply env found with hsettings | ⟨content, name, -, -, hcrash⟩
  · rw [hsettings]
  · rw [hcrash]

/-- Settings that are loaded are those of the environment that is left. -/
theorem ofEnvironment_of_loadFound {env : Environment} {found : Option α} {settings : Settings}
    (h : (loadFound apply env found).1 = .ok settings) :
    ofEnvironment (leftBy apply env found) = .ok settings := by
  rcases loadFound_cases apply env found with hsettings | ⟨content, name, -, -, hcrash⟩
  · rwa [hsettings] at h
  · rw [hcrash] at h
    exact absurd h (by simp only [reduceCtorEq, not_false_eq_true])

end Found

/-- Settings depend on the three variables that they are read from. -/
theorem ofEnvironment_congr {env other : Environment}
    (h : ∀ key : Key, env.word? (.text key.name) = other.word? (.text key.name)) :
    ofEnvironment env = ofEnvironment other := by
  have hget : ∀ key : Key, env.get? key.name = other.get? key.name := by
    intro key
    rw [Environment.get?, Environment.get?, h key]
  unfold ofEnvironment read required
  rw [hget .authorities, hget .threshold, hget .gas]

/-- What was set to a text before stays as it is, whatever is in the folder, and
    even if the program crashes over it. -/
theorem get?_load {env : Environment} {name value : String} (h : env.get? name = some value)
    (folder : Folder) : (load env folder).2.get? name = some value := by
  rw [load, loadFound_snd]
  rcases folder.find ".env" with _ | place
  · exact h
  · cases place with
    | directory => exact h
    | file text => exact EnvFile.get?_applyLines h _

section Applied

variable {α β : Type} {apply : Environment → α → Environment × Option EnvFile.Stop}
  {read : Environment → β → Except EnvFile.Fault (Option (String × String))} {lines : α → List β}
  {env : Environment} {found : Option α}

/-- What was set before counts, whatever is found. -/
structure Prevails (apply : Environment → α → Environment × Option EnvFile.Stop)
    (read : Environment → β → Except EnvFile.Fault (Option (String × String)))
    (lines : α → List β) (env : Environment) (found : Option α) : Prop where
  /-- The settings are those of the environment that is left, and that
      environment is given back. -/
  load_eq : loadFound apply env found =
    (ofEnvironment (leftBy apply env found), leftBy apply env found)
  /-- A file is applied up to the first line that cannot be read, if there is
      one. -/
  halted : ∀ content before line behind middle fault, found = some content →
    lines content = before ++ line :: behind → EnvFile.Applies read env before middle none →
      read middle line = .error fault → (loadFound apply env found).2 = middle
  /-- A line in front of it gives its value to a variable that is not set. -/
  bound : ∀ content before line behind middle name value, found = some content →
    lines content = before ++ line :: behind → EnvFile.Applies read env before middle none →
      read middle line = .ok (some (name, value)) → middle.word? (.text name) = none →
        (loadFound apply env found).2.word? (.text name) = some (.text value)
  /-- What was set before stays as it is, also if it is the empty text or no text
      at all. -/
  kept : ∀ name value, env.word? name = some value →
    (loadFound apply env found).2.word? name = some value
  /-- If everything that settings are read from was set before, the file might
      as well not be there. -/
  settled : (∀ key : Key, env.word? (.text key.name) ≠ none) →
    (loadFound apply env found).1 = ofEnvironment env

/-- What was set before counts, whatever the file says, if it is applied line by
    line. -/
theorem environment_prevails
    (happlies : ∀ content, found = some content →
      EnvFile.Applies read env (lines content) (apply env content).1 (apply env content).2) :
    Prevails apply read lines env found := by
  have hload : loadFound apply env found =
      (ofEnvironment (leftBy apply env found), leftBy apply env found) := by
    rcases loadFound_cases apply env found with hsettings | ⟨content, name, hfound, hcrash, -⟩
    · exact hsettings
    · -- Nothing that is applied line by line crashes.
      exact absurd hcrash ((happlies content hfound).ne_crash name)
  have hkept : ∀ name value, env.word? name = some value →
      (leftBy apply env found).word? name = some value := by
    intro name value hset
    cases found with
    | none => exact hset
    | some content => exact (happlies content rfl).word?_eq hset
  refine ⟨hload, ?_, ?_, ?_, ?_⟩
  · rintro content before line behind middle fault rfl hlines hbefore hbad
    have hrest := happlies content rfl
    rw [hlines] at hrest
    rw [hload]
    exact ((hbefore.of_append hrest).of_error hbad).1
  · rintro content before line behind middle name value rfl hlines hbefore hread hunset
    have hrest := happlies content rfl
    rw [hlines] at hrest
    rw [hload]
    -- The variable is set by the line, and no line behind it changes that.
    exact ((hbefore.of_append hrest).of_ok hread).word?_eq
      (Environment.word?_offer_self hunset value)
  · intro name value hset
    rw [hload]
    exact hkept name value hset
  · intro hset
    rw [hload]
    refine ofEnvironment_congr fun key => ?_
    rcases Option.ne_none_iff_exists'.1 (hset key) with ⟨value, hvalue⟩
    rw [hvalue]
    exact hkept _ value hvalue

end Applied

/-- The lines that there are at a path. A directory has one, which cannot be read. -/
def placeLines : Place → List (Option EnvFile.Line)
  | .directory => [none]
  | .file text => (EnvFile.lines text.toList).map some

/-- The binding on such a line. -/
def readPlace (env : Environment) :
    Option EnvFile.Line → Except EnvFile.Fault (Option (String × String))
  | none => .error (.io "path not found")
  | some line => EnvFile.read env line

/-- Among texts, and unless there is a crash, what is at a path is applied line by
    line. So what is loaded then is as `Prevails` says. -/
theorem applies_applyPlace {env : Environment} {place : Place} (hreadable : env.Readable)
    (hcrash : ∀ name, (applyPlace env place).2 ≠ some (.crash name)) :
    EnvFile.Applies readPlace env (placeLines place) (applyPlace env place).1
      (applyPlace env place).2 := by
  cases place with
  | directory => exact .halted [] rfl
  | file text => exact (EnvFile.applies_applyLines hreadable hcrash).map fun _ _ => rfl

/-- An environment in which one of the variables is set. -/
def presetEnvironment : Environment :=
  .ofList [(Key.threshold.name, "1")]

/-- A file that would set it to something else, and that sets another one. What
    it says of the third comes too late, behind a line that cannot be read. -/
def spoiledFile : String :=
  "BRIDGE_REQUIRED_SIGNATURES=5\n" ++
    "BRIDGE_AUTHORITIES=0x3c44cdddb6a900fa2b585dd299e03d12fa4293bc\n" ++
      "=\n" ++ "ESTIMATED_GAS_COST_OF_WITHDRAW=7\n"

/-- A folder with this file under the usual name. -/
def spoiledFolder : Folder where
  files := [(".env", spoiledFile)]

/-- The settings that the file and the environment come to. -/
def presetSettings : Settings where
  authorities := [⟨bigEndian 20 0x3c44cdddb6a900fa2b585dd299e03d12fa4293bc, by decide⟩]
  threshold := 1
  gas := 0

set_option maxRecDepth 100000 in
/-- Of the three variables the file sets one. -/
theorem environment_prevails_spoiled :
    (∀ place, spoiledFolder.find ".env" = some place →
        EnvFile.Applies readPlace presetEnvironment (placeLines place)
          (applyPlace presetEnvironment place).1 (applyPlace presetEnvironment place).2) ∧
      (applyPlace presetEnvironment (.file spoiledFile)).2 =
        some (.fault (.unparsed ['='] 0)) ∧
      (load presetEnvironment spoiledFolder).1.toOption = some presetSettings ∧
      Prevails applyPlace readPlace placeLines presetEnvironment (spoiledFolder.find ".env") := by
  have hfind : spoiledFolder.find ".env" = some (.file spoiledFile) := by decide +kernel
  have hstop : (applyPlace presetEnvironment (.file spoiledFile)).2 =
      some (.fault (.unparsed ['='] 0)) := by decide +kernel
  have hloaded : (load presetEnvironment spoiledFolder).1.toOption = some presetSettings := by
    decide +kernel
  have happlies : ∀ place, spoiledFolder.find ".env" = some place →
      EnvFile.Applies readPlace presetEnvironment (placeLines place)
        (applyPlace presetEnvironment place).1 (applyPlace presetEnvironment place).2 := by
    intro place hplace
    rw [hfind, Option.some.injEq] at hplace
    subst hplace
    -- All variables are texts here, and reading ends at a fault, which is no crash.
    refine applies_applyPlace (Environment.readable_ofList _) fun name hcrash => ?_
    have hfault := hstop.symm.trans hcrash
    exact absurd hfault (by simp only [Option.some.injEq, reduceCtorEq, not_false_eq_true])
  exact ⟨happlies, hstop, hloaded, environment_prevails happlies⟩

end Settings

end QuorumBridge
