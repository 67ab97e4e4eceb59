import QuorumBridge.Folder
import QuorumBridge.Settings.AuthorityList

/-!
# Where settings come from

Settings are read from the variables of the environment. Before that, a file
may define those of them that are not set. Reading settings therefore gives the
environment back too, as the file has left it.

A path at which there is nothing is passed over. A path at which there is a
directory is a fault. If the file of the usual name is at fault, settings are
read from what is set by then: the variables of its lines before the fault are.

How a file is applied to an environment is not a matter of settings. What they
make of it is therefore said first for anybody who applies any kind of content
(`Settings.loadFound`), and then for environment files.

## Main definitions

* `Settings.ofEnvironment`: The settings that variables give.
* `Settings.ofFound`, `Settings.loadFound`: The settings after something was
  applied to them.
* `Settings.ofFile`: The settings after one file was read.
* `Settings.load`: The settings after the file of the usual name was read.
-/

namespace QuorumBridge

namespace Settings

/-- The number that a text stands for, blanks aside. -/
def thresholdOf (text : String) : Except Fault Nat :=
  (Decimal.parse UInt64.size (trim text.toList)).mapError .badThreshold

/-- The estimate that a text stands for, blanks aside. -/
def gasOf (text : String) : Except Fault UInt64 :=
  match Decimal.parse UInt64.size (trim text.toList) with
  | .error fault => .error (.badGas fault)
  | .ok gas => .ok (UInt64.ofNat gas)

/-- The value of a variable that must be set. -/
def required (env : Environment) (key : Key) : Except Fault String :=
  match env.get? key.name with
  | some text => .ok text
  | none => .error (.missing key)

/-- The settings that variables give, not checked. An estimate that is not set
    is zero. -/
def read (env : Environment) : Except Fault Settings := do
  let authorities ← AuthorityList.parse (← required env .authorities)
  -- The list is read to its end before the threshold is asked for.
  let threshold ← thresholdOf (← required env .threshold)
  let gas ←
    match env.get? Key.gas.name with
    | some text => gasOf text
    | none => .ok 0
  return { authorities, threshold, gas }

/-- The settings that variables give. -/
def ofEnvironment (env : Environment) : Except Fault Settings :=
  match read env with
  | .error fault => .error fault
  | .ok settings =>
    match settings.validate with
    | .error fault => .error fault
    | .ok () => .ok settings

section Applied

variable {α : Type} (apply : Environment → α → Environment × Option EnvFile.Stop)

/-- The settings after what is found at a path was applied to the environment,
    and the environment then. -/
def ofFound (env : Environment) (path : String) :
    Option α → Except Fault Settings × Environment
  | none => (ofEnvironment env, env)
  | some content =>
    match apply env content with
    | (env, none) => (ofEnvironment env, env)
    | (env, some (.fault fault)) => (.error (.badFile path fault), env)
    | (env, some (.crash name)) => (.error (.crashed name), env)

/-- The settings after what is found at the usual path was applied, and the
    environment then. Whatever goes wrong is passed over, but not a crash. -/
def loadFound (env : Environment) (found : Option α) : Except Fault Settings × Environment :=
  match ofFound apply env ".env" found with
  | (.ok settings, env) => (.ok settings, env)
  | (.error (.crashed name), env) => (.error (.crashed name), env)
  | (.error _, env) => (ofEnvironment env, env)

end Applied

/-- Applies what is at a path, which must be a file. -/
def applyPlace (env : Environment) : Place → Environment × Option EnvFile.Stop
  -- It can be opened but not read.
  | .directory => (env, some (.fault (.io "path not found")))
  | .file text => EnvFile.apply env text

/-- The settings after the file at a path was read, and the environment then. -/
def ofFile (env : Environment) (folder : Folder) (path : String) :
    Except Fault Settings × Environment :=
  ofFound applyPlace env path (folder.find path)

/-- The settings after the file of the usual name was read, and the environment
    then. -/
def load (env : Environment) (folder : Folder) : Except Fault Settings × Environment :=
  loadFound applyPlace env (folder.find ".env")

end Settings

end QuorumBridge
