import QuorumBridge.EnvFile
import QuorumBridge.Registry
import QuorumBridge.Text.Decimal

/-!
# Settings

What a bridge has to be told before it starts: its authorities, how many of
them it takes, and how much gas a withdrawal is estimated to cost.

Settings are checked before they are used. The check names the first fault in a
fixed order: no authorities, a threshold of zero, a threshold that is too high,
and then the authorities one by one, each of which must not be the zero address
and must not repeat an earlier one.

## Main definitions

* `Settings`: What a bridge has to be told.
* `Settings.Fault`: Why there are no settings.
* `Settings.Fault.chain`: What is said about a fault, and about its causes.
* `Settings.validate`: The check.
* `Settings.registry`: The registry that the settings describe.
-/

namespace QuorumBridge

/-- What a bridge has to be told. -/
structure Settings where
  authorities : List Address
  threshold : Nat
  /-- How much gas a withdrawal is estimated to cost. -/
  gas : UInt64
deriving DecidableEq

namespace Settings

/-- The variables that settings are read from. -/
inductive Key
  | authorities
  | threshold
  | gas
deriving DecidableEq

/-- The name of such a variable. -/
def Key.name : Key → String
  | .authorities => "BRIDGE_AUTHORITIES"
  | .threshold => "BRIDGE_REQUIRED_SIGNATURES"
  | .gas => "ESTIMATED_GAS_COST_OF_WITHDRAW"

/-- Why there are no settings. -/
inductive Fault
  | noAuthorities
  | zeroThreshold
  | thresholdTooHigh (threshold authorities : Nat)
  | zeroAuthority (index : Nat)
  | repeatedAuthority (authority : Address)
  /-- An entry of the list does not have the form of an address. -/
  | badEntry (entry : String)
  /-- An entry of the list has the form of an address, but not its digits. -/
  | badAddress (entry : String) (fault : Hex.Fault)
  | missing (key : Key)
  | badThreshold (fault : Decimal.Fault)
  | badGas (fault : Decimal.Fault)
  /-- What is at this path cannot be read. -/
  | badFile (path : String) (fault : EnvFile.Fault)
  /-- The program has crashed over the variable of this name, which is not a
      fault that anybody is told of. -/
  | crashed (name : String)
  | badRegistry (refusal : Refusal)
deriving DecidableEq

/-- What is said about a text that is not made of pairs of digits. -/
def digitsMessage : Hex.Fault → String
  | .oddLength => "odd number of digits"
  | .badDigit byte position =>
    s!"invalid character {CharLiteral.ofByte byte} at position {position}"

/-- What is said about a fault, and then about what has caused it. -/
def Fault.chain : Fault → List String
  | .noAuthorities => ["authorities cannot be empty"]
  | .zeroThreshold => ["required_signatures must be at least 1"]
  | .thresholdTooHigh threshold authorities =>
    [s!"required_signatures ({threshold}) cannot exceed the number of authorities " ++
      s!"({authorities})"]
  | .zeroAuthority index => [s!"authority {index} is the zero address"]
  | .repeatedAuthority authority =>
    [s!"authority {authority.checksummed} is listed more than once"]
  | .badEntry entry =>
    [s!"authority {entry} must be a valid hex address (42 chars with 0x prefix)"]
  | .badAddress entry fault => [s!"Invalid authority address: {entry}", digitsMessage fault]
  | .missing key => [s!"{key.name} environment variable is required"]
  | .badThreshold fault => [s!"{Key.threshold.name} must be a valid usize", fault.message]
  | .badGas fault => [s!"{Key.gas.name} must be a valid u64", fault.message]
  | .badFile path fault => s!"Failed to load .env file from {path}" :: fault.chain
  | .crashed _ => []
  | .badRegistry refusal => ["Failed to build authority registry", refusal.message]

/-- What is said about a fault, without its causes. -/
def Fault.message (fault : Fault) : String :=
  fault.chain.headD ""

/-- Looks at authorities one by one, `seen` being those before them. -/
def checkAuthorities : List Address → List Address → Except Fault Unit
  | _, [] => .ok ()
  | seen, authority :: rest =>
    if authority = Address.zero then .error (.zeroAuthority seen.length)
    else if authority ∈ seen then .error (.repeatedAuthority authority)
    else checkAuthorities (authority :: seen) rest

/-- Whether settings can be used. -/
def validate (settings : Settings) : Except Fault Unit :=
  if settings.authorities = [] then .error .noAuthorities
  else if settings.threshold = 0 then .error .zeroThreshold
  else if settings.authorities.length < settings.threshold then
    .error (.thresholdTooHigh settings.threshold settings.authorities.length)
  else checkAuthorities [] settings.authorities

/-- The registry that settings describe, if they can be used. -/
def registry (settings : Settings) : Except Fault Registry :=
  match settings.validate with
  | .error fault => .error fault
  -- Settings that pass the check build a registry, so this fault is never told.
  | .ok () => (Registry.build settings.authorities settings.threshold).mapError .badRegistry

end Settings

end QuorumBridge
