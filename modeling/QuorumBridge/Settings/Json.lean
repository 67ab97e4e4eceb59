import QuorumBridge.Json.Reader
import QuorumBridge.Settings

/-!
# Settings in JSON

Settings are read from an object of their three fields, in any order and among
any other members, or from an array of the three values. The estimate of the
gas may be left out, also at the end of an array, and is then zero. What is
read this way was not checked.

## Main definitions

* `Settings.ofJson?`: The settings that a JSON value stands for.
* `Settings.ofJsonText?`: The settings that a JSON text stands for.
-/

namespace QuorumBridge

namespace Settings

/-- The names of the fields, in their order. -/
def fieldNames : List String :=
  ["authorities", "required_signatures", "estimated_gas_cost_of_withdraw"]

/-- What a reader expects where settings are to stand. -/
def shape : Json.Shape :=
  .record (fieldNames.zip [.list (Octets.shape 20), .free, .free])

/-- The estimate that a field gives, zero if it is not there. -/
def gasOfJson? : Option Json → Option UInt64
  | none => some 0
  | some json => json.count?.map UInt64.ofNat

/-- The authorities that a field lists. -/
def authoritiesOfJson? (json : Json) : Option (List Address) :=
  json.elements?.bind fun elements => elements.mapM (Octets.ofJson? 20)

/-- The settings that a JSON value stands for. Only the estimate may be left out. -/
def ofJson? (json : Json) : Option Settings :=
  match json.fields? fieldNames with
  | some [some authorities, some threshold, gas] => do
    let authorities ← authoritiesOfJson? authorities
    -- A threshold may be any count of 64 bits. Whether it can be met is not asked.
    let threshold ← threshold.count?
    let gas ← gasOfJson? gas
    return { authorities, threshold, gas }
  | _ => none

/-- The settings that a JSON text stands for. -/
def ofJsonText? (text : String) : Option Settings :=
  (Json.ofText? shape text).bind ofJson?

end Settings

end QuorumBridge
