import QuorumBridge.Refusal

/-!
# Counters

What has happened is counted under labels. A count is a value of its own, and
the counters are the list of all counts so far: the counter of one label says
how often it is in the list, and nothing has to be kept in step with anything.

The counters are written as text, by families in the order of their names. A
family begins with what it is about, and has one line for every set of labels
that was ever counted, in the order of the values of the labels.

## Main definitions

* `Count`: What is counted.
* `Metrics`: All counts so far.
* `Metrics.counter`: How often something was counted.
* `Metrics.lines`: The written form.
-/

namespace QuorumBridge

/-- What is counted. -/
inductive Count
  /-- A confirmation that left its deposit pending. -/
  | confirmationPending
  /-- A confirmation that released its deposit. -/
  | confirmationReleased
  /-- A signature that left its message pending. -/
  | signaturePending
  /-- A signature that closed its bundle. -/
  | signatureCollected
  /-- A withdrawal that was executed. -/
  | withdrawalExecuted
  /-- A withdrawal that was turned down. -/
  | withdrawalRejected
  /-- A call that was turned down. -/
  | rejection (operation : String) (kind : Refusal.Kind)
deriving DecidableEq

/-- Counters that share a name and a meaning. -/
inductive Family
  | confirmations
  | rejections
  | signatures
  | withdrawals
deriving DecidableEq

namespace Family

/-- All families, in the order of their names. -/
def all : List Family :=
  [.confirmations, .rejections, .signatures, .withdrawals]

/-- The name of a family. -/
def name : Family → String
  | .confirmations => "bridge_confirmations_total"
  | .rejections => "bridge_rejections_total"
  | .signatures => "bridge_signatures_total"
  | .withdrawals => "bridge_withdrawals_total"

/-- What a family is about. -/
def help : Family → String
  | .confirmations => "Deposit confirmations accepted, by outcome"
  | .rejections => "Rejected bridge calls, by error kind"
  | .signatures => "Withdrawal signatures accepted, by outcome"
  | .withdrawals => "Withdrawals executed through the relay gate"

end Family

namespace Count

/-- The family that a count belongs to. -/
def family : Count → Family
  | .confirmationPending | .confirmationReleased => .confirmations
  | .signaturePending | .signatureCollected => .signatures
  | .withdrawalExecuted | .withdrawalRejected => .withdrawals
  | .rejection _ _ => .rejections

/-- The labels of a count, in the order of their names. -/
def labels : Count → List (String × String)
  | .confirmationPending => [("outcome", "pending")]
  | .confirmationReleased => [("outcome", "released")]
  | .signaturePending => [("outcome", "pending")]
  | .signatureCollected => [("outcome", "collected")]
  | .withdrawalExecuted => [("outcome", "executed")]
  | .withdrawalRejected => [("outcome", "rejected")]
  | .rejection operation kind => [("kind", kind.label), ("operation", operation)]

/-- Whether one list of texts comes before another or is the same. -/
def notAfter : List String → List String → Bool
  | [], _ => true
  | _ :: _, [] => false
  | a :: as, b :: bs => if a < b then true else if b < a then false else notAfter as bs

/-- Whether a count is written before another of its family. -/
def before (a b : Count) : Bool :=
  notAfter (a.labels.map Prod.snd) (b.labels.map Prod.snd)

/-- A character of a label value as it is written. -/
def escape (c : Char) : List Char :=
  if c = '\\' then ['\\', '\\']
  else if c = '"' then ['\\', '"']
  else if c = '\n' then ['\\', 'n']
  else [c]

/-- A label as it is written. -/
def label (pair : String × String) : String :=
  pair.1 ++ "=\"" ++ String.ofList (pair.2.toList.flatMap escape) ++ "\""

/-- The name of the counter of a count, with its labels. -/
def counterName (count : Count) : String :=
  count.family.name ++ "\x7b" ++ String.intercalate "," (count.labels.map label) ++ "\x7d"

end Count

/-- All counts so far. -/
structure Metrics where
  counts : List Count
deriving DecidableEq

namespace Metrics

/-- Nothing was counted yet. -/
def empty : Metrics :=
  ⟨[]⟩

/-- The counters after more counts. -/
def add (metrics : Metrics) (counts : List Count) : Metrics :=
  ⟨metrics.counts ++ counts⟩

/-- How often something was counted. -/
def counter (metrics : Metrics) (count : Count) : Nat :=
  metrics.counts.count count

/-- What was ever counted in a family, in the order of the values of the labels. -/
def samples (metrics : Metrics) (family : Family) : List Count :=
  ((metrics.counts.filter (·.family == family)).eraseDups).mergeSort Count.before

/-- The lines of a family, none if nothing was counted in it. -/
def familyLines (metrics : Metrics) (family : Family) : List String :=
  match metrics.samples family with
  | [] => []
  | samples =>
    ["# HELP " ++ family.name ++ " " ++ family.help, "# TYPE " ++ family.name ++ " counter"] ++
      samples.map fun count => count.counterName ++ " " ++ toString (metrics.counter count)

/-- The written form of the counters. -/
def lines (metrics : Metrics) : List String :=
  Family.all.flatMap metrics.familyLines

end Metrics

end QuorumBridge
