import QuorumBridge.Bytes.Json
import QuorumBridge.Refusal

/-!
# The registry of authorities

Who may confirm a deposit or sign a withdrawal, in a fixed order, and how many
of them it takes. A registry is built once and never changes. That its
authorities are distinct and that its threshold can be met are facts about the
type, so no later check asks for them again.

The threshold is looked at first. Of repeated authorities the first one that
repeats an earlier one is named.

## Main definitions

* `firstRepeated`: The first element of a list that repeats an earlier one.
* `Registry`: Distinct authorities and a threshold that they can meet.
* `Registry.build`: The registry of a list and a threshold.
* `Registry.position?`, `Registry.authority?`: From an authority to its place
  and back.

## Theorems

* `firstRepeated_eq_none_iff`: No element repeats an earlier one exactly if the
  elements are distinct.
-/

namespace QuorumBridge

/-- The first element that is among those seen or before it in the list. -/
def firstRepeated {α : Type} [DecidableEq α] : List α → List α → Option α
  | _, [] => none
  | seen, x :: rest => if x ∈ seen then some x else firstRepeated (x :: seen) rest

/-- Nothing repeats exactly if the list has no duplicates and shares nothing
    with what was seen. -/
theorem firstRepeated_eq_none_iff {α : Type} [DecidableEq α] (seen l : List α) :
    firstRepeated seen l = none ↔ l.Nodup ∧ ∀ x ∈ l, x ∉ seen := by
  induction l generalizing seen with
  | nil => simp only [firstRepeated, List.nodup_nil, List.not_mem_nil, false_implies,
      implies_true, and_self]
  | cons y rest ih =>
    by_cases hy : y ∈ seen
    · -- The head repeats, and it is the witness against the right-hand side.
      simp only [firstRepeated, if_pos hy, reduceCtorEq, false_iff]
      intro h
      exact h.2 y List.mem_cons_self hy
    · simp only [firstRepeated, if_neg hy, ih, List.nodup_cons, List.mem_cons]
      constructor
      · rintro ⟨hnodup, hnew⟩
        refine ⟨⟨fun hmem => hnew y hmem (Or.inl rfl), hnodup⟩, ?_⟩
        rintro x (rfl | hx)
        · exact hy
        · exact fun hseen => hnew x hx (Or.inr hseen)
      · rintro ⟨⟨hhead, hnodup⟩, hnew⟩
        refine ⟨hnodup, fun x hx => ?_⟩
        rintro (rfl | hseen)
        · exact hhead hx
        · exact hnew x (Or.inr hx) hseen

/-- Distinct authorities in a fixed order, and how many of them it takes. -/
structure Registry where
  /-- The authorities, each at its position. -/
  authorities : List Address
  /-- How many distinct authorities finalize a transfer. -/
  threshold : Nat
  nodup : authorities.Nodup
  threshold_pos : 0 < threshold
  threshold_le : threshold ≤ authorities.length

namespace Registry

/-- The registry of a list of authorities and a threshold. -/
def build (authorities : List Address) (threshold : Nat) : Except Refusal Registry :=
  -- An empty list has no threshold in range, so it is refused here as well.
  if hthreshold : 0 < threshold ∧ threshold ≤ authorities.length then
    match hrepeated : firstRepeated [] authorities with
    | some authority => .error (.duplicateAuthority authority)
    | none =>
      .ok {
        authorities, threshold
        nodup := ((firstRepeated_eq_none_iff [] authorities).1 hrepeated).1
        threshold_pos := hthreshold.1
        threshold_le := hthreshold.2 }
  else .error (.invalidThreshold threshold authorities.length)

/-- How many authorities there are. -/
def size (registry : Registry) : Nat :=
  registry.authorities.length

/-- Whether an account is an authority. -/
def isAuthority (registry : Registry) (account : Address) : Bool :=
  registry.authorities.contains account

/-- The position of an authority. -/
def position? (registry : Registry) (account : Address) : Option Nat :=
  registry.authorities.idxOf? account

/-- The authority at a position. -/
def authority? (registry : Registry) (index : Nat) : Option Address :=
  registry.authorities[index]?

/-- A registry in JSON. -/
def toJson (registry : Registry) : Json :=
  .record [("authorities", .array (registry.authorities.map Octets.toJson)),
    ("required_signatures", .natural registry.threshold)]

end Registry

end QuorumBridge
