import QuorumBridge.Registry

/-!
# Building a registry

What a list of authorities and a threshold have to be for a registry to be built
of them.

A registry carries the proofs of its own demands, so there is no registry that
could not have been built: whatever has the type is the answer to its own list
and its own threshold. For the same reason the answer is settled by these two,
and nothing else has to be said about it.

## Main definitions

* `Registry.CanMeet`: A list has enough authorities for a threshold.

## Theorems

* `Registry.build_eq_ok_iff`: A registry is built of what it holds.
* `Registry.exists_build_iff`: What can be built.
* `Registry.build_of_not_canMeet`, `Registry.build_of_repeated`: What is said otherwise.
-/

namespace QuorumBridge

namespace Registry

/-- A list has enough authorities for a threshold, and it takes at least one. -/
def CanMeet (authorities : List Address) (threshold : Nat) : Prop :=
  0 < threshold ∧ threshold ≤ authorities.length

theorem firstRepeated_nil_eq_none_iff {authorities : List Address} :
    firstRepeated [] authorities = none ↔ authorities.Nodup := by
  rw [firstRepeated_eq_none_iff]
  exact and_iff_left fun _ _ => List.not_mem_nil

theorem build_of_not_canMeet {authorities : List Address} {threshold : Nat}
    (h : ¬CanMeet authorities threshold) :
    build authorities threshold = .error (.invalidThreshold threshold authorities.length) :=
  dif_neg h

theorem build_of_repeated {authorities : List Address} {threshold : Nat} {a : Address}
    (h : CanMeet authorities threshold) (hrepeated : firstRepeated [] authorities = some a) :
    build authorities threshold = .error (.duplicateAuthority a) := by
  have hboth : 0 < threshold ∧ threshold ≤ authorities.length := h
  rw [build, dif_pos hboth]
  -- The threshold is in range, so only a repetition is left to be told.
  split
  · rename_i other hother
    rw [hrepeated, Option.some.injEq] at hother
    rw [hother]
  · rename_i hnone
    rw [hrepeated] at hnone
    exact absurd hnone (by simp only [reduceCtorEq, not_false_eq_true])

/-- A registry is built of what it holds. -/
theorem build_eq_ok_iff {authorities : List Address} {threshold : Nat} {registry : Registry} :
    build authorities threshold = .ok registry ↔
      registry.authorities = authorities ∧ registry.threshold = threshold := by
  constructor
  · intro h
    unfold build at h
    split at h
    · split at h
      · exact absurd h (by simp only [reduceCtorEq, not_false_eq_true])
      · rw [← Except.ok.inj h]
        exact ⟨rfl, rfl⟩
    · exact absurd h (by simp only [reduceCtorEq, not_false_eq_true])
  · rintro ⟨rfl, rfl⟩
    rw [build, dif_pos ⟨registry.threshold_pos, registry.threshold_le⟩]
    split
    · -- The registry that is given has no repetition, and so there is none to be found.
      rename_i a hrepeated
      rw [firstRepeated_nil_eq_none_iff.2 registry.nodup] at hrepeated
      exact absurd hrepeated (by simp only [reduceCtorEq, not_false_eq_true])
    · rfl

/-- What can be built: distinct authorities, and enough of them. -/
theorem exists_build_iff {authorities : List Address} {threshold : Nat} :
    (∃ registry, build authorities threshold = .ok registry) ↔
      CanMeet authorities threshold ∧ authorities.Nodup := by
  simp only [build_eq_ok_iff]
  constructor
  · rintro ⟨registry, rfl, rfl⟩
    exact ⟨⟨registry.threshold_pos, registry.threshold_le⟩, registry.nodup⟩
  · rintro ⟨hmeet, hnodup⟩
    exact ⟨⟨authorities, threshold, hnodup, hmeet.1, hmeet.2⟩, rfl, rfl⟩

theorem exists_build_of_not_repeated {authorities : List Address} {threshold : Nat}
    (h : CanMeet authorities threshold) (hnone : firstRepeated [] authorities = none) :
    ∃ registry, build authorities threshold = .ok registry :=
  exists_build_iff.2 ⟨h, firstRepeated_nil_eq_none_iff.1 hnone⟩

end Registry

end QuorumBridge
