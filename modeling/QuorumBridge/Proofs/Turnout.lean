import Mathlib.Data.Finset.Card
import QuorumBridge.Registry

/-!
# Counting those who come forward

What a count of authorities comes to, whoever came first.

Votes and signatures arrive one after another, from anybody. They are counted
as long as there is room: an authority that was not counted before is counted
now, and everybody else is turned down. Who exactly is counted depends on the
order in which they come, since the last places go to whoever is there first.
How many are counted does not, and that is what this module is about.

An account can be turned down for three reasons, and only two of them last. It
is no authority, or it was counted already: then the count is complete without
it. The third reason is that there is no room, and then the count has reached
its limit. So a count that is below its limit is complete, and `Counted` needs
to say no more than that. It speaks of the list of those who came and of the
list of those who were counted, and of no order between the two.

The limit is a parameter. It is the threshold where the count may be finished,
and one less than that where the last step is not to be had.

What those who are counted are told follows from their number. `Advanced` keeps
the books of that, from any number to any later one, so that it can be put
together from single steps.

## Main definitions

* `Registry.turnout`: How many authorities are among those who came.
* `Registry.Counted`: Some of those who came were counted, up to a limit.
* `Registry.Advanced`: What was told while a count went on.

## Theorems

* `Registry.turnout_perm`: The order makes no difference to the turnout.
* `Registry.Counted.add`, `Registry.Counted.pass`: One more account comes.
* `Registry.Counted.length_eq`: The count is the turnout, up to the limit.
* `Registry.Advanced.trans`, `Registry.Advanced.of_zero`: What was told in all.
-/

namespace QuorumBridge

namespace Registry

/-- How many authorities are among the accounts that came, none counted
    twice. -/
def turnout (registry : Registry) (came : List Address) : Nat :=
  (came.filter registry.isAuthority).toFinset.card

/-- The order in which accounts come makes no difference to the turnout. -/
theorem turnout_perm (registry : Registry) {came other : List Address}
    (h : other.Perm came) : registry.turnout other = registry.turnout came := by
  unfold turnout
  rw [List.toFinset_eq_of_perm _ _ (h.filter registry.isAuthority)]

/-- Of the accounts that came some authorities were counted, up to a limit. As
    long as the limit is not reached, nobody was left out. -/
structure Counted (registry : Registry) (limit : Nat) (came counted : List Address) : Prop where
  nodup : counted.Nodup
  came_of_mem : ∀ account ∈ counted, account ∈ came
  registered : ∀ account ∈ counted, registry.isAuthority account = true
  length_le : counted.length ≤ limit
  complete : counted.length < limit → ∀ account ∈ came,
    registry.isAuthority account = true → account ∈ counted

variable {registry : Registry} {limit : Nat} {came counted : List Address}

theorem counted_nil (registry : Registry) (limit : Nat) : registry.Counted limit [] [] where
  nodup := List.nodup_nil
  came_of_mem := fun _ hmem => hmem
  registered := fun _ hmem => absurd hmem List.not_mem_nil
  length_le := Nat.zero_le limit
  complete := fun _ _ hmem => absurd hmem List.not_mem_nil

namespace Counted

/-- An authority that comes for the first time is counted, if there is room. -/
theorem add (h : registry.Counted limit came counted) {account : Address}
    (hauthority : registry.isAuthority account = true) (hnew : account ∉ counted)
    (hroom : counted.length < limit) :
    registry.Counted limit (came ++ [account]) (counted ++ [account]) := by
  refine ⟨?_, ?_, ?_, ?_, ?_⟩
  · rw [List.nodup_append]
    refine ⟨h.nodup, List.nodup_singleton account, ?_⟩
    intro a ha b hb hab
    rw [List.mem_singleton] at hb
    exact hnew (hb ▸ hab ▸ ha)
  · -- Whoever was counted before came before.
    intro a ha
    rcases List.mem_append.1 ha with ha | ha
    · exact List.mem_append_left _ (h.came_of_mem a ha)
    · exact List.mem_append_right _ ha
  · intro a ha
    rcases List.mem_append.1 ha with ha | ha
    · exact h.registered a ha
    · rw [List.mem_singleton.1 ha]
      exact hauthority
  · simp only [List.length_append, List.length_singleton]
    omega
  · intro _ a ha hregistered
    -- Below the limit nobody was left out before, and the newcomer is in as well.
    rcases List.mem_append.1 ha with ha | ha
    · exact List.mem_append_left _ (h.complete hroom a ha hregistered)
    · exact List.mem_append_right _ ha

/-- An account that is no authority, was counted before or comes too late leaves
    the count as it is. -/
theorem pass (h : registry.Counted limit came counted) {account : Address}
    (hpass : registry.isAuthority account = true → counted.length < limit →
      account ∈ counted) :
    registry.Counted limit (came ++ [account]) counted where
  nodup := h.nodup
  came_of_mem := fun a ha => List.mem_append_left _ (h.came_of_mem a ha)
  registered := h.registered
  length_le := h.length_le
  complete := by
    -- Only the newcomer might be left out, and it is not.
    intro hroom a ha hregistered
    rcases List.mem_append.1 ha with ha | ha
    · exact h.complete hroom a ha hregistered
    · rw [List.mem_singleton] at ha
      subst ha
      exact hpass hregistered hroom

/-- As many were counted as authorities came, up to the limit. -/
theorem length_eq (h : registry.Counted limit came counted) :
    counted.length = min (registry.turnout came) limit := by
  have hcard : counted.toFinset.card = counted.length := List.toFinset_card_of_nodup h.nodup
  -- Whoever was counted came and is an authority.
  have hsub : counted.toFinset ⊆ (came.filter registry.isAuthority).toFinset := by
    intro a ha
    rw [List.mem_toFinset] at ha ⊢
    exact List.mem_filter.2 ⟨h.came_of_mem a ha, h.registered a ha⟩
  have hle := Finset.card_le_card hsub
  have hlimit := h.length_le
  by_cases hroom : counted.length < limit
  · -- With room left the converse holds as well, so the two sets are one.
    have hsuper : (came.filter registry.isAuthority).toFinset ⊆ counted.toFinset := by
      intro a ha
      rw [List.mem_toFinset] at ha ⊢
      rcases List.mem_filter.1 ha with ⟨hcame, hregistered⟩
      exact h.complete hroom a hcame hregistered
    have hge := Finset.card_le_card hsuper
    unfold turnout
    omega
  · -- Without room the count stands at its limit, and the turnout is no smaller.
    unfold turnout
    omega

end Counted

/-! ## What those who are counted are told -/

/-- While the count went from one number to another, so many were told that more
    are needed, and so many that it is finished. -/
structure Advanced (registry : Registry) (before after pending finished : Nat) : Prop where
  pending_eq : pending + min before (registry.threshold - 1) =
    min after (registry.threshold - 1)
  told_eq : pending + finished + before = after

namespace Advanced

variable {before after later pending finished : Nat}

theorem refl (registry : Registry) (before : Nat) : registry.Advanced before before 0 0 :=
  ⟨Nat.zero_add _, Nat.zero_add _⟩

/-- Below the threshold more are needed. -/
theorem next (h : before + 1 < registry.threshold) :
    registry.Advanced before (before + 1) 1 0 :=
  ⟨by omega, by omega⟩

/-- The one that reaches the threshold finishes the count. -/
theorem last (h : before + 1 = registry.threshold) :
    registry.Advanced before (before + 1) 0 1 :=
  ⟨by omega, by omega⟩

theorem trans {morePending moreFinished : Nat}
    (h : registry.Advanced before after pending finished)
    (hlater : registry.Advanced after later morePending moreFinished) :
    registry.Advanced before later (morePending + pending) (moreFinished + finished) := by
  have hpending := h.pending_eq
  have htold := h.told_eq
  have hmore := hlater.pending_eq
  have hall := hlater.told_eq
  exact ⟨by omega, by omega⟩

/-- Of a whole count all were told that more are needed, but the one who
    finished it. -/
theorem of_zero (h : registry.Advanced 0 after pending finished)
    (hle : after ≤ registry.threshold) :
    pending = min after (registry.threshold - 1) ∧
      finished = if after = registry.threshold then 1 else 0 := by
  have hpending := h.pending_eq
  have htold := h.told_eq
  have hpos := registry.threshold_pos
  -- The threshold is positive, so a whole count has a last one.
  by_cases hfull : after = registry.threshold
  · rw [if_pos hfull]
    exact ⟨by omega, by omega⟩
  · rw [if_neg hfull]
    exact ⟨by omega, by omega⟩

end Advanced

end Registry

end QuorumBridge
