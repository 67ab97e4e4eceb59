import QuorumBridge.Foreign
import QuorumBridge.Proofs.Bundles.Record
import QuorumBridge.Proofs.Confirmations.Step

/-!
# What events tell of a matter with stages

A log of events can be read without the side that has written it.

Whoever reads a log picks out what it tells of one matter: of a deposit that is
being confirmed, or of a message that is being signed. Between two such events
there may be any number of others. What is picked out is of a simple form all
the same. There is one event of the same kind for each step but the last, and
for the last step another one, after which nothing more is heard of the matter.

This is not a fact about logs alone. Nothing is told of a call that is refused,
so whether an event is the last to come depends on what the tallies and the
collections turn down. The form is therefore tied to them: the number of steps
is what they count, and the end has been told exactly when they have reached it.
An accepted call is told by one event, and it takes its own matter one stage
further and no other.

## Main definitions

* `Event.deposit?`, `Event.message?`: What an event tells of.
* `about`: The events of a log that tell of a matter.
* `Staged`: The form of what is told of a matter with stages.
* `Confirmations.Told`, `Bundles.Told`: What a log tells of all deposits, and of
  all messages.

## Theorems

* `Staged.next`, `Staged.finish`: The next stage, and the last.
* `Confirmations.Told.of_accepted`: What is told of a confirmation.
* `Bundles.Told.of_taken`: What is told of a signature.
-/

namespace QuorumBridge

namespace Event

/-- The deposit whose confirmation an event tells of. -/
def deposit? : Event → Option Deposit
  | .depositConfirmation recipient value transaction | .deposit recipient value transaction =>
    some ⟨recipient, value, transaction⟩
  | _ => none

/-- The name of the message whose signing an event tells of. -/
def message? : Event → Option Hash
  | .withdrawSignatureSubmitted message | .collectedSignatures message _ => some message
  | _ => none

end Event

/-! ## Matters -/

section About

variable {α : Type} [DecidableEq α] (matter? : Event → Option α) (matter : α)

/-- The events of a log that tell of a matter. -/
def about (log : List Event) : List Event :=
  log.filter fun event => decide (matter? event = some matter)

theorem about_append (log later : List Event) :
    about matter? matter (log ++ later) =
      about matter? matter log ++ about matter? matter later := by
  unfold about
  rw [List.filter_append]

theorem about_singleton_of_eq {event : Event} (h : matter? event = some matter) :
    about matter? matter [event] = [event] := by
  unfold about
  rw [List.filter_singleton, decide_eq_true h]
  rfl

theorem about_singleton_of_ne {event : Event} (h : matter? event ≠ some matter) :
    about matter? matter [event] = [] := by
  unfold about
  rw [List.filter_singleton, decide_eq_false h]
  rfl

theorem length_about_singleton (event : Event) :
    (about matter? matter [event]).length = (decide (matter? event = some matter)).toNat := by
  by_cases hsame : matter? event = some matter
  · rw [about_singleton_of_eq _ _ hsame, decide_eq_true hsame]
    rfl
  · rw [about_singleton_of_ne _ _ hsame, decide_eq_false hsame]
    rfl

end About

/-- What is told of a matter that takes as many steps as a threshold, after a
    number of them: the same event for each step but the last, and for the last
    step the event that finishes it. -/
inductive Staged (threshold : Nat) (step : Event) : Nat → Option Event → List Event → Prop
  | underway (number : Nat) (hbelow : number < threshold) :
      Staged threshold step number none (List.replicate number step)
  | finished (number : Nat) (finish : Event) (hlast : number + 1 = threshold) :
      Staged threshold step (number + 1) (some finish) (List.replicate number step ++ [finish])

namespace Staged

variable {threshold number : Nat} {step : Event} {told : List Event}

/-- One more step that is not the last is told by one more event of the kind. -/
theorem next (h : Staged threshold step number none told) (hbelow : number + 1 < threshold) :
    Staged threshold step (number + 1) none (told ++ [step]) := by
  cases h with
  | underway _ _ =>
    rw [← List.replicate_succ']
    exact Staged.underway (number + 1) hbelow

/-- The last step is told by the event that finishes the matter. -/
theorem finish (h : Staged threshold step number none told) (hlast : number + 1 = threshold)
    (event : Event) : Staged threshold step (number + 1) (some event) (told ++ [event]) := by
  cases h with
  | underway _ _ => exact Staged.finished number event hlast

end Staged

/-! ## Confirmations -/

namespace Deposit

/-- What is told of a confirmation that is not the last. -/
def confirmation (deposit : Deposit) : Event :=
  .depositConfirmation deposit.recipient deposit.value deposit.transaction

/-- What is told of the last one. -/
def payment (deposit : Deposit) : Event :=
  .deposit deposit.recipient deposit.value deposit.transaction

end Deposit

namespace Confirmations

/-- What a log tells of a deposit is a step for each of its confirmers, and it
    is finished once the deposit is released. -/
structure Told (registry : Registry) (book : Confirmations) (log : List Event) : Prop where
  sound : book.Sound registry
  staged : ∀ deposit, Staged registry.threshold deposit.confirmation
    (book.confirmers registry deposit).length
    (if book.isReleased deposit then some deposit.payment else none)
    (about Event.deposit? deposit log)

variable {registry : Registry} {book : Confirmations} {log : List Event}

theorem told_empty (registry : Registry) : Confirmations.empty.Told registry [] where
  sound := sound_empty registry
  staged := fun _ => Staged.underway 0 registry.threshold_pos

theorem Told.of_silent (h : book.Told registry log) {later : List Event}
    (hsilent : ∀ deposit, about Event.deposit? deposit later = []) :
    book.Told registry (log ++ later) where
  sound := h.sound
  staged := by
    intro deposit
    rw [about_append, hsilent, List.append_nil]
    exact h.staged deposit

theorem Sound.isReleased_of_lt (h : book.Sound registry) {deposit : Deposit}
    (hlt : (book.confirmers registry deposit).length < registry.threshold) :
    book.isReleased deposit = false := by
  rw [Bool.eq_false_iff]
  intro hreleased
  have hfull := (h.isReleased_iff deposit).1 hreleased
  omega

/-- An accepted confirmation is told as the next stage of its deposit. -/
theorem Told.of_accepted (h : book.Told registry log) {after : Confirmations}
    {deposit : Deposit} {authority : Address} {outcome : ConfirmOutcome}
    (haccepted : Accepted registry book after deposit authority outcome) :
    after.Told registry (log ++ [Foreign.confirmedEvent deposit outcome]) where
  sound := haccepted.sound
  staged := by
    intro other
    have hconfirmers := haccepted.confirmers_eq other
    have htopic : (Foreign.confirmedEvent deposit outcome).deposit? = some deposit := by
      cases outcome <;> rfl
    rw [about_append]
    by_cases hsame : other = deposit
    · subst hsame
      rw [if_pos rfl] at hconfirmers
      have hlength : (after.confirmers registry other).length =
          (book.confirmers registry other).length + 1 := by
        rw [hconfirmers, List.length_append, List.length_singleton]
      -- What was told so far has no end, since a confirmation was still accepted.
      have hbefore := h.staged other
      rw [h.sound.isReleased_of_lt haccepted.below, if_neg Bool.false_ne_true] at hbefore
      rw [about_singleton_of_eq _ _ htopic, haccepted.outcome_eq, Registry.outcome, hlength]
      by_cases hbelow : (book.confirmers registry other).length + 1 < registry.threshold
      · rw [if_pos hbelow, haccepted.sound.isReleased_of_lt (by omega),
          if_neg Bool.false_ne_true]
        exact hbefore.next hbelow
      · -- There were too few before, so with this one there are just enough.
        have hbound := haccepted.below
        have hreleased := (haccepted.sound.isReleased_iff other).2 (by omega)
        rw [if_neg hbelow, hreleased, if_pos rfl]
        exact hbefore.finish (by omega) other.payment
    · -- Nothing is told of any other deposit, and it has not moved.
      rw [if_neg hsame] at hconfirmers
      have hreleased : after.isReleased other = book.isReleased other := by
        rw [Bool.eq_iff_iff, haccepted.sound.isReleased_iff, h.sound.isReleased_iff, hconfirmers]
      have hsilent : (Foreign.confirmedEvent deposit outcome).deposit? ≠ some other := by
        rw [htopic]
        exact fun hc => hsame (Option.some.inj hc).symm
      rw [about_singleton_of_ne _ _ hsilent, List.append_nil, hconfirmers, hreleased]
      exact h.staged other

end Confirmations

/-! ## Signatures -/

namespace Bundles

/-- What a log tells of a message is a step for each of its signatures, and it
    is finished once the bundle is closed, for the relayer in it. -/
structure Told (registry : Registry) (book : Bundles) (log : List Event) : Prop where
  sound : book.Sound registry
  staged : ∀ hash, Staged registry.threshold (.withdrawSignatureSubmitted hash)
    (book.signatures hash).length
    ((book.collected? hash).map fun bundle => .collectedSignatures hash bundle.relayer)
    (about Event.message? hash log)

variable {registry : Registry} {book : Bundles} {log : List Event}

theorem told_empty (registry : Registry) : Bundles.empty.Told registry [] where
  sound := sound_empty registry
  staged := fun _ => Staged.underway 0 registry.threshold_pos

theorem Told.of_silent (h : book.Told registry log) {later : List Event}
    (hsilent : ∀ hash, about Event.message? hash later = []) :
    book.Told registry (log ++ later) where
  sound := h.sound
  staged := by
    intro hash
    rw [about_append, hsilent, List.append_nil]
    exact h.staged hash

theorem Sound.collected?_of_lt (h : book.Sound registry) {hash : Hash}
    (hlt : (book.signatures hash).length < registry.threshold) :
    book.collected? hash = none := by
  rw [← Option.not_isSome_iff_eq_none, h.collected?_isSome_iff]
  omega

/-- A submission that is taken is told as the next stage of its message. -/
theorem Told.of_taken (h : book.Told registry log) {after : Bundles} {submission : Submission}
    {outcome : SubmitOutcome} (hsound : after.Sound registry)
    (htaken : Taken registry book after submission outcome) :
    after.Told registry (log ++ [Foreign.submittedEvent submission.relayer outcome]) where
  sound := hsound
  staged := by
    intro hash
    have hsignatures := htaken.signatures_eq hash
    have hcollected := htaken.collected?_eq hash
    have htopic : (Foreign.submittedEvent submission.relayer outcome).message? =
        some submission.name := by
      rcases htaken.outcome_eq with ⟨number, rfl, _⟩ | ⟨bundle, rfl, hname, _⟩
      · rfl
      · rw [← hname]
        rfl
    rw [about_append]
    by_cases hsame : hash = submission.name
    · subst hsame
      rw [if_pos rfl] at hsignatures hcollected
      have hlength : (after.signatures submission.name).length =
          (book.signatures submission.name).length + 1 := by
        rw [hsignatures, List.length_append, List.length_singleton]
      have hle := hsound.length_signatures_le submission.name
      have hfull := hsound.collected?_isSome_iff submission.name
      -- Nor has this, since there was room for one more signature.
      have hbefore := h.staged submission.name
      rw [h.sound.collected?_of_lt (by omega), Option.map_none] at hbefore
      rw [about_singleton_of_eq _ _ htopic, hlength, hcollected]
      rw [hcollected, hlength] at hfull
      rcases htaken.outcome_eq with ⟨number, rfl, _⟩ | ⟨bundle, rfl, hname, hrelayer⟩
      · -- No bundle was closed, so there are still too few signatures.
        have hopen : (book.signatures submission.name).length + 1 ≠ registry.threshold := by
          intro hc
          exact absurd (hfull.2 hc) Bool.false_ne_true
        exact hbefore.next (by omega)
      · have hlast := hfull.1 rfl
        simp only [SubmitOutcome.bundle?, Option.map_some, Foreign.submittedEvent, hname,
          hrelayer]
        exact hbefore.finish hlast _
    · rw [if_neg hsame] at hsignatures hcollected
      have hsilent : (Foreign.submittedEvent submission.relayer outcome).message? ≠
          some hash := by
        rw [htopic]
        exact fun hc => hsame (Option.some.inj hc).symm
      rw [about_singleton_of_ne _ _ hsilent, List.append_nil, hsignatures, hcollected]
      exact h.staged hash

end Bundles

end QuorumBridge
