import QuorumBridge.Proofs.Crossing.Payments
import QuorumBridge.Proofs.Crossing.Publication
import QuorumBridge.Proofs.Stages
import QuorumBridge.Proofs.Withdrawal

/-!
# The logs of a run

The calls on a bridge are mixed as it pleases its users, and its logs are not.

Of a deposit or a message the log of the foreign side tells in stages. A
transfer is asked for at most once and paid at most once on each side. The
first is kept by every call, since the calls that do not confirm or sign are
silent about these matters. The second is the balance of a number that is
nought or one, as it is for payments: what is told of a transfer spends its
identity. It does so among the requests of a side if the transfer is asked for,
and nobody else spends any of those. If it is paid, it does so in a guard, from
which others may take identities too; so there the events are at most as many
as what is spent. Two guards or one make no difference, because what one side
spends is never given back by the other.

What is said of the run is said of what both logs tell together
(`Crossing.Told`), which one call keeps. A log only grows at its end, so the
same is true of every beginning of it.

## Main definitions

* `Event.asked?`, `Event.paid?`: The transfer that an event tells of.
* `Crossing.requests`: What was asked for on a side.
* `Crossing.Told`: What logs of both sides tell of a bridge.
* `Crossing.Grammatical`: The form of the logs of a bridge.

## Theorems

* `Crossing.asked_of_effect`, `Crossing.paid_of_effect`: The balances of an
  identity.
* `Crossing.told_of_effect`, `Crossing.told_run`: What is told stays right.
* `Crossing.grammatical_run`: The logs of every run are of this form.
-/

namespace QuorumBridge

/-! ## Identities -/

namespace Event

/-- The transfer that an event says was asked for. -/
def asked? : Event → Option ReplayKey
  | .depositRequested _ _ transaction => some (.homeDeposit transaction)
  | .withdrawRequested _ _ _ transaction => some (.foreignWithdraw transaction)
  | _ => none

/-- The transfer that an event says was paid. -/
def paid? : Event → Option ReplayKey
  | .deposit _ _ transaction => some (.homeDeposit transaction)
  | .withdraw _ _ transaction => some (.foreignWithdraw transaction)
  | _ => none

end Event

theorem ReplayGuard.toNat_isSpent_le_reserve (guard : ReplayGuard) (key k : ReplayKey) :
    (guard.isSpent k).toNat ≤ ((guard.reserve key).2.isSpent k).toNat := by
  rw [toNat_isSpent_reserve]
  exact Nat.le_add_right _ _

namespace Guards

/-- The guard that a side looks at. -/
def of (guards : Guards) : Origin → ReplayGuard
  | .home => guards.home
  | .foreign => guards.foreign

/-- What is spent stays spent for both sides when one of them reserves. -/
theorem toNat_isSpent_le_withHome (guards : Guards) (key k : ReplayKey) (side : Origin) :
    ((guards.of side).isSpent k).toNat ≤
      (((guards.withHome (guards.home.reserve key).2).of side).isSpent k).toNat := by
  cases guards with
  | shared guard => cases side <;> exact guard.toNat_isSpent_le_reserve key k
  | apart home foreign =>
    cases side with
    | home => exact home.toNat_isSpent_le_reserve key k
    | foreign => exact Nat.le_refl _

theorem toNat_isSpent_le_withForeign (guards : Guards) (key k : ReplayKey) (side : Origin) :
    ((guards.of side).isSpent k).toNat ≤
      (((guards.withForeign (guards.foreign.reserve key).2).of side).isSpent k).toNat := by
  cases guards with
  | shared guard => cases side <;> exact guard.toNat_isSpent_le_reserve key k
  | apart home foreign =>
    cases side with
    | home => exact Nat.le_refl _
    | foreign => exact foreign.toNat_isSpent_le_reserve key k

end Guards

namespace Crossing

/-- What was asked for on a side. -/
def requests (crossing : Crossing) : Origin → ReplayGuard
  | .home => crossing.home.requests
  | .foreign => crossing.foreign.requests

/-- What a side tells about an exchange. -/
def Exchange.told (exchange : Exchange) (side : Origin) : List Event :=
  (exchange.event? side).toList

/-- Where an identity was free, reserving it adds to what is spent just what an
    event about it adds to a log. -/
theorem toNat_isSpent_told {guard : ReplayGuard} {key : ReplayKey}
    (hfree : guard.isSpent key = false) {matter? : Event → Option ReplayKey} {event : Event}
    (hmatter : matter? event = some key) (k : ReplayKey) :
    ((guard.reserve key).2.isSpent k).toNat =
      (guard.isSpent k).toNat + (about matter? k [event]).length := by
  rw [toNat_spent_reserve hfree k, length_about_singleton, hmatter]

/-- An effect adds to what was asked for on a side exactly what it tells. -/
theorem asked_of_effect {crossing after : Crossing} {call : Call}
    {result : Except Refusal Answer} (h : Effect crossing call result after) (side : Origin)
    (key : ReplayKey) :
    ((after.requests side).isSpent key).toNat = ((crossing.requests side).isSpent key).toNat +
      (about Event.asked? key ((Exchange.mk call result).told side)).length := by
  -- Only a request that is locked marks an identity as asked for, and only on its own side.
  cases h with
  | deposited hvalue hfree hlock =>
    cases side with
    | home => exact toNat_isSpent_told hfree rfl key
    | foreign => rfl
  | transferred hvalue hfree hlock =>
    cases side with
    | home => rfl
    | foreign => exact toNat_isSpent_told hfree rfl key
  | @submitted _ _ _ _ outcome _ hsubmit => cases outcome <;> cases side <;> rfl
  | _ => cases side <;> rfl

/-- An effect tells of no more payments than it spends identities. -/
theorem paid_of_effect {crossing after : Crossing} {call : Call}
    {result : Except Refusal Answer} (h : Effect crossing call result after) (side : Origin)
    (key : ReplayKey) :
    ((crossing.guards.of side).isSpent key).toNat +
        (about Event.paid? key ((Exchange.mk call result).told side)).length ≤
      ((after.guards.of side).isSpent key).toNat := by
  cases h with
  | withdrawn hverify hfree hplan hcheck =>
    cases side with
    | home =>
      -- What is told is the transaction of the message that was verified.
      rcases (Gate.plan_eq_ok_iff _ _ _ _).1 hplan with ⟨fee, _, rfl⟩
      simp only [withHome, Guards.of, Guards.home_withHome]
      exact Nat.le_of_eq (toNat_isSpent_told hfree rfl key).symm
    | foreign => exact Guards.toNat_isSpent_le_withHome _ _ key .foreign
  | released hpos hvote hreached hfree hcheck =>
    cases side with
    | home => exact Guards.toNat_isSpent_le_withForeign _ _ key .home
    | foreign =>
      simp only [withForeign, Guards.of, Guards.foreign_withForeign]
      exact Nat.le_of_eq (toNat_isSpent_told hfree rfl key).symm
  | reservedHome taken => cases side <;> exact Guards.toNat_isSpent_le_withHome _ taken key _
  | reservedForeign taken => cases side <;> exact Guards.toNat_isSpent_le_withForeign _ taken key _
  | @submitted _ _ _ _ outcome _ hsubmit => cases outcome <;> cases side <;> exact Nat.le_refl _
  | _ => cases side <;> exact Nat.le_refl _

/-! ## Runs -/

/-- What logs of both sides tell of a bridge. -/
structure Told (registry : Registry) (crossing : Crossing) (log : Origin → List Event) :
    Prop where
  registry_eq : crossing.foreign.registry = registry
  confirmations : crossing.foreign.confirmations.Told registry (log .foreign)
  bundles : crossing.foreign.bundles.Told registry (log .foreign)
  asked : ∀ side key, (about Event.asked? key (log side)).length =
    ((crossing.requests side).isSpent key).toNat
  paid : ∀ side key, (about Event.paid? key (log side)).length ≤
    ((crossing.guards.of side).isSpent key).toNat

theorem told_start (setting : Setting) (guards : Guards) (homeSink foreignSink : Sink) :
    Told setting.foreignRegistry (setting.start guards homeSink foreignSink) fun _ => [] where
  registry_eq := rfl
  confirmations := Confirmations.told_empty _
  bundles := Bundles.told_empty _
  asked := by
    intro side key
    cases side <;> rfl
  paid := fun side key => Nat.zero_le _

theorem confirmations_of_effect {registry : Registry} {crossing after : Crossing} {call : Call}
    {result : Except Refusal Answer} (h : Effect crossing call result after) {log : List Event}
    (hregistry : crossing.foreign.registry = registry)
    (htold : crossing.foreign.confirmations.Told registry log) :
    after.foreign.confirmations.Told registry
      (log ++ (Exchange.mk call result).told .foreign) := by
  subst hregistry
  cases h with
  | confirmed hpos hvote hbelow =>
    exact htold.of_accepted (Confirmations.accepted_pending htold.sound hpos hvote hbelow)
  | released hpos hvote hreached hfree hcheck =>
    exact htold.of_accepted (Confirmations.accepted_released htold.sound hpos hvote hreached)
  | @submitted _ _ _ _ outcome _ hsubmit =>
    -- Of either event about a message, no deposit hears.
    cases outcome <;> exact htold.of_silent fun deposit => rfl
  | _ => exact htold.of_silent fun deposit => rfl

theorem bundles_of_effect {registry : Registry} {crossing after : Crossing} {call : Call}
    {result : Except Refusal Answer} (h : Effect crossing call result after) {log : List Event}
    (hregistry : crossing.foreign.registry = registry)
    (htold : crossing.foreign.bundles.Told registry log) :
    after.foreign.bundles.Told registry (log ++ (Exchange.mk call result).told .foreign) := by
  subst hregistry
  cases h with
  | @submitted signature message claimed relayer outcome bundles hsubmit =>
    have hsound := Bundles.submit_sound htold.sound signature message claimed relayer
    -- The effect says that the submission was answered, so it was taken.
    rcases Bundles.submit_taken htold.sound ⟨signature, message, claimed, relayer⟩ with
      ⟨refusal, hr⟩ | ⟨_, _, hr, htaken⟩
    · rw [hsubmit] at hr
      exact absurd hr (by simp only [Prod.mk.injEq, reduceCtorEq, false_and, not_false_eq_true])
    · rw [hsubmit] at hr hsound
      simp only [Prod.mk.injEq, Except.ok.injEq] at hr
      rcases hr with ⟨rfl, rfl⟩
      exact htold.of_taken hsound htaken
  -- No other call tells anything about bundles, or changes one.
  | _ => exact htold.of_silent fun hash => rfl

theorem registry_of_effect {crossing after : Crossing} {call : Call}
    {result : Except Refusal Answer} (h : Effect crossing call result after) :
    after.foreign.registry = crossing.foreign.registry := by
  cases h <;> rfl

/-- What is told of a bridge stays right when a call is told behind it. -/
theorem told_of_effect {registry : Registry} {crossing after : Crossing} {call : Call}
    {result : Except Refusal Answer} (h : Effect crossing call result after)
    {log : Origin → List Event} (htold : Told registry crossing log) :
    Told registry after fun side => log side ++ (Exchange.mk call result).told side where
  registry_eq := (registry_of_effect h).trans htold.registry_eq
  confirmations := confirmations_of_effect h htold.registry_eq htold.confirmations
  bundles := bundles_of_effect h htold.registry_eq htold.bundles
  asked := by
    intro side key
    rw [about_append, List.length_append, htold.asked, asked_of_effect h]
  paid := by
    intro side key
    -- What is paid behind the log is added on both sides of the bound.
    have hbefore := htold.paid side key
    have heffect := paid_of_effect h side key
    rw [about_append, List.length_append]
    omega

theorem told_step {registry : Registry} {crossing : Crossing} {log : Origin → List Event}
    (htold : Told registry crossing log) (call : Call) :
    Told registry (crossing.step call).state fun side =>
      log side ++ (Exchange.mk call (crossing.step call).result).told side := by
  have heffect := told_of_effect (effect_perform crossing call) htold
  unfold Exchange.told at heffect ⊢
  simp only [event?_plain] at heffect
  -- The counters are told of nowhere.
  refine ⟨heffect.registry_eq, heffect.confirmations, heffect.bundles, ?_, heffect.paid⟩
  intro side key
  cases side with
  | home => exact heffect.asked .home key
  | foreign => exact heffect.asked .foreign key

/-- A run tells of what it does, behind what was told before. -/
theorem told_run {registry : Registry} {crossing : Crossing} {log : Origin → List Event}
    (htold : Told registry crossing log) (calls : List Call) :
    Told registry (crossing.run calls).2 fun side =>
      log side ++ published side (crossing.exchanges calls) := by
  induction calls generalizing crossing log with
  | nil =>
    have hnone : ∀ side, published side (crossing.exchanges []) = [] := fun _ => rfl
    simp only [hnone, List.append_nil]
    exact htold
  | cons call rest ih =>
    -- The log of the first call is the log that the later ones are told behind.
    have hrest := ih (told_step htold call)
    simp only [exchanges_cons, published_cons]
    simp only [Exchange.told, List.append_assoc] at hrest
    exact hrest

/-- The form of the logs of a bridge. -/
structure Grammatical (registry : Registry) (crossing : Crossing) (log : Origin → List Event) :
    Prop where
  /-- The log of a side is what its sink holds. -/
  sink_eq : ∀ side, crossing.sink side = .history (log side)
  /-- Of a deposit there is one event for each confirmer, and the last of them
      tells of the payment. -/
  deposit : ∀ deposit, Staged registry.threshold deposit.confirmation
    (crossing.foreign.confirmations.confirmers registry deposit).length
    (if crossing.foreign.confirmations.isReleased deposit then some deposit.payment else none)
    (about Event.deposit? deposit (log .foreign))
  /-- Of a message there is one event for each signature, and the last of them
      names the relayer that is in the bundle. -/
  message : ∀ hash, Staged registry.threshold (.withdrawSignatureSubmitted hash)
    (crossing.foreign.bundles.count hash)
    ((crossing.foreign.bundles.collected? hash).map fun bundle =>
      .collectedSignatures hash bundle.relayer)
    (about Event.message? hash (log .foreign))
  /-- A transfer is asked for once at most on a side. -/
  asked_le_one : ∀ side key, (about Event.asked? key (log side)).length ≤ 1
  /-- It is paid once at most on a side. -/
  paid_le_one : ∀ side key, (about Event.paid? key (log side)).length ≤ 1

/-- The logs of a bridge that began with empty ones are of this form after every
    run, whatever guards it looks at. -/
theorem grammatical_run (setting : Setting) (guards : Guards) (calls : List Call) :
    Grammatical setting.foreignRegistry
      ((setting.start guards .newHistory .newHistory).run calls).2
      fun side => published side
        ((setting.start guards .newHistory .newHistory).exchanges calls) := by
  -- The logs begin empty, so what is published in the run is all that they tell.
  have htold := told_run (told_start setting guards .newHistory .newHistory) calls
  simp only [List.nil_append] at htold
  refine ⟨?_, htold.confirmations.staged, ?_, ?_, ?_⟩
  · intro side
    have hstart : (setting.start guards .newHistory .newHistory).sink side = .history [] := by
      cases side <;> rfl
    exact history_run hstart calls
  · intro hash
    rw [Bundles.count_eq]
    exact htold.bundles.staged hash
  · intro side key
    rw [htold.asked]
    -- A request is pending or it is not, and so it is told once at most.
    exact Bool.toNat_le _
  · intro side key
    exact Nat.le_trans (htold.paid side key) (Bool.toNat_le _)

-- Two accounts confirm a deposit, and what one of them says later is not told any more.
example :
    let first : Address := Octets.zero 20
    let second : Address := ⟨List.replicate 20 1, rfl⟩
    let registry : Registry := ⟨[first, second], 2, by decide, by decide, by decide⟩
    let setting : Setting := ⟨registry, registry, .ofReserves 0, .ofReserves 100, 0⟩
    let deposit : Deposit := ⟨first, 1, Octets.zero 32⟩
    let calls : List Call :=
      [.confirm first deposit, .confirm second deposit, .confirm first deposit]
    published .foreign ((setting.start (.shared .empty) .newHistory .newHistory).exchanges
      calls) = [deposit.confirmation, deposit.payment] := by
  decide

end Crossing

end QuorumBridge
