import QuorumBridge.Proofs.Completion
import QuorumBridge.Proofs.Crossing.Grammar

/-!
# What was decided stays decided

A released deposit and a closed bundle are the same after every continuation of
a run.

Whatever is called on a bridge afterwards, who has released a deposit and what
is in a bundle can be read as they were, and the calls that would change them
are turned down. This is seen from outside: a call may go to either side, use a
ledger or put another in its place, and spend identities.

Most effects do not come near a tally or a collection. Those that do have passed
the checks before them, and a vote that was added or a signature that was
accepted is never one for what is complete (`Confirmations.get?_put_of_vote`,
`Bundles.collection_submit`). So the entries in the tables are the same, term
for term, and everything that is read off them is.

That the transaction of a released deposit is known to be paid is a fact about
the guard and not about the tallies. A release spends the identity, and no call
gives an identity back (`isSpent_of_effect`).

A foreign side pays from a ledger here. What is said of deposits needs none, so
it is said once more of tallies over anything that holds value and remembers
what it has paid.

## Main definitions

* `Crossing.Backed`: The transactions of released deposits are spent.
* `Crossing.Final`: What was decided in one state is decided in another.

## Theorems

* `Crossing.isSpent_of_effect`: What is spent stays spent.
* `Crossing.tally_run`, `Crossing.collection_run`: What is complete is the same
  after a run.
* `Crossing.backed_run`: A run keeps released deposits spent.
* `Crossing.Told.final`: What a bridge has decided is decided after any calls.
* `Crossing.final_run`: From the beginning on, what was decided is final.
-/

namespace QuorumBridge

namespace Crossing

variable {crossing after : Crossing} {call : Call} {result : Except Refusal Answer}

/-! ## Identities -/

/-- No effect gives an identity back. -/
theorem isSpent_of_effect (h : Effect crossing call result after) {side : Origin}
    {key : ReplayKey} (hspent : (crossing.guards.of side).isSpent key = true) :
    (after.guards.of side).isSpent key = true := by
  have hpaid := paid_of_effect h side key
  have hle := Bool.toNat_le ((after.guards.of side).isSpent key)
  rw [hspent, Bool.toNat_true] at hpaid
  rw [← Bool.toNat_eq_one]
  omega

/-- The transactions of released deposits are spent in the guard of the foreign
    side. -/
def Backed (crossing : Crossing) : Prop :=
  crossing.foreign.confirmations.Backed
    (Books.mk crossing.guards.foreign crossing.foreign.ledger)

theorem backed_of_effect (h : Effect crossing call result after) (hbacked : crossing.Backed) :
    after.Backed := by
  intro deposit hreleased
  -- An identity that was spent before still is, so only new releases matter.
  have hstill : crossing.foreign.confirmations.isReleased deposit = true →
      (after.guards.of .foreign).isSpent (.homeDeposit deposit.transaction) = true :=
    fun hbefore => isSpent_of_effect h (hbacked deposit hbefore)
  cases h with
  | confirmed hpos hvote hbelow =>
    rw [Confirmations.isReleased_put] at hreleased
    split at hreleased
    · exact absurd hreleased Bool.false_ne_true
    · exact hstill hreleased
  | released hpos hvote hreached hfree hcheck =>
    simp only [withForeign, Confirmations.isReleased_put] at hreleased
    split at hreleased
    · rename_i hsame
      simp only [Treasury.isSpent, withForeign, Guards.foreign_withForeign,
        ReplayGuard.isSpent_reserve, hsame, decide_true, Bool.or_true]
    · exact hstill hreleased
  | _ => exact hstill hreleased

theorem backed_run (hbacked : crossing.Backed) (calls : List Call) :
    (crossing.run calls).2.Backed := by
  refine run_invariant ?_ hbacked
  intro state call _ hstate
  have heffect := backed_of_effect (effect_perform state call) hstate
  exact heffect

/-! ## Tallies and collections -/

/-- No effect changes the tally of a released deposit. -/
theorem tally_of_effect (h : Effect crossing call result after) {deposit : Deposit}
    (hreleased : crossing.foreign.confirmations.isReleased deposit = true) :
    after.foreign.confirmations.tallies.get? deposit =
      crossing.foreign.confirmations.tallies.get? deposit := by
  cases h with
  | confirmed hpos hvote hbelow => exact Confirmations.get?_put_of_vote hvote hreleased _
  | released hpos hvote hreached hfree hcheck =>
    exact Confirmations.get?_put_of_vote hvote hreleased _
  | _ => rfl

/-- The tally of a released deposit is the same after a run. -/
theorem tally_run {deposit : Deposit}
    (hreleased : crossing.foreign.confirmations.isReleased deposit = true) (calls : List Call) :
    (crossing.run calls).2.foreign.confirmations.tallies.get? deposit =
      crossing.foreign.confirmations.tallies.get? deposit := by
  refine run_invariant (P := fun state => state.foreign.confirmations.tallies.get? deposit =
    crossing.foreign.confirmations.tallies.get? deposit) ?_ rfl
  intro state call _ hstate
  -- That the deposit is released is read off its tally, so it still is.
  have hstill := (Confirmations.isReleased_congr hstate).trans hreleased
  exact (tally_of_effect (effect_perform state call) hstill).trans hstate

/-- No effect changes a closed bundle. -/
theorem collection_of_effect (h : Effect crossing call result after) {hash : Hash}
    {bundle : Bundle} (hfound : crossing.foreign.bundles.collected? hash = some bundle) :
    after.foreign.bundles.collections.get? hash =
      crossing.foreign.bundles.collections.get? hash := by
  cases h with
  | @submitted signature message claimed relayer outcome bundles hsubmit =>
    have hkept := Bundles.collection_submit hfound crossing.foreign.registry signature message
      claimed relayer
    rw [hsubmit] at hkept
    exact hkept
  | _ => rfl

/-- A closed bundle is found again after a run. -/
theorem collection_run {hash : Hash} {bundle : Bundle}
    (hfound : crossing.foreign.bundles.collected? hash = some bundle) (calls : List Call) :
    (crossing.run calls).2.foreign.bundles.collected? hash = some bundle := by
  refine run_invariant (P := fun state => state.foreign.bundles.collected? hash = some bundle)
    ?_ hfound
  intro state call _ hstate
  have heffect := collection_of_effect (effect_perform state call) hstate
  rw [Bundles.collected?_eq] at hstate ⊢
  exact (congrArg (Option.bind · Collection.bundle?) heffect).trans hstate

/-! ## Runs -/

/-- A confirmation is answered by the tallies of the foreign side, over its
    ledger and the guard that it looks at. -/
theorem confirm_result (crossing : Crossing) (account : Address) (deposit : Deposit) :
    (crossing.step (.confirm account deposit)).result =
      (crossing.foreign.confirmations.confirm
        (Books.mk crossing.guards.foreign crossing.foreign.ledger) crossing.foreign.registry deposit
        account).1.map .confirmed := by
  simp only [step, perform, Report.map, Report.mapState]
  unfold Foreign.confirm
  rcases crossing.foreign.confirmations.confirm
    (Books.mk crossing.guards.foreign crossing.foreign.ledger) crossing.foreign.registry deposit
    account with ⟨refusal | outcome, confirmations, books⟩
  · rfl
  · rfl

/-- A signature is answered by the collections of the foreign side. -/
theorem submit_result (crossing : Crossing) (signature : Signature) (message : List UInt8)
    (claimed relayer : Address) :
    (crossing.step (.submit signature message claimed relayer)).result =
      (crossing.foreign.bundles.submit crossing.foreign.registry signature message claimed
        relayer).1.map .submitted := by
  simp only [step, perform, Report.map, Report.mapState]
  unfold Foreign.submit
  rcases crossing.foreign.bundles.submit crossing.foreign.registry signature message claimed
    relayer with ⟨refusal | outcome, bundles⟩
  · rfl
  · rfl

/-- What was decided before is decided after, and whoever comes late is told
    so. -/
structure Final (registry : Registry) (before after : Crossing) : Prop where
  /-- A released deposit is closed, by those who have released it. -/
  closed : ∀ deposit, before.foreign.confirmations.isReleased deposit = true →
    Confirmations.Closed registry deposit
      (before.foreign.confirmations.confirmers registry deposit) after.foreign.confirmations
  /-- Its transaction is known to be paid. -/
  paid : ∀ deposit, before.foreign.confirmations.isReleased deposit = true →
    after.guards.foreign.isDepositReleased deposit.transaction = true
  /-- Whoever confirms it is refused. -/
  confirm_refused : ∀ account deposit,
    before.foreign.confirmations.isReleased deposit = true →
      (after.step (.confirm account deposit)).result = .error (registry.lateConfirmation
        (before.foreign.confirmations.confirmers registry deposit) deposit account)
  /-- A closed bundle is found as it was. -/
  collected : ∀ hash bundle, before.foreign.bundles.collected? hash = some bundle →
    after.foreign.bundles.collected? hash = some bundle
  /-- Whoever hands in a signature of an authority for it is refused. -/
  submit_refused : ∀ hash bundle signature claimed relayer,
    before.foreign.bundles.collected? hash = some bundle →
      registry.Signed bundle.message signature claimed →
        (after.step (.submit signature bundle.message claimed relayer)).result =
          .error (bundle.lateSignature claimed)

/-- What was decided in a state whose logs tell of it is decided after any
    calls. -/
theorem Told.final {registry : Registry} {log : Origin → List Event}
    (h : Told registry crossing log) (hbacked : crossing.Backed) (calls : List Call) :
    Final registry crossing (crossing.run calls).2 := by
  have hafter := told_run h calls
  -- A released tally does not change any more, so whoever is missing from it now is missing for
  -- good.
  have hclosed : ∀ deposit, crossing.foreign.confirmations.isReleased deposit = true →
      Confirmations.Closed registry deposit
        (crossing.foreign.confirmations.confirmers registry deposit)
        (crossing.run calls).2.foreign.confirmations := by
    intro deposit hreleased
    have htally := tally_run hreleased calls
    rw [← Confirmations.confirmers_congr htally]
    exact hafter.confirmations.sound.closed
      ((Confirmations.isReleased_congr htally).trans hreleased)
  refine ⟨hclosed, ?_, ?_, ?_, ?_⟩
  · intro deposit hreleased
    -- The guard and the tallies of a bridge that backs its deposits agree after any calls.
    exact backed_run hbacked calls deposit (hclosed deposit hreleased).isReleased
  · intro account deposit hreleased
    rw [confirm_result, hafter.registry_eq, (hclosed deposit hreleased).refused]
    rfl
  · intro hash bundle hfound
    exact collection_run hfound calls
  · intro hash bundle signature claimed relayer hfound hsigned
    rw [submit_result, hafter.registry_eq,
      hafter.bundles.sound.submit_late (collection_run hfound calls) hsigned]
    rfl

/-- From any state that a run of calls leads to, what was decided is decided
    after any further calls. Of deposits this is true whoever holds the value,
    as long as nobody gives an identity back. -/
theorem final_run (setting : Setting) (guards : Guards) (homeSink foreignSink : Sink)
    (earlier later : List Call) :
    Final setting.foreignRegistry
        ((setting.start guards homeSink foreignSink).run earlier).2
        (((setting.start guards homeSink foreignSink).run earlier).2.run later).2 ∧
      ∀ (σ : Type) [Treasury σ] (treasury : σ) (first rest : List (Confirmations.Act σ)),
        Treasury.Remembers σ → (∀ act ∈ first ++ rest, act.Remembers) →
          Confirmations.Lasting setting.foreignRegistry
            (Confirmations.run setting.foreignRegistry .empty treasury first).2.1
            (Confirmations.run setting.foreignRegistry .empty treasury (first ++ rest)).2.1
            (Confirmations.run setting.foreignRegistry .empty treasury (first ++ rest)).2.2 := by
  have htold := told_run (told_start setting guards homeSink foreignSink) earlier
  -- Nothing is released in the beginning.
  have hstart : (setting.start guards homeSink foreignSink).Backed :=
    fun deposit hreleased => absurd hreleased Bool.false_ne_true
  refine ⟨htold.final (backed_run hstart earlier) later, ?_⟩
  intro σ _ treasury first rest hremembers hacts
  have hempty : Confirmations.empty.Backed treasury :=
    fun deposit hreleased => absurd hreleased Bool.false_ne_true
  have hsound := Confirmations.run_sound (Confirmations.sound_empty setting.foreignRegistry)
    treasury first
  have hbacked := Confirmations.backed_run hremembers hempty setting.foreignRegistry
    (fun act hact => hacts act (List.mem_append_left rest hact))
  rw [Confirmations.run_append]
  exact hsound.lasting_run hremembers hbacked
    (fun act hact => hacts act (List.mem_append_right first hact))

/-- An account decides alone on both sides. -/
def soleSetting : Setting where
  homeRegistry := Bundles.soleRegistry
  foreignRegistry := Bundles.soleRegistry
  homeLedger := .ofReserves 0
  foreignLedger := .ofReserves 30
  gas := 0

/-- A deposit of thirty to that account. -/
def soleDeposit : Deposit :=
  ⟨Bundles.soleAuthority, 30, Octets.zero 32⟩

/-- The deposit is confirmed, and a message is signed. -/
def soleDecisions : List Call :=
  [.confirm Bundles.soleAuthority soleDeposit,
    .submit Bundles.soleSubmission.signature Bundles.soleSubmission.message
      Bundles.soleAuthority Bundles.soleAuthority]

/-- The deposit is confirmed over books. -/
def soleVote : Confirmations.Act Books :=
  .confirm soleDeposit Bundles.soleAuthority

/-- All reserves of the books are lost. -/
def soleLoss : Confirmations.Act Books :=
  .interfere fun books => { books with ledger := .ofReserves 0 }

set_option maxRecDepth 100000 in
/-- Another ledger is put in place of the one that has paid. The account is told
    that it has confirmed already, and the bundle is found as it was. Over books
    the deposit is spent as well. -/
theorem final_run_sole :
    ∃ before after bundle,
      before = ((soleSetting.start (.shared .empty) .newHistory .newHistory).run
        soleDecisions).2 ∧
      after = (before.run [.foreignLedger (.replace (.ofReserves 500))]).2 ∧
      before.foreign.confirmations.isReleased soleDeposit = true ∧
      before.foreign.bundles.collected? (messageHash Bundles.soleSubmission.message) =
        some bundle ∧
      after.guards.foreign.isDepositReleased soleDeposit.transaction = true ∧
      (after.step (.confirm Bundles.soleAuthority soleDeposit)).result =
        .error (.duplicateConfirmation Bundles.soleAuthority) ∧
      after.foreign.bundles.collected? (messageHash Bundles.soleSubmission.message) =
        some bundle ∧
      Treasury.isSpent (Confirmations.run Bundles.soleRegistry .empty
        (Books.mk .empty (.ofReserves 30)) [soleVote, soleLoss]).2.2
          (.homeDeposit soleDeposit.transaction) = true := by
  have hboth := final_run soleSetting (.shared .empty) .newHistory .newHistory soleDecisions
    [.foreignLedger (.replace (.ofReserves 500))]
  have hfinal := hboth.1
  have hreleased : ((soleSetting.start (.shared .empty) .newHistory .newHistory).run
      soleDecisions).2.foreign.confirmations.isReleased soleDeposit = true := by decide +kernel
  have hclosed : (((soleSetting.start (.shared .empty) .newHistory .newHistory).run
      soleDecisions).2.foreign.bundles.collected?
        (messageHash Bundles.soleSubmission.message)).isSome = true := by decide +kernel
  have hlate : Bundles.soleRegistry.lateConfirmation
      (((soleSetting.start (.shared .empty) .newHistory .newHistory).run
        soleDecisions).2.foreign.confirmations.confirmers Bundles.soleRegistry soleDeposit)
      soleDeposit Bundles.soleAuthority = .duplicateConfirmation Bundles.soleAuthority := by
    decide +kernel
  have hrefused := hfinal.confirm_refused Bundles.soleAuthority soleDeposit hreleased
  rcases Option.isSome_iff_exists.1 hclosed with ⟨bundle, hbundle⟩
  -- Whatever else is done to the books here forgets no transaction.
  have hacts : ∀ act ∈ [soleVote] ++ [soleLoss], act.Remembers := by
    intro act hact
    rcases List.mem_pair.1 hact with rfl | rfl
    · exact trivial
    · exact fun books key hspent => hspent
  have hlasting := hboth.2 Books ⟨.empty, .ofReserves 30⟩ [soleVote] [soleLoss]
    Books.remembers hacts
  refine ⟨_, _, bundle, rfl, rfl, hreleased, hbundle, hfinal.paid soleDeposit hreleased, ?_,
    hfinal.collected _ bundle hbundle, hlasting.spent soleDeposit (by decide +kernel)⟩
  rw [← hlate]
  exact hrefused

end Crossing

end QuorumBridge
