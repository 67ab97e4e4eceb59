import QuorumBridge.Proofs.Crossing.Finality

/-!
# What a ledger has put off

A payment that only the ledger has refused can be made up for.

A refusal changes nothing, so right after it the call would do what it would
have done before. But the ledger does not recover by itself. In the meantime
others confirm, relay, lock and withdraw, and it has to be seen that none of
this takes the chance away, however long it goes on.

On the home side there is little to it. Whether a message passes depends on the
registry and on the estimate of gas, which no call changes
(`Crossing.home_of_effect`), so the message passes again and asks for the very
same withdrawal.

A confirmation depends on its tally, and that can change. What the ledger has
refused was the last vote: all others are in the tally and this one is not
(`Confirmations.Waiting`). Nobody can add a vote to such a tally without
reaching the threshold, and a vote that reaches the threshold is kept only if
the deposit is paid, which spends its identity. So as long as the identity is
free, the tally waits for one vote (`Crossing.Awaits`). It need not be the one
that was refused, but that one will do.

## Main definitions

* `Confirmations.Waiting`: The vote of an authority is all that is missing.
* `Crossing.Awaits`: A deposit waits for a vote, unless it was paid.
* `Crossing.Releases`, `Crossing.Executes`: A call succeeds if nothing but the
  guard and the ledger can stand in its way.
* `Crossing.Retries`: What the ledger has refused succeeds later.

## Theorems

* `Confirmations.waiting_of_ledger`: What the ledger has refused is the last
  vote.
* `Confirmations.Waiting.accepted`: Another vote is for another deposit, or
  releases this one.
* `Crossing.awaits_of_effect`, `Crossing.awaits_run`: A deposit goes on waiting.
* `Crossing.home_of_effect`, `Crossing.home_run`: What passes at home goes on
  passing.
* `Crossing.retried_run`: What the ledger has refused can be tried again.
-/

namespace QuorumBridge

/-! ## Confirmations -/

namespace Confirmations

variable {registry : Registry} {book after : Confirmations} {books : Books} {deposit : Deposit}
  {authority : Address}

/-- Of all votes that a deposit needs, only the one of this authority is
    missing. -/
structure Waiting (registry : Registry) (deposit : Deposit) (authority : Address)
    (book : Confirmations) : Prop where
  registered : authority ∈ registry.authorities
  new : authority ∉ book.confirmers registry deposit
  last : (book.confirmers registry deposit).length + 1 = registry.threshold

/-- A vote is never refused by a ledger. -/
theorem vote_ne_ledger {index : Nat} {fault : LedgerFault} :
    book.vote registry deposit authority index ≠ .error (.ledger fault) := by
  unfold vote
  intro h
  split at h
  · exact absurd h (by simp only [reduceCtorEq, not_false_eq_true])
  · split at h
    · exact absurd h (by simp only [Except.error.injEq, reduceCtorEq, not_false_eq_true])
    · split at h
      · exact absurd h (by simp only [Except.error.injEq, reduceCtorEq, not_false_eq_true])
      · exact absurd h (by simp only [reduceCtorEq, not_false_eq_true])

/-- A confirmation that the ledger has refused was the last one. -/
theorem waiting_of_ledger (hsound : book.Sound registry) {fault : LedgerFault}
    (h : (book.confirm books registry deposit authority).1 = .error (.ledger fault)) :
    Waiting registry deposit authority book := by
  unfold confirm at h
  cases hpos : registry.position? authority with
  | none =>
    rw [hpos] at h
    exact absurd h (by simp only [Except.error.injEq, reduceCtorEq, not_false_eq_true])
  | some index =>
    rw [hpos] at h
    simp only at h
    cases hvote : book.vote registry deposit authority index with
    | error refusal =>
      simp only [hvote, Except.error.injEq] at h
      rw [h] at hvote
      exact absurd hvote vote_ne_ledger
    | ok signers =>
      -- The vote was good, so it was the settlement that was refused, and it is asked at the
      -- threshold only.
      have hadds : book.Adds registry deposit authority signers := ⟨index, hpos, hvote⟩
      rcases (adds_iff hsound deposit authority).1 ⟨signers, hadds⟩ with ⟨hmem, hnew, hroom⟩
      have hsize := hadds.size_eq hsound
      rw [hvote] at h
      by_cases hbelow : signers.size < registry.threshold
      · simp only [if_pos hbelow] at h
        exact absurd h (by simp only [reduceCtorEq, not_false_eq_true])
      · exact ⟨hmem, hnew, by omega⟩

/-- The vote that is missing releases the deposit, if it can be paid. -/
theorem Waiting.confirm (h : Waiting registry deposit authority book)
    (hsound : book.Sound registry) (hcan : books.CanPay deposit) :
    (book.confirm books registry deposit authority).1 = .ok (.released registry.threshold) := by
  have hlast := h.last
  rcases (adds_iff hsound deposit authority).2 ⟨h.registered, h.new, by omega⟩ with
    ⟨signers, hadds⟩
  have hsize : signers.size = registry.threshold := (hadds.size_eq hsound).trans hlast
  rw [confirm_of_adds hadds (fun _ => hcan), kept, Registry.outcome, hsize,
    if_neg (Nat.lt_irrefl _)]

/-- A vote that is accepted while a deposit waits is one for another deposit, or
    it releases this one. -/
theorem Waiting.accepted (h : Waiting registry deposit authority book) {first : Deposit}
    {account : Address} {outcome : ConfirmOutcome}
    (haccepted : Accepted registry book after first account outcome) :
    (first = deposit ∧ outcome = .released registry.threshold) ∨
      Waiting registry deposit authority after := by
  by_cases hsame : deposit = first
  · subst hsame
    -- This is the vote that was missing.
    have houtcome := haccepted.outcome_eq
    rw [h.last, Registry.outcome, if_neg (Nat.lt_irrefl _)] at houtcome
    exact Or.inl ⟨rfl, houtcome⟩
  · -- Votes for other deposits change nothing about who has confirmed this one.
    have hlist := haccepted.confirmers_eq deposit
    rw [if_neg hsame] at hlist
    refine Or.inr ⟨h.registered, ?_, ?_⟩
    · rw [hlist]
      exact h.new
    · rw [hlist]
      exact h.last

end Confirmations

/-! ## Withdrawals -/

/-- A message is never refused by a ledger before it was verified. -/
theorem Registry.Unverified.ne_ledger {registry : Registry} {signatures : List Signature}
    {message : List UInt8} {refusal : Refusal}
    (h : registry.Unverified signatures message refusal) (fault : LedgerFault) :
    refusal ≠ .ledger fault := by
  -- A message is turned down for its form, for a signature or for their number, and by no ledger.
  cases h with
  | length hlength =>
    unfold Instruction.lengthRefusal
    split
    · simp only [ne_eq, reduceCtorEq, not_false_eq_true]
    · simp only [ne_eq, reduceCtorEq, not_false_eq_true]
  | signature hlength hfault =>
    rcases hfault with ⟨_, _, hfaulty⟩
    cases hfaulty with
    | unrecoverable hsigner => simp only [ne_eq, reduceCtorEq, not_false_eq_true]
    | stranger hsigner hout => simp only [ne_eq, reduceCtorEq, not_false_eq_true]
    | repeated hsigned hseen => simp only [ne_eq, reduceCtorEq, not_false_eq_true]
  | few hlength hsigned hnodup hfew => simp only [ne_eq, reduceCtorEq, not_false_eq_true]

namespace Home

variable {home : Home} {replays : ReplayGuard} {signatures : List Signature}
  {message : List UInt8} {relayer : Address}

/-- What the ledger has refused was a withdrawal of a verified message. -/
theorem planned_of_ledger {fault : LedgerFault}
    (h : (home.withdraw replays signatures message relayer).result = .error (.ledger fault)) :
    ∃ verified withdrawal, verify home.registry signatures message = .ok verified ∧
      home.gate.plan verified relayer = .ok withdrawal := by
  rw [withdraw_result, Gate.execute] at h
  cases hverify : verify home.registry signatures message with
  | error refusal =>
    rw [hverify, Except.error.injEq] at h
    exact absurd h (((verify_eq_error_iff _ _ _ _).1 hverify).ne_ledger fault)
  | ok verified =>
    rw [hverify] at h
    rcases settle_books_refusal h with ⟨_, hreplayed⟩ | ⟨_, hplan⟩ |
      ⟨_, withdrawal, _, hplan, _⟩
    · exact absurd hreplayed (by simp only [reduceCtorEq, not_false_eq_true])
    · -- All that a plan is refused for is the fee.
      rcases Gate.fee_error (Gate.plan_error hplan) with ⟨fee, hfee⟩
      exact absurd hfee (by simp only [reduceCtorEq, not_false_eq_true])
    · exact ⟨verified, withdrawal, rfl, hplan⟩

/-- What is planned is executed, if its identity is free and the ledger can
    pay. -/
theorem withdraw_of_plan {verified : VerifiedMessage} {withdrawal : Withdrawal}
    (hverify : verify home.registry signatures message = .ok verified)
    (hplan : home.gate.plan verified relayer = .ok withdrawal)
    (hfree : replays.isSpent (.foreignWithdraw verified.instruction.transaction) = false)
    (hcheck : home.ledger.checkRelease withdrawal.payouts = .ok ()) :
    (home.withdraw replays signatures message relayer).result = .ok withdrawal := by
  rw [withdraw_result, Gate.execute, hverify]
  simp only [Gate.release, settle_books, hfree, hplan, hcheck, Bool.false_eq_true, if_false]

end Home

namespace Crossing

variable {crossing after : Crossing} {call : Call} {result : Except Refusal Answer}
  {registry : Registry} {deposit : Deposit} {authority : Address}

/-! ## Deposits that wait -/

/-- Unless it was paid, a deposit waits for the vote of an authority. -/
def Awaits (crossing : Crossing) (registry : Registry) (deposit : Deposit)
    (authority : Address) : Prop :=
  crossing.guards.foreign.isDepositReleased deposit.transaction = false →
    Confirmations.Waiting registry deposit authority crossing.foreign.confirmations

/-- A deposit goes on waiting. A vote for it would be the last one, so it is paid
    or the vote is not kept. -/
theorem awaits_of_effect (h : Effect crossing call result after)
    (hregistry : crossing.foreign.registry = registry)
    (hsound : crossing.foreign.confirmations.Sound registry)
    (hawaits : crossing.Awaits registry deposit authority) :
    after.Awaits registry deposit authority := by
  intro hfree
  subst hregistry
  have hstill : (crossing.guards.of .foreign).isSpent (.homeDeposit deposit.transaction) = true →
      (after.guards.of .foreign).isSpent (.homeDeposit deposit.transaction) = true :=
    fun hspent => isSpent_of_effect h hspent
  have hbefore : crossing.guards.foreign.isDepositReleased deposit.transaction = false := by
    rw [← Bool.not_eq_true] at hfree ⊢
    exact fun hspent => hfree (hstill hspent)
  have hwaiting := hawaits hbefore
  cases h with
  | confirmed hpos hvote hbelow =>
    have haccepted := Confirmations.accepted_pending hsound hpos hvote hbelow
    rcases hwaiting.accepted haccepted with ⟨_, houtcome⟩ | hlater
    · exact absurd houtcome (by simp only [reduceCtorEq, not_false_eq_true])
    · exact hlater
  | released hpos hvote hreached hunspent hcheck =>
    have haccepted := Confirmations.accepted_released hsound hpos hvote hreached
    rcases hwaiting.accepted haccepted with ⟨rfl, _⟩ | hlater
    · -- The deposit itself was paid, so its identity is not free.
      simp only [withForeign, Guards.foreign_withForeign, ReplayGuard.isDepositReleased,
        ReplayGuard.isSpent_reserve, decide_true, Bool.or_true, reduceCtorEq] at hfree
    · exact hlater
  | _ => exact hwaiting

theorem awaits_run {log : Origin → List Event} (htold : Told registry crossing log)
    (hawaits : crossing.Awaits registry deposit authority) (calls : List Call) :
    (crossing.run calls).2.Awaits registry deposit authority := by
  induction calls generalizing crossing log with
  | nil => exact hawaits
  | cons call rest ih =>
    -- The logs say that the tallies are sound when the next call comes.
    have hnext := awaits_of_effect (effect_perform crossing call) htold.registry_eq
      htold.confirmations.sound hawaits
    exact ih (told_step htold call) hnext

/-! ## Sides that stay what they are -/

/-- No effect changes who the authorities of the home side are, or its estimate
    of gas. -/
theorem home_of_effect (h : Effect crossing call result after) :
    after.home.registry = crossing.home.registry ∧ after.home.gate = crossing.home.gate := by
  cases h with
  | _ => exact ⟨rfl, rfl⟩

theorem home_run (crossing : Crossing) (calls : List Call) :
    (crossing.run calls).2.home.registry = crossing.home.registry ∧
      (crossing.run calls).2.home.gate = crossing.home.gate := by
  refine run_invariant (P := fun state => state.home.registry = crossing.home.registry ∧
    state.home.gate = crossing.home.gate) ?_ ⟨rfl, rfl⟩
  intro state call _ hstate
  have heffect := home_of_effect (effect_perform state call)
  exact ⟨heffect.1.trans hstate.1, heffect.2.trans hstate.2⟩

/-! ## Trying again -/

theorem eq_error_of_map {ε α β : Type} {x : Except ε α} {view : α → β} {reason : ε}
    (h : x.map view = .error reason) : x = .error reason := by
  cases x with
  | error other => rw [Except.error.inj h]
  | ok value => exact absurd h (by simp only [Except.map, reduceCtorEq, not_false_eq_true])

/-- The confirmation of an authority releases a deposit, if the identity of it
    is free and the ledger can pay it. -/
def Releases (crossing : Crossing) (registry : Registry) (authority : Address)
    (deposit : Deposit) : Prop :=
  crossing.guards.foreign.isDepositReleased deposit.transaction = false →
    crossing.foreign.ledger.checkRelease deposit.payouts = .ok () →
      (crossing.step (.confirm authority deposit)).result =
        .ok (.confirmed (.released registry.threshold))

/-- A signed message is answered by a withdrawal, if the identity of it is free
    and the ledger can pay it. -/
def Executes (crossing : Crossing) (signatures : List Signature) (message : List UInt8)
    (relayer : Address) (withdrawal : Withdrawal) : Prop :=
  crossing.guards.home.isWithdrawn withdrawal.instruction.transaction = false →
    crossing.home.ledger.checkRelease withdrawal.payouts = .ok () →
      (crossing.step (.withdraw signatures message relayer)).result = .ok (.withdrawn withdrawal)

/-- What only the ledger has refused in a state succeeds when it is tried again
    after other calls. -/
structure Retries (registry : Registry) (before : Crossing) (later : List Call) : Prop where
  /-- A confirmation is the last one that the deposit needs. -/
  confirm : ∀ authority deposit fault,
    (before.step (.confirm authority deposit)).result = .error (.ledger fault) →
      (before.run (.confirm authority deposit :: later)).2.Releases registry authority deposit
  /-- A withdrawal is the one that was planned when it was refused. -/
  withdraw : ∀ signatures message relayer fault,
    (before.step (.withdraw signatures message relayer)).result = .error (.ledger fault) →
      ∃ verified withdrawal, verify before.home.registry signatures message = .ok verified ∧
        before.home.gate.plan verified relayer = .ok withdrawal ∧
        (before.run (.withdraw signatures message relayer :: later)).2.Executes signatures message
          relayer withdrawal

/-- A deposit that waits is released by the vote that it waits for. -/
theorem Told.releases {log : Origin → List Event} (htold : Told registry crossing log)
    (hawaits : crossing.Awaits registry deposit authority) :
    crossing.Releases registry authority deposit := by
  intro hfree hcheck
  have hcan : (Books.mk crossing.guards.foreign crossing.foreign.ledger).CanPay deposit :=
    ⟨hfree, hcheck⟩
  rw [confirm_result, htold.registry_eq,
    (hawaits hfree).confirm htold.confirmations.sound hcan]
  rfl

/-- A message that passes on a home side passes after any calls, and asks for the
    same withdrawal. -/
theorem executes_run {signatures : List Signature} {message : List UInt8} {relayer : Address}
    {verified : VerifiedMessage} {withdrawal : Withdrawal}
    (hverify : verify crossing.home.registry signatures message = .ok verified)
    (hplan : crossing.home.gate.plan verified relayer = .ok withdrawal) (calls : List Call) :
    (crossing.run calls).2.Executes signatures message relayer withdrawal := by
  intro hfree hcheck
  rcases home_run crossing calls with ⟨hregistry, hgate⟩
  rcases (Gate.plan_eq_ok_iff _ _ _ _).1 hplan with ⟨fee, _, rfl⟩
  rw [← hregistry] at hverify
  rw [← hgate] at hplan
  have hanswer := Home.withdraw_of_plan hverify hplan hfree hcheck
  simp only [step, perform, Report.map, Report.mapState, hanswer]
  rfl

/-- From any state that a run of calls leads to, and after any further calls,
    what only the ledger has refused can be tried again. -/
theorem retried_run (setting : Setting) (guards : Guards) (homeSink foreignSink : Sink)
    (earlier later : List Call) :
    Retries setting.foreignRegistry
      ((setting.start guards homeSink foreignSink).run earlier).2 later := by
  have htold := told_run (told_start setting guards homeSink foreignSink) earlier
  constructor
  · intro authority deposit fault hrefused
    rw [confirm_result] at hrefused
    have hanswer := eq_error_of_map hrefused
    rw [htold.registry_eq] at hanswer
    have hwaiting := Confirmations.waiting_of_ledger htold.confirmations.sound hanswer
    -- The refused call is one of those after which the deposit still waits.
    exact (told_run htold _).releases (awaits_run htold (fun _ => hwaiting) _)
  · intro signatures message relayer fault hrefused
    rcases Home.planned_of_ledger (eq_error_of_map hrefused) with
      ⟨verified, withdrawal, hverify, hplan⟩
    exact ⟨verified, withdrawal, hverify, hplan, executes_run hverify hplan _⟩

/-- Two authorities decide on the foreign side and one at home, and neither side
    has any reserves. -/
def scarceSetting : Setting where
  homeRegistry := Bundles.soleRegistry
  foreignRegistry := Confirmations.pairRegistry
  homeLedger := .ofReserves 0
  foreignLedger := .ofReserves 0
  gas := 0

/-- One of the two has confirmed a deposit. -/
def scarceBridge : Crossing :=
  ((scarceSetting.start (.shared .empty) .newHistory .newHistory).run
    [.confirm (Confirmations.pairAccount 1) (Confirmations.pairDeposit 1)]).2

/-- It does so again, and then value is locked on both sides. -/
def scarceRelief : List Call :=
  [.confirm (Confirmations.pairAccount 1) (Confirmations.pairDeposit 1),
    .foreignLedger (.fund (Confirmations.pairAccount 3) 5),
    .transferHome (Confirmations.pairAccount 3) (Confirmations.pairAccount 3) 5 0
      (Octets.zero 32),
    .homeLedger (.fund Bundles.soleAuthority 100),
    .deposit Bundles.soleAuthority 100 (Octets.zero 32)]

/-- A withdrawal of a hundred that nobody has executed. -/
def scarceCall : Call :=
  .withdraw [Bundles.soleSubmission.signature] Bundles.soleSubmission.message
    Bundles.soleAuthority

/-- What is found in its message. -/
def scarceMessage : VerifiedMessage where
  instruction :=
    { recipient := ⟨bigEndian 20 0xeeeeeeeeeeeeeeeeeeeeeeeeeeeeeeeeeeeeeeee, by decide⟩
      value := 100
      transaction := (Confirmations.pairDeposit 1).transaction
      gasPrice := 0 }
  messageHash := messageHash Bundles.soleSubmission.message
  signers := [Bundles.soleAuthority]

set_option maxRecDepth 100000 in
/-- What both ledgers have refused goes through when they can pay. -/
theorem retried_run_scarce :
    (scarceBridge.step (.confirm (Confirmations.pairAccount 2)
        (Confirmations.pairDeposit 1))).result =
      .error (.ledger (.insufficientReserves 0 5)) ∧
    ((scarceBridge.run (.confirm (Confirmations.pairAccount 2) (Confirmations.pairDeposit 1) ::
        scarceRelief)).2.step (.confirm (Confirmations.pairAccount 2)
          (Confirmations.pairDeposit 1))).result =
      .ok (.confirmed (.released 2)) ∧
    (scarceBridge.step scarceCall).result = .error (.ledger (.insufficientReserves 0 100)) ∧
    ((scarceBridge.run (scarceCall :: scarceRelief)).2.step scarceCall).result =
      .ok (.withdrawn (scarceMessage.paid Bundles.soleAuthority 0)) := by
  have hretries := retried_run scarceSetting (.shared .empty) .newHistory .newHistory
    [.confirm (Confirmations.pairAccount 1) (Confirmations.pairDeposit 1)] scarceRelief
  have hconfirm : (scarceBridge.step (.confirm (Confirmations.pairAccount 2)
      (Confirmations.pairDeposit 1))).result =
        .error (.ledger (.insufficientReserves 0 5)) := by decide +kernel
  have hwithdraw : (scarceBridge.step scarceCall).result =
      .error (.ledger (.insufficientReserves 0 100)) := by decide +kernel
  have hmessage : verify scarceBridge.home.registry [Bundles.soleSubmission.signature]
      Bundles.soleSubmission.message = .ok scarceMessage := by decide +kernel
  have hplanned : scarceBridge.home.gate.plan scarceMessage Bundles.soleAuthority =
      .ok (scarceMessage.paid Bundles.soleAuthority 0) := by decide +kernel
  refine ⟨hconfirm, ?_, hwithdraw, ?_⟩
  · exact hretries.confirm _ _ _ hconfirm (by decide +kernel) (by decide +kernel)
  · rcases hretries.withdraw _ _ _ _ hwithdraw with ⟨verified, withdrawal, hverify, hplan, hretry⟩
    -- What was verified and planned then is what is computed here.
    have hverified : scarceMessage = verified := Except.ok.inj (hmessage.symm.trans hverify)
    subst hverified
    have hsame : scarceMessage.paid Bundles.soleAuthority 0 = withdrawal :=
      Except.ok.inj (hplanned.symm.trans hplan)
    subst hsame
    exact hretry (by decide +kernel) (by decide +kernel)

end Crossing

end QuorumBridge
