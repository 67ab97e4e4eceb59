import QuorumBridge.Proofs.Bundles.Independence
import QuorumBridge.Proofs.Confirmations.Record

/-!
# What is complete

A released deposit and a closed bundle do not change any more, and whoever
comes late is told why.

Both are the end of a count, and both are kept in the table in which the count
was kept. Nothing in the table says that an entry is final. It is final because
every way to put something there asks first, and asks in a form that depends on
the entry. A tally keeps its positions when it is released, so a second vote is
found among the bits as before. A bundle gives its positions up for addresses
when it is closed, so a second signature is found by another test than before.
The late votes and signatures of those who did take part must be told from those
of the others, by either test.

Neither half looks at the treasury. A confirmation of a released deposit is
turned down before the value is asked for, so what is said about deposits holds
whoever holds the value, and whatever others do to it. Only that the transaction
is spent is a fact about the treasury. It has to be one that forgets nothing,
and that is all that it has to be.

## Main definitions

* `Treasury.Remembers`: A treasury that gives no identity back.
* `Registry.lateConfirmation`: What is said about a late confirmation.
* `Bundle.lateSignature`: What is said about a late signature.
* `Confirmations.Closed`: Nothing comes of a deposit any more.
* `Confirmations.Backed`: The transactions of released deposits are spent.
* `Confirmations.Lasting`: What was released is closed and spent.

## Theorems

* `settle_keeps`, `settle_spends`: What a settlement leaves spent.
* `Confirmations.tally_confirm`: A confirmation leaves released deposits alone.
* `Confirmations.Sound.vote_late`, `Confirmations.Sound.confirm_late`: Late
  confirmations are refused.
* `Confirmations.closed_run`: A released deposit is closed, whoever holds the
  value.
* `Confirmations.backed_run`: Released deposits stay spent, if whoever holds the
  value remembers.
* `Confirmations.Sound.lasting_run`: Both together.
* `Bundles.collection_submit`: A submission leaves closed bundles alone.
* `Bundles.Sound.submit_late`: Late signatures are refused.
-/

namespace QuorumBridge

/-! ## Treasuries that remember -/

namespace Treasury

/-- What is spent before is spent after. -/
def Keeps {σ : Type} [Treasury σ] (before after : σ) : Prop :=
  ∀ key, isSpent before key = true → isSpent after key = true

/-- A treasury that gives no identity back. Whether it pays is another matter. -/
structure Remembers (σ : Type) [Treasury σ] : Prop where
  /-- What it says it has reserved is spent. -/
  reserved : ∀ (treasury : σ) (key : ReplayKey), (reserve treasury key).1 = true →
    isSpent (reserve treasury key).2 key = true
  reserve : ∀ (treasury : σ) (key : ReplayKey), Keeps treasury (reserve treasury key).2
  checkRelease : ∀ (treasury : σ) (payouts : List Payout),
    Keeps treasury (checkRelease treasury payouts).2
  release : ∀ (treasury : σ) (payouts : List Payout), Keeps treasury (release treasury payouts).2

end Treasury

/-- A guard forgets nothing, and a ledger does not touch it. -/
theorem Books.remembers : Treasury.Remembers Books where
  reserved := by
    intro books key _
    simp only [Treasury.isSpent, Treasury.reserve, ReplayGuard.isSpent_reserve, decide_true,
      Bool.or_true]
  reserve := by
    intro books key other hspent
    simp only [Treasury.isSpent, Treasury.reserve, ReplayGuard.isSpent_reserve] at hspent ⊢
    rw [hspent, Bool.true_or]
  checkRelease := fun _ _ _ hspent => hspent
  release := fun _ _ _ hspent => hspent

section Settlement

variable {σ α : Type} [Treasury σ]

/-- A settlement gives no identity back, however it ends. -/
theorem settle_keeps (h : Treasury.Remembers σ) (treasury : σ) (key : ReplayKey)
    (replayed : Refusal) (plan : Except Refusal α) (payouts : α → List Payout) :
    Treasury.Keeps treasury (settle treasury key replayed plan payouts).2 := by
  intro other hspent
  unfold settle
  split
  · exact hspent
  · split
    · exact hspent
    · -- Each step is asked of the state that the one before it has left.
      rename_i planned
      have hasked := h.checkRelease treasury (payouts planned) other hspent
      split
      · rename_i hcheck
        rw [hcheck] at hasked
        exact hasked
      · rename_i asked hcheck
        rw [hcheck] at hasked
        have hkept := h.reserve asked key other hasked
        split
        · rename_i hreserve
          rw [hreserve] at hkept
          exact hkept
        · rename_i reserved hreserve
          rw [hreserve] at hkept
          have hpaid := h.release reserved (payouts planned) other hkept
          split
          · rename_i hrelease
            rw [hrelease] at hpaid
            exact hpaid
          · rename_i hrelease
            rw [hrelease] at hpaid
            exact hpaid

/-- A settlement that was done has reserved its identity, and all it has done
    after that is to pay. -/
theorem settle_path {treasury : σ} {key : ReplayKey} {replayed : Refusal}
    {plan : Except Refusal α} {payouts : α → List Payout} {planned : α}
    (hdone : (settle treasury key replayed plan payouts).1 = .ok planned) :
    ∃ asked, (Treasury.reserve asked key).1 = true ∧
      (settle treasury key replayed plan payouts).2 =
        (Treasury.release (Treasury.reserve asked key).2 (payouts planned)).2 := by
  have hplan := settle_ok hdone
  unfold settle at hdone ⊢
  by_cases hspent : Treasury.isSpent treasury key = true
  · rw [if_pos hspent] at hdone
    exact absurd hdone (by simp only [reduceCtorEq, not_false_eq_true])
  · rw [if_neg hspent] at hdone ⊢
    subst hplan
    -- Each of the three steps could have ended it, and none of them did.
    rcases hcheck : Treasury.checkRelease treasury (payouts planned) with ⟨fault | _, asked⟩
    · simp only [hcheck, reduceCtorEq] at hdone
    · rcases hreserve : Treasury.reserve asked key with ⟨_ | _, reserved⟩
      · simp only [hcheck, hreserve, reduceCtorEq] at hdone
      · rcases hrelease : Treasury.release reserved (payouts planned) with ⟨fault | _, paid⟩
        · simp only [hcheck, hreserve, hrelease, reduceCtorEq] at hdone
        · refine ⟨asked, by rw [hreserve], ?_⟩
          simp only [hcheck, hreserve, hrelease]

/-- A settlement that was done has spent its identity. -/
theorem settle_spends (h : Treasury.Remembers σ) {treasury : σ} {key : ReplayKey}
    {replayed : Refusal} {plan : Except Refusal α} {payouts : α → List Payout} {planned : α}
    (hdone : (settle treasury key replayed plan payouts).1 = .ok planned) :
    Treasury.isSpent (settle treasury key replayed plan payouts).2 key = true := by
  rcases settle_path hdone with ⟨asked, hreserved, hafter⟩
  rw [hafter]
  exact h.release _ _ key (h.reserved asked key hreserved)

end Settlement

/-! ## Released deposits -/

/-- What an account is told that confirms a deposit after these have released
    it. -/
def Registry.lateConfirmation (registry : Registry) (confirmers : List Address)
    (deposit : Deposit) (account : Address) : Refusal :=
  if registry.isAuthority account then
    if confirmers.contains account then .duplicateConfirmation account
    else .alreadyReleased deposit.transaction
  else .notAnAuthority account

namespace Confirmations

variable {registry : Registry} {book : Confirmations} {deposit : Deposit}

/-- A vote that is added is for a deposit that was not released, so whatever is
    put for that deposit leaves the released ones alone. -/
theorem get?_put_of_vote {first : Deposit} {authority : Address} {index : Nat}
    {signers : SignerSet} (hvote : book.vote registry first authority index = .ok signers)
    (hreleased : book.isReleased deposit = true) (tally : Tally) :
    (book.tallies.put first tally).get? deposit = book.tallies.get? deposit := by
  have hother : first ≠ deposit := by
    rintro rfl
    rw [isReleased_of_vote hvote] at hreleased
    exact Bool.false_ne_true hreleased
  rw [Table.get?_put, if_neg hother]

variable {σ : Type} [Treasury σ]

/-- No confirmation changes the tally of a released deposit. -/
theorem tally_confirm (hreleased : book.isReleased deposit = true) (treasury : σ)
    (registry : Registry) (first : Deposit) (account : Address) :
    (book.confirm treasury registry first account).2.1.tallies.get? deposit =
      book.tallies.get? deposit := by
  rcases confirm_cases book treasury registry first account with
    ⟨_, _, hr, _⟩ | ⟨_, _, _, hvote, ⟨_, hr⟩ | ⟨_, _, _, hr⟩⟩
  · rw [hr]
  · rw [hr]
    exact get?_put_of_vote hvote hreleased _
  · rw [hr]
    exact get?_put_of_vote hvote hreleased _

/-- The vote of an authority is not added to a released deposit. The bits still
    tell those who took part from the others. -/
theorem Sound.vote_late (h : book.Sound registry) (hreleased : book.isReleased deposit = true)
    {account : Address} {index : Nat} (hpos : registry.position? account = some index) :
    book.vote registry deposit account index =
      .error (if (book.confirmers registry deposit).contains account then
          .duplicateConfirmation account
        else .alreadyReleased deposit.transaction) := by
  unfold isReleased at hreleased
  unfold vote confirmers
  cases hget : book.tallies.get? deposit with
  | none =>
    rw [hget] at hreleased
    exact absurd hreleased Bool.false_ne_true
  | some tally =>
    -- The set of positions says of an authority what the list of addresses says.
    have hbit := (h deposit tally hget).signers.contains_eq hpos
    cases tally with
    | confirming signers =>
      rw [hget] at hreleased
      exact absurd hreleased Bool.false_ne_true
    | released signers =>
      simp only [hbit, decide_eq_true_eq, List.contains_iff_mem]
      by_cases hmem : account ∈ (Tally.released signers).signers.addresses registry
      · rw [if_pos hmem, if_pos hmem]
      · rw [if_neg hmem, if_neg hmem]

/-- Whoever confirms a released deposit is turned down, and neither the tallies
    nor the treasury are touched. -/
theorem Sound.confirm_late (h : book.Sound registry) (hreleased : book.isReleased deposit = true)
    (treasury : σ) (account : Address) :
    book.confirm treasury registry deposit account =
      (.error (registry.lateConfirmation (book.confirmers registry deposit) deposit account),
        book, treasury) := by
  unfold confirm Registry.lateConfirmation Registry.isAuthority
  -- Who is no authority is told so first, and only an authority hears that it is late.
  cases hpos : registry.position? account with
  | none =>
    have hout := (registry.position?_eq_none_iff account).1 hpos
    simp only [List.contains_iff_mem, hout, if_false]
  | some index =>
    have hauthority := Registry.mem_of_position? hpos
    simp only [h.vote_late hreleased hpos, List.contains_iff_mem, hauthority, if_true]

/-- These have released a deposit, and nothing comes of it any more, whoever
    holds the value. -/
structure Closed (registry : Registry) (deposit : Deposit) (confirmers : List Address)
    (book : Confirmations) : Prop where
  isReleased : book.isReleased deposit = true
  confirmers_eq : book.confirmers registry deposit = confirmers
  refused : ∀ (σ : Type) [Treasury σ] (treasury : σ) (account : Address),
    book.confirm treasury registry deposit account =
      (.error (registry.lateConfirmation confirmers deposit account), book, treasury)

theorem Sound.closed (h : book.Sound registry) (hreleased : book.isReleased deposit = true) :
    Closed registry deposit (book.confirmers registry deposit) book :=
  ⟨hreleased, rfl, fun _ _ treasury account => h.confirm_late hreleased treasury account⟩

/-- The transaction of every released deposit is spent. -/
def Backed (book : Confirmations) (treasury : σ) : Prop :=
  ∀ deposit, book.isReleased deposit = true →
    Treasury.isSpent treasury (.homeDeposit deposit.transaction) = true

/-- A confirmation keeps released deposits spent, and spends what it releases. -/
theorem Backed.confirm (h : Treasury.Remembers σ) {treasury : σ} (hbacked : book.Backed treasury)
    (registry : Registry) (first : Deposit) (account : Address) :
    (book.confirm treasury registry first account).2.1.Backed
      (book.confirm treasury registry first account).2.2 := by
  intro deposit hreleased
  have hkept := settle_keeps h treasury (.homeDeposit first.transaction)
    (.alreadyReleased first.transaction) (.ok first) Deposit.payouts
  -- A tally is released by a settlement that has spent the transaction, or it was released
  -- before.
  rcases confirm_cases book treasury registry first account with
    ⟨refusal, after, hr, rfl | hsettle⟩ | ⟨_, signers, _, _, ⟨_, hr⟩ | ⟨_, after, hsettle, hr⟩⟩
  · rw [hr] at hreleased ⊢
    exact hbacked deposit hreleased
  · rw [hr] at hreleased ⊢
    rw [hsettle] at hkept
    exact hkept _ (hbacked deposit hreleased)
  · rw [hr] at hreleased ⊢
    rw [isReleased_put] at hreleased
    split at hreleased
    · exact absurd hreleased Bool.false_ne_true
    · exact hbacked deposit hreleased
  · have hspent := settle_spends h (congrArg Prod.fst hsettle)
    rw [hr] at hreleased ⊢
    rw [hsettle] at hkept hspent
    rw [isReleased_put] at hreleased
    split at hreleased
    · -- This is the deposit that was paid just now.
      rename_i hsame
      rw [hsame]
      exact hspent
    · exact hkept _ (hbacked deposit hreleased)

/-- Whatever else it does, an act of others gives no identity back. -/
def Act.Remembers : Act σ → Prop
  | .confirm _ _ => True
  | .interfere change => ∀ treasury, Treasury.Keeps treasury (change treasury)

theorem backed_run (h : Treasury.Remembers σ) {treasury : σ} (hbacked : book.Backed treasury)
    (registry : Registry) {acts : List (Act σ)} (hacts : ∀ act ∈ acts, act.Remembers) :
    (run registry book treasury acts).2.1.Backed (run registry book treasury acts).2.2 := by
  induction acts generalizing book treasury with
  | nil => exact hbacked
  | cons act rest ih =>
    have hrest := fun later hlater => hacts later (List.mem_cons_of_mem act hlater)
    have hfirst := hacts act List.mem_cons_self
    -- What happens from outside may change the treasury, but forgets no identity.
    cases act with
    | interfere change =>
      exact ih (fun deposit hreleased => hfirst treasury _ (hbacked deposit hreleased)) hrest
    | confirm first account => exact ih (hbacked.confirm h registry first account) hrest

/-- A deposit that is released stays closed by those who have released it,
    whatever is confirmed afterwards and whatever others do to the treasury. -/
theorem closed_run (h : book.Sound registry) (hreleased : book.isReleased deposit = true)
    (treasury : σ) (acts : List (Act σ)) :
    Closed registry deposit (book.confirmers registry deposit)
      (run registry book treasury acts).2.1 := by
  induction acts generalizing book treasury with
  | nil => exact h.closed hreleased
  | cons act rest ih =>
    cases act with
    | interfere change => exact ih h hreleased (change treasury)
    | confirm first account =>
      -- The tally is the same after the first call, so the rest starts from a released deposit.
      have hsound := run_sound h treasury [.confirm first account]
      have hkept := tally_confirm hreleased treasury registry first account
      have hrest := ih hsound ((isReleased_congr hkept).trans hreleased)
        (book.confirm treasury registry first account).2.2
      rw [← confirmers_congr hkept registry]
      exact hrest

/-- What is left of a run is a run from where the first part has led. -/
theorem run_append (registry : Registry) (book : Confirmations) (treasury : σ)
    (first rest : List (Act σ)) :
    (run registry book treasury (first ++ rest)).2 =
      (run registry (run registry book treasury first).2.1
        (run registry book treasury first).2.2 rest).2 := by
  induction first generalizing book treasury with
  | nil => rfl
  | cons act later ih =>
    cases act with
    | interfere change => exact ih book (change treasury)
    | confirm deposit account => exact ih _ _

/-- What was released before is closed after, and its transaction is spent. -/
structure Lasting (registry : Registry) (before after : Confirmations) (treasury : σ) :
    Prop where
  closed : ∀ deposit, before.isReleased deposit = true →
    Closed registry deposit (before.confirmers registry deposit) after
  spent : ∀ deposit, before.isReleased deposit = true →
    Treasury.isSpent treasury (.homeDeposit deposit.transaction) = true

theorem Sound.lasting_run (hsound : book.Sound registry) (h : Treasury.Remembers σ)
    {treasury : σ} (hbacked : book.Backed treasury) {acts : List (Act σ)}
    (hacts : ∀ act ∈ acts, act.Remembers) :
    Lasting registry book (run registry book treasury acts).2.1
      (run registry book treasury acts).2.2 := by
  refine ⟨fun deposit hreleased => closed_run hsound hreleased treasury acts, ?_⟩
  -- What was released still is, and what is released then is spent then.
  intro deposit hreleased
  have hclosed := closed_run hsound hreleased treasury acts
  exact backed_run h hbacked registry hacts deposit hclosed.isReleased

end Confirmations

/-! ## Closed bundles -/

/-- What is said about a signature of an authority that comes after a bundle was
    closed. -/
def Bundle.lateSignature (bundle : Bundle) (authority : Address) : Refusal :=
  if bundle.signers.contains authority then .duplicateSignature authority
  else .alreadyCollected bundle.messageHash

namespace Bundles

variable {registry : Registry} {book : Bundles} {hash : Hash} {bundle : Bundle}

/-- No submission changes a closed bundle. -/
theorem collection_submit (hfound : book.collected? hash = some bundle) (registry : Registry)
    (signature : Signature) (message : List UInt8) (claimed relayer : Address) :
    (book.submit registry signature message claimed relayer).2.collections.get? hash =
      book.collections.get? hash := by
  by_cases hname : messageHash message = hash
  · -- Of this name nothing is accepted: something is stored, and it is not open.
    have hget := get?_of_collected? hfound
    rcases submit_cases book registry signature message claimed relayer with
      ⟨refusal, hr⟩ | ⟨pending, haccept, _⟩
    · rw [hr]
    · rcases accept_cases haccept with ⟨index, before, _, _, hpending, _⟩
      rcases pending_cases hpending with ⟨hnone, _⟩ | ⟨hsome, _, _⟩
      · rw [hname, hget] at hnone
        exact absurd hnone (by simp only [reduceCtorEq, not_false_eq_true])
      · rw [hname, hget] at hsome
        exact absurd hsome (by simp only [Option.some.injEq, reduceCtorEq, not_false_eq_true])
  · exact submit_other hname book registry signature claimed relayer

/-- Whoever hands in a signature of an authority over the message of a closed
    bundle is turned down, and the collections are not touched. -/
theorem Sound.submit_late (h : book.Sound registry) (hfound : book.collected? hash = some bundle)
    {signature : Signature} {claimed : Address}
    (hsigned : registry.Signed bundle.message signature claimed) (relayer : Address) :
    book.submit registry signature bundle.message claimed relayer =
      (.error (bundle.lateSignature claimed), book) := by
  have hget := get?_of_collected? hfound
  have hsound := h.collected? hfound
  have hnamed : messageHash bundle.message = hash := hsound.named
  have hhash : bundle.messageHash = hash := hsound.stage.1
  have hcheck := (Instruction.checkLength_eq_ok_iff bundle.message).2 hsound.length_message
  rcases hsigned.exists_signer with ⟨index, hpos, hsigner⟩
  -- The list of addresses tells those who took part from the others.
  have hseen : (Collection.collected bundle).hasSigner index claimed =
      decide (claimed ∈ bundle.signers) := hsound.hasSigner_eq hpos
  have hmessage : (Collection.collected bundle).message = bundle.message := rfl
  unfold submit accept Bundles.pending Bundle.lateSignature
  simp only [hcheck, hsigner, ne_eq, not_true_eq_false, if_false, hnamed, hget, hmessage, hseen,
    hhash, List.contains_iff_mem]
  by_cases hmem : claimed ∈ bundle.signers
  · simp only [hmem, decide_true, if_true]
  · simp only [hmem, decide_false, Bool.false_eq_true, if_false]

end Bundles

end QuorumBridge
