import QuorumBridge.Confirmations
import QuorumBridge.Proofs.Positions
import QuorumBridge.Proofs.Settlement

/-!
# One confirmation

What a single confirmation can do to the tallies, whoever holds the value.

A tally is kept as positions in a bit set, is copied before a vote is added to
it, and changes its kind when it is paid. None of that is visible in what a
tally means: the list of those who have confirmed, and whether that list is
full. `Confirmations.Sound` is the invariant that ties the two together. A
deposit is released exactly when its list is as long as the threshold, and no
list ever grows beyond it.

An accepted confirmation adds its authority at the end of one list and is
answered by the number of the vote, which `Registry.outcome` turns into the
outcome. A refused one changes no tally. Both hold for any treasury: whether
the value is there decides which of the two it is, and nothing else.

## Main definitions

* `Registry.outcome`: What a vote of a given number leads to.
* `Tally.Sound`, `Confirmations.Sound`: The invariant of the tallies.
* `Confirmations.Accepted`: What an accepted confirmation does.

## Theorems

* `Confirmations.confirm_cases`: The three ways a confirmation can end.
* `Confirmations.confirm_error`: A refused confirmation changes no tally.
* `Confirmations.confirm_accepted`: What an accepted one does.
* `Confirmations.Sound.isReleased_iff`: Released means as many as the threshold.
* `Confirmations.Sound.nodup_confirmers`: Nobody is counted twice.
* `Confirmations.Sound.length_confirmers_le`: No list outgrows the threshold.
-/

namespace QuorumBridge

/-- What the confirmation with this number, counted from one, leads to. -/
def Registry.outcome (registry : Registry) (number : Nat) : ConfirmOutcome :=
  if number < registry.threshold then .pending number registry.threshold else .released number

/-- A tally counts distinct authorities. It is confirming below the threshold,
    and was released at it. -/
def Tally.Sound (registry : Registry) : Tally → Prop
  | .confirming signers => signers.SoundFor registry ∧ signers.size < registry.threshold
  | .released signers => signers.SoundFor registry ∧ signers.size = registry.threshold

/-- Whether a tally was released. -/
def Tally.isReleased : Tally → Bool
  | .confirming _ => false
  | .released _ => true

theorem Tally.Sound.signers {registry : Registry} {tally : Tally} (h : tally.Sound registry) :
    tally.signers.SoundFor registry := by
  cases tally with
  | confirming signers => exact h.1
  | released signers => exact h.1

namespace Confirmations

/-- Every tally is sound. -/
def Sound (registry : Registry) (book : Confirmations) : Prop :=
  ∀ deposit tally, book.tallies.get? deposit = some tally → tally.Sound registry

variable {registry : Registry} {book : Confirmations}

theorem sound_empty (registry : Registry) : Confirmations.empty.Sound registry := by
  intro deposit tally hget
  exact absurd hget (by simp only [empty, Table.get?_empty, reduceCtorEq, not_false_eq_true])

theorem Sound.put (h : book.Sound registry) {deposit : Deposit} {tally : Tally}
    (htally : tally.Sound registry) :
    (Confirmations.mk (book.tallies.put deposit tally)).Sound registry :=
  Table.forall_put h htally

/-- The confirmers of a deposit are those of the tally that was put for it, and
    those of any other deposit are as before. -/
theorem confirmers_put (book : Confirmations) (registry : Registry) (deposit other : Deposit)
    (tally : Tally) :
    (Confirmations.mk (book.tallies.put deposit tally)).confirmers registry other =
      if other = deposit then tally.signers.addresses registry
      else book.confirmers registry other := by
  unfold confirmers
  simp only [Table.get?_put]
  by_cases hsame : other = deposit
  · rw [if_pos hsame, if_pos hsame.symm]
  · rw [if_neg hsame, if_neg (fun hc => hsame hc.symm)]

theorem Sound.nodup_confirmers (h : book.Sound registry) (deposit : Deposit) :
    (book.confirmers registry deposit).Nodup := by
  unfold confirmers
  cases hget : book.tallies.get? deposit with
  | none => exact List.nodup_nil
  | some tally => exact (h deposit tally hget).signers.nodup_addresses

theorem mem_authorities_of_mem_confirmers {deposit : Deposit} {account : Address}
    (hmem : account ∈ book.confirmers registry deposit) : account ∈ registry.authorities := by
  unfold confirmers at hmem
  cases hget : book.tallies.get? deposit with
  | none =>
    rw [hget] at hmem
    exact absurd hmem List.not_mem_nil
  | some tally =>
    rw [hget] at hmem
    exact SignerSet.SoundFor.mem_authorities hmem

/-- No more are counted than the threshold asks for. -/
theorem Sound.length_confirmers_le (h : book.Sound registry) (deposit : Deposit) :
    (book.confirmers registry deposit).length ≤ registry.threshold := by
  unfold confirmers
  cases hget : book.tallies.get? deposit with
  | none => exact Nat.zero_le _
  | some tally =>
    have htally := h deposit tally hget
    simp only
    rw [htally.signers.length_addresses]
    cases tally with
    | confirming signers => exact Nat.le_of_lt htally.2
    | released signers => exact Nat.le_of_eq htally.2

/-- The bits of a tally count those that its addresses name. -/
theorem Sound.count_eq (h : book.Sound registry) (deposit : Deposit) :
    book.count deposit = (book.confirmers registry deposit).length := by
  unfold count confirmers
  cases hget : book.tallies.get? deposit with
  | none => rfl
  | some tally => exact (h deposit tally hget).signers.length_addresses.symm

/-- A deposit is released exactly when as many have confirmed it as the
    threshold asks for. -/
theorem Sound.isReleased_iff (h : book.Sound registry) (deposit : Deposit) :
    book.isReleased deposit = true ↔
      (book.confirmers registry deposit).length = registry.threshold := by
  unfold isReleased confirmers
  cases hget : book.tallies.get? deposit with
  | none =>
    -- The threshold is positive, so an empty list is too short.
    have hpos := registry.threshold_pos
    simp only [Bool.false_eq_true, List.length_nil, false_iff]
    omega
  | some tally =>
    have htally := h deposit tally hget
    simp only
    rw [htally.signers.length_addresses]
    cases tally with
    | confirming signers =>
      have hlt : signers.size < registry.threshold := htally.2
      simp only [Tally.signers, Bool.false_eq_true, false_iff]
      omega
    | released signers =>
      have heq : signers.size = registry.threshold := htally.2
      simp only [Tally.signers, heq]

/-- A vote that counts is added to the signers so far, among whom its authority
    is not, and these are too few for a release. -/
theorem vote_ok (h : book.Sound registry) {deposit : Deposit} {authority : Address}
    {index : Nat} {signers : SignerSet}
    (hvote : book.vote registry deposit authority index = .ok signers) :
    ∃ before : SignerSet, before.SoundFor registry ∧
      before.addresses registry = book.confirmers registry deposit ∧
      before.size < registry.threshold ∧ index ∉ before.order ∧
      signers = (before.insert index).2 := by
  unfold vote at hvote
  unfold confirmers
  cases hget : book.tallies.get? deposit with
  | none =>
    -- The first vote is added to nobody, and nobody is too few.
    rw [hget, Except.ok.injEq] at hvote
    exact ⟨registry.signers, SignerSet.soundFor_signers registry, rfl, registry.threshold_pos,
      List.not_mem_nil, hvote.symm⟩
  | some tally =>
    -- Whoever is in the tally is turned down, and a released tally turns down the others too.
    have htally := h deposit tally hget
    rw [hget] at hvote
    simp only at hvote
    by_cases hvoted : tally.signers.contains index = true
    · rw [if_pos hvoted] at hvote
      exact absurd hvote (by simp only [reduceCtorEq, not_false_eq_true])
    · rw [if_neg hvoted] at hvote
      rw [SignerSet.contains_iff htally.signers.toSound] at hvoted
      cases tally with
      | confirming before =>
        rw [Except.ok.injEq] at hvote
        exact ⟨before, htally.1, rfl, htally.2, hvoted, hvote.symm⟩
      | released before => exact absurd hvote (by simp only [reduceCtorEq, not_false_eq_true])

/-- Whether a deposit is released is read off its tally, and so is everything else
    that is known of it. -/
theorem isReleased_congr {other : Confirmations} {deposit : Deposit}
    (h : book.tallies.get? deposit = other.tallies.get? deposit) :
    book.isReleased deposit = other.isReleased deposit := by
  rw [isReleased, isReleased, h]

theorem count_congr {other : Confirmations} {deposit : Deposit}
    (h : book.tallies.get? deposit = other.tallies.get? deposit) :
    book.count deposit = other.count deposit := by
  rw [count, count, h]

theorem confirmers_congr {other : Confirmations} {deposit : Deposit}
    (h : book.tallies.get? deposit = other.tallies.get? deposit) (registry : Registry) :
    book.confirmers registry deposit = other.confirmers registry deposit := by
  rw [confirmers, confirmers, h]

/-- Whether a deposit is released is said by the tally that was put for it, and
    for any other deposit it is as before. -/
theorem isReleased_put (book : Confirmations) (deposit other : Deposit) (tally : Tally) :
    (Confirmations.mk (book.tallies.put deposit tally)).isReleased other =
      if other = deposit then tally.isReleased else book.isReleased other := by
  unfold isReleased
  simp only [Table.get?_put]
  by_cases hsame : other = deposit
  · rw [if_pos hsame, if_pos hsame.symm]
    cases tally with
    | confirming signers => rfl
    | released signers => rfl
  · rw [if_neg hsame, if_neg (fun hc => hsame hc.symm)]

/-- A vote counts for a deposit only as long as it is not released. -/
theorem isReleased_of_vote {deposit : Deposit} {authority : Address} {index : Nat}
    {signers : SignerSet} (hvote : book.vote registry deposit authority index = .ok signers) :
    book.isReleased deposit = false := by
  unfold vote at hvote
  unfold isReleased
  cases hget : book.tallies.get? deposit with
  | none => rfl
  | some tally =>
    cases tally with
    | confirming before => rfl
    | released before =>
      -- A released tally turns down whoever is in it, and everybody else too.
      rw [hget] at hvote
      simp only at hvote
      split at hvote
      · exact absurd hvote (by simp only [reduceCtorEq, not_false_eq_true])
      · exact absurd hvote (by simp only [reduceCtorEq, not_false_eq_true])

variable {σ : Type} [Treasury σ]

/-- The three ways a confirmation can end: it is refused and changes no tally,
    its vote is kept, or the deposit is paid and its vote is kept. The treasury
    is touched by a settlement or not at all. -/
theorem confirm_cases (book : Confirmations) (treasury : σ) (registry : Registry)
    (deposit : Deposit) (authority : Address) :
    (∃ refusal after, book.confirm treasury registry deposit authority =
        (.error refusal, book, after) ∧
          (after = treasury ∨ settle treasury (.homeDeposit deposit.transaction)
            (.alreadyReleased deposit.transaction) (.ok deposit) Deposit.payouts =
              (.error refusal, after))) ∨
      ∃ index signers, registry.position? authority = some index ∧
        book.vote registry deposit authority index = .ok signers ∧
        ((signers.size < registry.threshold ∧
            book.confirm treasury registry deposit authority =
              (.ok (.pending signers.size registry.threshold),
                ⟨book.tallies.put deposit (.confirming signers)⟩, treasury)) ∨
          (registry.threshold ≤ signers.size ∧
            ∃ after, settle treasury (.homeDeposit deposit.transaction)
                (.alreadyReleased deposit.transaction) (.ok deposit) Deposit.payouts =
                  (.ok deposit, after) ∧
              book.confirm treasury registry deposit authority =
                (.ok (.released signers.size),
                  ⟨book.tallies.put deposit (.released signers)⟩, after))) := by
  unfold confirm
  cases hpos : registry.position? authority with
  | none => exact Or.inl ⟨_, _, rfl, Or.inl rfl⟩
  | some index =>
    simp only
    cases hvote : book.vote registry deposit authority index with
    | error refusal => exact Or.inl ⟨_, _, rfl, Or.inl rfl⟩
    | ok signers =>
      simp only
      -- The vote counts. Whether it is one too few decides if the treasury is asked.
      by_cases hbelow : signers.size < registry.threshold
      · rw [if_pos hbelow]
        exact Or.inr ⟨index, signers, rfl, hvote, Or.inl ⟨hbelow, rfl⟩⟩
      · rw [if_neg hbelow]
        rcases hsettle : settle treasury (.homeDeposit deposit.transaction)
          (.alreadyReleased deposit.transaction) (.ok deposit) Deposit.payouts with
          ⟨refusal | planned, after⟩
        · exact Or.inl ⟨refusal, after, rfl, Or.inr rfl⟩
        · -- What was done is what was planned, and that was the deposit itself.
          have hdone := congrArg Prod.fst hsettle
          have hplanned : deposit = planned := Except.ok.inj (settle_ok hdone)
          exact Or.inr ⟨index, signers, rfl, hvote,
            Or.inr ⟨Nat.le_of_not_lt hbelow, after, by rw [hplanned], rfl⟩⟩

/-- What an accepted confirmation does: an authority that had not confirmed the
    deposit comes last among those who have, and nobody else's list changes. -/
structure Accepted (registry : Registry) (book after : Confirmations) (deposit : Deposit)
    (authority : Address) (outcome : ConfirmOutcome) : Prop where
  registered : authority ∈ registry.authorities
  new : authority ∉ book.confirmers registry deposit
  below : (book.confirmers registry deposit).length < registry.threshold
  outcome_eq : outcome =
    registry.outcome ((book.confirmers registry deposit).length + 1)
  confirmers_eq : ∀ other, after.confirmers registry other =
    if other = deposit then book.confirmers registry deposit ++ [authority]
    else book.confirmers registry other
  sound : after.Sound registry

theorem confirm_error {book : Confirmations} {treasury : σ} {registry : Registry}
    {deposit : Deposit} {authority : Address} {refusal : Refusal}
    (h : (book.confirm treasury registry deposit authority).1 = .error refusal) :
    (book.confirm treasury registry deposit authority).2.1 = book := by
  rcases confirm_cases book treasury registry deposit authority with
    ⟨_, _, hr, _⟩ | ⟨_, _, _, _, ⟨_, hr⟩ | ⟨_, _, _, hr⟩⟩
  · rw [hr]
  · rw [hr] at h
    exact absurd h (by simp only [reduceCtorEq, not_false_eq_true])
  · rw [hr] at h
    exact absurd h (by simp only [reduceCtorEq, not_false_eq_true])

/-- The tally that a vote leads to means what an accepted confirmation does to
    the tallies. Below the threshold it is confirming, at the threshold it was
    released, and the vote that is too many was never accepted. -/
theorem accepted_put (h : book.Sound registry) {deposit : Deposit} {authority : Address}
    {index : Nat} {signers : SignerSet} {tally : Tally}
    (hpos : registry.position? authority = some index)
    (hvote : book.vote registry deposit authority index = .ok signers)
    (htally : tally =
      if signers.size < registry.threshold then .confirming signers else .released signers) :
    Accepted registry book ⟨book.tallies.put deposit tally⟩ deposit authority
      (registry.outcome signers.size) := by
  rcases vote_ok h hvote with ⟨before, hfor, haddr, hbelow, hnew, rfl⟩
  -- From positions to addresses: the list is longer by the one who voted.
  have hafter := SignerSet.soundFor_insert hfor index
  have hlist : (before.insert index).2.addresses registry =
      book.confirmers registry deposit ++ [authority] := by
    rw [hfor.addresses_insert hpos hnew, haddr]
  have hlength : (book.confirmers registry deposit).length = before.size := by
    rw [← haddr, hfor.length_addresses]
  have hsize : (before.insert index).2.size = before.size + 1 := by
    rw [← hafter.length_addresses, hlist, List.length_append, hlength, List.length_singleton]
  have hsigners : tally.signers = (before.insert index).2 := by
    rw [htally]
    split
    · rfl
    · rfl
  -- Of either kind, the tally holds the signers with the new vote.
  refine ⟨Registry.mem_of_position? hpos, ?_, ?_, ?_, ?_, h.put ?_⟩
  · rw [← haddr, SignerSet.SoundFor.mem_addresses_iff hpos]
    exact hnew
  · rw [hlength]
    exact hbelow
  · rw [hlength, hsize]
  · intro other
    rw [confirmers_put, hsigners, hlist]
  · -- There were too few before, so there are now at most as many as it takes.
    rw [htally]
    by_cases hlt : (before.insert index).2.size < registry.threshold
    · rw [if_pos hlt]
      exact ⟨hafter, hlt⟩
    · rw [if_neg hlt]
      exact ⟨hafter, by omega⟩

/-- A vote that is kept below the threshold. -/
theorem accepted_pending (h : book.Sound registry) {deposit : Deposit} {authority : Address}
    {index : Nat} {signers : SignerSet} (hpos : registry.position? authority = some index)
    (hvote : book.vote registry deposit authority index = .ok signers)
    (hbelow : signers.size < registry.threshold) :
    Accepted registry book ⟨book.tallies.put deposit (.confirming signers)⟩ deposit authority
      (.pending signers.size registry.threshold) := by
  have haccepted := accepted_put h hpos hvote (if_pos hbelow).symm
  rw [Registry.outcome, if_pos hbelow] at haccepted
  exact haccepted

/-- A vote that has reached the threshold. -/
theorem accepted_released (h : book.Sound registry) {deposit : Deposit} {authority : Address}
    {index : Nat} {signers : SignerSet} (hpos : registry.position? authority = some index)
    (hvote : book.vote registry deposit authority index = .ok signers)
    (hreached : registry.threshold ≤ signers.size) :
    Accepted registry book ⟨book.tallies.put deposit (.released signers)⟩ deposit authority
      (.released signers.size) := by
  have hnot := Nat.not_lt.2 hreached
  have haccepted := accepted_put h hpos hvote (if_neg hnot).symm
  rw [Registry.outcome, if_neg hnot] at haccepted
  exact haccepted

/-- What an accepted confirmation does, whatever the treasury. -/
theorem confirm_accepted (h : book.Sound registry) {treasury : σ} {deposit : Deposit}
    {authority : Address} {outcome : ConfirmOutcome}
    (hok : (book.confirm treasury registry deposit authority).1 = .ok outcome) :
    Accepted registry book (book.confirm treasury registry deposit authority).2.1 deposit
      authority outcome := by
  rcases confirm_cases book treasury registry deposit authority with
    ⟨_, _, hr, _⟩ | ⟨index, signers, hpos, hvote, ⟨hlt, hr⟩ | ⟨hle, _, _, hr⟩⟩
  · rw [hr] at hok
    exact absurd hok (by simp only [reduceCtorEq, not_false_eq_true])
  · rw [hr, Except.ok.injEq] at hok
    rw [hr, ← hok]
    exact accepted_pending h hpos hvote hlt
  · rw [hr, Except.ok.injEq] at hok
    rw [hr, ← hok]
    exact accepted_released h hpos hvote hle

end Confirmations

end QuorumBridge
