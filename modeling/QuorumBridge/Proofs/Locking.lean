import QuorumBridge.Proofs.Ledger
import QuorumBridge.Proofs.Settlement

/-!
# What can be locked

When value is locked for a transfer, and what is said when it is not.

A lock goes through two sets of checks in two places, the books and the ledger.
Whoever asks for one should be able to tell beforehand what will come of it, so
the checks are collected here and said in whole numbers: the value is not zero,
the transfer was not asked for before, the owner has the value, and the reserves
have room for it (`Ledger.CanLock`). Of what is wrong only the first thing is
told (`Ledger.LockRefused`).

Whether a transfer was asked for before is a proposition that is handed in. The
books look it up in a guard, and a history of calls has another way to say it.

That one of the two always holds is plain logic and does not look at the code.
What the code does is then proved once for each of the five cases, and that it
does nothing else follows.

## Main definitions

* `Request`: A transfer that is asked for.
* `Ledger.CanLock`: Its value can be locked.
* `Ledger.LockRefused`: Why it cannot.
* `Books.Asked`, `Books.lockFor`: What books say about a request, and do for it.

## Theorems

* `Ledger.canLock_or_refused`: Nothing is left open.
* `Books.lockFor_eq_ok_iff`: What can be locked is locked.
* `Books.lockFor_eq_error_iff`: Of anything else the first fault is told.
* `Books.locked_of_lockFor`: What a lock moves.
-/

namespace QuorumBridge

/-- A transfer that is asked for on the side where its value is. -/
structure Request where
  /-- The account whose value is locked. -/
  owner : Address
  value : Amount
  transaction : Hash

namespace Ledger

variable {ledger : Ledger} {asked : Prop} {request : Request}

/-- The value of a transfer can be locked, `asked` being that it was asked for
    before. -/
structure CanLock (ledger : Ledger) (asked : Prop) (request : Request) : Prop where
  positive : 0 < request.value.toNat
  fresh : ¬asked
  covered : request.value.toNat ≤ (ledger.balance request.owner).toNat
  room : ledger.reserves.toNat + request.value.toNat < Amount.limit

/-- Why the value of a transfer cannot be locked. Each reason stands behind the
    checks that are made before it. -/
inductive LockRefused (ledger : Ledger) (asked : Prop) (request : Request) : Refusal → Prop
  | zero (hvalue : request.value.toNat = 0) : LockRefused ledger asked request .zeroValue
  | repeated (hvalue : 0 < request.value.toNat) (hasked : asked) :
      LockRefused ledger asked request (.duplicateTransaction request.transaction)
  | poor (hvalue : 0 < request.value.toNat) (hfresh : ¬asked)
      (hpoor : (ledger.balance request.owner).toNat < request.value.toNat) :
      LockRefused ledger asked request
        (.ledger (.insufficientBalance request.owner (ledger.balance request.owner)
          request.value))
  | full (hvalue : 0 < request.value.toNat) (hfresh : ¬asked)
      (hcovered : request.value.toNat ≤ (ledger.balance request.owner).toNat)
      (hfull : Amount.limit ≤ ledger.reserves.toNat + request.value.toNat) :
      LockRefused ledger asked request (.ledger (.overflow request.owner))

/-- Whatever is asked for, it can be locked or there is a reason why not. -/
theorem canLock_or_refused (ledger : Ledger) (asked : Prop) (request : Request) :
    ledger.CanLock asked request ∨ ∃ refusal, ledger.LockRefused asked request refusal := by
  -- The conditions are asked in the order in which a refusal names them.
  by_cases hvalue : 0 < request.value.toNat
  · by_cases hasked : asked
    · exact Or.inr ⟨_, .repeated hvalue hasked⟩
    · by_cases hcovered : request.value.toNat ≤ (ledger.balance request.owner).toNat
      · by_cases hroom : ledger.reserves.toNat + request.value.toNat < Amount.limit
        · exact Or.inl ⟨hvalue, hasked, hcovered, hroom⟩
        · exact Or.inr ⟨_, .full hvalue hasked hcovered (Nat.le_of_not_lt hroom)⟩
      · exact Or.inr ⟨_, .poor hvalue hasked (Nat.lt_of_not_le hcovered)⟩
  · exact Or.inr ⟨_, .zero (Nat.eq_zero_of_not_pos hvalue)⟩

theorem lock_of_poor {owner : Address} {value : Amount}
    (h : (ledger.balance owner).toNat < value.toNat) :
    (ledger.lock owner value).1 =
      .error (.insufficientBalance owner (ledger.balance owner) value) := by
  unfold lock
  simp only [BitVec.lt_def, if_pos h]

theorem lock_of_full {owner : Address} {value : Amount}
    (hcovered : value.toNat ≤ (ledger.balance owner).toNat)
    (hfull : Amount.limit ≤ ledger.reserves.toNat + value.toNat) :
    (ledger.lock owner value).1 = .error (.overflow owner) := by
  unfold lock
  simp only [BitVec.lt_def, if_neg (Nat.not_lt.2 hcovered),
    (Amount.add?_eq_none_iff ledger.reserves value).2 hfull]

theorem lock_of_room {owner : Address} {value : Amount}
    (hcovered : value.toNat ≤ (ledger.balance owner).toNat)
    (hroom : ledger.reserves.toNat + value.toNat < Amount.limit) :
    (ledger.lock owner value).1 = .ok () := by
  have hsum : ∃ reserves, Amount.add? ledger.reserves value = some reserves :=
    Option.ne_none_iff_exists'.1
      (fun hnone => Nat.not_le.2 hroom ((Amount.add?_eq_none_iff _ _).1 hnone))
  rcases hsum with ⟨reserves, hsum⟩
  unfold lock
  simp only [BitVec.lt_def, if_neg (Nat.not_lt.2 hcovered), hsum]

end Ledger

namespace Books

variable {books : Books} {side : Origin} {request : Request}

/-- Whether a transfer was asked for before, as the books say it. -/
def Asked (books : Books) (side : Origin) (request : Request) : Prop :=
  books.replays.isSpent ⟨side, request.transaction⟩ = true

/-- The lock that a request asks for on a side. -/
def lockFor (books : Books) (side : Origin) (request : Request) : Except Refusal Unit × Books :=
  books.lock ⟨side, request.transaction⟩ request.owner request.value

theorem value_ne_zero (h : 0 < request.value.toNat) : request.value ≠ 0 := by
  intro hzero
  rw [hzero] at h
  exact Nat.lt_irrefl 0 h

/-- Behind the checks of the books it is the ledger that answers. -/
theorem lockFor_fst (hvalue : 0 < request.value.toNat) (hfresh : ¬books.Asked side request) :
    (books.lockFor side request).1 =
      (books.ledger.lock request.owner request.value).1.mapError .ledger := by
  have hfree : ¬books.replays.isSpent ⟨side, request.transaction⟩ = true := hfresh
  unfold lockFor lock
  rw [if_neg (value_ne_zero hvalue), if_neg hfree]
  rcases books.ledger.lock request.owner request.value with ⟨fault | _, ledger⟩
  · rfl
  · rfl

theorem lockFor_of_canLock (h : books.ledger.CanLock (books.Asked side request) request) :
    (books.lockFor side request).1 = .ok () := by
  rw [lockFor_fst h.positive h.fresh, Ledger.lock_of_room h.covered h.room]
  rfl

/-- The first thing that is wrong is what is said. -/
theorem lockFor_of_refused {refusal : Refusal}
    (h : books.ledger.LockRefused (books.Asked side request) request refusal) :
    (books.lockFor side request).1 = .error refusal := by
  cases h with
  | zero hvalue =>
    unfold lockFor lock
    rw [if_pos (BitVec.eq_of_toNat_eq hvalue)]
  | repeated hvalue hasked =>
    have hspent : books.replays.isSpent ⟨side, request.transaction⟩ = true := hasked
    unfold lockFor lock
    rw [if_neg (value_ne_zero hvalue), if_pos hspent]
  | poor hvalue hfresh hpoor =>
    -- Value and transaction are in order, so the ledger is asked.
    rw [lockFor_fst hvalue hfresh, Ledger.lock_of_poor hpoor]
    rfl
  | full hvalue hfresh hcovered hfull =>
    rw [lockFor_fst hvalue hfresh, Ledger.lock_of_full hcovered hfull]
    rfl

/-- What can be locked is locked, and nothing else. -/
theorem lockFor_eq_ok_iff (books : Books) (side : Origin) (request : Request) :
    (books.lockFor side request).1 = .ok () ↔
      books.ledger.CanLock (books.Asked side request) request := by
  refine ⟨fun hok => ?_, lockFor_of_canLock⟩
  rcases Ledger.canLock_or_refused books.ledger (books.Asked side request) request with
    hcan | ⟨refusal, hrefused⟩
  · exact hcan
  · rw [lockFor_of_refused hrefused] at hok
    exact absurd hok (by simp only [reduceCtorEq, not_false_eq_true])

/-- Of anything else the first thing that is wrong is told. -/
theorem lockFor_eq_error_iff (books : Books) (side : Origin) (request : Request)
    (refusal : Refusal) :
    (books.lockFor side request).1 = .error refusal ↔
      books.ledger.LockRefused (books.Asked side request) request refusal := by
  refine ⟨fun herror => ?_, lockFor_of_refused⟩
  -- The reasons against a lock exclude each other and cover all that cannot be locked, so the
  -- reason that is told is the one that holds.
  rcases Ledger.canLock_or_refused books.ledger (books.Asked side request) request with
    hcan | ⟨other, hrefused⟩
  · rw [lockFor_of_canLock hcan] at herror
    exact absurd herror (by simp only [reduceCtorEq, not_false_eq_true])
  · rw [lockFor_of_refused hrefused, Except.error.injEq] at herror
    rw [← herror]
    exact hrefused

/-- A lock that is done moves the value, and nothing but the value. -/
theorem locked_of_lockFor (h : (books.lockFor side request).1 = .ok ()) :
    books.ledger.Locked (books.lockFor side request).2.ledger request.owner request.value := by
  unfold lockFor at h ⊢
  rcases lock_cases books ⟨side, request.transaction⟩ request.owner request.value with
    ⟨refusal, hr⟩ | ⟨_, _, hlock, hr⟩
  · rw [hr] at h
    exact absurd h (by simp only [reduceCtorEq, not_false_eq_true])
  · rw [hr]
    exact Ledger.lock_ok hlock

end Books

end QuorumBridge
