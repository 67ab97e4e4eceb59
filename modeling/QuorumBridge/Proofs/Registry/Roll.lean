import QuorumBridge.Proofs.Positions
import QuorumBridge.Proofs.Registry
import QuorumBridge.Proofs.Results
import QuorumBridge.Table

/-!
# The roll of authorities

A registry finds the position of an authority by going through its list. A roll
has the positions in a table, so that nobody has to go through the list, and
the table is filled while the registry is built: one authority after the other
is entered with its position, up to the first that is in the table already.

The table and the list must not part. What carries the induction along the list
is that, after any number of authorities, the table finds for every account what
going through these authorities finds (`Roll.Indexes`). For an account that is
entered next this needs that it was not among them, for the table has the last
position of a key and the list finds the first. So the loop may only go on where
there is no repetition, and where it stops, it stops at the first.

## Main definitions

* `Roll`, `Roll.build`: A registry with a table of positions, and how it is built.
* `Roll.Indexes`: A table has the positions of a list.
* `Roll.Mirrors`: A roll answers as a registry.
* `Registry.Refused`: What is said about authorities and a threshold of which no
  registry can be built.
* `Registry.Enrolled`: What comes of authorities and a threshold.

## Theorems

* `firstRepeated_eq_some_iff`: Where the first repetition stands.
* `Registry.build_eq_error_iff`: What is said if no registry can be built.
* `Roll.Indexes.put`: Entering a new authority keeps the table and the list together.
* `Roll.Indexes.enter_of_repeated`: The loop stops at the first repetition.
* `Roll.Indexes.exists_enter`: Without one it has all positions.
* `Registry.build_exact`: What comes of any authorities and any threshold.
-/

namespace QuorumBridge

/-! ## The first repetition -/

/-- The first element that is a repetition has those in front of it, among which
    there is none. -/
theorem firstRepeated_eq_some_iff {α : Type} [DecidableEq α] (seen l : List α) (a : α) :
    firstRepeated seen l = some a ↔
      ∃ front behind, l = front ++ a :: behind ∧ firstRepeated seen front = none ∧
        (a ∈ seen ∨ a ∈ front) := by
  induction l generalizing seen with
  | nil =>
    refine ⟨fun h => absurd h (by simp only [firstRepeated, reduceCtorEq, not_false_eq_true]), ?_⟩
    rintro ⟨front, behind, hsplit, -⟩
    exact absurd hsplit.symm (List.append_ne_nil_of_right_ne_nil front (List.cons_ne_nil a behind))
  | cons x rest ih =>
    by_cases hx : x ∈ seen
    · rw [firstRepeated, if_pos hx, Option.some.injEq]
      constructor
      · rintro rfl
        exact ⟨[], rest, rfl, rfl, .inl hx⟩
      · rintro ⟨front, behind, hsplit, hfront, -⟩
        cases front with
        | nil => exact (List.cons.inj hsplit).1
        | cons y front =>
          -- The first element is a repetition already, so there is nothing in front.
          rw [← (List.cons.inj hsplit).1, firstRepeated, if_pos hx] at hfront
          exact absurd hfront (by simp only [reduceCtorEq, not_false_eq_true])
    · -- What was seen behind this element has it in front, or among the seen.
      have hmove : ∀ front, a ∈ x :: seen ∨ a ∈ front ↔ a ∈ seen ∨ a ∈ x :: front := by
        intro front
        rw [List.mem_cons, List.mem_cons, or_assoc, or_left_comm]
      rw [firstRepeated, if_neg hx, ih]
      constructor
      · rintro ⟨front, behind, rfl, hfront, hmem⟩
        exact ⟨x :: front, behind, rfl, by rw [firstRepeated, if_neg hx, hfront],
          (hmove front).1 hmem⟩
      · rintro ⟨front, behind, hsplit, hfront, hmem⟩
        cases front with
        | nil =>
          rw [← (List.cons.inj hsplit).1] at hmem
          exact absurd (hmem.resolve_right List.not_mem_nil) hx
        | cons y front =>
          rcases List.cons.inj hsplit with ⟨rfl, hrest⟩
          rw [firstRepeated, if_neg hx] at hfront
          exact ⟨front, behind, hrest, hfront, (hmove front).2 hmem⟩

namespace Registry

/-- What is said about authorities and a threshold of which no registry can be
    built. The threshold is looked at first. -/
inductive Refused (authorities : List Address) (threshold : Nat) : Refusal → Prop
  /-- The authorities cannot meet the threshold, or it takes none. -/
  | unmet (h : ¬CanMeet authorities threshold) :
    Refused authorities threshold (.invalidThreshold threshold authorities.length)
  /-- This is the first authority that equals an earlier one. -/
  | repeated (h : CanMeet authorities threshold) {front behind : List Address} {a : Address}
    (hsplit : authorities = front ++ a :: behind) (hfront : front.Nodup) (hmem : a ∈ front) :
    Refused authorities threshold (.duplicateAuthority a)

variable {authorities : List Address} {threshold : Nat} {refusal : Refusal}

theorem firstRepeated_nil_eq_some_iff {a : Address} :
    firstRepeated [] authorities = some a ↔
      ∃ front behind, authorities = front ++ a :: behind ∧ front.Nodup ∧ a ∈ front := by
  rw [firstRepeated_eq_some_iff]
  simp only [firstRepeated_nil_eq_none_iff, List.not_mem_nil, false_or]

theorem build_eq_error_iff :
    build authorities threshold = .error refusal ↔ Refused authorities threshold refusal := by
  constructor
  · intro h
    by_cases hmeet : CanMeet authorities threshold
    · cases hrepeated : firstRepeated [] authorities with
      | some a =>
        rw [build_of_repeated hmeet hrepeated, Except.error.injEq] at h
        -- The first repetition splits the list at the authority that is named.
        rcases firstRepeated_nil_eq_some_iff.1 hrepeated with ⟨front, behind, hsplit, hfront, hmem⟩
        exact h ▸ .repeated hmeet hsplit hfront hmem
      | none =>
        rcases exists_build_of_not_repeated hmeet hrepeated with ⟨registry, hbuild⟩
        rw [hbuild] at h
        exact absurd h (by simp only [reduceCtorEq, not_false_eq_true])
    · rw [build_of_not_canMeet hmeet, Except.error.injEq] at h
      exact h ▸ .unmet hmeet
  · rintro (hunmet | ⟨hmeet, hsplit, hfront, hmem⟩)
    · exact build_of_not_canMeet hunmet
    · exact build_of_repeated hmeet (firstRepeated_nil_eq_some_iff.2 ⟨_, _, hsplit, hfront, hmem⟩)

theorem isAuthority_iff (registry : Registry) (account : Address) :
    registry.isAuthority account = true ↔ account ∈ registry.authorities :=
  List.contains_iff_mem

end Registry

/-! ## The roll -/

/-- A registry with the positions of its authorities in a table. -/
structure Roll where
  authorities : List Address
  positions : Table Address Nat
  threshold : Nat

namespace Roll

/-- The table with authorities entered from a position on, unless one of them is
    in it already. -/
def enter (positions : Table Address Nat) (index : Nat) :
    List Address → Except Address (Table Address Nat)
  | [] => .ok positions
  | a :: rest =>
    if (positions.get? a).isSome then .error a
    else enter (positions.put a index) (index + 1) rest

/-- The roll of a list of authorities and a threshold. -/
def build (authorities : List Address) (threshold : Nat) : Except Refusal Roll :=
  if threshold = 0 ∨ authorities.length < threshold then
    .error (.invalidThreshold threshold authorities.length)
  else
    ((enter .empty 0 authorities).mapError .duplicateAuthority).map fun positions =>
      { authorities, positions, threshold }

/-- Whether an account has a position. -/
def isAuthority (roll : Roll) (account : Address) : Bool :=
  (roll.positions.get? account).isSome

/-- The position of an account, looked up in the index. -/
def position? (roll : Roll) (account : Address) : Option Nat :=
  roll.positions.get? account

/-- A table finds of an account what going through the list finds. -/
def Indexes (positions : Table Address Nat) (authorities : List Address) : Prop :=
  ∀ account, positions.get? account = authorities.idxOf? account

variable {positions : Table Address Nat} {front : List Address}

theorem indexes_empty : Indexes .empty [] :=
  fun _ => rfl

theorem Indexes.isSome_iff (h : Indexes positions front) (account : Address) :
    (positions.get? account).isSome = true ↔ account ∈ front := by
  rw [h account, List.isSome_idxOf?]

theorem mem_entered_iff {seen : List Address}
    (h : ∀ account, account ∈ seen ↔ account ∈ front) (a account : Address) :
    account ∈ a :: seen ↔ account ∈ front ++ [a] := by
  rw [List.mem_cons, List.mem_append, List.mem_singleton, h, or_comm]

/-- A new authority has the position behind all others. -/
theorem Indexes.put (h : Indexes positions front) {a : Address} (hnew : a ∉ front) :
    Indexes (positions.put a front.length) (front ++ [a]) := by
  intro account
  have happend : (front ++ [a]).idxOf? account =
      (front.idxOf? account).or (([a].idxOf? account).map (· + front.length)) :=
    List.findIdx?_append
  rw [Table.get?_put, h account, happend, List.idxOf?_singleton]
  -- The table has the last position of an account and the list finds the first, and
  -- for the new authority these are the same.
  by_cases hsame : a = account
  · rw [if_pos hsame, ← hsame, List.idxOf?_eq_none_iff.2 hnew, if_pos (beq_self_eq_true a)]
    exact congrArg some (Nat.zero_add _).symm
  · rw [if_neg hsame, if_neg (by rwa [beq_iff_eq]), Option.map_none, Option.or_none]

theorem Indexes.enter_of_mem (h : Indexes positions front) {a : Address} (hmem : a ∈ front)
    (index : Nat) (rest : List Address) : enter positions index (a :: rest) = .error a :=
  if_pos ((h.isSome_iff a).2 hmem)

theorem Indexes.enter_of_not_mem (h : Indexes positions front) {a : Address} (hnew : a ∉ front)
    (index : Nat) (rest : List Address) :
    enter positions index (a :: rest) = enter (positions.put a index) (index + 1) rest :=
  if_neg (mt (h.isSome_iff a).1 hnew)

/-- The loop stops at the first repetition. -/
theorem Indexes.enter_of_repeated (h : Indexes positions front) {seen rest : List Address}
    (hseen : ∀ account, account ∈ seen ↔ account ∈ front) {a : Address}
    (hrepeated : firstRepeated seen rest = some a) :
    enter positions front.length rest = .error a := by
  induction rest generalizing positions front seen with
  | nil => exact absurd hrepeated (by simp only [firstRepeated, reduceCtorEq, not_false_eq_true])
  | cons b rest ih =>
    by_cases hb : b ∈ front
    · rw [firstRepeated, if_pos ((hseen b).2 hb), Option.some.injEq] at hrepeated
      rw [h.enter_of_mem hb, hrepeated]
    · -- The authority is entered, and the loop goes on from the position behind it.
      rw [firstRepeated, if_neg (mt (hseen b).1 hb)] at hrepeated
      have hentered := ih (h.put hb) (mem_entered_iff hseen b) hrepeated
      rwa [List.length_append, List.length_singleton, ← h.enter_of_not_mem hb] at hentered

/-- Without one it has all positions. -/
theorem Indexes.exists_enter (h : Indexes positions front) {seen rest : List Address}
    (hseen : ∀ account, account ∈ seen ↔ account ∈ front)
    (hnone : firstRepeated seen rest = none) :
    ∃ filled, enter positions front.length rest = .ok filled ∧
      Indexes filled (front ++ rest) := by
  induction rest generalizing positions front seen with
  | nil => exact ⟨positions, rfl, by rwa [List.append_nil]⟩
  | cons b rest ih =>
    -- `seen` holds what was entered, so an account that the walk passes is new to the positions
    -- as well, and it gets the next one.
    by_cases hb : b ∈ front
    · rw [firstRepeated, if_pos ((hseen b).2 hb)] at hnone
      exact absurd hnone (by simp only [reduceCtorEq, not_false_eq_true])
    · rw [firstRepeated, if_neg (mt (hseen b).1 hb)] at hnone
      rcases ih (h.put hb) (mem_entered_iff hseen b) hnone with ⟨filled, hfilled, hindexes⟩
      rw [List.length_append, List.length_singleton, ← h.enter_of_not_mem hb] at hfilled
      rw [List.append_assoc, List.singleton_append] at hindexes
      exact ⟨filled, hfilled, hindexes⟩

/-- A roll answers as a registry. -/
structure Mirrors (roll : Roll) (registry : Registry) : Prop where
  authorities_eq : roll.authorities = registry.authorities
  threshold_eq : roll.threshold = registry.threshold
  position?_eq : ∀ account, roll.position? account = registry.position? account
  isAuthority_eq : ∀ account, roll.isAuthority account = registry.isAuthority account

variable {authorities : List Address} {threshold : Nat}

theorem build_of_canMeet (h : Registry.CanMeet authorities threshold) :
    build authorities threshold =
      ((enter .empty 0 authorities).mapError .duplicateAuthority).map fun positions =>
        { authorities, positions, threshold } :=
  if_neg (not_or.2 ⟨Nat.ne_of_gt h.1, Nat.not_lt.2 h.2⟩)

/-- A roll is refused as a registry is. -/
theorem build_of_refused {refusal : Refusal}
    (h : Registry.Refused authorities threshold refusal) :
    build authorities threshold = .error refusal := by
  cases h with
  | unmet hunmet =>
    refine if_pos ?_
    by_cases hzero : threshold = 0
    · exact .inl hzero
    · exact .inr (Nat.lt_of_not_le fun hle => hunmet ⟨Nat.pos_of_ne_zero hzero, hle⟩)
  | repeated hmeet hsplit hfront hmem =>
    have hrepeated := Registry.firstRepeated_nil_eq_some_iff.2 ⟨_, _, hsplit, hfront, hmem⟩
    -- Entering stops where the first repetition stands, with an index of all that is in front.
    have hentered := indexes_empty.enter_of_repeated (fun _ => Iff.rfl) hrepeated
    rw [List.length_nil] at hentered
    rw [build_of_canMeet hmeet, hentered]
    rfl

/-- And else it answers as the registry. -/
theorem exists_build (registry : Registry) :
    ∃ roll, build registry.authorities registry.threshold = .ok roll ∧ roll.Mirrors registry := by
  have hmeet : Registry.CanMeet registry.authorities registry.threshold :=
    ⟨registry.threshold_pos, registry.threshold_le⟩
  have hnone := Registry.firstRepeated_nil_eq_none_iff.2 registry.nodup
  rcases indexes_empty.exists_enter (fun _ => Iff.rfl) hnone with ⟨filled, hfilled, hindexes⟩
  rw [List.length_nil] at hfilled
  rw [build_of_canMeet hmeet, hfilled]
  -- Membership is asked of the positions, where each authority has one.
  refine ⟨_, rfl, rfl, rfl, hindexes, fun account => ?_⟩
  rw [Bool.eq_iff_iff, registry.isAuthority_iff]
  exact hindexes.isSome_iff account

end Roll

/-! ## What comes of a list and a threshold -/

namespace Registry

/-- What comes of a list of authorities and a threshold. -/
structure Enrolled (authorities : List Address) (threshold : Nat) : Prop where
  /-- A registry is built of distinct authorities that can meet the threshold. -/
  accepted : (∃ registry, build authorities threshold = .ok registry) ↔
    (1 ≤ threshold ∧ threshold ≤ authorities.length) ∧ authorities.Nodup
  /-- Else the threshold is named, or the first authority that equals an earlier one. -/
  refused : ∀ refusal, build authorities threshold = .error refusal ↔
    Refused authorities threshold refusal
  /-- The registry holds them in their order. -/
  kept : ∀ registry, build authorities threshold = .ok registry →
    registry.authorities = authorities ∧ registry.threshold = threshold
  /-- Positions and authorities determine each other. -/
  inverse : ∀ registry, build authorities threshold = .ok registry → ∀ account index,
    registry.position? account = some index ↔ registry.authority? index = some account
  member : ∀ registry, build authorities threshold = .ok registry → ∀ account,
    registry.isAuthority account = true ↔ account ∈ authorities
  /-- A roll is built and refused alike, and has all positions in its table. -/
  rolled : ∀ registry, build authorities threshold = .ok registry →
    ∃ roll, Roll.build authorities threshold = .ok roll ∧ roll.Mirrors registry
  unrolled : ∀ refusal, build authorities threshold = .error refusal →
    Roll.build authorities threshold = .error refusal

/-- A registry is built of distinct authorities that can meet the threshold, and
    then each has its position. -/
theorem build_exact (authorities : List Address) (threshold : Nat) :
    Enrolled authorities threshold where
  accepted := exists_build_iff
  refused _ := build_eq_error_iff
  kept _ h := build_eq_ok_iff.1 h
  inverse registry _ := registry.position?_eq_some_iff
  member registry h account := by
    rw [registry.isAuthority_iff, (build_eq_ok_iff.1 h).1]
  rolled registry h := by
    rcases build_eq_ok_iff.1 h with ⟨rfl, rfl⟩
    exact Roll.exists_build registry
  unrolled _ h := Roll.build_of_refused (build_eq_error_iff.1 h)

end Registry

end QuorumBridge
