import Mathlib.Data.List.Nodup
import QuorumBridge.SignerSet

/-!
# Positions and signers

What a set of signers has to do with the authorities it stands for.

A set of signers answers twice over: its bits say whether a position is in it,
its order says how many there are and who was first. Every count of votes in
this library reads the order, and every test for a second vote reads the bits,
so the two must never part. `SignerSet.Sound` says that they agree, and adding
a position keeps it.

Positions stand for authorities because a registry lists nobody twice. A set
that is as wide as its registry loses nobody when its positions are turned
back into addresses, although the conversion passes over positions it does not
know: a sound set has none of those.

## Main definitions

* `SignerSet.Sound`: The bits and the order say the same.
* `SignerSet.SoundFor`: A sound set that is as wide as a registry.

## Theorems

* `Registry.position?_eq_some_iff`: Positions and authorities determine each
  other.
* `SignerSet.contains_iff`: The bits answer for the order.
* `SignerSet.insert_fst`: Exactly a position that is new and has a bit is added.
* `SignerSet.sound_insert`: Adding a position keeps bits and order together.
* `SignerSet.SoundFor.addresses_insert`: A new authority comes last.
* `SignerSet.SoundFor.length_addresses`: No signer is lost.
* `SignerSet.SoundFor.nodup_addresses`: No signer is counted twice.
* `SignerSet.SoundFor.contains_eq`: The bits answer for the addresses.
-/

namespace QuorumBridge

namespace Registry

/-- An authority has the position at which it is listed and no other, since
    nobody is listed twice. -/
theorem position?_eq_some_iff (registry : Registry) (account : Address) (index : Nat) :
    registry.position? account = some index ↔ registry.authority? index = some account := by
  unfold position? authority?
  rw [List.idxOf?_eq_some_iff, List.getElem?_eq_some_iff]
  -- Both say what stands at the place, the first also that it is the first such place.
  constructor
  · rintro ⟨hlt, hat, _⟩
    exact ⟨hlt, hat⟩
  · rintro ⟨hlt, hat⟩
    refine ⟨hlt, hat, fun j hj hj' => ?_⟩
    -- An earlier place of the same authority would be a second one.
    have hsame : j = index := (registry.nodup.getElem_inj_iff).1 (hj'.trans hat.symm)
    omega

theorem lt_size_of_position? {registry : Registry} {account : Address} {index : Nat}
    (h : registry.position? account = some index) : index < registry.size := by
  rw [position?_eq_some_iff] at h
  exact (List.getElem?_eq_some_iff.1 h).1

theorem mem_of_position? {registry : Registry} {account : Address} {index : Nat}
    (h : registry.position? account = some index) : account ∈ registry.authorities := by
  rw [position?_eq_some_iff] at h
  exact List.mem_of_getElem? h

theorem position?_eq_none_iff (registry : Registry) (account : Address) :
    registry.position? account = none ↔ account ∉ registry.authorities :=
  List.idxOf?_eq_none_iff

end Registry

namespace SignerSet

/-- The bits and the order of a set say the same, and there is a bit for every
    position that may be added. -/
structure Sound (signers : SignerSet) : Prop where
  length_words : signers.words.length = (signers.capacity + 63) / 64
  nodup : signers.order.Nodup
  lt_capacity : ∀ index ∈ signers.order, index < signers.capacity
  bit_iff : ∀ index, index < signers.capacity →
    ((signers.words.getD (index / 64) 0).getLsbD (index % 64) = true ↔ index ∈ signers.order)

variable {signers : SignerSet}

/-- A set without positions has no bit set. -/
theorem sound_ofCapacity (capacity : Nat) : (ofCapacity capacity).Sound where
  length_words := List.length_replicate
  nodup := List.nodup_nil
  lt_capacity := by
    intro index hmem
    exact absurd hmem List.not_mem_nil
  bit_iff := by
    intro index hlt
    simp only [ofCapacity] at hlt ⊢
    -- There is a word for every position, and all words are zero.
    have hword : index / 64 < (capacity + 63) / 64 := by omega
    rw [List.getD_eq_getElem?_getD, List.getElem?_replicate_of_lt hword]
    simp only [Option.getD_some, BitVec.ofNat_eq_ofNat, BitVec.getLsbD_zero, Bool.false_eq_true,
      List.not_mem_nil]

/-- The bits answer for the order. -/
theorem contains_iff (h : signers.Sound) (index : Nat) :
    signers.contains index = true ↔ index ∈ signers.order := by
  unfold contains
  rw [Bool.and_eq_true, decide_eq_true_eq]
  constructor
  · rintro ⟨hlt, hbit⟩
    exact (h.bit_iff index hlt).1 hbit
  · intro hmem
    have hlt := h.lt_capacity index hmem
    exact ⟨hlt, (h.bit_iff index hlt).2 hmem⟩

theorem insert_refused_iff (h : signers.Sound) (index : Nat) :
    (signers.capacity ≤ index ∨ signers.contains index = true) ↔
      ¬ (index < signers.capacity ∧ index ∉ signers.order) := by
  rw [contains_iff h, not_and_or, Nat.not_lt, not_not]

/-- A new position sets its bit and comes last. -/
theorem insert_new (h : signers.Sound) {index : Nat}
    (hnew : index < signers.capacity ∧ index ∉ signers.order) :
    signers.insert index = (true, { signers with
      words := signers.words.modify (index / 64) (· ||| BitVec.twoPow 64 (index % 64))
      order := signers.order ++ [index] }) := by
  unfold insert
  rw [if_neg]
  rw [insert_refused_iff h, not_not]
  exact hnew

/-- A position that is there already, or has no bit, changes nothing. -/
theorem insert_old (h : signers.Sound) {index : Nat}
    (hold : ¬ (index < signers.capacity ∧ index ∉ signers.order)) :
    signers.insert index = (false, signers) := by
  unfold insert
  rw [if_pos]
  rw [insert_refused_iff h]
  exact hold

theorem insert_fst (h : signers.Sound) (index : Nat) :
    (signers.insert index).1 = true ↔ index < signers.capacity ∧ index ∉ signers.order := by
  by_cases hnew : index < signers.capacity ∧ index ∉ signers.order
  · rw [insert_new h hnew]
    exact ⟨fun _ => hnew, fun _ => rfl⟩
  · rw [insert_old h hnew]
    exact ⟨fun hc => absurd hc Bool.false_ne_true, fun hc => absurd hc hnew⟩

theorem capacity_insert (h : signers.Sound) (index : Nat) :
    (signers.insert index).2.capacity = signers.capacity := by
  by_cases hnew : index < signers.capacity ∧ index ∉ signers.order
  · rw [insert_new h hnew]
  · rw [insert_old h hnew]

/-- A word with one more bit: that bit is set and the others are as before. -/
theorem getLsbD_or_twoPow (word : BitVec 64) (bit index : Nat) (hbit : bit < 64) :
    (word ||| BitVec.twoPow 64 bit).getLsbD index =
      (word.getLsbD index || decide (bit = index)) := by
  rw [BitVec.getLsbD_or, BitVec.getLsbD_twoPow, decide_eq_true hbit, Bool.true_and]

/-- Setting the bit of a position within the words sets that bit and no other. -/
theorem bit_modify (words : List (BitVec 64)) (index j : Nat) (hj : j / 64 < words.length) :
    ((words.modify (index / 64) (· ||| BitVec.twoPow 64 (index % 64))).getD (j / 64) 0).getLsbD
        (j % 64) =
      ((words.getD (j / 64) 0).getLsbD (j % 64) || decide (j = index)) := by
  simp only [List.getD_eq_getElem?_getD, List.getElem?_modify]
  rw [List.getElem?_eq_getElem hj]
  by_cases hword : index / 64 = j / 64
  · have hbit : (index % 64 = j % 64) = (j = index) := by
      rw [eq_iff_iff]
      omega
    simp only [Option.map_eq_map, Option.map_some, Option.getD_some, if_pos hword]
    rw [getLsbD_or_twoPow _ _ _ (Nat.mod_lt _ (by omega))]
    simp only [hbit]
  · -- Another word is untouched.
    have hne : ¬ j = index := fun hc => hword (by rw [hc])
    simp only [Option.map_eq_map, Option.map_some, Option.getD_some, if_neg hword,
      decide_eq_false hne, Bool.or_false]

/-- Adding a position sets its bit and no other, so the bits and the order stay
    together. -/
theorem sound_insert (h : signers.Sound) (index : Nat) : (signers.insert index).2.Sound := by
  by_cases hnew : index < signers.capacity ∧ index ∉ signers.order
  · rw [insert_new h hnew]
    refine ⟨?_, ?_, ?_, ?_⟩
    · simp only [List.length_modify]
      exact h.length_words
    · -- The position is new, so the order does not repeat it.
      rw [List.nodup_append]
      refine ⟨h.nodup, List.nodup_singleton _, ?_⟩
      intro a ha b hb hab
      rw [List.mem_singleton] at hb
      exact hnew.2 (hb ▸ hab ▸ ha)
    · intro j hj
      rcases List.mem_append.1 hj with hj | hj
      · exact h.lt_capacity j hj
      · rw [List.mem_singleton.1 hj]
        exact hnew.1
    · -- A bit is set if it was or if it is that of the new position, and so is the order.
      intro j hj
      have hin : j / 64 < signers.words.length := by
        rw [h.length_words]
        simp only at hj
        omega
      simp only
      rw [bit_modify _ _ _ hin, Bool.or_eq_true, decide_eq_true_eq, h.bit_iff j hj,
        List.mem_append, List.mem_singleton]
  · rw [insert_old h hnew]
    exact h

/-- A sound set that is as wide as a registry. -/
structure SoundFor (signers : SignerSet) (registry : Registry) : Prop extends Sound signers where
  capacity_eq : signers.capacity = registry.size

theorem soundFor_signers (registry : Registry) : registry.signers.SoundFor registry :=
  ⟨sound_ofCapacity registry.size, rfl⟩

theorem soundFor_insert {registry : Registry} (h : signers.SoundFor registry) (index : Nat) :
    (signers.insert index).2.SoundFor registry :=
  ⟨sound_insert h.toSound index, by rw [capacity_insert h.toSound, h.capacity_eq]⟩

namespace SoundFor

variable {registry : Registry}

theorem order_insert (h : signers.SoundFor registry) {account : Address} {index : Nat}
    (hpos : registry.position? account = some index) (hnew : index ∉ signers.order) :
    (signers.insert index).2.order = signers.order ++ [index] := by
  have hlt : index < signers.capacity := by
    rw [h.capacity_eq]
    exact Registry.lt_size_of_position? hpos
  rw [insert_new h.toSound ⟨hlt, hnew⟩]

/-- The addresses of a set with a new authority are those of the set, then its
    own. -/
theorem addresses_insert (h : signers.SoundFor registry) {account : Address} {index : Nat}
    (hpos : registry.position? account = some index) (hnew : index ∉ signers.order) :
    (signers.insert index).2.addresses registry = signers.addresses registry ++ [account] := by
  have hat := (registry.position?_eq_some_iff account index).1 hpos
  unfold addresses
  rw [h.order_insert hpos hnew, List.filterMap_append, List.filterMap_cons_some hat,
    List.filterMap_nil]

/-- An authority is among the addresses if its position is in the set. -/
theorem mem_addresses_iff {account : Address} {index : Nat}
    (hpos : registry.position? account = some index) :
    account ∈ signers.addresses registry ↔ index ∈ signers.order := by
  unfold addresses
  rw [List.mem_filterMap]
  constructor
  · rintro ⟨j, hj, hat⟩
    rw [← registry.position?_eq_some_iff, hpos] at hat
    rw [Option.some.inj hat]
    exact hj
  · intro hmem
    exact ⟨index, hmem, (registry.position?_eq_some_iff account index).1 hpos⟩

theorem mem_authorities {account : Address} (hmem : account ∈ signers.addresses registry) :
    account ∈ registry.authorities := by
  unfold addresses at hmem
  rcases List.mem_filterMap.1 hmem with ⟨index, _, hat⟩
  exact List.mem_of_getElem? hat

/-- The bits answer for the addresses. -/
theorem contains_eq (h : signers.SoundFor registry) {account : Address} {index : Nat}
    (hpos : registry.position? account = some index) :
    signers.contains index = decide (account ∈ signers.addresses registry) := by
  rw [Bool.eq_iff_iff, contains_iff h.toSound, decide_eq_true_eq, mem_addresses_iff hpos]

/-- Exactly an authority that has not signed is added. -/
theorem insert_fst_iff (h : signers.SoundFor registry) {account : Address} {index : Nat}
    (hpos : registry.position? account = some index) :
    (signers.insert index).1 = true ↔ account ∉ signers.addresses registry := by
  have hlt : index < signers.capacity := by
    rw [h.capacity_eq]
    exact Registry.lt_size_of_position? hpos
  rw [insert_fst h.toSound, mem_addresses_iff hpos]
  exact ⟨fun hadded => hadded.2, fun hnew => ⟨hlt, hnew⟩⟩

/-- No signer is lost when positions are turned into addresses. -/
theorem length_addresses (h : signers.SoundFor registry) :
    (signers.addresses registry).length = signers.size := by
  unfold addresses size
  -- The conversion passes over a position only if the registry does not have it.
  rw [List.length_filterMap_eq_countP, List.countP_eq_length]
  intro index hmem
  have hlt : index < registry.authorities.length := by
    have := h.lt_capacity index hmem
    rw [h.capacity_eq] at this
    exact this
  rw [Registry.authority?, List.getElem?_eq_getElem hlt, Option.isSome_some]

/-- No signer is counted twice. -/
theorem nodup_addresses (h : signers.SoundFor registry) :
    (signers.addresses registry).Nodup := by
  unfold addresses
  refine h.nodup.filterMap ?_
  intro i j account hi hj
  -- Two positions of one account would be a repeated authority.
  rw [Option.mem_def, ← registry.position?_eq_some_iff] at hi hj
  rw [hi] at hj
  exact Option.some.inj hj

end SoundFor

end SignerSet

end QuorumBridge
