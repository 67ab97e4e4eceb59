import Mathlib.Algebra.GroupWithZero.Nat
import Mathlib.Data.List.GetD
import Mathlib.Data.List.Induction
import Mathlib.Data.List.Perm.Subperm
import QuorumBridge.Proofs.Positions

/-!
# Sets of signers list what was added

Whatever positions are added to a set, and however often, the set lists those
that it has room for, each where it came first.

That the bits agree with the list below the capacity (`SignerSet.Sound`) does
not determine the bits. The last word may reach beyond the capacity, and a bit
set there would be counted without standing for anybody and would keep apart two
sets that answer every question alike. So it has to be known of the bits beyond
the capacity that they are never set (`SignerSet.Tight`). Then the list says all
about the words: how many bits are set in them, and which.

A program does not look past the words of a set. The questions are therefore put
once more in a form that finds nothing where there is no word, with the masks
that single out a bit, and they are always answered (`SignerSet.contains?_eq`,
`SignerSet.insert?_eq`).

## Main definitions

* `SignerSet.bit`, `SignerSet.ones`: One bit of a list of words, and how many are set.
* `SignerSet.Tight`: No bit is set beyond the capacity.
* `SignerSet.insertAll`: Adding positions one after the other.
* `SignerSet.contains?`, `SignerSet.insert?`: Asking and adding without looking past the words.
* `SignerSet.Listed`: A set lists the positions that were added to it.
* `SignerSet.Ordered`, `SignerSet.Resolved`: What such a set answers.

## Theorems

* `SignerSet.eq_of_bit`: Words are determined by their bits.
* `SignerSet.ones_eq_countP`: The bits that are set, counted word by word or one by one.
* `SignerSet.Listed.insert`: Adding a position lists it if it is new and there is room.
* `SignerSet.listed_insertAll`: So a set lists the positions that were added to it.
* `SignerSet.ordered_set`: A set answers as the list of what was added to it.
-/

namespace QuorumBridge

namespace SignerSet

variable {signers others : SignerSet}

/-! ## Bits of a list of words -/

/-- The bit of a position, not set where there is no word. -/
def bit (words : List (BitVec 64)) (index : Nat) : Bool :=
  (words.getD (index / 64) 0).getLsbD (index % 64)

/-- The number of bits that are set. -/
def ones (words : List (BitVec 64)) : Nat :=
  (words.map fun word => word.cpop.toNat).sum

theorem bit_of_length_le {words : List (BitVec 64)} {index : Nat}
    (h : words.length ≤ index / 64) : bit words index = false := by
  rw [bit, List.getD_eq_default _ _ h]
  exact BitVec.getLsbD_zero

theorem bit_cons_of_lt (word : BitVec 64) (words : List (BitVec 64)) {index : Nat}
    (h : index < 64) : bit (word :: words) index = word.getLsbD index := by
  rw [bit, Nat.div_eq_of_lt h, Nat.mod_eq_of_lt h, List.getD_cons_zero]

theorem bit_cons_add (word : BitVec 64) (words : List (BitVec 64)) (index : Nat) :
    bit (word :: words) (64 + index) = bit words index := by
  rw [bit, Nat.add_div_left _ (by decide), Nat.add_mod_left, List.getD_cons_succ, bit]

/-- Words are determined by their number and their bits. -/
theorem eq_of_bit {words rest : List (BitVec 64)} (hlength : words.length = rest.length)
    (h : ∀ index, bit words index = bit rest index) : words = rest := by
  induction words generalizing rest with
  | nil => exact (List.eq_nil_of_length_eq_zero hlength.symm).symm
  | cons word words ih =>
    cases rest with
    | nil => exact absurd hlength (Nat.succ_ne_zero _)
    | cons other rest =>
      -- The first sixty-four bits are those of the first word, and the others are those behind
      -- it.
      have hword : word = other := by
        refine BitVec.eq_of_getLsbD_eq fun index hindex => ?_
        rw [← bit_cons_of_lt word words hindex, h, bit_cons_of_lt other rest hindex]
      have hwords : words = rest := by
        refine ih (Nat.succ.inj hlength) fun index => ?_
        rw [← bit_cons_add word words, h, bit_cons_add]
      rw [hword, hwords]

theorem cpopNatRec_eq_countP (word : BitVec 64) (n : Nat) :
    word.cpopNatRec n 0 = (List.range n).countP word.getLsbD := by
  induction n with
  | zero => rfl
  | succ n ih =>
    rw [BitVec.cpopNatRec_succ, BitVec.cpopNatRec_eq, ih, List.range_succ, List.countP_append,
      List.countP_singleton, Nat.zero_add]
    cases word.getLsbD n <;> rfl

/-- The bits that are set, counted word by word or one by one. -/
theorem ones_eq_countP (words : List (BitVec 64)) :
    ones words = (List.range (64 * words.length)).countP (bit words) := by
  induction words with
  | nil => rfl
  | cons word words ih =>
    have hword : (List.range 64).countP word.getLsbD =
        (List.range 64).countP (bit (word :: words)) := by
      refine List.countP_congr fun index hindex => ?_
      rw [bit_cons_of_lt word words (List.mem_range.1 hindex)]
    have hwords : (List.range (64 * words.length)).countP (bit words) =
        ((List.range (64 * words.length)).map (64 + ·)).countP (bit (word :: words)) := by
      rw [List.countP_map]
      refine List.countP_congr fun index _ => ?_
      rw [Function.comp_apply, bit_cons_add]
    -- The bits of the first word come first, and those of the others 64 places later.
    rw [List.length_cons, Nat.mul_succ, Nat.add_comm, List.range_add, List.countP_append,
      ← hword, ← hwords, ← ih, ← cpopNatRec_eq_countP, ← BitVec.toNat_cpop]
    rfl

/-! ## Sets without stray bits -/

/-- A sound set in whose words no bit is set beyond the capacity. -/
structure Tight (signers : SignerSet) : Prop extends Sound signers where
  bit_eq_false : ∀ index, signers.capacity ≤ index → bit signers.words index = false

theorem tight_ofCapacity (capacity : Nat) : (ofCapacity capacity).Tight where
  toSound := sound_ofCapacity capacity
  bit_eq_false := by
    intro index _
    -- The last word may reach past the capacity. All its bits are clear.
    by_cases hword : index / 64 < (capacity + 63) / 64
    · rw [bit, ofCapacity, List.getD_replicate _ hword]
      exact BitVec.getLsbD_zero
    · refine bit_of_length_le ?_
      rw [ofCapacity, List.length_replicate]
      exact Nat.le_of_not_lt hword

theorem Tight.bit_iff_mem (h : signers.Tight) (index : Nat) :
    bit signers.words index = true ↔ index ∈ signers.order := by
  by_cases hlt : index < signers.capacity
  · exact h.bit_iff index hlt
  · rw [h.bit_eq_false index (Nat.le_of_not_lt hlt)]
    exact ⟨fun hc => absurd hc Bool.false_ne_true,
      fun hmem => absurd (h.lt_capacity index hmem) hlt⟩

/-- There is a word for every position that has a bit. -/
theorem Sound.div_lt_length (h : signers.Sound) {index : Nat} (hlt : index < signers.capacity) :
    index / 64 < signers.words.length := by
  rw [h.length_words]
  omega

theorem Tight.insert (h : signers.Tight) (index : Nat) : (signers.insert index).2.Tight where
  toSound := sound_insert h.toSound index
  bit_eq_false := by
    intro j hj
    rw [capacity_insert h.toSound] at hj
    by_cases hnew : index < signers.capacity ∧ index ∉ signers.order
    · rw [insert_new h.toSound hnew]
      by_cases hword : j / 64 < signers.words.length
      · -- The position has a bit, so its bit is not the one beyond the capacity.
        have hne : ¬j = index := by omega
        exact (bit_modify signers.words index j hword).trans
          (by rw [← bit, h.bit_eq_false j hj, decide_eq_false hne, Bool.or_false])
      · refine bit_of_length_le ?_
        rw [List.length_modify]
        exact Nat.le_of_not_lt hword
    · rw [insert_old h.toSound hnew]
      exact h.bit_eq_false j hj

/-- Of the bits as many are set as there are positions in the list. -/
theorem Tight.ones_eq_size (h : signers.Tight) : ones signers.words = signers.size := by
  have hperm : ((List.range (64 * signers.words.length)).filter (bit signers.words)).Perm
      signers.order := by
    rw [List.perm_ext_iff_of_nodup (List.nodup_range.filter _) h.nodup]
    intro index
    rw [List.mem_filter, List.mem_range, h.bit_iff_mem]
    -- What is listed has a word, so its bit is among those that are counted.
    refine and_iff_right_of_imp fun hmem => ?_
    have hword := h.div_lt_length (h.lt_capacity index hmem)
    omega
  rw [ones_eq_countP, List.countP_eq_length_filter, hperm.length_eq, size]

/-- The list determines the bits. -/
theorem Tight.eq_of_order (h : signers.Tight) (hothers : others.Tight)
    (hcapacity : signers.capacity = others.capacity) (horder : signers.order = others.order) :
    signers = others := by
  have hwords : signers.words = others.words := by
    refine eq_of_bit (by rw [h.length_words, hothers.length_words, hcapacity]) fun index => ?_
    rw [Bool.eq_iff_iff, h.bit_iff_mem, hothers.bit_iff_mem, horder]
  cases signers
  cases others
  rw [mk.injEq]
  exact ⟨hwords, horder, hcapacity⟩

theorem Sound.size_le_capacity (h : signers.Sound) : signers.size ≤ signers.capacity := by
  have hsub : signers.order ⊆ List.range signers.capacity :=
    fun index hmem => List.mem_range.2 (h.lt_capacity index hmem)
  have hle := (h.nodup.subperm hsub).length_le
  rwa [List.length_range] at hle

/-! ## Looking at words that are there -/

/-- Whether a position is in a set, and nothing where its word is not there. -/
def contains? (signers : SignerSet) (index : Nat) : Option Bool :=
  if index < signers.capacity then
    signers.words[index / 64]?.map fun word => word &&& 1#64 <<< (index % 64) != 0#64
  else some false

/-- The set with a position added, and nothing where its word is not there. -/
def insert? (signers : SignerSet) (index : Nat) : Option (Bool × SignerSet) :=
  if signers.capacity ≤ index then some (false, signers)
  else
    (signers.contains? index).bind fun found =>
      if found then some (false, signers)
      else
        signers.words[index / 64]?.map fun word =>
          (true, { signers with
            words := signers.words.set (index / 64) (word ||| 1#64 <<< (index % 64))
            order := signers.order ++ [index] })

/-- A mask of one bit singles that bit out. -/
theorem and_mask_ne_zero (word : BitVec 64) {i : Nat} (h : i < 64) :
    (word &&& 1#64 <<< i != 0#64) = word.getLsbD i := by
  have hmask : BitVec.twoPow 64 i ≠ 0#64 := by
    intro hzero
    have hbit := BitVec.getLsbD_twoPow (w := 64) i i
    rw [hzero, BitVec.getLsbD_zero, decide_eq_true h, decide_eq_true rfl] at hbit
    exact absurd hbit Bool.false_ne_true
  -- The conjunction is the mask or nothing, as the bit says, and the mask is not nothing.
  rw [← BitVec.twoPow_eq, BitVec.and_twoPow]
  cases word.getLsbD i with
  | true => exact bne_iff_ne.2 hmask
  | false => rfl

theorem contains?_eq (h : signers.Sound) (index : Nat) :
    signers.contains? index = some (signers.contains index) := by
  rw [contains?, contains]
  by_cases hlt : index < signers.capacity
  · have hword := h.div_lt_length hlt
    rw [if_pos hlt, List.getElem?_eq_getElem hword, Option.map_some,
      and_mask_ne_zero _ (Nat.mod_lt _ (by decide)), decide_eq_true hlt, Bool.true_and,
      List.getD_eq_getElem _ _ hword]
  · rw [if_neg hlt, decide_eq_false hlt, Bool.false_and]

theorem insert?_eq (h : signers.Sound) (index : Nat) :
    signers.insert? index = some (signers.insert index) := by
  rw [insert?, insert]
  by_cases hle : signers.capacity ≤ index
  · rw [if_pos hle, if_pos (.inl hle)]
  · rw [if_neg hle, contains?_eq h, Option.bind_some]
    by_cases hfound : signers.contains index = true
    · rw [if_pos hfound, if_pos (.inr hfound)]
    · -- A position below the capacity lies in one of the words, so the access finds it.
      have hword := h.div_lt_length (Nat.lt_of_not_le hle)
      rw [if_neg hfound, if_neg (not_or.2 ⟨hle, hfound⟩), List.modify_eq_set,
        List.getElem?_eq_getElem hword, Option.map_some, Option.getD_some, BitVec.twoPow_eq]

/-! ## Adding positions one after the other -/

/-- The set with these positions added, one after the other. -/
def insertAll (signers : SignerSet) (indices : List Nat) : SignerSet :=
  indices.foldl (fun signers index => (signers.insert index).2) signers

theorem insertAll_concat (signers : SignerSet) (indices : List Nat) (index : Nat) :
    signers.insertAll (indices ++ [index]) = ((signers.insertAll indices).insert index).2 := by
  rw [insertAll, List.foldl_append]
  rfl

/-- What comes last and is there already is dropped. -/
theorem eraseDups_concat_of_mem {l : List Nat} {x : Nat} (h : x ∈ l) :
    (l ++ [x]).eraseDups = l.eraseDups := by
  rw [List.eraseDups_append, List.cons_removeAll, List.nil_removeAll, List.contains_iff_mem.2 h]
  exact List.append_nil _

theorem eraseDups_concat_of_not_mem {l : List Nat} {x : Nat} (h : x ∉ l) :
    (l ++ [x]).eraseDups = l.eraseDups ++ [x] := by
  have hcontains : l.contains x = false := by
    rw [← Bool.not_eq_true, List.contains_iff_mem]
    exact h
  rw [List.eraseDups_append, List.cons_removeAll, List.nil_removeAll, hcontains]
  rfl

/-- A set lists those of some positions that it has room for, in the order in
    which they first came. -/
structure Listed (capacity : Nat) (indices : List Nat) (signers : SignerSet) : Prop
    extends Tight signers where
  capacity_eq : signers.capacity = capacity
  order_eq : signers.order = (indices.filter (· < capacity)).eraseDups

variable {capacity : Nat} {indices : List Nat}

theorem listed_ofCapacity (capacity : Nat) : Listed capacity [] (ofCapacity capacity) where
  toTight := tight_ofCapacity capacity
  capacity_eq := rfl
  order_eq := rfl

theorem Listed.mem_order_iff (h : Listed capacity indices signers) (index : Nat) :
    index ∈ signers.order ↔ index < capacity ∧ index ∈ indices := by
  rw [h.order_eq, List.mem_eraseDups, List.mem_filter, decide_eq_true_eq, and_comm]

/-- Adding a position lists it if it is new and there is room, and it is for
    nothing if not. -/
theorem Listed.insert (h : Listed capacity indices signers) (index : Nat) :
    Listed capacity (indices ++ [index]) (signers.insert index).2 where
  toTight := h.toTight.insert index
  capacity_eq := by rw [capacity_insert h.toSound, h.capacity_eq]
  order_eq := by
    rw [List.filter_append, List.filter_singleton]
    by_cases hlt : index < capacity
    · rw [decide_eq_true hlt, cond_true]
      have hmem : index ∈ signers.order ↔ index ∈ indices.filter (· < capacity) := by
        rw [h.order_eq, List.mem_eraseDups]
      by_cases hnew : index ∈ signers.order
      · -- It was added before, so it is for nothing in both.
        rw [insert_old h.toSound fun hc => hc.2 hnew, h.order_eq,
          eraseDups_concat_of_mem (hmem.1 hnew)]
      · have hroom : index < signers.capacity := h.capacity_eq ▸ hlt
        rw [insert_new h.toSound ⟨hroom, hnew⟩, h.order_eq,
          eraseDups_concat_of_not_mem (mt hmem.2 hnew)]
    · -- There is no room for the position, neither in the words nor in the list.
      have hfull : ¬index < signers.capacity := by rwa [h.capacity_eq]
      rw [decide_eq_false hlt, cond_false, List.append_nil,
        insert_old h.toSound fun hc => hfull hc.1, h.order_eq]

/-- So a set lists the positions that were added to it. -/
theorem listed_insertAll (capacity : Nat) (indices : List Nat) :
    Listed capacity indices ((ofCapacity capacity).insertAll indices) := by
  induction indices using List.reverseRecOn with
  | nil => exact listed_ofCapacity capacity
  | append_singleton indices index ih =>
    rw [insertAll_concat]
    exact ih.insert index

/-! ## What a set answers -/

/-- Positions that a registry has are resolved one by one. -/
theorem map_some_filterMap {registry : Registry} {order : List Nat}
    (h : ∀ index ∈ order, index < registry.size) :
    (order.filterMap registry.authority?).map some = order.map registry.authority? := by
  induction order with
  | nil => rfl
  | cons index rest ih =>
    rw [List.forall_mem_cons] at h
    have hlt : index < registry.authorities.length := h.1
    have hat : registry.authority? index = some registry.authorities[index] :=
      List.getElem?_eq_getElem hlt
    rw [List.filterMap_cons_some hat, List.map_cons, List.map_cons, ih h.2, hat]

/-- What a set answers to which some positions were added. -/
structure Ordered (capacity : Nat) (indices : List Nat) (signers : SignerSet) : Prop where
  /-- A position is added if there is room for it and it was not added before. -/
  added : ∀ index,
    (signers.insert index).1 = true ↔ index < capacity ∧ index ∉ indices
  /-- It is in the set if there was room for it when it was added. -/
  contained : ∀ index, signers.contains index = true ↔ index < capacity ∧ index ∈ indices
  /-- The positions are listed in the order in which they first came. -/
  listed : signers.order = (indices.filter (· < capacity)).eraseDups
  nodup : signers.order.Nodup
  /-- As many are counted as are listed, and as many bits are set. -/
  size_eq_length : signers.size = signers.order.length
  size_eq_ones : signers.size = ones signers.words
  size_le : signers.size ≤ capacity
  /-- No word is looked for that is not there. -/
  asked : ∀ index, signers.contains? index = some (signers.contains index)
  inserted : ∀ index, signers.insert? index = some (signers.insert index)
  /-- Sets of one capacity are the same if they list the same. -/
  eq_iff : ∀ others, signers = (ofCapacity capacity).insertAll others ↔
    signers.order = ((ofCapacity capacity).insertAll others).order

/-- Whom a set stands for that is as wide as a registry. -/
structure Resolved (registry : Registry) (signers : SignerSet) : Prop where
  /-- There is one for every position. -/
  length_eq : (signers.addresses registry).length = signers.size
  /-- It stands at the same place. -/
  entry : ∀ (k index : Nat), signers.order[k]? = some index →
    ∃ account, registry.authority? index = some account ∧
      (signers.addresses registry)[k]? = some account

theorem ordered_insertAll (capacity : Nat) (indices : List Nat) :
    Ordered capacity indices ((ofCapacity capacity).insertAll indices) := by
  have h := listed_insertAll capacity indices
  exact {
    added := fun index => by
      rw [insert_fst h.toSound, h.mem_order_iff, h.capacity_eq, not_and]
      exact and_congr_right fun hlt => imp_iff_right hlt
    contained := fun index => by rw [contains_iff h.toSound, h.mem_order_iff]
    listed := h.order_eq
    nodup := h.nodup
    size_eq_length := rfl
    size_eq_ones := h.ones_eq_size.symm
    size_le := by
      have hle := h.size_le_capacity
      rwa [h.capacity_eq] at hle
    asked := contains?_eq h.toSound
    inserted := insert?_eq h.toSound
    eq_iff := fun others => by
      have hothers := listed_insertAll capacity others
      -- Sets that are tight have no bits but those of their order.
      refine ⟨congrArg order, h.toTight.eq_of_order hothers.toTight ?_⟩
      rw [h.capacity_eq, hothers.capacity_eq] }

theorem resolved_insertAll (registry : Registry) (indices : List Nat) :
    Resolved registry (registry.signers.insertAll indices) := by
  have h : Listed registry.size indices (registry.signers.insertAll indices) :=
    listed_insertAll registry.size indices
  have hmap : ((registry.signers.insertAll indices).addresses registry).map some =
      (registry.signers.insertAll indices).order.map registry.authority? :=
    map_some_filterMap fun index hmem => ((h.mem_order_iff index).1 hmem).1
  refine ⟨SoundFor.length_addresses ⟨h.toSound, h.capacity_eq⟩, fun k index hindex => ?_⟩
  -- All positions are resolved, so the k-th address stands at the k-th position.
  have hentry := congrArg (fun entries => entries[k]?) hmap
  simp only [List.getElem?_map, hindex, Option.map_some] at hentry
  rcases Option.map_eq_some_iff.1 hentry with ⟨account, haccount, hat⟩
  exact ⟨account, hat.symm, haccount⟩

/-- A set answers as the list of the positions that were added to it. -/
theorem ordered_set :
    (∀ capacity indices, Ordered capacity indices ((ofCapacity capacity).insertAll indices)) ∧
      ∀ registry indices, Resolved registry (registry.signers.insertAll indices) :=
  ⟨ordered_insertAll, resolved_insertAll⟩

end SignerSet

end QuorumBridge
