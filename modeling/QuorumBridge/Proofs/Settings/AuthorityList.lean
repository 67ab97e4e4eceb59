import QuorumBridge.Proofs.Results
import QuorumBridge.Proofs.Text.Hex
import QuorumBridge.Proofs.Text.Listing
import QuorumBridge.Settings.AuthorityList

/-!
# What a list of authorities is

The grammar of a list of authorities, and what is said about a text outside of
it.

The reader measures an entry in bytes before it looks at the digits. An entry
with 42 bytes can have fewer characters than that, and then passes this first
test. It is no address all the same, but what is said about it is that it has a
bad digit. So there are two faults, and which one an entry has is decided by its
bytes, while whether it has one is decided by its characters: an address is the
marker and 40 digits, however they are counted.

## Main definitions

* `AuthorityList.WellFormed`: The marker and 40 digits.
* `AuthorityList.Spells`: The address that an entry is.
* `AuthorityList.Faulty`: What is said about an entry that is none.
* `AuthorityList.FirstFault`: What is said about entries of which some are none.
* `AuthorityList.Holds`: The entries that a text was put together from.
* `AuthorityList.Renders`: The texts that a list of addresses can be written as.
* `AuthorityList.Exact`: What is made of a text.

## Theorems

* `AuthorityList.spells_or_faulty`: An entry is an address or has a fault.
* `AuthorityList.holds_iff`: The entries of a text are settled by the text.
* `AuthorityList.parse_eq_ok_iff`: What texts are read, and as what.
* `AuthorityList.parse_eq_error_iff`: What is said about the others.
* `AuthorityList.renders_iff`: A list is read exactly from the texts that it can
  be written as.
* `AuthorityList.parse_exact`: All of this, for all texts.
-/

namespace QuorumBridge

namespace AuthorityList

/-! ## Entries -/

/-- A lower-case marker and 40 digits, letters in either case. -/
def WellFormed (entry : List Char) : Prop :=
  ∃ digits, entry = '0' :: 'x' :: digits ∧ digits.length = 40 ∧ ∀ c ∈ digits, c ∈ Hex.alphabet

/-- The digits behind the marker are those of the address, up to case. -/
def Spells (entry : List Char) (a : Address) : Prop :=
  ∃ digits, entry = '0' :: 'x' :: digits ∧ digits.map Char.toLower = Hex.encode a.toList

/-- The form that is asked for before the digits are looked at. -/
structure HasForm (entry : List Char) : Prop where
  length : (utf8 entry).length = 42
  marked : ['0', 'x'] <+: entry

/-- What is said about an entry that is no address. -/
inductive Faulty : List Char → Settings.Fault → Prop
  | form {entry : List Char} (h : ¬HasForm entry) :
    Faulty entry (.badEntry (String.ofList entry))
  /-- The byte and its place are those behind the marker. -/
  | digit {digits : List Char} {byte : UInt8} {position : Nat}
    (hform : HasForm ('0' :: 'x' :: digits))
    (hbad : Hex.FirstBad (utf8 digits) byte position) :
    Faulty ('0' :: 'x' :: digits)
      (.badAddress (String.ofList ('0' :: 'x' :: digits)) (.badDigit byte position))

theorem wellFormed_iff {entry : List Char} : WellFormed entry ↔ ∃ a, Spells entry a := by
  constructor
  · rintro ⟨digits, hentry, hdigits⟩
    rcases (Hex.exists_encode_iff (n := 20)).2 hdigits with ⟨out, hlength, hlower⟩
    exact ⟨⟨out, hlength⟩, digits, hentry, hlower⟩
  · rintro ⟨a, digits, hentry, hlower⟩
    exact ⟨digits, hentry, Hex.exists_encode_iff.1 ⟨a.toList, a.length_toList, hlower⟩⟩

/-- The marker has two bytes. -/
theorem hasForm_marked_iff {digits : List Char} :
    HasForm ('0' :: 'x' :: digits) ↔ (utf8 digits).length = 40 := by
  have hlength : (utf8 ('0' :: 'x' :: digits)).length = (utf8 digits).length + 2 := rfl
  constructor
  · intro h
    have hform := h.length
    omega
  · intro h
    exact ⟨by omega, ⟨digits, rfl⟩⟩

theorem address_of_not_hasForm {entry : List Char} (h : ¬HasForm entry) :
    address entry = .error (.badEntry (String.ofList entry)) := by
  unfold address
  split
  · exact if_neg (mt hasForm_marked_iff.2 h)
  · rfl

theorem address_of_hasForm {digits : List Char} (h : HasForm ('0' :: 'x' :: digits)) :
    address ('0' :: 'x' :: digits) =
      match Hex.decode (utf8 digits) with
      | .error fault => .error (.badAddress (String.ofList ('0' :: 'x' :: digits)) fault)
      | .ok bytes =>
        match Octets.ofList? 20 bytes with
        | some address => .ok address
        | none => .error (.badEntry (String.ofList ('0' :: 'x' :: digits))) :=
  if_pos (hasForm_marked_iff.1 h)

theorem address_of_spells {entry : List Char} {a : Address} (h : Spells entry a) :
    address entry = .ok a := by
  rcases h with ⟨digits, rfl, hlower⟩
  have hdigits := Hex.exists_encode_iff.1 ⟨a.toList, a.length_toList, hlower⟩
  have hform : HasForm ('0' :: 'x' :: digits) := by
    rw [hasForm_marked_iff, Hex.length_utf8 hdigits.2, hdigits.1]
  rw [address_of_hasForm hform, Hex.decode_utf8_eq_ok_iff.2 hlower]
  simp only [Octets.ofList?_toList]

theorem address_of_faulty {entry : List Char} {fault : Settings.Fault} (h : Faulty entry fault) :
    address entry = .error fault := by
  cases h with
  | form hform => exact address_of_not_hasForm hform
  | @digit digits byte position hform hbad =>
    have heven : (utf8 digits).length % 2 = 0 := by rw [hasForm_marked_iff.1 hform]
    have hdecode := Hex.decode_eq_error_iff.2 (.inr ⟨heven, byte, position, hbad, rfl⟩)
    rw [address_of_hasForm hform, hdecode]

/-- An entry is an address or has a fault. -/
theorem spells_or_faulty (entry : List Char) :
    (∃ a, Spells entry a) ∨ ∃ fault, Faulty entry fault := by
  by_cases hform : HasForm entry
  · rcases hform.marked with ⟨digits, rfl⟩
    have hlength : (utf8 digits).length = 40 := hasForm_marked_iff.1 hform
    cases hdecode : Hex.decode (utf8 digits) with
    | ok out =>
      -- Forty digits are those of twenty bytes.
      have hout := congrArg List.length (Hex.decode_eq_ok_iff.1 hdecode)
      rw [List.length_map, List.length_map, Hex.length_halves, hlength] at hout
      exact .inl ⟨⟨out, by omega⟩, digits, rfl, Hex.decode_utf8_eq_ok_iff.1 hdecode⟩
    | error fault =>
      rcases Hex.decode_eq_error_iff.1 hdecode with ⟨hodd, -⟩ | ⟨-, byte, position, hbad, -⟩
      · rw [hlength] at hodd
        exact absurd hodd (by decide)
      · exact .inr ⟨_, .digit hform hbad⟩
  · exact .inr ⟨_, .form hform⟩

theorem address_eq_ok_iff {entry : List Char} {a : Address} :
    address entry = .ok a ↔ Spells entry a := by
  refine ⟨fun h => ?_, address_of_spells⟩
  rcases spells_or_faulty entry with ⟨b, hspells⟩ | ⟨fault, hfaulty⟩
  · rw [address_of_spells hspells, Except.ok.injEq] at h
    rwa [← h]
  · rw [address_of_faulty hfaulty] at h
    exact absurd h (by simp only [reduceCtorEq, not_false_eq_true])

theorem address_eq_error_iff {entry : List Char} {fault : Settings.Fault} :
    address entry = .error fault ↔ Faulty entry fault := by
  refine ⟨fun h => ?_, address_of_faulty⟩
  rcases spells_or_faulty entry with ⟨a, hspells⟩ | ⟨other, hfaulty⟩
  · rw [address_of_spells hspells] at h
    exact absurd h (by simp only [reduceCtorEq, not_false_eq_true])
  · rw [address_of_faulty hfaulty, Except.error.injEq] at h
    rwa [← h]

/-! ## Several entries -/

/-- What is said about entries of which some are no addresses: it is about the
    first of these. -/
inductive FirstFault : List (List Char) → Settings.Fault → Prop
  | here {entry : List Char} {rest : List (List Char)} {fault : Settings.Fault}
    (h : Faulty entry fault) : FirstFault (entry :: rest) fault
  | later {entry : List Char} {rest : List (List Char)} {fault : Settings.Fault}
    (hentry : WellFormed entry) (hrest : FirstFault rest fault) :
    FirstFault (entry :: rest) fault

theorem addresses_eq_ok_iff {list : List (List Char)} {as : List Address} :
    addresses list = .ok as ↔ List.Forall₂ Spells list as := by
  induction list generalizing as with
  | nil => rw [addresses, Except.ok.injEq, List.forall₂_nil_left_iff, eq_comm]
  | cons entry rest ih =>
    simp only [List.forall₂_cons_left_iff, ← address_eq_ok_iff, ← ih, addresses]
    -- The first entry that is no address ends the walk, whatever follows.
    cases address entry with
    | error fault => simp only [reduceCtorEq, false_and, exists_false]
    | ok a =>
      simp only [map_eq_ok_iff, Except.ok.injEq, exists_and_left, exists_eq_left',
        eq_comm (a := as)]

theorem addresses_eq_error_iff {list : List (List Char)} {fault : Settings.Fault} :
    addresses list = .error fault ↔ FirstFault list fault := by
  induction list with
  | nil =>
    rw [addresses]
    constructor
    · exact fun h => absurd h (by simp only [reduceCtorEq, not_false_eq_true])
    · rintro ⟨⟩
  | cons entry rest ih =>
    rw [addresses]
    cases haddress : address entry with
    | error other =>
      constructor
      · intro h
        rw [Except.error.inj h] at haddress
        exact .here (address_eq_error_iff.1 haddress)
      · rintro (hfaulty | ⟨hentry, -⟩)
        · rw [← haddress, address_of_faulty hfaulty]
        · -- The first entry is no address, so no later one is told of.
          rcases wellFormed_iff.1 hentry with ⟨a, hspells⟩
          rw [address_of_spells hspells] at haddress
          exact absurd haddress (by simp only [reduceCtorEq, not_false_eq_true])
    | ok a =>
      simp only [map_eq_error_iff, ih]
      constructor
      · exact .later (wellFormed_iff.2 ⟨a, address_eq_ok_iff.1 haddress⟩)
      · rintro (hfaulty | ⟨-, hrest⟩)
        · rw [address_of_faulty hfaulty] at haddress
          exact absurd haddress (by simp only [reduceCtorEq, not_false_eq_true])
        · exact hrest

theorem forall_wellFormed_iff {list : List (List Char)} :
    (∀ entry ∈ list, WellFormed entry) ↔ ∃ as, List.Forall₂ Spells list as := by
  induction list with
  | nil => exact ⟨fun _ => ⟨[], .nil⟩, fun _ _ h => absurd h List.not_mem_nil⟩
  | cons entry rest ih =>
    -- An entry is well formed if it spells an address, and no entry spells two.
    rw [List.forall_mem_cons, ih, wellFormed_iff]
    constructor
    · rintro ⟨⟨a, hspells⟩, others, hothers⟩
      exact ⟨a :: others, .cons hspells hothers⟩
    · rintro ⟨as, hall⟩
      rcases List.forall₂_cons_left_iff.1 hall with ⟨a, others, hspells, hothers, -⟩
      exact ⟨⟨a, hspells⟩, others, hothers⟩

/-! ## Texts -/

/-- The entries that a text was put together from, with blanks around them, with
    commas between them, and maybe with nothing between some of these. -/
def Holds (text : List Char) (list : List (List Char)) : Prop :=
  ∃ parts, Listing (fun entry stands => stands = entry ∧ Listable ',' entry) parts list ∧
    text = [','].intercalate parts

/-- The texts that a list of addresses can be written as. -/
def Renders (text : List Char) (as : List Address) : Prop :=
  ∃ parts, Listing Spells parts as ∧ text = [','].intercalate parts

theorem listable_of_mem_entries {text entry : List Char} (h : entry ∈ entries text) :
    Listable ',' entry := by
  rcases List.mem_filter.1 h with ⟨hmem, hkeep⟩
  rcases List.mem_map.1 hmem with ⟨piece, hpiece, rfl⟩
  refine ⟨bare_trim piece, ?_, ?_⟩
  · intro hnil
    rw [hnil] at hkeep
    exact absurd hkeep (by decide)
  · -- The entry is a part of a piece, and a comma would have ended that.
    intro hcomma
    rcases padded_trim piece with ⟨left, right, -, -, htext⟩
    refine not_mem_of_mem_pieces hpiece ?_
    rw [htext]
    exact List.mem_append_left right (List.mem_append_right left hcomma)

/-- The entries of a text are settled by the text. -/
theorem holds_iff {text : List Char} {list : List (List Char)} :
    Holds text list ↔ entries text = list := by
  rw [Holds, ← forall₂_entriesOf_pieces_iff (by decide) fun entry x h => h.2]
  constructor
  · intro h
    have heq : List.Forall₂ (· = ·) (entries text) list :=
      h.imp fun entry stands hstands => hstands.1.symm
    rwa [List.forall₂_eq_eq_eq] at heq
  · rintro rfl
    exact List.forall₂_same.2 fun entry hentry => ⟨rfl, listable_of_mem_entries hentry⟩

theorem listable_of_spells {entry : List Char} {a : Address} (h : Spells entry a) :
    Listable ',' entry := by
  rcases wellFormed_iff.2 ⟨a, h⟩ with ⟨digits, rfl, -, hdigits⟩
  -- All characters of an address are hexadecimal digits but one, the mark. None of them is a
  -- blank or a comma.
  have hchars : ∀ c ∈ '0' :: 'x' :: digits, isBlank c = false ∧ ',' ≠ c := by
    refine List.forall_mem_cons.2 ⟨by decide, List.forall_mem_cons.2 ⟨by decide, ?_⟩⟩
    intro c hc
    exact of_decide_eq_true (Hex.of_mem_alphabet
      (p := fun d => decide (isBlank d = false ∧ ',' ≠ d)) (by decide) (hdigits c hc))
  exact ⟨bare_of_forall fun c hc => (hchars c hc).1, List.cons_ne_nil _ _,
    fun hmem => (hchars ',' hmem).2 rfl⟩

/-- A list is read exactly from the texts that it can be written as. -/
theorem renders_iff {text : List Char} {as : List Address} :
    Renders text as ↔ List.Forall₂ Spells (entries text) as :=
  (forall₂_entriesOf_pieces_iff (by decide) fun _ _ h => listable_of_spells h).symm

/-- What is made of a text. -/
structure Exact (text : String) : Prop where
  /-- The entries are what stands between commas, without the blanks around it,
      where that is not empty. -/
  entries_iff : ∀ list, entries text.toList = list ↔ Holds text.toList list
  /-- The text is accepted if every entry is a marker and 40 digits. -/
  accepted_iff : (∃ as, parse text = .ok as) ↔ ∀ entry ∈ entries text.toList, WellFormed entry
  /-- Then the entries are read as their addresses, in order. -/
  ok_iff : ∀ as, parse text = .ok as ↔ List.Forall₂ Spells (entries text.toList) as
  /-- Otherwise what is said is about the first entry that is no address. -/
  error_iff : ∀ fault, parse text = .error fault ↔ FirstFault (entries text.toList) fault
  /-- A list is read exactly from the texts that it can be written as. -/
  renders_iff : ∀ as, parse text = .ok as ↔ Renders text.toList as

/-- What is made of a text, for all texts. -/
theorem parse_exact (text : String) : Exact text where
  entries_iff := fun _ => holds_iff.symm
  accepted_iff := by
    rw [forall_wellFormed_iff]
    exact exists_congr fun _ => addresses_eq_ok_iff
  ok_iff := fun _ => addresses_eq_ok_iff
  error_iff := fun _ => addresses_eq_error_iff
  renders_iff := fun _ => addresses_eq_ok_iff.trans renders_iff.symm

example : parse " 0xabABabABabABabABabABabABabABabABabABabAB\u00a0,, \t," =
    .ok [⟨List.replicate 20 0xAB, rfl⟩] := by
  decide +kernel

-- Two bytes of 42 are the last character, so the entry has 41 of these.
example : parse ",0x00000000000000000000000000000000000000é" =
    .error (.badAddress "0x00000000000000000000000000000000000000é" (.badDigit 0xC3 38)) := by
  decide +kernel

end AuthorityList

end QuorumBridge
