import Mathlib.Tactic.IntervalCases
import QuorumBridge.Text.Hex

/-!
# Reading hexadecimal text

Which texts are read, as what, and what is said about the others.

A text is read as some bytes exactly if it is their digits once its letters are
lower case. That is a statement about characters, and the reader only sees the
bytes of a text. The two views agree because the digits are ASCII: a character
that is no digit may have many bytes, but none of them is a digit, and so it
cannot pass for digits, nor can a part of it. For the same reason the first
byte that is no digit is the first byte of the first character that is none.

A fault is the first of its text. The reader takes two bytes at a time, but what
it reports does not depend on how they are paired.

## Main definitions

* `Hex.alphabet`, `Hex.IsDigit`: The digits, letters in either case.
* `Hex.FirstBad`: The first byte that is no digit, and its place.

## Theorems

* `Hex.value?_eq_some_iff`: What a single digit stands for.
* `Hex.decode_utf8_eq_ok_iff`: What texts are read, and as what.
* `Hex.exists_encode_iff`: These are the texts of digits of an even length.
* `Hex.decode_eq_error_iff`: What is said about the other texts.
* `Hex.decode_utf8_encode`: The digits of bytes are read as these.
* `Hex.encode_injective`: No other bytes have them.
-/

namespace QuorumBridge

/-- So that a statement about these can be checked one by one. -/
theorem exists_ofNat_of_lt {c : Char} {n : Nat} (h : c.toNat < n) : ∃ m < n, Char.ofNat m = c :=
  ⟨c.toNat, h, Char.ofNat_toNat c⟩

theorem utf8EncodeChar_of_lt {c : Char} (h : c.toNat < 128) :
    String.utf8EncodeChar c = [UInt8.ofNat c.toNat] := by
  have hle : c.val.toNat ≤ 127 := Nat.le_of_lt_succ h
  simp only [String.utf8EncodeChar, if_pos hle, Char.toNat]

/-- A longer character has no byte below 128. -/
theorem le_of_mem_utf8EncodeChar {c : Char} (h : 128 ≤ c.toNat) {byte : UInt8}
    (hbyte : byte ∈ String.utf8EncodeChar c) : 128 ≤ byte.toNat := by
  have hnot : ¬c.val.toNat ≤ 127 := Nat.not_le_of_lt h
  rw [String.utf8EncodeChar, if_neg hnot] at hbyte
  -- Two, three or four bytes. Each carries a marker in its upper bits.
  split at hbyte
  · simp only [List.mem_cons, List.not_mem_nil, or_false] at hbyte
    rcases hbyte with rfl | rfl <;> rw [UInt8.toNat_ofNat'] <;> omega
  · split at hbyte
    · simp only [List.mem_cons, List.not_mem_nil, or_false] at hbyte
      rcases hbyte with rfl | rfl | rfl <;> rw [UInt8.toNat_ofNat'] <;> omega
    · simp only [List.mem_cons, List.not_mem_nil, or_false] at hbyte
      rcases hbyte with rfl | rfl | rfl | rfl <;> rw [UInt8.toNat_ofNat'] <;> omega

theorem utf8EncodeChar_ne_nil (c : Char) : String.utf8EncodeChar c ≠ [] := by
  intro hnil
  have hlength := String.length_utf8EncodeChar c
  rw [hnil, List.length_nil] at hlength
  exact absurd hlength (Nat.ne_of_lt c.utf8Size_pos)

namespace Hex

/-- The digits, letters in either case. -/
def alphabet : List Char :=
  ['0', '1', '2', '3', '4', '5', '6', '7', '8', '9', 'a', 'b', 'c', 'd', 'e', 'f',
    'A', 'B', 'C', 'D', 'E', 'F']

/-- So that a statement about the digits can be checked one by one. -/
theorem of_mem_alphabet {p : Char → Bool} (h : alphabet.all p = true) {c : Char}
    (hc : c ∈ alphabet) : p c = true :=
  List.all_eq_true.1 h c hc

theorem toNat_lt_of_mem_alphabet {c : Char} (h : c ∈ alphabet) : c.toNat < 128 :=
  of_decide_eq_true (of_mem_alphabet (p := fun d => d.toNat < 128) (by decide) h)

/-! ## One digit -/

theorem value?_of_le {c : Char} (h : 128 ≤ c.toNat) : value? c = none := by
  have hnot : ∀ last : Char, last.toNat < 128 → ¬c ≤ last := by
    intro last hlast hle
    have hnat : c.toNat ≤ last.toNat := hle
    omega
  rw [value?, if_neg (fun hc => hnot '9' (by decide) hc.2),
    if_neg (fun hc => hnot 'f' (by decide) hc.2), if_neg (fun hc => hnot 'F' (by decide) hc.2)]

theorem toLower_of_le {c : Char} (h : 128 ≤ c.toNat) : c.toLower = c := by
  have hnot : ¬(c.val ≥ 'A'.val ∧ c.val ≤ 'Z'.val) := by
    rintro ⟨-, hle⟩
    have hnat : c.toNat ≤ 'Z'.toNat := hle
    have hz : 'Z'.toNat = 90 := rfl
    omega
  exact dif_neg hnot

theorem digitChar_lt {k : Nat} (h : k < 16) : (Nat.digitChar k).toNat < 128 := by
  interval_cases k <;> decide

/-- A digit stands for the number that has it as its lower-case digit. -/
theorem value?_eq_some_iff {c : Char} {k : Nat} :
    value? c = some k ↔ k < 16 ∧ c.toLower = Nat.digitChar k := by
  by_cases hc : c.toNat < 128
  · -- There are few enough ASCII characters to try them all.
    have hall : ∀ n < 128, ∀ k < 16,
        (value? (Char.ofNat n) = some k ↔ (Char.ofNat n).toLower = Nat.digitChar k) := by
      decide +kernel
    have hsmall : ∀ n < 128, ∀ j ∈ value? (Char.ofNat n), j < 16 := by decide +kernel
    rcases exists_ofNat_of_lt hc with ⟨n, hn, rfl⟩
    constructor
    · intro hvalue
      have hk := hsmall n hn k hvalue
      exact ⟨hk, (hall n hn k hk).1 hvalue⟩
    · rintro ⟨hk, hlower⟩
      exact (hall n hn k hk).2 hlower
  · -- All others are no digits, and their case is left alone.
    have hle : 128 ≤ c.toNat := Nat.le_of_not_lt hc
    rw [value?_of_le hle, toLower_of_le hle]
    constructor
    · exact fun h => absurd h (by simp only [reduceCtorEq, not_false_eq_true])
    · rintro ⟨hk, rfl⟩
      exact absurd (digitChar_lt hk) hc

theorem isSome_value?_iff {c : Char} : (value? c).isSome = true ↔ c ∈ alphabet := by
  by_cases hc : c.toNat < 128
  · -- The characters of one byte are few enough to be gone through.
    have hall : ∀ n < 128,
        ((value? (Char.ofNat n)).isSome = true ↔ Char.ofNat n ∈ alphabet) := by
      decide +kernel
    rcases exists_ofNat_of_lt hc with ⟨n, hn, rfl⟩
    exact hall n hn
  · have hle : 128 ≤ c.toNat := Nat.le_of_not_lt hc
    rw [value?_of_le hle]
    constructor
    · exact fun h => absurd h (by decide)
    · exact fun h => absurd (toNat_lt_of_mem_alphabet h) hc

/-! ## The bytes of a text -/

/-- A byte that is a digit. -/
def IsDigit (byte : UInt8) : Prop :=
  Char.ofUInt8 byte ∈ alphabet

theorem isSome_digit?_iff {byte : UInt8} : (digit? byte).isSome = true ↔ IsDigit byte :=
  isSome_value?_iff

theorem digit?_eq_none_iff {byte : UInt8} : digit? byte = none ↔ ¬IsDigit byte := by
  rw [← isSome_digit?_iff, Option.not_isSome_iff_eq_none]

theorem digit?_of_le {byte : UInt8} (h : 128 ≤ byte.toNat) : digit? byte = none :=
  value?_of_le h

theorem digit?_ofNat {c : Char} (h : c.toNat < 128) : digit? (UInt8.ofNat c.toNat) = value? c := by
  have hchar : Char.ofUInt8 (UInt8.ofNat c.toNat) = c := by
    rw [← Char.toNat_inj]
    show (UInt8.ofNat c.toNat).toUInt32.toNat = c.toNat
    rw [UInt8.toNat_toUInt32, UInt8.toNat_ofNat']
    omega
  rw [digit?, hchar]

/-- All bytes of a character are digits if it is one. -/
theorem map_digit?_utf8EncodeChar {c : Char} (h : c ∈ alphabet) :
    (String.utf8EncodeChar c).map digit? = [value? c] := by
  have hlt := toNat_lt_of_mem_alphabet h
  rw [utf8EncodeChar_of_lt hlt, List.map_singleton, digit?_ofNat hlt]

/-- The first byte of a character is no digit if the character is none. -/
theorem exists_cons_of_not_mem {c : Char} (h : c ∉ alphabet) :
    ∃ byte rest, String.utf8EncodeChar c = byte :: rest ∧ digit? byte = none := by
  by_cases hc : c.toNat < 128
  · refine ⟨_, [], utf8EncodeChar_of_lt hc, ?_⟩
    rw [digit?_ofNat hc]
    exact Option.not_isSome_iff_eq_none.1 (mt isSome_value?_iff.1 h)
  · cases hbytes : String.utf8EncodeChar c with
    | nil => exact absurd hbytes (utf8EncodeChar_ne_nil c)
    | cons byte rest =>
      have hmem : byte ∈ String.utf8EncodeChar c := hbytes ▸ List.mem_cons_self
      exact ⟨byte, rest, rfl,
        digit?_of_le (le_of_mem_utf8EncodeChar (Nat.le_of_not_lt hc) hmem)⟩

/-- So the bytes of a text are digits exactly if its characters are. -/
theorem forall_utf8_iff {text : List Char} :
    (∀ byte ∈ utf8 text, IsDigit byte) ↔ ∀ c ∈ text, c ∈ alphabet := by
  constructor
  · intro h c hc
    by_contra hnot
    -- A character that is no digit has a first byte that is none.
    rcases exists_cons_of_not_mem hnot with ⟨byte, rest, hbytes, hbad⟩
    have hmem : byte ∈ utf8 text :=
      List.mem_flatMap.2 ⟨c, hc, hbytes ▸ List.mem_cons_self⟩
    exact digit?_eq_none_iff.1 hbad (h byte hmem)
  · intro h byte hbyte
    rcases List.mem_flatMap.1 hbyte with ⟨c, hc, hmem⟩
    have hdigit : digit? byte ∈ (String.utf8EncodeChar c).map digit? :=
      List.mem_map_of_mem hmem
    rw [map_digit?_utf8EncodeChar (h c hc), List.mem_singleton] at hdigit
    rw [← isSome_digit?_iff, hdigit]
    exact isSome_value?_iff.2 (h c hc)

/-- And each digit is one byte. -/
theorem map_digit?_utf8 {text : List Char} (h : ∀ c ∈ text, c ∈ alphabet) :
    (utf8 text).map digit? = text.map value? := by
  induction text with
  | nil => rfl
  | cons c rest ih =>
    have hrest : (utf8 rest).map digit? = rest.map value? :=
      ih (fun d hd => h d (List.mem_cons_of_mem c hd))
    -- The bytes of a text are those of its characters, one behind the other.
    calc (utf8 (c :: rest)).map digit?
        = (String.utf8EncodeChar c).map digit? ++ (utf8 rest).map digit? := by
          rw [utf8, List.flatMap_cons, List.map_append]
          rfl
      _ = (c :: rest).map value? := by
          rw [map_digit?_utf8EncodeChar (h c List.mem_cons_self), hrest]
          rfl

theorem length_utf8 {text : List Char} (h : ∀ c ∈ text, c ∈ alphabet) :
    (utf8 text).length = text.length := by
  rw [← List.length_map (f := digit?), map_digit?_utf8 h, List.length_map]

/-! ## Pairs -/

/-- The values of the digits of a byte string. -/
def halves (bytes : List UInt8) : List Nat :=
  bytes.flatMap fun byte => [byte.toNat / 16, byte.toNat % 16]

theorem halves_cons (byte : UInt8) (rest : List UInt8) :
    halves (byte :: rest) = byte.toNat / 16 :: byte.toNat % 16 :: halves rest :=
  rfl

theorem length_halves (bytes : List UInt8) : (halves bytes).length = 2 * bytes.length := by
  induction bytes with
  | nil => rfl
  | cons byte rest ih =>
    rw [halves_cons, List.length_cons, List.length_cons, ih, List.length_cons]
    omega

theorem encode_eq_map_halves (bytes : List UInt8) :
    encode bytes = (halves bytes).map Nat.digitChar := by
  rw [halves, List.map_flatMap]
  rfl

theorem lt_of_mem_halves {bytes : List UInt8} {k : Nat} (h : k ∈ halves bytes) : k < 16 := by
  rcases List.mem_flatMap.1 h with ⟨byte, -, hk⟩
  have hbyte := byte.toNat_lt
  simp only [List.mem_cons, List.not_mem_nil, or_false] at hk
  rcases hk with rfl | rfl <;> omega

theorem digit?_lt {byte : UInt8} {k : Nat} (h : digit? byte = some k) : k < 16 :=
  (value?_eq_some_iff.1 h).1

/-- Two halves make a byte, and it has these halves. -/
theorem halves_pair_cons {high low : Nat} (hhigh : high < 16) (hlow : low < 16)
    (rest : List UInt8) :
    halves (UInt8.ofNat (16 * high + low) :: rest) = high :: low :: halves rest := by
  have hbyte : (UInt8.ofNat (16 * high + low)).toNat = 16 * high + low := by
    rw [UInt8.toNat_ofNat']
    omega
  have hdiv : (16 * high + low) / 16 = high := by omega
  have hmod : (16 * high + low) % 16 = low := by omega
  rw [halves_cons, hbyte, hdiv, hmod]

theorem map_digit?_of_decodePairs {position : Nat} {digits out : List UInt8}
    (h : decodePairs position digits = .ok out) :
    digits.map digit? = (halves out).map some := by
  fun_induction decodePairs position digits generalizing out with
  | case1 =>
    rw [Except.ok.injEq] at h
    rw [← h]
    rfl
  -- The one case in which a pair is read. All others end with a fault.
  | case6 position high low rest highValue lowValue hlow hhigh bytes hrest ih =>
    rw [Except.ok.injEq] at h
    rw [← h, halves_pair_cons (digit?_lt hhigh) (digit?_lt hlow)]
    simp only [List.map_cons, hlow, hhigh, ih hrest]
  | _ => exact absurd h (by simp only [reduceCtorEq, not_false_eq_true])

/-- The position is for faults only. -/
theorem decodePairs_of_map_digit? {out digits : List UInt8} (position : Nat)
    (h : digits.map digit? = (halves out).map some) :
    decodePairs position digits = .ok out := by
  induction out generalizing position digits with
  | nil =>
    rw [List.map_eq_nil_iff.1 h]
    rfl
  | cons byte rest ih =>
    -- A byte of the result takes two digits, so the digits start with a pair.
    rw [halves_cons, List.map_cons, List.map_cons] at h
    rcases List.map_eq_cons_iff.1 h with ⟨high, others, rfl, hhigh, hothers⟩
    rcases List.map_eq_cons_iff.1 hothers with ⟨low, more, rfl, hlow, hmore⟩
    rw [decodePairs, hhigh, hlow]
    simp only [ih (position + 2) hmore, Nat.div_add_mod, UInt8.ofNat_toNat]

theorem isSome_of_map_eq {α β : Type} {f : α → Option β} {xs : List α} {values : List β}
    (h : xs.map f = values.map some) : ∀ x ∈ xs, (f x).isSome = true := by
  intro x hx
  have hmem : f x ∈ xs.map f := List.mem_map_of_mem hx
  rw [h] at hmem
  rcases List.mem_map.1 hmem with ⟨value, -, hvalue⟩
  rw [← hvalue, Option.isSome_some]

/-- An odd number of digits is that of no bytes. -/
theorem decode_eq_ok_iff {digits out : List UInt8} :
    decode digits = .ok out ↔ digits.map digit? = (halves out).map some := by
  unfold decode
  split
  · rename_i hodd
    -- The halves of any bytes are even in number.
    refine ⟨fun h => absurd h (by simp only [reduceCtorEq, not_false_eq_true]), fun h => ?_⟩
    have hlength := congrArg List.length h
    rw [List.length_map, List.length_map, length_halves] at hlength
    omega
  · exact ⟨map_digit?_of_decodePairs, decodePairs_of_map_digit? 0⟩

/-! ## Texts -/

/-- Characters stand for these numbers exactly if they are their digits, up to case. -/
theorem map_value?_eq_iff {text : List Char} {values : List Nat}
    (h : ∀ k ∈ values, k < 16) :
    text.map value? = values.map some ↔ text.map Char.toLower = values.map Nat.digitChar := by
  induction text generalizing values with
  | nil =>
    cases values with
    | nil => simp only [List.map_nil]
    | cons k rest => simp only [List.map_nil, List.map_cons, reduceCtorEq]
  | cons c rest ih =>
    cases values with
    | nil => simp only [List.map_nil, List.map_cons, reduceCtorEq]
    | cons k others =>
      have hk := h k List.mem_cons_self
      -- Both sides are equal place by place.
      have hothers := ih (fun j hj => h j (List.mem_cons_of_mem k hj))
      rw [List.map_cons, List.map_cons, List.map_cons, List.map_cons, List.cons.injEq,
        List.cons.injEq, hothers, value?_eq_some_iff, and_iff_right hk]

/-- A text is read as bytes exactly if it is their digits, up to case. -/
theorem decode_utf8_eq_ok_iff {text : List Char} {out : List UInt8} :
    decode (utf8 text) = .ok out ↔ text.map Char.toLower = encode out := by
  rw [decode_eq_ok_iff, encode_eq_map_halves,
    ← map_value?_eq_iff (fun k hk => lt_of_mem_halves hk)]
  -- On either side all characters are digits, and then each of them is one byte.
  have hagree : (∀ c ∈ text, c ∈ alphabet) →
      ((utf8 text).map digit? = (halves out).map some ↔
        text.map value? = (halves out).map some) :=
    fun h => by rw [map_digit?_utf8 h]
  constructor
  · intro h
    exact (hagree (forall_utf8_iff.1 fun byte hbyte =>
      isSome_digit?_iff.1 (isSome_of_map_eq h byte hbyte))).1 h
  · intro h
    exact (hagree fun c hc => isSome_value?_iff.1 (isSome_of_map_eq h c hc)).2 h

theorem length_of_map_toLower {text : List Char} {out : List UInt8}
    (h : text.map Char.toLower = encode out) : text.length = 2 * out.length := by
  rw [← length_halves, ← List.length_map (f := Char.toLower), h, encode_eq_map_halves,
    List.length_map]

/-! ## Faults -/

/-- The first byte that is no digit, and its place. -/
inductive FirstBad : List UInt8 → UInt8 → Nat → Prop
  | here {byte : UInt8} {rest : List UInt8} (h : ¬IsDigit byte) : FirstBad (byte :: rest) byte 0
  | later {first : UInt8} {rest : List UInt8} {byte : UInt8} {position : Nat}
    (hfirst : IsDigit first) (hrest : FirstBad rest byte position) :
    FirstBad (first :: rest) byte (position + 1)

theorem not_firstBad_nil {byte : UInt8} {position : Nat} : ¬FirstBad [] byte position := by
  rintro ⟨⟩

theorem firstBad_cons_of_none {first : UInt8} (h : digit? first = none) {rest : List UInt8}
    {byte : UInt8} {position : Nat} :
    FirstBad (first :: rest) byte position ↔ byte = first ∧ position = 0 := by
  constructor
  · rintro (- | ⟨hfirst, -⟩)
    · exact ⟨rfl, rfl⟩
    · exact absurd hfirst (digit?_eq_none_iff.1 h)
  · rintro ⟨rfl, rfl⟩
    exact .here (digit?_eq_none_iff.1 h)

theorem firstBad_cons_of_some {first : UInt8} {k : Nat} (h : digit? first = some k)
    {rest : List UInt8} {byte : UInt8} {position : Nat} :
    FirstBad (first :: rest) byte position ↔
      ∃ further, position = further + 1 ∧ FirstBad rest byte further := by
  have hfirst : IsDigit first := isSome_digit?_iff.1 (by rw [h, Option.isSome_some])
  constructor
  · rintro (hbad | ⟨-, hrest⟩)
    · exact absurd hfirst hbad
    · exact ⟨_, rfl, hrest⟩
  · rintro ⟨further, rfl, hrest⟩
    exact .later hfirst hrest

theorem FirstBad.mem_and_bad {bytes : List UInt8} {byte : UInt8} {position : Nat}
    (h : FirstBad bytes byte position) : byte ∈ bytes ∧ ¬IsDigit byte := by
  induction h with
  | here hbad => exact ⟨List.mem_cons_self, hbad⟩
  | later _ _ ih => exact ⟨List.mem_cons_of_mem _ ih.1, ih.2⟩

/-- Two digits in front move the fault by two. -/
theorem exists_firstBad_cons_cons {high low : UInt8} {k l : Nat} (hhigh : digit? high = some k)
    (hlow : digit? low = some l) {rest : List UInt8} {position : Nat} {fault : Fault} :
    (∃ byte further, FirstBad (high :: low :: rest) byte further ∧
        fault = .badDigit byte (position + further)) ↔
      ∃ byte further, FirstBad rest byte further ∧
        fault = .badDigit byte (position + 2 + further) := by
  have hshift : ∀ further, position + (further + 1 + 1) = position + 2 + further := by
    intro further
    omega
  constructor
  · rintro ⟨byte, _, hbad, rfl⟩
    -- The fault is at neither of the two, so it is behind them.
    rcases (firstBad_cons_of_some hhigh).1 hbad with ⟨_, rfl, hnext⟩
    rcases (firstBad_cons_of_some hlow).1 hnext with ⟨further, rfl, hrest⟩
    exact ⟨byte, further, hrest, by rw [hshift]⟩
  · rintro ⟨byte, further, hrest, rfl⟩
    refine ⟨byte, further + 1 + 1, ?_, by rw [hshift further]⟩
    exact (firstBad_cons_of_some hhigh).2
      ⟨further + 1, rfl, (firstBad_cons_of_some hlow).2 ⟨further, rfl, hrest⟩⟩

/-- However the digits are paired, the first that is none is reported. -/
theorem decodePairs_eq_error_iff {position : Nat} {digits : List UInt8} {fault : Fault}
    (heven : digits.length % 2 = 0) :
    decodePairs position digits = .error fault ↔
      ∃ byte further, FirstBad digits byte further ∧
        fault = .badDigit byte (position + further) := by
  fun_induction decodePairs position digits with
  | case1 =>
    constructor
    · exact fun h => absurd h (by simp only [reduceCtorEq, not_false_eq_true])
    · rintro ⟨byte, further, hbad, -⟩
      exact absurd hbad not_firstBad_nil
  | case2 => exact absurd heven (by rw [List.length_singleton]; decide)
  | case3 position high low rest hhigh =>
    rw [Except.error.injEq]
    constructor
    · rintro rfl
      -- The first of the two is none.
      exact ⟨high, 0, (firstBad_cons_of_none hhigh).2 ⟨rfl, rfl⟩, rfl⟩
    · rintro ⟨byte, further, hbad, rfl⟩
      rcases (firstBad_cons_of_none hhigh).1 hbad with ⟨rfl, rfl⟩
      rfl
  | case4 position high low rest k hlow hhigh =>
    rw [Except.error.injEq]
    constructor
    · rintro rfl
      -- The first is one, and the second is none.
      have hnext : FirstBad (low :: rest) low 0 := (firstBad_cons_of_none hlow).2 ⟨rfl, rfl⟩
      exact ⟨low, 1, (firstBad_cons_of_some hhigh).2 ⟨0, rfl, hnext⟩, rfl⟩
    · rintro ⟨byte, further, hbad, rfl⟩
      rcases (firstBad_cons_of_some hhigh).1 hbad with ⟨_, rfl, hnext⟩
      rcases (firstBad_cons_of_none hlow).1 hnext with ⟨rfl, rfl⟩
      rfl
  | case5 position high low rest k l hlow hhigh other hrest ih =>
    rw [List.length_cons, List.length_cons] at heven
    -- Both are digits, and the fault is that of the rest.
    rw [exists_firstBad_cons_cons hhigh hlow, ← ih (by omega), hrest]
  | case6 position high low rest k l hlow hhigh bytes hrest ih =>
    rw [List.length_cons, List.length_cons] at heven
    rw [exists_firstBad_cons_cons hhigh hlow, ← ih (by omega), hrest]
    simp only [reduceCtorEq]

/-- What is said about digits that stand for no bytes. -/
theorem decode_eq_error_iff {digits : List UInt8} {fault : Fault} :
    decode digits = .error fault ↔
      digits.length % 2 = 1 ∧ fault = .oddLength ∨
        digits.length % 2 = 0 ∧
          ∃ byte position, FirstBad digits byte position ∧ fault = .badDigit byte position := by
  by_cases hodd : digits.length % 2 = 1
  · have hnot : ¬digits.length % 2 = 0 := by omega
    -- An odd number is told of before any digit is looked at.
    rw [decode, if_pos hodd, Except.error.injEq]
    constructor
    · exact fun h => Or.inl ⟨hodd, h.symm⟩
    · rintro (⟨-, rfl⟩ | ⟨heven, -⟩)
      · rfl
      · exact absurd heven hnot
  · have heven : digits.length % 2 = 0 := by omega
    rw [decode, if_neg hodd, decodePairs_eq_error_iff heven, or_iff_right (fun h => hodd h.1),
      and_iff_right heven]
    simp only [Nat.zero_add]

/-- The texts that are read are those of an even number of digits. -/
theorem exists_encode_iff {text : List Char} {n : Nat} :
    (∃ out, out.length = n ∧ text.map Char.toLower = encode out) ↔
      text.length = 2 * n ∧ ∀ c ∈ text, c ∈ alphabet := by
  constructor
  · rintro ⟨out, rfl, htext⟩
    refine ⟨length_of_map_toLower htext, fun c hc => isSome_value?_iff.1 ?_⟩
    rw [encode_eq_map_halves, ← map_value?_eq_iff (fun k hk => lt_of_mem_halves hk)] at htext
    exact isSome_of_map_eq htext c hc
  · rintro ⟨hlength, hdigits⟩
    cases hdecode : decode (utf8 text) with
    | error fault =>
      -- Digits of an even number leave nothing to complain of.
      rcases decode_eq_error_iff.1 hdecode with ⟨hodd, -⟩ | ⟨-, byte, position, hbad, -⟩
      · rw [length_utf8 hdigits] at hodd
        omega
      · rcases hbad.mem_and_bad with ⟨hmem, hnot⟩
        exact absurd (forall_utf8_iff.2 hdigits byte hmem) hnot
    | ok out =>
      have htext := decode_utf8_eq_ok_iff.1 hdecode
      refine ⟨out, ?_, htext⟩
      have hsame := length_of_map_toLower htext
      omega

theorem toLower_digitChar {k : Nat} (h : k < 16) :
    (Nat.digitChar k).toLower = Nat.digitChar k := by
  interval_cases k <;> decide

/-- The digits of bytes are lower case. -/
theorem map_toLower_encode (bytes : List UInt8) :
    (encode bytes).map Char.toLower = encode bytes := by
  rw [encode_eq_map_halves, List.map_map]
  exact List.map_congr_left fun k hk => toLower_digitChar (lt_of_mem_halves hk)

/-- Bytes come back. -/
theorem decode_utf8_encode (bytes : List UInt8) : decode (utf8 (encode bytes)) = .ok bytes :=
  decode_utf8_eq_ok_iff.2 (map_toLower_encode bytes)

theorem encode_injective : Function.Injective encode := by
  intro x y h
  have hread := decode_utf8_encode x
  rw [h, decode_utf8_encode, Except.ok.injEq] at hread
  exact hread.symm

/-! ## Digits that are written -/

theorem value?_digitChar {k : Nat} (h : k < 16) : value? (Nat.digitChar k) = some k :=
  value?_eq_some_iff.2 ⟨h, toLower_digitChar h⟩

theorem digitChar_mem_alphabet {k : Nat} (h : k < 16) : Nat.digitChar k ∈ alphabet := by
  rw [← isSome_value?_iff, value?_digitChar h, Option.isSome_some]

theorem mem_alphabet_of_mem_encode {bytes : List UInt8} {c : Char} (h : c ∈ encode bytes) :
    c ∈ alphabet := by
  rw [encode_eq_map_halves] at h
  rcases List.mem_map.1 h with ⟨k, hk, rfl⟩
  exact digitChar_mem_alphabet (lt_of_mem_halves hk)

theorem mem_alphabet_of_mem_ofNat {n : Nat} {c : Char} (h : c ∈ ofNat n) : c ∈ alphabet := by
  unfold ofNat at h
  induction n using Nat.strongRecOn with
  | ind n ih =>
    by_cases hn : n < 16
    · rw [Nat.toDigits_of_lt_base hn, List.mem_singleton] at h
      rw [h]
      exact digitChar_mem_alphabet hn
    · rw [Nat.toDigits_of_base_le (by decide) (Nat.le_of_not_lt hn), List.mem_append,
        List.mem_singleton] at h
      -- The digits in front are those of the quotient, and the last one is the remainder.
      rcases h with hfront | hlast
      · exact ih (n / 16) (by omega) hfront
      · rw [hlast]
        exact digitChar_mem_alphabet (Nat.mod_lt _ (by decide))

end Hex

end QuorumBridge
