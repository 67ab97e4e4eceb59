import QuorumBridge.Proofs.Text.Listing
import QuorumBridge.Text.Decimal

/-!
# Reading decimal counts

Which texts are read as a count.

The reader gives up as soon as the digits that it has read pass the limit. It
may do so since more digits only make the number larger: if the whole number
is below the limit then so is what every part of it in front stands for.

## Main definitions

* `Decimal.Numeral`: A text that stands for a number.

## Theorems

* `Decimal.le_ofDigitChars`: More digits make the number larger.
* `Decimal.parse_eq_ok_iff`: What texts are read, and as what.
* `Decimal.numeral_toDigits`: The digits of a number stand for it.
* `Decimal.Numeral.bare`: There are no blanks in a numeral.
-/

namespace QuorumBridge

namespace Decimal

/-- A text that stands for a number: digits, zeros in front of them or not, and
    a plus sign in front of those or not. -/
def Numeral (text : List Char) (n : Nat) : Prop :=
  ∃ digits, (text = digits ∨ text = '+' :: digits) ∧ digits ≠ [] ∧
    (∀ c ∈ digits, c.isDigit = true) ∧ Nat.ofDigitChars 10 digits 0 = n

/-- More digits make the number larger. -/
theorem le_ofDigitChars (digits : List Char) (value : Nat) :
    value ≤ Nat.ofDigitChars 10 digits value := by
  induction digits generalizing value with
  | nil => rw [Nat.ofDigitChars_nil]
  | cons c rest ih =>
    rw [Nat.ofDigitChars_cons]
    exact Nat.le_trans (by omega) (ih _)

theorem parseDigits_eq_ok_iff {limit value n : Nat} {digits : List Char} (hvalue : value < limit) :
    parseDigits limit value digits = .ok n ↔
      (∀ c ∈ digits, c.isDigit = true) ∧ Nat.ofDigitChars 10 digits value = n ∧ n < limit := by
  induction digits generalizing value with
  | nil =>
    rw [parseDigits, Except.ok.injEq, Nat.ofDigitChars_nil]
    constructor
    · rintro rfl
      exact ⟨fun c hc => absurd hc List.not_mem_nil, rfl, hvalue⟩
    · exact fun h => h.2.1
  | cons c rest ih =>
    rw [parseDigits, List.forall_mem_cons, Nat.ofDigitChars_cons, Nat.mul_comm 10 value]
    by_cases hc : c.isDigit = true
    · rw [if_pos hc, and_iff_right hc]
      by_cases hnext : value * 10 + (c.toNat - '0'.toNat) < limit
      · simp only [if_pos hnext, ih hnext]
      · simp only [if_neg hnext]
        constructor
        · exact fun h => absurd h (by simp only [reduceCtorEq, not_false_eq_true])
        · rintro ⟨-, rfl, hlt⟩
          -- More digits make a number no smaller, so one that was too large stays so.
          exact absurd (Nat.lt_of_le_of_lt (le_ofDigitChars rest _) hlt) hnext
    · rw [if_neg hc]
      constructor
      · exact fun h => absurd h (by simp only [reduceCtorEq, not_false_eq_true])
      · exact fun h => absurd h.1.1 hc

/-- A text is read as a number exactly if it stands for it and the number is
    below the limit. -/
theorem parse_eq_ok_iff {limit n : Nat} {text : List Char} (hlimit : 0 < limit) :
    parse limit text = .ok n ↔ Numeral text n ∧ n < limit := by
  have hread : ∀ digits, parseDigits limit 0 digits = .ok n ↔
      (∀ c ∈ digits, c.isDigit = true) ∧ Nat.ofDigitChars 10 digits 0 = n ∧ n < limit :=
    fun _ => parseDigits_eq_ok_iff hlimit
  constructor
  · intro h
    unfold parse at h
    split at h
    · exact absurd h (by simp only [reduceCtorEq, not_false_eq_true])
    · exact absurd h (by simp only [reduceCtorEq, not_false_eq_true])
    · rename_i rest hrest
      rcases (hread rest).1 h with ⟨hdigits, hn, hlt⟩
      exact ⟨⟨rest, .inr rfl, fun hnil => hrest (by rw [hnil]), hdigits, hn⟩, hlt⟩
    · rename_i hempty _ _
      rcases (hread text).1 h with ⟨hdigits, hn, hlt⟩
      exact ⟨⟨text, .inl rfl, hempty, hdigits, hn⟩, hlt⟩
  · rintro ⟨⟨digits, htext, hne, hdigits, hn⟩, hlt⟩
    have hok := (hread digits).2 ⟨hdigits, hn, hlt⟩
    cases digits with
    | nil => exact absurd rfl hne
    | cons c rest =>
      rcases htext with rfl | rfl
      · -- The first digit is no plus sign.
        have hc : c ≠ '+' := by
          rintro rfl
          exact absurd (hdigits '+' List.mem_cons_self) (by decide)
        unfold parse
        split
        · rename_i heq
          exact absurd heq (List.cons_ne_nil c rest)
        · rename_i heq
          exact absurd (List.cons.inj heq).1 hc
        · rename_i heq
          exact absurd (List.cons.inj heq).1 hc
        · exact hok
      · exact hok

/-- The digits of a number stand for it. -/
theorem numeral_toDigits (n : Nat) : Numeral (Nat.toDigits 10 n) n :=
  ⟨_, .inl rfl, Nat.toDigits_ne_nil,
    fun _ hc => Nat.isDigit_of_mem_toDigits (by decide) (by decide) hc,
    Nat.ofDigitChars_ten_toDigits⟩

theorem isBlank_of_isDigit {c : Char} (h : c.isDigit = true) : isBlank c = false := by
  rw [Char.isDigit, Bool.and_eq_true, decide_eq_true_eq, decide_eq_true_eq] at h
  have hlow : 48 ≤ c.toNat := h.1
  have hhigh : c.toNat ≤ 57 := h.2
  simp only [isBlank, Bool.or_eq_false_iff, Bool.and_eq_false_iff, decide_eq_false_iff_not,
    beq_eq_false_iff_ne]
  omega

/-- There are no blanks in a numeral. -/
theorem Numeral.bare {text : List Char} {n : Nat} (h : Numeral text n) : Bare text := by
  rcases h with ⟨digits, htext, -, hdigits, -⟩
  have hfree : ∀ c ∈ digits, isBlank c = false := fun c hc => isBlank_of_isDigit (hdigits c hc)
  rcases htext with rfl | rfl
  · exact bare_of_forall hfree
  · exact bare_of_forall (List.forall_mem_cons.2 ⟨by decide, hfree⟩)

end Decimal

end QuorumBridge
