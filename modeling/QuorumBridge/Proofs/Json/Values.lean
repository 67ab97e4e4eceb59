import QuorumBridge.Bytes.Json
import QuorumBridge.Proofs.Json.Texts
import QuorumBridge.Proofs.Ledger

/-!
# Byte strings and amounts in JSON

Both are written as a marker and hexadecimal digits, and read again from them.

The digits of a byte string come in pairs, so there are as many as its length
says, and they are read without looking at it. The digits of an amount are the
fewest that do. They are read from the front with the value so far at hand,
which the digits behind them shift to its place.

Nothing of either form is escaped in a string, so the text between the quotes is
the form itself.

## Theorems

* `Octets.ofJson?_toJson`: A byte string is read as it was written.
* `Amount.readDigits_toDigits`: So are the fewest digits of a number.
* `Amount.ofJson?_toJson`: And with them an amount.
-/

namespace QuorumBridge

namespace Octets

variable {n : Nat}

theorem ofHex?_hex (x : Octets n) : ofHex? n x.hex = some x := by
  have hunmarked : unmarked x.hex.toList = Hex.encode x.toList := by
    rw [hex, String.toList_ofList]
    rfl
  rw [ofHex?, hunmarked, Hex.decode_utf8_encode]
  exact ofList?_toList x

/-- A byte string is read as it was written. -/
theorem ofJson?_toJson (x : Octets n) : ofJson? n x.toJson = some x := by
  have htext : x.toJson.text? = some x.hex := rfl
  rw [ofJson?, htext]
  exact ofHex?_hex x

theorem unescaped_hex (x : Octets n) : Json.Unescaped x.hex :=
  Json.unescaped_marked fun _ => Hex.mem_alphabet_of_mem_encode

end Octets

namespace Amount

theorem readDigits_append (base value : Nat) (front back : List Char) :
    readDigits base value (front ++ back) =
      (readDigits base value front).bind fun shifted => readDigits base shifted back := by
  induction front generalizing value with
  | nil => rfl
  | cons c rest ih =>
    rw [List.cons_append, readDigits, readDigits]
    by_cases hc : c = '_'
    · rw [if_pos hc, if_pos hc, ih]
    · rw [if_neg hc, if_neg hc]
      cases digit? base c with
      | none => rfl
      | some d => exact ih _

theorem readDigits_digitChar (value : Nat) {k : Nat} (h : k < 16) :
    readDigits 16 value [Nat.digitChar k] = some (value * 16 + k) := by
  have hdigit : digit? 16 (Nat.digitChar k) = some k := by
    rw [digit?, Hex.value?_digitChar h, Option.filter_some, if_pos (decide_eq_true h)]
  have hne : Nat.digitChar k ≠ '_' := by
    intro heq
    have hmem := Hex.digitChar_mem_alphabet h
    rw [heq] at hmem
    exact absurd hmem (by decide)
  rw [readDigits, if_neg hne, hdigit]
  rfl

/-- The last digit is the remainder, and those in front of it are the digits of
    the quotient. -/
theorem readDigits_toDigits (n : Nat) : readDigits 16 0 (Nat.toDigits 16 n) = some n := by
  induction n using Nat.strongRecOn with
  | ind n ih =>
    by_cases hn : n < 16
    · rw [Nat.toDigits_of_lt_base hn, readDigits_digitChar 0 hn, Nat.zero_mul, Nat.zero_add]
    · rw [Nat.toDigits_of_base_le (by decide) (Nat.le_of_not_lt hn), readDigits_append,
        ih (n / 16) (by omega), Option.bind_some,
        readDigits_digitChar _ (Nat.mod_lt n (by decide))]
      exact congrArg some (by omega)

/-- An amount is read as it was written. -/
theorem ofJson?_toJson (a : Amount) : ofJson? (toJson a) = some a := by
  have hcount : (toJson a).count? = none := rfl
  have htext : (toJson a).text? = some (hex a) := rfl
  have hread : readNat? (hex a).toList = some a.toNat := by
    rw [hex, String.toList_ofList]
    exact readDigits_toDigits a.toNat
  rw [ofJson?, hcount, htext]
  show ofText? (hex a) = some a
  rw [ofText?, hread, Option.bind_some]
  exact (ofNat?_eq_some_iff _ _).2 ⟨a.toNat_lt_limit, rfl⟩

theorem unescaped_hex (a : Amount) : Json.Unescaped (hex a) :=
  Json.unescaped_marked fun _ => Hex.mem_alphabet_of_mem_ofNat

end Amount

end QuorumBridge
