/-!
# Blank characters

The characters that count as blank around an entry are those with the
Unicode property `White_Space`, a closed list of 25. It is wider than the
four ASCII blanks: a no-break space or an ideographic space around an entry
is dropped like any other.

## Main definitions

* `isBlank`: The property.
* `trimLeft`, `trimRight`, `trim`: A text without the blanks around it.

## Theorems

* `isBlank_of_isWhitespace`: Every blank of the standard library is one here.
-/

namespace QuorumBridge

/-- Whether a character has the property `White_Space`. -/
def isBlank (c : Char) : Bool :=
  let n := c.toNat
  (9 ≤ n && n ≤ 13) || n == 0x20 || n == 0x85 || n == 0xA0 || n == 0x1680 ||
    (0x2000 ≤ n && n ≤ 0x200A) || n == 0x2028 || n == 0x2029 || n == 0x202F ||
    n == 0x205F || n == 0x3000

/-- The four blanks of the standard library are among these. -/
theorem isBlank_of_isWhitespace {c : Char} (h : c.isWhitespace = true) : isBlank c = true := by
  simp only [Char.isWhitespace, Bool.or_eq_true, decide_eq_true_eq] at h
  rcases h with ((rfl | rfl) | rfl) | rfl <;> decide

/-- A text without the blanks in front. -/
def trimLeft (text : List Char) : List Char :=
  text.dropWhile isBlank

/-- A text without the blanks at its end. -/
def trimRight (text : List Char) : List Char :=
  (text.reverse.dropWhile isBlank).reverse

/-- A text without the blanks around it. -/
def trim (text : List Char) : List Char :=
  trimRight (trimLeft text)

end QuorumBridge
