import QuorumBridge.Json.Token
import QuorumBridge.Proofs.Text.Hex

/-!
# Strings and numbers are read as they were written

Text follows text without a gap, so a reader has to stop where its part ends.
What is shown here is therefore always about a written part with anything
behind it.

A string says itself where it ends. Its characters are read one by one, but
they cannot be put together one by one: two pieces may make one character, and
whether a piece stands for a character depends on the piece behind it. The
pieces that are written are of the other kind. They stand for a character
wherever they are, and that is what the induction along a string carries.

A number does not say where it ends. Its digits are read as the number if what
follows cannot be a part of one.

## Main definitions

* `Json.Token.Piece.Means`: A piece that stands for a character wherever it is.
* `Json.Token.Spells`: A text that is read as such a piece.
* `Json.Token.Ends`: A text with which no number goes on.

## Theorems

* `Json.Token.quoted_quote`: A string is read as it was written.
* `Json.Token.number_toDigits`: So is a count.
-/

namespace QuorumBridge

namespace Json

namespace Token

/-! ## Strings -/

/-- A piece that stands for a character, whatever is behind it. -/
def Piece.Means (piece : Piece) (c : Char) : Prop :=
  ∀ rest, assemble (piece :: rest) = (assemble rest).map (c :: ·)

theorem Piece.means_char (c : Char) : (Piece.char c).Means c := by
  intro rest
  rw [assemble]

/-- A unit does unless it is a half. -/
theorem Piece.means_unit {value : Nat} (hhigh : isHigh value = false) (hlow : isLow value = false) :
    (Piece.unit value).Means (Char.ofNat value) := by
  intro rest
  -- Three equations, and the same answer: only a half is put together with what is behind it.
  cases rest with
  | nil =>
    rw [assemble.eq_4 _ _ (fun _ _ h => List.cons_ne_nil _ _ h.symm), hhigh, hlow]
    rfl
  | cons next behind =>
    cases next with
    | char c =>
      rw [assemble.eq_4 _ _ (fun _ _ h => Piece.noConfusion (List.cons.inj h).1), hhigh, hlow]
      rfl
    | unit low =>
      rw [assemble, hhigh, hlow]
      rfl

/-- A text that is read as one character of a string. -/
def Spells (text : List Char) (c : Char) : Prop :=
  ∃ piece : Piece, piece.Means c ∧
    ∀ rest, pieces (text ++ rest) = (pieces rest).map fun read => (piece :: read.1, read.2)

theorem spells_escaped {e c : Char} (he : e ≠ 'u') (h : escaped? e = some c) :
    Spells ['\\', e] c := by
  refine ⟨.char c, Piece.means_char c, fun rest => ?_⟩
  rw [List.cons_append, List.singleton_append,
    pieces.eq_4 _ _ (fun _ _ _ _ _ hu _ => he hu), h]
  cases pieces rest <;> rfl

theorem spells_self {c : Char} (hquote : c ≠ '"') (hslash : c ≠ '\\') (hc : ¬c.toNat < 0x20) :
    Spells [c] c := by
  refine ⟨.char c, Piece.means_char c, fun rest => ?_⟩
  rw [List.singleton_append, pieces.eq_5 _ _ hquote (fun _ _ _ _ _ h _ => hslash h)
    (fun _ _ h _ => hslash h), if_neg hc]
  cases pieces rest <;> rfl

/-- A control character is no half of another. -/
theorem spells_control {c : Char} (h : c.toNat < 0x20) :
    Spells ['\\', 'u', '0', '0', Nat.digitChar (c.toNat / 16), Nat.digitChar (c.toNat % 16)] c := by
  have hunit : unit? '0' '0' (Nat.digitChar (c.toNat / 16)) (Nat.digitChar (c.toNat % 16)) =
      some c.toNat := by
    have hsum : ((0 * 16 + 0) * 16 + c.toNat / 16) * 16 + c.toNat % 16 = c.toNat := by omega
    have hzero : Hex.value? '0' = some 0 := by decide
    rw [unit?, hzero, Hex.value?_digitChar (by omega), Hex.value?_digitChar (by omega)]
    exact congrArg some hsum
  have hmeans : (Piece.unit c.toNat).Means c := by
    -- Halves of other characters are numbers that are far above.
    have hhigh : isHigh c.toNat = false := by
      rw [isHigh, Bool.and_eq_false_iff, decide_eq_false_iff_not]
      omega
    have hlow : isLow c.toNat = false := by
      rw [isLow, Bool.and_eq_false_iff, decide_eq_false_iff_not]
      omega
    have hunitMeans := Piece.means_unit hhigh hlow
    rwa [Char.ofNat_toNat] at hunitMeans
  refine ⟨.unit c.toNat, hmeans, fun rest => ?_⟩
  simp only [List.cons_append, List.nil_append]
  rw [pieces, hunit]
  cases pieces rest <;> rfl

/-- The characters that have an escape of one letter. -/
def lettered : List Char :=
  ['"', '\\', '\n', '\r', '\t', '\x08', '\x0c']

theorem spells_lettered {c : Char} (h : c ∈ lettered) : Spells (escape c) c := by
  simp only [lettered, List.mem_cons, List.not_mem_nil, or_false] at h
  rcases h with rfl | rfl | rfl | rfl | rfl | rfl | rfl <;> exact spells_escaped (by decide) rfl

theorem escape_of_not_mem {c : Char} (h : c ∉ lettered) :
    escape c =
      if c.toNat < 0x20 then
        ['\\', 'u', '0', '0', Nat.digitChar (c.toNat / 16), Nat.digitChar (c.toNat % 16)]
      else [c] := by
  simp only [lettered, List.mem_cons, List.not_mem_nil, or_false, not_or] at h
  rcases h with ⟨hquote, hslash, hline, hreturn, htab, hback, hfeed⟩
  rw [escape, if_neg hquote, if_neg hslash, if_neg hline, if_neg hreturn, if_neg htab,
    if_neg hback, if_neg hfeed]

/-- Every character is written so that it is read again. -/
theorem spells_escape (c : Char) : Spells (escape c) c := by
  by_cases hletter : c ∈ lettered
  · exact spells_lettered hletter
  · rw [escape_of_not_mem hletter]
    by_cases hcontrol : c.toNat < 0x20
    · rw [if_pos hcontrol]
      exact spells_control hcontrol
    · rw [if_neg hcontrol]
      -- The quote and the backslash would be taken for something else, but have letters.
      have hself : ∀ d ∈ lettered, c ≠ d := fun d hd hc => hletter (hc ▸ hd)
      exact spells_self (hself '"' (by decide)) (hself '\\' (by decide)) hcontrol

/-- The characters of a string come back in their order. -/
theorem exists_pieces_flatMap (text rest : List Char) :
    ∃ read, pieces (text.flatMap escape ++ '"' :: rest) = some (read, rest) ∧
      assemble read = some text := by
  induction text with
  | nil => exact ⟨[], by rw [List.flatMap_nil, List.nil_append, pieces], by rw [assemble]⟩
  | cons c others ih =>
    rcases ih with ⟨read, hread, hothers⟩
    -- A character is written as itself or as an escape, and both are read as one piece.
    rcases spells_escape c with ⟨piece, hmeans, hpiece⟩
    refine ⟨piece :: read, ?_, ?_⟩
    · rw [List.flatMap_cons, List.append_assoc, hpiece, hread, Option.map_some]
    · rw [hmeans, hothers, Option.map_some]

/-- A string is read as it was written, and the reader stops behind it. -/
theorem quoted_quote (content : JsonString) :
    ∃ text, quote content = '"' :: text ∧ ∀ rest, quoted (text ++ rest) = some (content, rest) := by
  cases content with
  | plain chars =>
    refine ⟨_, rfl, fun rest => ?_⟩
    rcases exists_pieces_flatMap chars.toList rest with ⟨read, hread, hchars⟩
    have hcontent : Token.content read = .plain chars := by
      rw [Token.content, hchars]
      exact congrArg JsonString.plain String.ofList_toList
    rw [List.append_assoc, List.singleton_append, quoted, hread, Option.map_some, hcontent]
  | halved =>
    refine ⟨"\\ud800\"".toList, rfl, fun rest => ?_⟩
    -- What is not a text is written as the half of a character that nothing completes.
    have hread : pieces ("\\ud800\"".toList ++ rest) = some ([.unit 0xD800], rest) := by
      show pieces ('\\' :: 'u' :: 'd' :: '8' :: '0' :: '0' :: '"' :: rest) = _
      rw [pieces, pieces]
      rfl
    rw [quoted, hread]
    rfl

/-! ## Numbers -/

/-- A text with which no number goes on. -/
def Ends (text : List Char) : Prop :=
  ∀ c rest, text = c :: rest → c.isDigit = false ∧ c ≠ '.' ∧ c ≠ 'e' ∧ c ≠ 'E'

theorem ends_nil : Ends [] :=
  fun _ _ h => absurd h.symm (List.cons_ne_nil _ _)

theorem ends_cons {c : Char} {rest : List Char}
    (h : c.isDigit = false ∧ c ≠ '.' ∧ c ≠ 'e' ∧ c ≠ 'E') : Ends (c :: rest) := by
  intro d behind hcons
  rw [← (List.cons.inj hcons).1]
  exact h

theorem ne_of_isDigit {c d : Char} (h : c.isDigit = true) (hd : d.isDigit = false) : c ≠ d := by
  rintro rfl
  rw [h] at hd
  exact absurd hd (by decide)

theorem isSpace_of_isDigit {c : Char} (h : c.isDigit = true) : isSpace c = false := by
  simp only [isSpace, Bool.or_eq_false_iff, decide_eq_false_iff_not]
  exact ⟨⟨⟨ne_of_isDigit h (by decide), ne_of_isDigit h (by decide)⟩,
    ne_of_isDigit h (by decide)⟩, ne_of_isDigit h (by decide)⟩

/-- The digits of a number begin with a digit. -/
theorem exists_toDigits_eq_cons (n : Nat) :
    ∃ c rest, Nat.toDigits 10 n = c :: rest ∧ c.isDigit = true := by
  cases hdigits : Nat.toDigits 10 n with
  | nil => exact absurd hdigits Nat.toDigits_ne_nil
  | cons c rest =>
    have hmem : c ∈ Nat.toDigits 10 n := hdigits ▸ List.mem_cons_self
    exact ⟨c, rest, rfl, Nat.isDigit_of_mem_toDigits (by decide) (by decide) hmem⟩

/-- A run of digits ends where they end. -/
theorem digits_append {ds rest : List Char} (hds : ∀ c ∈ ds, c.isDigit = true)
    (hrest : Ends rest) : digits (ds ++ rest) = (ds, rest) := by
  -- What follows the number starts with no digit, so the scan stops at it.
  have htake : rest.takeWhile Char.isDigit = [] := by
    cases rest with
    | nil => rfl
    | cons c behind => rw [List.takeWhile_cons_of_neg (by rw [(hrest c behind rfl).1]; decide)]
  have hdrop : rest.dropWhile Char.isDigit = rest := by
    cases rest with
    | nil => rfl
    | cons c behind => rw [List.dropWhile_cons_of_neg (by rw [(hrest c behind rfl).1]; decide)]
  rw [digits, List.takeWhile_append_of_pos hds, List.dropWhile_append_of_pos hds, htake, hdrop,
    List.append_nil]

/-- The digits of a number start with a zero only if it is zero. -/
theorem eq_nil_of_toDigits {n : Nat} {rest : List Char} (h : Nat.toDigits 10 n = '0' :: rest) :
    rest = [] := by
  induction n using Nat.strongRecOn generalizing rest with
  | ind n ih =>
    by_cases hn : n < 10
    · rw [Nat.toDigits_of_lt_base hn] at h
      exact (List.cons.inj h).2.symm
    · have hle : 10 ≤ n := Nat.le_of_not_lt hn
      rw [Nat.toDigits_of_base_le (by decide) hle] at h
      -- The digits in front stand for no zero, so they cannot start with one.
      rcases List.append_eq_cons_iff.1 h with ⟨hnil, -⟩ | ⟨others, hfront, rfl⟩
      · exact absurd hnil Nat.toDigits_ne_nil
      · rw [ih (n / 10) (by omega) hfront] at hfront
        have hvalue := Nat.ofDigitChars_ten_toDigits (n := n / 10)
        rw [hfront] at hvalue
        have hzero : Nat.ofDigitChars 10 ['0'] 0 = 0 := by decide
        omega

theorem whole_toDigits (n : Nat) {rest : List Char} (hrest : Ends rest) :
    whole (Nat.toDigits 10 n ++ rest) = some (Nat.toDigits 10 n, rest) := by
  have hdigits : ∀ c ∈ Nat.toDigits 10 n, c.isDigit = true :=
    fun _ hc => Nat.isDigit_of_mem_toDigits (by decide) (by decide) hc
  rw [whole, digits_append hdigits hrest]
  -- A number in decimal is not empty, and a zero in front stands alone.
  split
  · rename_i heq
    exact absurd (Prod.mk.inj heq).1 Nat.toDigits_ne_nil
  · rename_i heq
    exact absurd (eq_nil_of_toDigits (Prod.mk.inj heq).1) (List.cons_ne_nil _ _)
  · rename_i heq
    rw [(Prod.mk.inj heq).1, (Prod.mk.inj heq).2]

theorem fraction_of_ends {rest : List Char} (h : Ends rest) : fraction rest = some ([], rest) :=
  fraction.eq_2 rest fun behind hcons => (h '.' behind hcons).2.1 rfl

theorem exponent_of_ends {rest : List Char} (h : Ends rest) : exponent rest = some ([], rest) := by
  cases rest with
  | nil => rfl
  | cons c behind =>
    rcases h c behind rfl with ⟨-, -, he, hE⟩
    rw [exponent, if_neg (by rintro (hc | hc); exacts [he hc, hE hc])]

/-- The digits of a count are read as it if no number goes on behind them. -/
theorem number_toDigits (n : Nat) {rest : List Char} (hrest : Ends rest) :
    number (Nat.toDigits 10 n ++ rest) = some (.natural n, rest) := by
  have hunsigned : unsigned (Nat.toDigits 10 n ++ rest) =
      some (Nat.toDigits 10 n, [], rest) := by
    simp only [unsigned, whole_toDigits n hrest, fraction_of_ends hrest, exponent_of_ends hrest,
      Option.bind_eq_bind, Option.bind_some, List.append_nil, Option.pure_def]
  -- A digit is no sign, so the number is read as one without.
  have hsign : ∀ behind, Nat.toDigits 10 n ++ rest ≠ '-' :: behind := by
    intro behind h
    rcases exists_toDigits_eq_cons n with ⟨c, others, hdigits, hc⟩
    rw [hdigits, List.cons_append] at h
    exact ne_of_isDigit hc (by decide) (List.cons.inj h).1
  rw [number.eq_2 _ hsign, hunsigned]
  show some (Json.natural (Nat.ofDigitChars 10 (Nat.toDigits 10 n) 0), rest) = _
  rw [Nat.ofDigitChars_ten_toDigits]

end Token

end Json

end QuorumBridge
