import Mathlib.Data.List.Forall2
import Mathlib.Data.List.TakeWhile
import QuorumBridge.Text.Blank
import QuorumBridge.Text.Pieces

/-!
# Lists in a text

A list is written as a text by putting separators between its entries. Around
an entry there may be blanks, and between two separators there may be nothing
but blanks, which is no entry then. So a list can be written as many texts.

The reader goes the other way, and its way is a function: it cuts at the
separators, drops the blanks around each piece and forgets what is empty then.
It finds the entries that were written, as long as no entry could be mistaken:
an entry must not be empty or hold a separator, and must neither begin nor end
with a blank. What the reader finds has this form itself, so the list that a
text holds is settled by the text.

## Main definitions

* `Blanks`: A text of blanks only.
* `Bare`: A text with no blank at either end.
* `Padded`: A text, and blanks around it.
* `Listing`: Pieces of a text that hold a list.
* `Listable`: A text that the reader does not mistake.

## Theorems

* `trim_eq_iff`: What is left of a text without the blanks around it.
* `pieces_eq_splitOn`: The pieces are those of the standard library.
* `forall₂_entriesOf_pieces_iff`: The reader finds a list exactly if the text holds it.
-/

namespace QuorumBridge

/-! ## Blanks around a text -/

/-- Nothing but blanks. -/
def Blanks (text : List Char) : Prop :=
  ∀ c ∈ text, isBlank c = true

/-- No blank stands at either end. -/
structure Bare (text : List Char) : Prop where
  head : ∀ c ∈ text.head?, isBlank c = false
  last : ∀ c ∈ text.getLast?, isBlank c = false

theorem bare_of_forall {text : List Char} (h : ∀ c ∈ text, isBlank c = false) : Bare text where
  head := fun c hc => h c (List.mem_of_mem_head? hc)
  last := fun c hc => h c (List.mem_of_mem_getLast? hc)

/-- A text, and blanks around it. -/
def Padded (text core : List Char) : Prop :=
  ∃ left right, Blanks left ∧ Blanks right ∧ text = left ++ core ++ right

theorem trimLeft_append {left : List Char} (h : Blanks left) (rest : List Char) :
    trimLeft (left ++ rest) = trimLeft rest :=
  List.dropWhile_append_of_pos h

theorem trimLeft_of_head {text : List Char} (h : ∀ c ∈ text.head?, isBlank c = false) :
    trimLeft text = text := by
  cases text with
  | nil => rfl
  | cons c rest =>
    have hc : ¬isBlank c = true := by
      rw [h c rfl]
      decide
    exact List.dropWhile_cons_of_neg hc

theorem trimLeft_of_blanks {text : List Char} (h : Blanks text) : trimLeft text = [] := by
  rw [← List.append_nil text, trimLeft_append h]
  rfl

/-- The right end is the left end of the text backwards. -/
theorem trimRight_eq (text : List Char) : trimRight text = (trimLeft text.reverse).reverse :=
  rfl

theorem blanks_reverse {text : List Char} (h : Blanks text) : Blanks text.reverse :=
  fun c hc => h c (List.mem_reverse.1 hc)

theorem head?_trimLeft (text : List Char) :
    ∀ c ∈ (trimLeft text).head?, isBlank c = false := by
  intro c hc
  have hfirst := List.head?_dropWhile_not isBlank text
  rw [Option.mem_def, trimLeft] at hc
  rw [hc] at hfirst
  exact hfirst

theorem exists_trimLeft (text : List Char) : ∃ left, Blanks left ∧ text = left ++ trimLeft text :=
  ⟨text.takeWhile isBlank, fun _ hc => List.mem_takeWhile_imp hc,
    List.takeWhile_append_dropWhile.symm⟩

theorem exists_trimRight (text : List Char) :
    ∃ right, Blanks right ∧ text = trimRight text ++ right := by
  rcases exists_trimLeft text.reverse with ⟨left, hleft, htext⟩
  refine ⟨left.reverse, blanks_reverse hleft, ?_⟩
  rw [trimRight_eq, ← List.reverse_append, ← htext, List.reverse_reverse]

/-- What is dropped are blanks. -/
theorem padded_trim (text : List Char) : Padded text (trim text) := by
  rcases exists_trimLeft text with ⟨left, hleft, htext⟩
  rcases exists_trimRight (trimLeft text) with ⟨right, hright, hrest⟩
  refine ⟨left, right, hleft, hright, ?_⟩
  rw [List.append_assoc, trim, ← hrest, ← htext]

/-- No more can be dropped. -/
theorem bare_trim (text : List Char) : Bare (trim text) where
  head := by
    intro c hc
    -- What is cut off at the right end leaves the first character alone.
    rcases exists_trimRight (trimLeft text) with ⟨right, -, hrest⟩
    apply head?_trimLeft text c
    rw [hrest, List.head?_append, ← trim, Option.mem_def.1 hc]
    rfl
  last := by
    intro c hc
    rw [trim, trimRight_eq, List.getLast?_reverse] at hc
    exact head?_trimLeft _ c hc

theorem trim_of_padded {text core : List Char} (hpadded : Padded text core) (hbare : Bare core) :
    trim text = core := by
  rcases hpadded with ⟨left, right, hleft, hright, rfl⟩
  cases core with
  | nil =>
    rw [List.append_nil, trim, trimLeft_append hleft, trimLeft_of_blanks hright]
    rfl
  | cons c rest =>
    -- The core begins and ends with characters that are no blanks, so trimming stops there.
    have hstart : trimLeft (c :: rest ++ right) = c :: rest ++ right :=
      trimLeft_of_head hbare.head
    have hend : trimLeft (c :: rest).reverse = (c :: rest).reverse := by
      refine trimLeft_of_head fun d hd => hbare.last d ?_
      rwa [List.head?_reverse] at hd
    rw [List.append_assoc, trim, trimLeft_append hleft, hstart, trimRight_eq, List.reverse_append,
      trimLeft_append (blanks_reverse hright), hend, List.reverse_reverse]

/-- What is left of a text without the blanks around it. -/
theorem trim_eq_iff {text core : List Char} : trim text = core ↔ Padded text core ∧ Bare core := by
  constructor
  · rintro rfl
    exact ⟨padded_trim text, bare_trim text⟩
  · rintro ⟨hpadded, hbare⟩
    exact trim_of_padded hpadded hbare

theorem trim_eq_nil_iff {text : List Char} : trim text = [] ↔ Blanks text := by
  constructor
  · intro h
    rcases padded_trim text with ⟨left, right, hleft, hright, htext⟩
    rw [h, List.append_nil] at htext
    rw [htext]
    exact List.forall_mem_append.2 ⟨hleft, hright⟩
  · intro h
    rw [trim, trimLeft_of_blanks h]
    rfl

/-! ## Separators -/

theorem pieces_eq_splitOn (separator : Char) (text : List Char) :
    pieces separator text = text.splitOn separator := by
  induction text with
  | nil => rfl
  | cons c rest ih =>
    rw [List.splitOn_cons_eq_if_modifyHead, pieces, ih]
    by_cases h : c = separator
    · rw [if_pos h, if_pos (beq_iff_eq.2 h)]
    · rw [if_neg h, if_neg (mt beq_iff_eq.1 h)]
      cases hrest : rest.splitOn separator with
      | nil => exact absurd hrest (List.splitOn_ne_nil separator rest)
      | cons piece more => rfl

/-- The pieces of a text that was put together are those that it was put
    together from. -/
theorem pieces_intercalate {separator : Char} {parts : List (List Char)}
    (hparts : ∀ part ∈ parts, separator ∉ part) (hne : parts ≠ []) :
    pieces separator ([separator].intercalate parts) = parts := by
  rw [pieces_eq_splitOn, List.splitOn_intercalate separator hparts hne]

/-- A separator ends a piece. -/
theorem not_mem_of_mem_pieces {separator : Char} {text piece : List Char}
    (h : piece ∈ pieces separator text) : separator ∉ piece := by
  induction text generalizing piece with
  | nil =>
    rw [pieces, List.mem_singleton] at h
    rw [h]
    exact List.not_mem_nil
  | cons c rest ih =>
    by_cases hc : c = separator
    · rw [pieces, if_pos hc, List.mem_cons] at h
      rcases h with rfl | hrest
      · exact List.not_mem_nil
      · exact ih hrest
    · rw [pieces, if_neg hc] at h
      cases hrest : pieces separator rest with
      | nil => exact absurd hrest (pieces_ne_nil separator rest)
      | cons first more =>
        rw [hrest] at h ih
        rcases List.mem_cons.1 h with rfl | hmore
        · rw [List.mem_cons, not_or]
          -- The character joins the first piece behind it, and is no separator.
          exact ⟨Ne.symm hc, ih List.mem_cons_self⟩
        · exact ih (List.mem_cons_of_mem first hmore)

/-! ## Lists of entries -/

/-- Pieces of a text that hold a list: each is blank, or spells the next element
    with blanks around it. -/
inductive Listing {α : Type} (spells : List Char → α → Prop) : List (List Char) → List α → Prop
  | nil : Listing spells [] []
  | blank {piece : List Char} {others : List (List Char)} {xs : List α}
    (hpiece : Blanks piece) (hothers : Listing spells others xs) :
    Listing spells (piece :: others) xs
  | entry {piece entry : List Char} {x : α} {others : List (List Char)} {xs : List α}
    (hpiece : Padded piece entry) (hentry : spells entry x) (hothers : Listing spells others xs) :
    Listing spells (piece :: others) (x :: xs)

/-- A text that is not mistaken for another when it stands in a list. -/
structure Listable (separator : Char) (text : List Char) : Prop where
  bare : Bare text
  ne_nil : text ≠ []
  not_mem : separator ∉ text

/-- The entries of pieces. -/
def entriesOf (parts : List (List Char)) : List (List Char) :=
  (parts.map trim).filter (!·.isEmpty)

theorem entriesOf_cons_of_blanks {piece : List Char} (h : Blanks piece)
    (others : List (List Char)) : entriesOf (piece :: others) = entriesOf others := by
  rw [entriesOf, List.map_cons, trim_eq_nil_iff.2 h]
  rfl

theorem entriesOf_cons_of_trim {piece entry : List Char} (h : trim piece = entry)
    (hne : entry ≠ []) (others : List (List Char)) :
    entriesOf (piece :: others) = entry :: entriesOf others := by
  have hkeep : (!entry.isEmpty) = true := by
    rw [Bool.not_eq_true', List.isEmpty_eq_false_iff]
    exact hne
  rw [entriesOf, List.map_cons, h, List.filter_cons, if_pos hkeep]
  rfl

section Listing

variable {α : Type} {spells : List Char → α → Prop} {parts : List (List Char)} {xs : List α}

/-- What is written is found, if it is not mistaken. -/
theorem Listing.forall₂ (h : Listing spells parts xs)
    (hentry : ∀ entry x, spells entry x → Bare entry ∧ entry ≠ []) :
    List.Forall₂ spells (entriesOf parts) xs := by
  induction h with
  | nil => exact .nil
  | blank hpiece _ ih =>
    -- A piece of blanks is no entry and is passed over.
    rw [entriesOf_cons_of_blanks hpiece]
    exact ih
  | @entry piece entry x others xs hpiece hspells _ ih =>
    rcases hentry entry x hspells with ⟨hbare, hne⟩
    rw [entriesOf_cons_of_trim (trim_of_padded hpiece hbare) hne]
    exact .cons hspells ih

/-- What is found was written. -/
theorem listing_of_forall₂ (h : List.Forall₂ spells (entriesOf parts) xs) :
    Listing spells parts xs := by
  induction parts generalizing xs with
  | nil =>
    rw [entriesOf, List.map_nil, List.filter_nil, List.forall₂_nil_left_iff] at h
    rw [h]
    exact .nil
  | cons piece others ih =>
    -- A piece is an entry unless it is all blanks.
    by_cases hpiece : trim piece = []
    · rw [entriesOf_cons_of_blanks (trim_eq_nil_iff.1 hpiece)] at h
      exact .blank (trim_eq_nil_iff.1 hpiece) (ih h)
    · rw [entriesOf_cons_of_trim rfl hpiece, List.forall₂_cons_left_iff] at h
      rcases h with ⟨x, rest, hspells, hrest, rfl⟩
      exact .entry (padded_trim piece) hspells (ih hrest)

/-- Pieces hold no separator if neither the blanks nor the entries do. -/
theorem Listing.not_mem {separator : Char} (h : Listing spells parts xs)
    (hblank : isBlank separator = false)
    (hentry : ∀ entry x, spells entry x → separator ∉ entry) :
    ∀ piece ∈ parts, separator ∉ piece := by
  -- The separator is no blank itself.
  have hfree : ∀ text, Blanks text → separator ∉ text := by
    intro text htext hmem
    exact absurd (htext separator hmem) (by rw [hblank]; decide)
  induction h with
  | nil => exact fun piece hpiece => absurd hpiece List.not_mem_nil
  | blank hpiece _ ih => exact List.forall_mem_cons.2 ⟨hfree _ hpiece, ih⟩
  | @entry piece entry x others xs hpiece hspells _ ih =>
    refine List.forall_mem_cons.2 ⟨?_, ih⟩
    rcases hpiece with ⟨left, right, hleft, hright, rfl⟩
    rw [List.mem_append, List.mem_append, not_or, not_or]
    exact ⟨⟨hfree left hleft, hentry entry x hspells⟩, hfree right hright⟩

/-- The entries of a text are a list exactly if the text holds that list. -/
theorem forall₂_entriesOf_pieces_iff {separator : Char} {text : List Char}
    (hblank : isBlank separator = false)
    (hentry : ∀ entry x, spells entry x → Listable separator entry) :
    List.Forall₂ spells (entriesOf (pieces separator text)) xs ↔
      ∃ parts, Listing spells parts xs ∧ text = [separator].intercalate parts := by
  constructor
  · intro h
    exact ⟨_, listing_of_forall₂ h, (intercalate_pieces separator text).symm⟩
  · rintro ⟨parts, hlisting, rfl⟩
    have hbare : ∀ entry x, spells entry x → Bare entry ∧ entry ≠ [] :=
      fun entry x h => ⟨(hentry entry x h).bare, (hentry entry x h).ne_nil⟩
    cases hparts : parts with
    | nil =>
      -- Without pieces the text is empty, and so is its one piece.
      rw [hparts] at hlisting
      exact hlisting.forall₂ hbare
    | cons piece others =>
      have hne : parts ≠ [] := hparts ▸ List.cons_ne_nil piece others
      have hfree := hlisting.not_mem hblank fun entry x h => (hentry entry x h).not_mem
      rw [← hparts, pieces_intercalate hfree hne]
      exact hlisting.forall₂ hbare

end Listing

end QuorumBridge
