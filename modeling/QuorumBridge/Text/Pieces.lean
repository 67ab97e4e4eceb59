/-!
# Pieces of a text

A text with separators in it is a list of pieces. There is one piece more than
there are separators, so no text is without pieces, and a piece may be empty.

## Main definitions

* `pieces`: What stands between the separators of a text.

## Theorems

* `intercalate_pieces`: The pieces with separators between them are the text.
-/

namespace QuorumBridge

/-- What stands between the separators of a text. -/
def pieces (separator : Char) : List Char → List (List Char)
  | [] => [[]]
  | c :: rest =>
    if c = separator then [] :: pieces separator rest
    else
      match pieces separator rest with
      | [] => [[c]]
      | piece :: more => (c :: piece) :: more

/-- There is always a first piece. -/
theorem pieces_ne_nil (separator : Char) (text : List Char) : pieces separator text ≠ [] := by
  cases text with
  | nil => exact List.cons_ne_nil _ _
  | cons c rest =>
    by_cases h : c = separator
    · rw [pieces, if_pos h]
      exact List.cons_ne_nil _ _
    · rw [pieces, if_neg h]
      split <;> exact List.cons_ne_nil _ _

/-- Nothing of a text is lost but its separators. -/
theorem intercalate_pieces (separator : Char) (text : List Char) :
    [separator].intercalate (pieces separator text) = text := by
  induction text with
  | nil => rfl
  | cons c rest ih =>
    by_cases h : c = separator
    · subst h
      rw [pieces, if_pos rfl]
      -- A separator begins a piece of its own, which is empty so far.
      cases hp : pieces c rest with
      | nil => exact absurd hp (pieces_ne_nil c rest)
      | cons piece more =>
        rw [hp] at ih
        rw [List.intercalate_cons_cons, ih, List.nil_append, List.singleton_append]
    · rw [pieces, if_neg h]
      -- Any other character is joined to the first piece behind it.
      cases hp : pieces separator rest with
      | nil => exact absurd hp (pieces_ne_nil separator rest)
      | cons piece more =>
        rw [hp] at ih
        cases more with
        | nil =>
          rw [List.intercalate_singleton] at ih ⊢
          rw [ih]
        | cons second others =>
          rw [List.intercalate_cons_cons] at ih ⊢
          rw [List.cons_append, List.cons_append, ih]

end QuorumBridge
