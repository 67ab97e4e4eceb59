/-!
# Tables

A finite map as a list of entries with distinct keys. Putting a value under a
key replaces the value that is there or adds an entry at the end, so the
entries keep the order in which their keys first came. That the keys are
distinct is a fact about the type: a sum over the entries counts every key
once.

## Main definitions

* `Table`: Entries with distinct keys.
* `Table.get?`: The value under a key.
* `Table.put`: The table with a value under a key.

## Theorems

* `Table.get?_put`: What is found after a value was put.
* `Table.forall_put`: What holds of all values is kept.
* `Table.put_of_get?`: Putting the value that is there changes nothing.
* `Table.sum_put`: What putting a value does to a sum over the values.
-/

namespace QuorumBridge

namespace Table

variable {κ α : Type} [DecidableEq κ]

/-- The entries with a value put under a key. -/
def putEntry (key : κ) (value : α) : List (κ × α) → List (κ × α)
  | [] => [(key, value)]
  | entry :: rest =>
    if entry.1 = key then (key, value) :: rest else entry :: putEntry key value rest

/-- The value under a key among the entries. -/
def lookup? (key : κ) : List (κ × α) → Option α
  | [] => none
  | entry :: rest => if entry.1 = key then some entry.2 else lookup? key rest

/-- The sum of the weights of the values among the entries. -/
def weigh (weight : α → Nat) (entries : List (κ × α)) : Nat :=
  entries.foldr (fun entry total => weight entry.2 + total) 0

/-- Putting a value adds at most its own key. -/
theorem mem_keys_putEntry (key k : κ) (value : α) (entries : List (κ × α)) :
    k ∈ (putEntry key value entries).map Prod.fst ↔ k = key ∨ k ∈ entries.map Prod.fst := by
  induction entries with
  | nil => simp only [putEntry, List.map_cons, List.map_nil, List.mem_singleton,
      List.not_mem_nil, or_false]
  | cons entry rest ih =>
    by_cases h : entry.1 = key
    · rw [putEntry, if_pos h]
      simp only [List.map_cons, List.mem_cons, h, or_self_left]
    · simp only [putEntry, if_neg h, List.map_cons, List.mem_cons, ih, or_left_comm]

theorem nodup_keys_putEntry (key : κ) (value : α) (entries : List (κ × α))
    (h : (entries.map Prod.fst).Nodup) :
    ((putEntry key value entries).map Prod.fst).Nodup := by
  induction entries with
  | nil => simp only [putEntry, List.map_cons, List.map_nil, List.nodup_cons, List.not_mem_nil,
      not_false_eq_true, List.nodup_nil, and_self]
  | cons entry rest ih =>
    simp only [List.map_cons, List.nodup_cons] at h
    by_cases hkey : entry.1 = key
    · subst hkey
      simp only [putEntry, if_true, List.map_cons, List.nodup_cons]
      exact h
    · simp only [putEntry, if_neg hkey, List.map_cons, List.nodup_cons]
      refine ⟨?_, ih h.2⟩
      -- The only key that may have come is the one that was put.
      rw [mem_keys_putEntry]
      rintro (heq | hmem)
      · exact hkey heq
      · exact h.1 hmem

/-- After a value was put, its key has it and every other key what it had. -/
theorem lookup?_putEntry (key k : κ) (value : α) (entries : List (κ × α)) :
    lookup? k (putEntry key value entries) =
      if key = k then some value else lookup? k entries := by
  induction entries with
  | nil => simp only [putEntry, lookup?]
  | cons entry rest ih =>
    by_cases hkey : entry.1 = key
    · rw [putEntry, if_pos hkey]
      simp only [lookup?, hkey]
      -- The entry is the first with its key in both lists.
      by_cases hk : key = k
      · simp only [if_pos hk]
      · simp only [if_neg hk]
    · simp only [putEntry, if_neg hkey, lookup?, ih]
      by_cases hk : key = k
      · subst hk
        simp only [if_neg hkey, if_true]
      · simp only [if_neg hk]

/-- Putting the value that is there leaves the entries as they are. -/
theorem putEntry_of_lookup? (key : κ) (value : α) (entries : List (κ × α))
    (h : lookup? key entries = some value) : putEntry key value entries = entries := by
  induction entries with
  | nil => exact absurd h (by simp only [lookup?, reduceCtorEq, not_false_eq_true])
  | cons entry rest ih =>
    -- The walk stops at the entry that the look up finds.
    by_cases hkey : entry.1 = key
    · rw [lookup?, if_pos hkey, Option.some.injEq] at h
      rw [putEntry, if_pos hkey, ← hkey, ← h]
    · rw [lookup?, if_neg hkey] at h
      rw [putEntry, if_neg hkey, ih h]

/-- Putting a value under a key moves a sum by the difference to what was
    there. -/
theorem sum_putEntry (weight : α → Nat) (key : κ) (value : α) (entries : List (κ × α)) :
    weigh weight (putEntry key value entries) + ((lookup? key entries).map weight).getD 0 =
      weigh weight entries + weight value := by
  induction entries with
  | nil => simp only [putEntry, lookup?, weigh, List.foldr_cons, List.foldr_nil,
      Option.map_none, Option.getD_none, Nat.add_zero, Nat.zero_add]
  | cons entry rest ih =>
    unfold weigh at ih ⊢
    -- Subtraction would be cut off at zero, so what is replaced stands on the left.
    by_cases hkey : entry.1 = key
    · simp only [putEntry, lookup?, if_pos hkey, List.foldr_cons, Option.map_some,
        Option.getD_some]
      omega
    · simp only [putEntry, lookup?, if_neg hkey, List.foldr_cons]
      omega

end Table

/-- A finite map: entries with distinct keys. -/
structure Table (κ α : Type) where
  /-- The entries, in the order in which their keys first came. -/
  entries : List (κ × α)
  nodup : (entries.map Prod.fst).Nodup
deriving DecidableEq

namespace Table

variable {κ α : Type}

/-- The table without entries. -/
def empty : Table κ α :=
  ⟨[], List.nodup_nil⟩

/-- The sum of the weights of the values. -/
def sum (table : Table κ α) (weight : α → Nat) : Nat :=
  weigh weight table.entries

variable [DecidableEq κ]

/-- The value under a key. -/
def get? (table : Table κ α) (key : κ) : Option α :=
  lookup? key table.entries

/-- The table with a value under a key. -/
def put (table : Table κ α) (key : κ) (value : α) : Table κ α :=
  ⟨putEntry key value table.entries, nodup_keys_putEntry key value table.entries table.nodup⟩

@[simp] theorem get?_empty (key : κ) : (empty : Table κ α).get? key = none := rfl

/-- After a value was put, its key has it and every other key what it had. -/
theorem get?_put (table : Table κ α) (key k : κ) (value : α) :
    (table.put key value).get? k = if key = k then some value else table.get? k :=
  lookup?_putEntry key k value table.entries

/-- What holds of every value in a table still does when a value is put of which
    it holds as well. -/
theorem forall_put {table : Table κ α} {P : κ → α → Prop}
    (h : ∀ k found, table.get? k = some found → P k found) {key : κ} {value : α}
    (hvalue : P key value) :
    ∀ k found, (table.put key value).get? k = some found → P k found := by
  intro k found hget
  rw [get?_put] at hget
  by_cases hsame : key = k
  · rw [if_pos hsame, Option.some.injEq] at hget
    rw [← hget, ← hsame]
    exact hvalue
  · rw [if_neg hsame] at hget
    exact h k found hget

/-- Putting the value that is there changes nothing. -/
theorem put_of_get? {table : Table κ α} {key : κ} {value : α}
    (h : table.get? key = some value) : table.put key value = table := by
  cases table with
  | mk entries nodup =>
    simp only [put, Table.mk.injEq]
    exact putEntry_of_lookup? key value entries h

/-- Putting a value under a key moves a sum by the difference to what was
    there. -/
theorem sum_put (table : Table κ α) (weight : α → Nat) (key : κ) (value : α) :
    (table.put key value).sum weight + ((table.get? key).map weight).getD 0 =
      table.sum weight + weight value :=
  sum_putEntry weight key value table.entries

end Table

end QuorumBridge
