import Mathlib.Data.List.Basic
import QuorumBridge.Json

/-!
# Known fields of an object

An object is asked for each of its known fields in turn, and the answer does
not depend on the order of its members. A field that is there once is given, so
an object that gives all of them has each of them once. What else it holds has
no part in this.

## Theorems

* `Json.fields?_of_perm`: The order of members does not matter.
* `Json.countP_eq_one_of_fields?`: Fields that are all given are there once.
-/

namespace QuorumBridge

namespace Json

variable {members others : List (JsonString × Json)}

/-- Two members of one name are a fault in any order. -/
theorem field?_of_perm (h : members.Perm others) (name : String) :
    field? members name = field? others name := by
  have hperm := h.filter fun member => member.1 == .plain name
  unfold field?
  cases hleft : members.filter fun member => member.1 == .plain name with
  | nil =>
    rw [hleft, List.nil_perm] at hperm
    rw [hperm]
  | cons first rest =>
    rw [hleft] at hperm
    cases rest with
    | nil => rw [← List.singleton_perm.1 hperm]
    | cons second more =>
      -- The name is given more than once. Which member comes first may change, but not how many
      -- there are.
      have hlength := hperm.length_eq
      cases hright : others.filter fun member => member.1 == .plain name with
      | nil =>
        rw [hright] at hlength
        exact absurd hlength (Nat.succ_ne_zero _)
      | cons third further =>
        cases further with
        | nil =>
          rw [hright] at hlength
          exact absurd (Nat.succ.inj hlength) (Nat.succ_ne_zero _)
        | cons _ _ => rfl

theorem fields?_of_perm (h : members.Perm others) (names : List String) :
    fields? names (.object members) = fields? names (.object others) := by
  have hfield : field? members = field? others := funext (field?_of_perm h)
  rw [fields?, fields?, h.any_eq, hfield]

theorem countP_eq_one_of_field? {name : String} {value : Json}
    (h : field? members name = some (some value)) :
    members.countP (fun member => member.1 == .plain name) = 1 := by
  unfold field? at h
  split at h
  · exact absurd h (by simp only [Option.some.injEq, reduceCtorEq, not_false_eq_true])
  · rename_i hfilter
    rw [List.countP_eq_length_filter, hfilter, List.length_singleton]
  · exact absurd h (by simp only [reduceCtorEq, not_false_eq_true])

theorem countP_eq_one_of_mapM {names : List String} {values : List (Option Json)}
    (h : names.mapM (field? members) = some values) (hgiven : ∀ value ∈ values, value ≠ none) :
    ∀ name ∈ names, members.countP (fun member => member.1 == .plain name) = 1 := by
  induction names generalizing values with
  | nil => exact fun name hname => absurd hname List.not_mem_nil
  | cons first rest ih =>
    rw [List.mapM_cons] at h
    simp only [Option.bind_eq_bind, Option.bind_eq_some_iff, Option.pure_def,
      Option.some.injEq] at h
    rcases h with ⟨value, hfirst, others, hrest, rfl⟩
    rw [List.forall_mem_cons] at hgiven ⊢
    -- The fields are looked up one by one, each among all members.
    refine ⟨?_, ih hrest hgiven.2⟩
    cases value with
    | none => exact absurd rfl hgiven.1
    | some value => exact countP_eq_one_of_field? hfirst

/-- Fields that are all given are there once. -/
theorem countP_eq_one_of_fields? {names : List String} {values : List (Option Json)}
    (h : fields? names (.object members) = some values) (hgiven : ∀ value ∈ values, value ≠ none) :
    ∀ name ∈ names, members.countP (fun member => member.1 == .plain name) = 1 := by
  rw [fields?] at h
  by_cases hhalved : members.any fun member => member.1 == .halved
  · rw [if_pos hhalved] at h
    exact absurd h (by simp only [reduceCtorEq, not_false_eq_true])
  · rw [if_neg hhalved] at h
    exact countP_eq_one_of_mapM h hgiven

end Json

end QuorumBridge
