/-!
# Results of computations that may fail

When a computation that is put together from others succeeds, and when it
fails.

Each of these says what the parts have done, so that a proof about the whole
goes from part to part and need not open any of them.

## Theorems

* `bind_eq_ok_iff`: One computation after another.
* `map_eq_ok_iff`, `map_eq_error_iff`: A computation of which the answer is
  looked at in another way.
* `mapError_eq_ok_iff`: A computation of which the fault is.
-/

namespace QuorumBridge

variable {ε δ α β : Type} {x : Except ε α}

theorem bind_eq_ok_iff {f : α → Except ε β} {b : β} :
    (x >>= f) = .ok b ↔ ∃ a, x = .ok a ∧ f a = .ok b := by
  cases x with
  | error fault => simp only [bind, Except.bind, reduceCtorEq, false_and, exists_false]
  | ok a => simp only [bind, Except.bind, Except.ok.injEq, exists_eq_left']

theorem map_eq_ok_iff {f : α → β} {b : β} : x.map f = .ok b ↔ ∃ a, x = .ok a ∧ f a = b := by
  cases x with
  | error fault => simp only [Except.map, reduceCtorEq, false_and, exists_false]
  | ok a => simp only [Except.map, Except.ok.injEq, exists_eq_left']

theorem map_eq_error_iff {f : α → β} {fault : ε} : x.map f = .error fault ↔ x = .error fault := by
  cases x with
  | error other => simp only [Except.map, Except.error.injEq]
  | ok a => simp only [Except.map, reduceCtorEq]

theorem mapError_eq_ok_iff {f : ε → δ} {a : α} : x.mapError f = .ok a ↔ x = .ok a := by
  cases x with
  | error fault =>
    have hmap : (Except.error fault : Except ε α).mapError f = .error (f fault) := rfl
    rw [hmap]
    simp only [reduceCtorEq]
  | ok b =>
    have hmap : (Except.ok b : Except ε α).mapError f = .ok b := rfl
    rw [hmap, Except.ok.injEq, Except.ok.injEq]

end QuorumBridge
