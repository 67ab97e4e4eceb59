import QuorumBridge.Proofs.Crossing.Effect

/-!
# Histories of a bridge

Runs of a bridge, and what they are proved with.

A run answers its calls by a list of results. Which call a result belongs to is
said by its place, so a history puts the two side by side: an exchange is a
call with its answer. What was paid, refused or published in a run is read off
its exchanges, while the state after it is what the bridge itself remembers.
Most of what is worth knowing about a bridge compares the two.

A bridge starts from two registries, two ledgers and an estimate of gas. Where
its events go and which guards it looks at is left open here: both make a
difference to what can be said. Guards that are shared stay shared, so where
they are, one of them can stand for both.

## Main definitions

* `Guards.isShared`: Whether both sides look at one guard.
* `Crossing.Exchange`, `Crossing.exchanges`: Calls with their answers.
* `Crossing.Setting`, `Crossing.Setting.start`: What a bridge starts from.

## Theorems

* `Crossing.map_call_exchanges`: A history leaves out no call.
* `Crossing.forall_exchanges`: What is true of every call is true of a run.
* `Crossing.run_invariant`: What every call keeps, a run keeps.
* `Guards.eq_shared`: A shared guard is the one that the home side looks at.
* `Crossing.isShared_run`: A run keeps a shared guard shared.
-/

namespace QuorumBridge

namespace Guards

/-- Whether both sides look at one guard. -/
def isShared : Guards → Bool
  | .shared _ => true
  | .apart _ _ => false

theorem home_withForeign {guards : Guards} (h : guards.isShared = true) (guard : ReplayGuard) :
    (guards.withForeign guard).home = guard := by
  cases guards with
  | shared _ => rfl
  | apart _ _ => exact absurd h Bool.false_ne_true

theorem home_withHome (guards : Guards) (guard : ReplayGuard) :
    (guards.withHome guard).home = guard := by
  cases guards with
  | shared _ => rfl
  | apart _ _ => rfl

theorem foreign_withForeign (guards : Guards) (guard : ReplayGuard) :
    (guards.withForeign guard).foreign = guard := by
  cases guards with
  | shared _ => rfl
  | apart _ _ => rfl

theorem foreign_eq_home {guards : Guards} (h : guards.isShared = true) :
    guards.foreign = guards.home := by
  cases guards with
  | shared _ => rfl
  | apart _ _ => exact absurd h Bool.false_ne_true

theorem eq_shared {guards : Guards} (h : guards.isShared = true) :
    guards = .shared guards.home := by
  cases guards with
  | shared _ => rfl
  | apart _ _ => exact absurd h Bool.false_ne_true

theorem isShared_withHome (guards : Guards) (guard : ReplayGuard) :
    (guards.withHome guard).isShared = guards.isShared := by
  cases guards with
  | shared _ => rfl
  | apart _ _ => rfl

theorem isShared_withForeign (guards : Guards) (guard : ReplayGuard) :
    (guards.withForeign guard).isShared = guards.isShared := by
  cases guards with
  | shared _ => rfl
  | apart _ _ => rfl

end Guards

namespace Crossing

/-- A call with its answer. -/
structure Exchange where
  call : Call
  result : Except Refusal Answer

/-- The calls of a run with their answers. -/
def exchanges (crossing : Crossing) (calls : List Call) : List Exchange :=
  List.zipWith Exchange.mk calls (crossing.run calls).1

theorem exchanges_cons (crossing : Crossing) (call : Call) (rest : List Call) :
    crossing.exchanges (call :: rest) =
      ⟨call, (crossing.step call).result⟩ :: (crossing.step call).state.exchanges rest := rfl

/-- A history leaves out no call. -/
theorem map_call_exchanges (crossing : Crossing) (calls : List Call) :
    (crossing.exchanges calls).map Exchange.call = calls := by
  induction calls generalizing crossing with
  | nil => rfl
  | cons call rest ih => rw [exchanges_cons, List.map_cons, ih]

/-- What is true of every call with its answer, whatever the state it is made in,
    is true of every exchange of a run. -/
theorem forall_exchanges {P : Exchange → Prop}
    (hstep : ∀ crossing call, P ⟨call, (Crossing.step crossing call).result⟩)
    (crossing : Crossing) (calls : List Call) :
    ∀ exchange ∈ crossing.exchanges calls, P exchange := by
  induction calls generalizing crossing with
  | nil =>
    intro exchange hmem
    exact absurd hmem List.not_mem_nil
  | cons call rest ih =>
    intro exchange hmem
    rw [exchanges_cons] at hmem
    rcases List.mem_cons.1 hmem with rfl | hmem
    · exact hstep crossing call
    · exact ih (crossing.step call).state exchange hmem

/-- What every call of a run keeps, the run keeps. -/
theorem run_invariant {P : Crossing → Prop} {calls : List Call}
    (hstep : ∀ crossing, ∀ call ∈ calls, P crossing → P (crossing.step call).state)
    {crossing : Crossing} (h : P crossing) : P (crossing.run calls).2 := by
  induction calls generalizing crossing with
  | nil => exact h
  | cons call rest ih =>
    have hfirst := hstep crossing call List.mem_cons_self h
    exact ih (fun other later hlater => hstep other later (List.mem_cons_of_mem call hlater))
      hfirst

/-- No effect parts the guards of the two sides. -/
theorem isShared_of_effect {crossing after : Crossing} {call : Call}
    {result : Except Refusal Answer} (h : Effect crossing call result after) :
    after.guards.isShared = crossing.guards.isShared := by
  cases h with
  | withdrawn => exact Guards.isShared_withHome _ _
  | released => exact Guards.isShared_withForeign _ _
  | reservedHome => exact Guards.isShared_withHome _ _
  | reservedForeign => exact Guards.isShared_withForeign _ _
  | _ => rfl

theorem isShared_step (crossing : Crossing) (call : Call) :
    (crossing.step call).state.guards.isShared = crossing.guards.isShared := by
  -- Counting a call touches no guard.
  have heffect := isShared_of_effect (effect_perform crossing call)
  exact heffect

theorem isShared_run {crossing : Crossing} (hshared : crossing.guards.isShared = true)
    (calls : List Call) : (crossing.run calls).2.guards.isShared = true := by
  refine run_invariant (P := fun state => state.guards.isShared = true) ?_ hshared
  intro state call _ hstate
  exact (isShared_step state call).trans hstate

/-- What a bridge starts from. -/
structure Setting where
  homeRegistry : Registry
  foreignRegistry : Registry
  homeLedger : Ledger
  foreignLedger : Ledger
  /-- The gas that a withdrawal is estimated to cost. -/
  gas : UInt64

/-- A bridge that nobody has called yet. -/
def Setting.start (setting : Setting) (guards : Guards) (homeSink foreignSink : Sink) :
    Crossing :=
  .new ((Home.new setting.homeRegistry setting.homeLedger homeSink).withGas setting.gas)
    (Foreign.new setting.foreignRegistry setting.foreignLedger foreignSink) guards

end Crossing

end QuorumBridge
