import QuorumBridge.Proofs.Crossing.History

/-!
# One event for one change

A refused call changes nothing, and an accepted one is told by one event.

Whoever follows a bridge from outside sees its events only. For these to be
worth following there must be neither a change without an event nor an event
without a change, and a call that was turned down half way must not have done
the other half.

Nothing in the types says so. Every operation hands back a state whether or not
it succeeds, a settlement spends before it pays, and a credit opens an account
before it knows whether the credit fits. That a refusal finds everything as it
was before is proved for each of the effects that a call can have.

What is published is a function of the call and its answer. `Exchange.event?` is
that function, and by `sink_step` a side hands its sink this event and no other.
Where events go to a history, an accepted call of the bridge therefore makes it
longer by one.

## Main definitions

* `Crossing.sink`: Where the events of a side go.
* `Crossing.Call.side?`: The side that a call is made on.
* `Crossing.Exchange.event?`: What a side publishes about an exchange.
* `Crossing.published`: What a side publishes in a history.
* `Crossing.Atomic`: A call does nothing, or publishes one event.
* `Ledger.Atomic`: An operation on a ledger that is refused does nothing.

## Theorems

* `Crossing.unchanged_step`: A refused call changes nothing.
* `Crossing.sink_step`: What is published about a call.
* `Crossing.events_run`, `Crossing.history_run`: What the sink of a side holds
  after a run.
* `Crossing.exists_event`: An accepted call is told by one event, on its side.
* `Crossing.all_or_nothing`: Every call on a bridge is atomic.
-/

namespace QuorumBridge

/-- An operation on a ledger that is refused does nothing. -/
structure Ledger.Atomic (ledger : Ledger) : Prop where
  fund : ∀ account value fault, (ledger.fund account value).1 = .error fault →
    (ledger.fund account value).2 = ledger
  lock : ∀ owner value fault, (ledger.lock owner value).1 = .error fault →
    (ledger.lock owner value).2 = ledger
  release : ∀ payouts fault, (ledger.release payouts).1 = .error fault →
    (ledger.release payouts).2 = ledger

namespace Crossing

/-- Where the events of a side go. -/
def sink (crossing : Crossing) : Origin → Sink
  | .home => crossing.home.sink
  | .foreign => crossing.foreign.sink

/-- The side that a call is made on. The ledgers and the guards can be used
    without either side. -/
def Call.side? : Call → Option Origin
  | .deposit _ _ _ | .withdraw _ _ _ | .relay _ _ => some .home
  | .confirm _ _ | .transferHome _ _ _ _ _ | .submit _ _ _ _ => some .foreign
  | .homeLedger _ | .foreignLedger _ | .homeReserve _ | .foreignReserve _ => none

/-- What a side publishes about an exchange, if it publishes anything. -/
def Exchange.event? (side : Origin) (exchange : Exchange) : Option Event :=
  match side, exchange.result, exchange.call with
  | .home, .ok .done, .deposit depositor value transaction =>
    some (.depositRequested depositor value transaction)
  | .home, .ok (.withdrawn withdrawal), _ => some (Home.executedEvent withdrawal)
  | .foreign, .ok (.confirmed outcome), .confirm _ confirmed =>
    some (Foreign.confirmedEvent confirmed outcome)
  | .foreign, .ok .done, .transferHome _ recipient value homeGasPrice transaction =>
    some (.withdrawRequested recipient value homeGasPrice transaction)
  | .foreign, .ok (.submitted outcome), .submit _ _ _ relayer =>
    some (Foreign.submittedEvent relayer outcome)
  | _, _, _ => none

/-- The sink after what was published about an exchange, if anything was. -/
def Exchange.publish (exchange : Exchange) (side : Origin) (sink : Sink) : Sink :=
  match exchange.event? side with
  | some event => (sink.publish event).1
  | none => sink

/-- Of all effects a refusal is answered by one, and that one is nothing. -/
theorem unchanged_of_effect {crossing after : Crossing} {call : Call} {refusal : Refusal}
    (h : Effect crossing call (.error refusal) after) : after = crossing := by
  cases h
  rfl

/-- A side publishes what the exchange says, and nothing else. -/
theorem sink_of_effect {crossing after : Crossing} {call : Call}
    {result : Except Refusal Answer} (h : Effect crossing call result after) (side : Origin) :
    after.sink side = (Exchange.mk call result).publish side (crossing.sink side) := by
  cases h <;> cases side <;> rfl

/-- What is published about an accepted call of the bridge is one event, on the
    side that the call is made on. -/
theorem event_of_effect {crossing after : Crossing} {call : Call} {answer : Answer}
    (h : Effect crossing call (.ok answer) after) {side : Origin}
    (hside : call.side? = some side) :
    ∃ event, (Exchange.mk call (.ok answer)).event? side = some event ∧
      ∀ other, other ≠ side → (Exchange.mk call (.ok answer)).event? other = none := by
  cases h with
  | usedHome | usedForeign | reservedHome | reservedForeign =>
    exact absurd hside (by simp only [Call.side?, reduceCtorEq, not_false_eq_true])
  | _ =>
    cases hside
    refine ⟨_, rfl, ?_⟩
    intro other hother
    -- Of the two sides, one is the side of the call and the other is silent.
    cases other
    · first
      | exact absurd rfl hother
      | rfl
    · first
      | exact absurd rfl hother
      | rfl

theorem side?_plain (call : Call) : call.plain.side? = call.side? := by
  cases call <;> rfl

theorem event?_plain (call : Call) (result : Except Refusal Answer) (side : Origin) :
    (Exchange.mk call.plain result).event? side = (Exchange.mk call result).event? side := by
  cases call with
  | relay bundle relayer =>
    rcases result with refusal | answer
    · cases side <;> rfl
    · cases answer <;> cases side <;> rfl
  | _ => rfl

/-- A refused call changes nothing but the counters, whatever the state of the
    bridge. -/
theorem unchanged_step {crossing : Crossing} {call : Call} {refusal : Refusal}
    (h : (crossing.step call).result = .error refusal) :
    (crossing.step call).state =
      { crossing with metrics := (crossing.step call).state.metrics } := by
  have heffect := effect_perform crossing call
  have hresult : (crossing.perform call).result = .error refusal := h
  -- A refusal is what the call was answered before it was counted.
  have hsame : (crossing.perform call).state = crossing := by
    rw [hresult] at heffect
    exact unchanged_of_effect heffect
  unfold step
  simp only [Report.mapState, hsame]

/-- What a side publishes about a call is what the exchange says. -/
theorem sink_step (crossing : Crossing) (call : Call) (side : Origin) :
    (crossing.step call).state.sink side =
      (Exchange.mk call (crossing.step call).result).publish side (crossing.sink side) := by
  have heffect := sink_of_effect (effect_perform crossing call) side
  rw [Exchange.publish, event?_plain] at heffect
  -- The counters are no sinks.
  have hsink : (crossing.step call).state.sink side = (crossing.perform call).state.sink side := by
    cases side <;> rfl
  rw [hsink]
  exact heffect

/-- An accepted call of the bridge is told by one event, on the side that it is
    made on. -/
theorem exists_event {crossing : Crossing} {call : Call} {answer : Answer}
    (h : (crossing.step call).result = .ok answer) {side : Origin}
    (hside : call.side? = some side) :
    ∃ event, (Exchange.mk call (.ok answer)).event? side = some event ∧
      (crossing.step call).state.sink side = ((crossing.sink side).publish event).1 ∧
      ∀ other, other ≠ side → (crossing.step call).state.sink other = crossing.sink other := by
  have heffect := effect_perform crossing call
  have hresult : (crossing.perform call).result = .ok answer := h
  rw [hresult] at heffect
  rcases event_of_effect heffect ((side?_plain call).trans hside) with ⟨event, hevent, hsilent⟩
  rw [event?_plain] at hevent
  refine ⟨event, hevent, ?_, ?_⟩
  · rw [sink_step, h, Exchange.publish, hevent]
  · intro other hother
    have hnone := hsilent other hother
    rw [event?_plain] at hnone
    rw [sink_step, h, Exchange.publish, hnone]

/-- The events that a side publishes in a history. -/
def published (side : Origin) (history : List Exchange) : List Event :=
  history.filterMap (Exchange.event? side)

theorem published_cons (side : Origin) (exchange : Exchange) (rest : List Exchange) :
    published side (exchange :: rest) =
      (exchange.event? side).toList ++ published side rest := by
  unfold published
  rw [List.filterMap_eq_flatMap_toList, List.flatMap_cons, List.filterMap_eq_flatMap_toList]

/-- An open sink takes what is published about a call, and stays open. -/
theorem events_step (crossing : Crossing) (call : Call) (side : Origin) :
    ((crossing.step call).state.sink side).isOpen = (crossing.sink side).isOpen ∧
      ((crossing.step call).state.sink side).events = (crossing.sink side).events ++
        if (crossing.sink side).isOpen then
          ((Exchange.mk call (crossing.step call).result).event? side).toList
        else [] := by
  rw [sink_step, Exchange.publish]
  cases (Exchange.mk call (crossing.step call).result).event? side with
  | none => simp only [Option.toList_none, ite_self, List.append_nil, and_self]
  | some event =>
    refine ⟨?_, Sink.events_publish (crossing.sink side) event⟩
    cases crossing.sink side with
    | history events => rfl
    | channel waiting => rfl
    | closed => rfl

/-- What an open sink holds after a run is what it held before, then what was
    published in the run. -/
theorem events_run (crossing : Crossing) (calls : List Call) (side : Origin) :
    ((crossing.run calls).2.sink side).events = (crossing.sink side).events ++
      if (crossing.sink side).isOpen then published side (crossing.exchanges calls) else [] := by
  induction calls generalizing crossing with
  | nil =>
    have hnone : published side (crossing.exchanges []) = [] := rfl
    rw [hnone, ite_self, List.append_nil]
    rfl
  | cons call rest ih =>
    rcases events_step crossing call side with ⟨hopen, hevents⟩
    have hrest := ih (crossing.step call).state
    rw [hopen, hevents] at hrest
    rw [exchanges_cons, published_cons]
    -- A sink that is open stays open, and one that is closed takes nothing in the whole run.
    by_cases hsink : (crossing.sink side).isOpen = true
    · simp only [if_pos hsink, List.append_assoc] at hrest ⊢
      exact hrest
    · simp only [if_neg hsink, List.append_nil] at hrest ⊢
      exact hrest

/-- A history that is handed an event is a history. -/
theorem history_step {crossing : Crossing} {side : Origin}
    (h : ∃ events, crossing.sink side = .history events) (call : Call) :
    ∃ events, (crossing.step call).state.sink side = .history events := by
  rcases h with ⟨events, hbefore⟩
  rw [sink_step, hbefore, Exchange.publish]
  cases (Exchange.mk call (crossing.step call).result).event? side with
  | none => exact ⟨events, rfl⟩
  | some event => exact ⟨events ++ [event], rfl⟩

/-- A history is still one after a run, with what was published behind it. -/
theorem history_run {crossing : Crossing} {side : Origin} {events : List Event}
    (h : crossing.sink side = .history events) (calls : List Call) :
    (crossing.run calls).2.sink side =
      .history (events ++ published side (crossing.exchanges calls)) := by
  have hkept : ∃ later, (crossing.run calls).2.sink side = .history later :=
    run_invariant (P := fun state => ∃ later, state.sink side = .history later)
      (fun state call _ hstate => history_step hstate call) ⟨events, h⟩
  rcases hkept with ⟨later, hlater⟩
  have hevents := events_run crossing calls side
  rw [h, hlater] at hevents
  simp only [Sink.events, Sink.isOpen, if_true] at hevents
  rw [hlater, hevents]

/-- The events of both sides go to histories. -/
def Recorded (crossing : Crossing) : Prop :=
  ∀ side, ∃ events, crossing.sink side = .history events

/-- A bridge whose events go to histories keeps them there. -/
theorem recorded_step {crossing : Crossing} (h : crossing.Recorded) (call : Call) :
    (crossing.step call).state.Recorded := by
  intro side
  exact history_step (h side) call

/-- A call does nothing to the sides and the guards, or it publishes one
    event. -/
structure Atomic (before : Crossing) (call : Call) : Prop where
  /-- If it is refused, then tallies, collections, requests, ledgers, events and
      guards are what they were. -/
  unchanged : ∀ refusal, (before.step call).result = .error refusal →
    (before.step call).state.home = before.home ∧
      (before.step call).state.foreign = before.foreign ∧
      (before.step call).state.guards = before.guards
  /-- If it is accepted, the history of its side is longer by the event that
      tells of it, and that of the other side is what it was. -/
  told : ∀ answer side, (before.step call).result = .ok answer → call.side? = some side →
    ∃ events event, (Exchange.mk call (.ok answer)).event? side = some event ∧
      before.sink side = .history events ∧
      (before.step call).state.sink side = .history (events ++ [event]) ∧
      ∀ other, other ≠ side → (before.step call).state.sink other = before.sink other

/-- Every call on a bridge whose events go to histories is atomic, whatever was
    called before, and so is every operation on a ledger. -/
theorem all_or_nothing (setting : Setting) (guards : Guards)
    (homeEvents foreignEvents : List Event) (earlier : List Call) (call : Call)
    (ledger : Ledger) :
    Atomic ((setting.start guards (.history homeEvents) (.history foreignEvents)).run
        earlier).2 call ∧
      ledger.Atomic := by
  have hstart : (setting.start guards (.history homeEvents) (.history foreignEvents)).Recorded := by
    intro side
    cases side with
    | home => exact ⟨homeEvents, rfl⟩
    | foreign => exact ⟨foreignEvents, rfl⟩
  -- Histories are never closed, so both sides still have one when the call is made.
  have hrecorded : ((setting.start guards (.history homeEvents) (.history foreignEvents)).run
      earlier).2.Recorded :=
    run_invariant (P := Recorded) (fun state later _ hstate => recorded_step hstate later) hstart
  constructor
  · constructor
    · intro refusal hrefused
      rw [unchanged_step hrefused]
      exact ⟨rfl, rfl, rfl⟩
    · intro answer side haccepted hside
      rcases hrecorded side with ⟨events, hbefore⟩
      -- The event that tells of the call went to the history of its side.
      rcases exists_event haccepted hside with ⟨event, hevent, hafter, hother⟩
      rw [hbefore] at hafter
      exact ⟨events, event, hevent, hbefore, hafter, hother⟩
  · refine ⟨?_, ?_, ?_⟩
    · intro account value fault hrefused
      exact Ledger.fund_error hrefused
    · intro owner value fault hrefused
      exact Ledger.lock_error hrefused
    · intro payouts fault hrefused
      exact Ledger.release_error hrefused

end Crossing

end QuorumBridge
