import QuorumBridge.EnvFile

/-!
# Files that are applied line by line

What can be relied on when a file is applied to an environment, and what follows
from it.

A program that has its files applied knows little about how. What it counts on is
said by `EnvFile.Applies`: lines are taken one after another, a line offers a
variable a value, which is declined if the variable is set, and the first line
that cannot be read is the last one. What a line is and how it is read does not
matter, and neither does what an offer is declined for.

That is enough to keep what is set. It is not quite what every reader does. To
`EnvFile.applyLines` a variable is set if its value is a text, since it asks for
a text to find out, and it crashes over a value that no variable can be set to.
Where all values are texts and nothing crashes, the two are the same
(`EnvFile.applies_applyLines`). A variable that is set to a text is safe from
`EnvFile.applyLines` in any case (`EnvFile.get?_applyLines`).

## Main definitions

* `Environment.offer`: Giving a value to a variable that is not set.
* `Environment.Readable`: All values are texts.
* `EnvFile.Applies`: What is relied on.

## Theorems

* `EnvFile.Applies.word?_eq`: What is set stays as it is.
* `EnvFile.Applies.of_append`: Lines behind others are applied to what these
  leave.
* `EnvFile.applies_applyLines`: What `EnvFile.applyLines` does among texts.
* `EnvFile.get?_applyLines`: What it keeps in any case.
-/

namespace QuorumBridge

namespace Environment

/-- The environment after a variable was offered a value, if any was. A variable
    that is set declines. -/
def offer (env : Environment) : Option (String × String) → Environment
  | none => env
  | some (name, value) => if env.word? (.text name) = none then env.put name value else env

/-- All variables that can be asked for are set to texts. -/
def Readable (env : Environment) : Prop :=
  ∀ name value, env.word? (.text name) = some value → ∃ content, value = .text content

variable {env after : Environment} {name value : String}

theorem word?_offer_of_word? {k old : Word} (h : env.word? k = some old)
    (binding : Option (String × String)) : (env.offer binding).word? k = some old := by
  rcases binding with _ | ⟨name, value⟩
  · exact h
  · rw [offer]
    by_cases hunset : env.word? (.text name) = none
    · -- The variable that takes the value is another one.
      have hother : Word.text name ≠ k := by
        rintro rfl
        rw [hunset] at h
        exact absurd h (by simp only [reduceCtorEq, not_false_eq_true])
      rw [if_pos hunset, word?_put, if_neg hother, h]
    · rw [if_neg hunset, h]

theorem word?_offer_self (h : env.word? (.text name) = none) (value : String) :
    (env.offer (some (name, value))).word? (.text name) = some (.text value) := by
  rw [offer, if_pos h, word?_put, if_pos rfl]

theorem Readable.put (h : env.Readable) (name value : String) : (env.put name value).Readable := by
  intro k found hfound
  rw [word?_put] at hfound
  by_cases hsame : Word.text name = .text k
  · rw [if_pos hsame, Option.some.injEq] at hfound
    exact ⟨value, hfound.symm⟩
  · rw [if_neg hsame] at hfound
    exact h k found hfound

theorem Readable.offer (h : env.Readable) (binding : Option (String × String)) :
    (env.offer binding).Readable := by
  rcases binding with _ | ⟨name, value⟩
  · exact h
  · rw [Environment.offer]
    -- What is set keeps its value; what is put in place of nothing is text.
    by_cases hunset : env.word? (.text name) = none
    · rw [if_pos hunset]
      exact h.put name value
    · rw [if_neg hunset]
      exact h

theorem readable_ofList (entries : List (String × String)) : (ofList entries).Readable := by
  -- Whatever was put already, what is put next is a text.
  have hfold : ∀ first : Environment, first.Readable →
      (entries.foldl (fun env entry => env.put entry.1 entry.2) first).Readable := by
    induction entries with
    | nil => exact fun _ h => h
    | cons entry rest ih => exact fun first h => ih _ (h.put entry.1 entry.2)
  refine hfold _ fun name value hfound => ?_
  exact absurd hfound (by simp only [word?, Table.get?_empty, reduceCtorEq, not_false_eq_true])

/-- Among texts a variable that is set can be read. -/
theorem Readable.get?_eq_none_iff (h : env.Readable) :
    env.get? name = none ↔ env.word? (.text name) = none := by
  rw [get?]
  cases hword : env.word? (.text name) with
  | none => simp only [Option.bind_none]
  | some word =>
    rcases h name word hword with ⟨content, rfl⟩
    simp only [Option.bind_some, Word.text?, reduceCtorEq]

/-- Among texts to define a variable is to offer it a value. -/
theorem Readable.define?_eq (h : env.Readable) (hdefine : env.define? name value = some after) :
    after = env.offer (some (name, value)) := by
  rw [Environment.offer]
  unfold define? at hdefine
  cases hget : env.get? name with
  | some old =>
    rw [hget, Option.some.injEq] at hdefine
    -- A variable that is set declines an offer as well.
    rw [if_neg fun hunset => ?_, hdefine]
    rw [h.get?_eq_none_iff.2 hunset] at hget
    exact absurd hget (by simp only [reduceCtorEq, not_false_eq_true])
  | none =>
    rw [if_pos (h.get?_eq_none_iff.1 hget)]
    by_cases hnull : '\x00' ∈ value.toList
    · simp only [hget, if_pos hnull, reduceCtorEq] at hdefine
    · simp only [hget, if_neg hnull, Option.some.injEq] at hdefine
      exact hdefine.symm

end Environment

namespace EnvFile

variable {α : Type} {read : Environment → α → Except Fault (Option (String × String))}
  {env after middle : Environment} {line : α} {lines before behind : List α} {stop : Option Stop}

/-- Lines are applied to an environment one after another. Each offers a variable
    a value or does nothing, and the first one that cannot be read is the last
    one. -/
inductive Applies (read : Environment → α → Except Fault (Option (String × String))) :
    Environment → List α → Environment → Option Stop → Prop
  | done (env : Environment) : Applies read env [] env none
  | halted {env : Environment} {line : α} {fault : Fault} (rest : List α)
      (hread : read env line = .error fault) :
      Applies read env (line :: rest) env (some (.fault fault))
  | passed {env after : Environment} {line : α} {rest : List α} {stop : Option Stop}
      {binding : Option (String × String)} (hread : read env line = .ok binding)
      (hrest : Applies read (env.offer binding) rest after stop) :
      Applies read env (line :: rest) after stop

/-- What is set stays as it is, by whatever lines. -/
theorem Applies.word?_eq (h : Applies read env lines after stop) {name value : Word}
    (hset : env.word? name = some value) : after.word? name = some value := by
  induction h with
  | done env => exact hset
  | halted rest hread => exact hset
  | passed hread hrest ih => exact ih (Environment.word?_offer_of_word? hset _)

theorem Applies.ne_crash (h : Applies read env lines after stop) (name : String) :
    stop ≠ some (.crash name) := by
  induction h with
  | done env => simp only [ne_eq, reduceCtorEq, not_false_eq_true]
  | halted rest hread => simp only [ne_eq, Option.some.injEq, reduceCtorEq, not_false_eq_true]
  | passed hread hrest ih => exact ih

/-- A line that cannot be read leaves what it finds. -/
theorem Applies.of_error (h : Applies read env (line :: lines) after stop) {fault : Fault}
    (hread : read env line = .error fault) : after = env ∧ stop = some (.fault fault) := by
  cases h with
  | halted rest hother =>
    rw [hread, Except.error.injEq] at hother
    rw [hother]
    exact ⟨rfl, rfl⟩
  | passed hother hrest =>
    rw [hread] at hother
    exact absurd hother (by simp only [reduceCtorEq, not_false_eq_true])

/-- The lines behind one that can be read find what it has offered. -/
theorem Applies.of_ok (h : Applies read env (line :: lines) after stop)
    {binding : Option (String × String)} (hread : read env line = .ok binding) :
    Applies read (env.offer binding) lines after stop := by
  cases h with
  | halted rest hother =>
    rw [hread] at hother
    exact absurd hother (by simp only [reduceCtorEq, not_false_eq_true])
  | passed hother hrest =>
    rw [hread, Except.ok.injEq] at hother
    rw [hother]
    exact hrest

/-- Lines behind others that can all be read are applied to what these leave. -/
theorem Applies.of_append (hbefore : Applies read env before middle none)
    (h : Applies read env (before ++ behind) after stop) :
    Applies read middle behind after stop := by
  induction before generalizing env with
  | nil =>
    cases hbefore
    exact h
  | cons line rest ih =>
    cases hbefore with
    | passed hread hrest => exact ih hrest (h.of_ok hread)

/-- Lines that stand for others are applied as these are. -/
theorem Applies.map {β : Type} {reader : Environment → β → Except Fault (Option (String × String))}
    {f : α → β} (hreader : ∀ env line, reader env (f line) = read env line)
    (h : Applies read env lines after stop) : Applies reader env (lines.map f) after stop := by
  induction h with
  | done env => exact .done env
  | halted rest hread => exact .halted _ ((hreader _ _).trans hread)
  | passed hread hrest ih => exact .passed ((hreader _ _).trans hread) ih

/-- Among texts, and unless there is a crash, lines are applied as is relied on. -/
theorem applies_applyLines {lines : List Line} (hreadable : env.Readable)
    (hcrash : ∀ name, (applyLines env lines).2 ≠ some (.crash name)) :
    Applies EnvFile.read env lines (applyLines env lines).1 (applyLines env lines).2 := by
  induction lines generalizing env with
  | nil => exact .done env
  | cons line rest ih =>
    rw [applyLines] at hcrash ⊢
    cases hread : EnvFile.read env line with
    | error fault => exact .halted rest hread
    | ok binding =>
      rw [hread] at hcrash
      rcases binding with _ | ⟨name, value⟩
      · exact .passed hread (ih hreadable hcrash)
      · cases hdefine : env.define? name value with
        | none =>
          simp only [hdefine] at hcrash
          exact absurd rfl (hcrash name)
        | some defined =>
          simp only [hdefine] at hcrash ⊢
          -- The line has offered what the reader has defined.
          have hoffer := hreadable.define?_eq hdefine
          rw [hoffer] at hcrash ⊢
          exact .passed hread (ih (hreadable.offer _) hcrash)

/-- A variable that is set to a text stays as it is, by whatever lines and
    whatever the other variables are set to. -/
theorem get?_applyLines {name value : String} (h : env.get? name = some value)
    (lines : List Line) : (applyLines env lines).1.get? name = some value := by
  induction lines generalizing env with
  | nil => exact h
  | cons line rest ih =>
    rw [applyLines]
    cases hread : EnvFile.read env line with
    | error fault => exact h
    | ok binding =>
      rcases binding with _ | ⟨bound, found⟩
      · exact ih h
      · cases hdefine : env.define? bound found with
        | none =>
          -- The reader crashes and leaves what it has found.
          simp only [hdefine]
          exact h
        | some defined =>
          simp only [hdefine]
          exact ih (Environment.get?_of_define?_of_get? hdefine h)

end EnvFile

end QuorumBridge
