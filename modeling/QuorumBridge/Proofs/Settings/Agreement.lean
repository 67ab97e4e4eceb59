import QuorumBridge.Proofs.Registry
import QuorumBridge.Proofs.Settings.Precedence
import QuorumBridge.Proofs.Settings.Source

/-!
# Settings and registries

Settings that pass their check are those that a registry can be built of, the
zero address aside.

Authorities are checked twice on the way to a registry, and by two different
walks along the list. The one looks for the zero address and for repetitions at
once, and the other for repetitions only, so they need not stop at the same
place. But up to the place at which the first of them stops they have seen the
same authorities, and agree on what repeats (`checkAuthorities_eq`). So nothing
is left to be said when a registry is built of settings that passed the check,
and the fault that would tell of it is never met. Settings are checked wherever
they are read, which makes all of them settings of a registry.

## Main definitions

* `Settings.Unmet`, `Settings.Spoiled`: What is said about a threshold, and about an authority.
* `Settings.Agreed`: The check and the registry say the same about settings.
* `Settings.Coherent`: They do about all settings, and pass all that are read.

## Theorems

* `Settings.checkAuthorities_eq`: The two walks agree where no address is zero.
* `Settings.validate_eq_ok_iff`: What passes the check.
* `Settings.registry_eq_ok_iff`: What settings have which registry.
* `Settings.Fault.message_eq_iff`: One fault is told by its text.
* `Settings.coherent`: The check and the registry agree, and what is read passes both.
-/

namespace QuorumBridge

namespace Settings

variable {settings : Settings}

/-! ## The two walks -/

/-- Where no address is zero, both walks stop at the same repetition. -/
theorem checkAuthorities_eq {authorities : List Address} (seen : List Address)
    (h : Address.zero ∉ authorities) :
    checkAuthorities seen authorities =
      (firstRepeated seen authorities).elim (.ok ()) fun a => .error (.repeatedAuthority a) := by
  induction authorities generalizing seen with
  | nil => rfl
  | cons a rest ih =>
    rw [List.mem_cons, not_or] at h
    -- The check for a zero address comes first at each entry and never stops the walk.
    rw [checkAuthorities, if_neg (Ne.symm h.1), firstRepeated]
    by_cases hseen : a ∈ seen
    · rw [if_pos hseen, if_pos hseen, Option.elim_some]
    · rw [if_neg hseen, if_neg hseen, ih (a :: seen) h.2]

theorem checkAuthorities_of_mem {authorities : List Address} (seen : List Address)
    (h : Address.zero ∈ authorities) : checkAuthorities seen authorities ≠ .ok () := by
  induction authorities generalizing seen with
  | nil => exact absurd h List.not_mem_nil
  | cons a rest ih =>
    rw [checkAuthorities]
    by_cases hzero : a = Address.zero
    · rw [if_pos hzero]
      simp only [ne_eq, reduceCtorEq, not_false_eq_true]
    · rw [if_neg hzero]
      by_cases hseen : a ∈ seen
      · rw [if_pos hseen]
        simp only [ne_eq, reduceCtorEq, not_false_eq_true]
      · rw [if_neg hseen]
        -- It is another authority that is zero, and the walk goes on to it.
        exact ih (a :: seen) ((List.mem_cons.1 h).resolve_left (Ne.symm hzero))

theorem checkAuthorities_eq_ok_iff {seen authorities : List Address} :
    checkAuthorities seen authorities = .ok () ↔
      firstRepeated seen authorities = none ∧ Address.zero ∉ authorities := by
  by_cases hzero : Address.zero ∈ authorities
  · exact ⟨fun h => absurd h (checkAuthorities_of_mem seen hzero), fun h => absurd hzero h.2⟩
  · rw [checkAuthorities_eq seen hzero, and_iff_left hzero]
    cases firstRepeated seen authorities with
    | none => simp only [Option.elim_none]
    | some a => simp only [Option.elim_some, reduceCtorEq]

/-- A repetition that the check tells of is the first one, whatever stands
    behind it. -/
theorem firstRepeated_of_checkAuthorities {seen authorities : List Address} {a : Address}
    (h : checkAuthorities seen authorities = .error (.repeatedAuthority a)) :
    firstRepeated seen authorities = some a := by
  induction authorities generalizing seen with
  | nil => exact absurd h (by simp only [checkAuthorities, reduceCtorEq, not_false_eq_true])
  | cons b rest ih =>
    rw [checkAuthorities] at h
    by_cases hzero : b = Address.zero
    · rw [if_pos hzero] at h
      -- The zero address would have been told of in its place.
      exact absurd h (by simp only [Except.error.injEq, reduceCtorEq, not_false_eq_true])
    · rw [if_neg hzero] at h
      rw [firstRepeated]
      by_cases hseen : b ∈ seen
      · rw [if_pos hseen, Except.error.injEq, Fault.repeatedAuthority.injEq] at h
        rw [if_pos hseen, h]
      · rw [if_neg hseen] at h
        rw [if_neg hseen, ih h]

/-! ## The check -/

theorem validate_of_canMeet (h : Registry.CanMeet settings.authorities settings.threshold) :
    settings.validate = checkAuthorities [] settings.authorities := by
  have hsome : settings.authorities ≠ [] := by
    intro hnil
    have hle := h.2
    rw [hnil, List.length_nil] at hle
    exact absurd h.1 (Nat.not_lt.2 hle)
  rw [validate, if_neg hsome, if_neg (Nat.ne_of_gt h.1), if_neg (Nat.not_lt.2 h.2)]

/-- What is said about a threshold that a list cannot meet. -/
inductive Unmet (settings : Settings) : Fault → Prop
  | noAuthorities : Unmet settings .noAuthorities
  | zeroThreshold : Unmet settings .zeroThreshold
  | thresholdTooHigh :
    Unmet settings (.thresholdTooHigh settings.threshold settings.authorities.length)

theorem validate_of_not_canMeet
    (h : ¬Registry.CanMeet settings.authorities settings.threshold) :
    ∃ fault, Unmet settings fault ∧ settings.validate = .error fault := by
  unfold validate
  by_cases hnil : settings.authorities = []
  · exact ⟨_, .noAuthorities, if_pos hnil⟩
  · rw [if_neg hnil]
    by_cases hzero : settings.threshold = 0
    · exact ⟨_, .zeroThreshold, if_pos hzero⟩
    · rw [if_neg hzero]
      have hhigh : settings.authorities.length < settings.threshold :=
        Nat.lt_of_not_le fun hle => h ⟨Nat.pos_of_ne_zero hzero, hle⟩
      exact ⟨_, .thresholdTooHigh, if_pos hhigh⟩

/-- What is said about an authority. -/
inductive Spoiled : Fault → Prop
  | zeroAuthority (index : Nat) : Spoiled (.zeroAuthority index)
  | repeatedAuthority (a : Address) : Spoiled (.repeatedAuthority a)

theorem spoiled_of_checkAuthorities {seen authorities : List Address} {fault : Fault}
    (h : checkAuthorities seen authorities = .error fault) : Spoiled fault := by
  induction authorities generalizing seen with
  | nil => exact absurd h (by simp only [checkAuthorities, reduceCtorEq, not_false_eq_true])
  | cons a rest ih =>
    rw [checkAuthorities] at h
    -- A walk stops at an authority that is zero or that it has seen, and nowhere else.
    by_cases hzero : a = Address.zero
    · rw [if_pos hzero] at h
      rw [← Except.error.inj h]
      exact .zeroAuthority _
    · rw [if_neg hzero] at h
      by_cases hseen : a ∈ seen
      · rw [if_pos hseen] at h
        rw [← Except.error.inj h]
        exact .repeatedAuthority a
      · rw [if_neg hseen] at h
        exact ih h

/-- Nothing else is said about settings. -/
theorem unmet_or_spoiled {fault : Fault} (h : settings.validate = .error fault) :
    Unmet settings fault ∨ Spoiled fault := by
  by_cases hmeet : Registry.CanMeet settings.authorities settings.threshold
  · rw [validate_of_canMeet hmeet] at h
    exact .inr (spoiled_of_checkAuthorities h)
  · rcases validate_of_not_canMeet hmeet with ⟨other, hunmet, hvalidate⟩
    rw [hvalidate, Except.error.injEq] at h
    exact .inl (h ▸ hunmet)

/-- What passes the check. -/
theorem validate_eq_ok_iff :
    settings.validate = .ok () ↔
      (∃ registry, Registry.build settings.authorities settings.threshold = .ok registry) ∧
        Address.zero ∉ settings.authorities := by
  rw [Registry.exists_build_iff]
  -- The threshold is what both check first. Within its range the walks over the authorities
  -- agree, and out of it neither gets there.
  by_cases hmeet : Registry.CanMeet settings.authorities settings.threshold
  · rw [validate_of_canMeet hmeet, checkAuthorities_eq_ok_iff, and_iff_right hmeet,
      Registry.firstRepeated_nil_eq_none_iff]
  · rcases validate_of_not_canMeet hmeet with ⟨fault, -, hvalidate⟩
    rw [hvalidate]
    exact ⟨fun h => absurd h (by simp only [reduceCtorEq, not_false_eq_true]),
      fun h => absurd h.1.1 hmeet⟩

/-- What is a fault of the threshold to the one is one to the other. -/
theorem exists_unmet_iff :
    (∃ fault, Unmet settings fault ∧ settings.validate = .error fault) ↔
      Registry.build settings.authorities settings.threshold =
        .error (.invalidThreshold settings.threshold settings.authorities.length) := by
  by_cases hmeet : Registry.CanMeet settings.authorities settings.threshold
  · rw [validate_of_canMeet hmeet]
    refine ⟨?_, fun h => ?_⟩
    · rintro ⟨fault, hunmet, hfault⟩
      cases hunmet <;> cases spoiled_of_checkAuthorities hfault
    · -- The threshold can be met, so only a repetition could be told of.
      cases hrepeated : firstRepeated [] settings.authorities with
      | some a =>
        rw [Registry.build_of_repeated hmeet hrepeated] at h
        exact absurd h (by simp only [Except.error.injEq, reduceCtorEq, not_false_eq_true])
      | none =>
        rcases Registry.exists_build_of_not_repeated hmeet hrepeated with ⟨registry, hbuild⟩
        rw [hbuild] at h
        exact absurd h (by simp only [reduceCtorEq, not_false_eq_true])
  · exact ⟨fun _ => Registry.build_of_not_canMeet hmeet, fun _ => validate_of_not_canMeet hmeet⟩

/-- A repetition that the check tells of is told of when a registry is built. -/
theorem build_of_repeatedAuthority {a : Address}
    (h : settings.validate = .error (.repeatedAuthority a)) :
    Registry.build settings.authorities settings.threshold = .error (.duplicateAuthority a) := by
  by_cases hmeet : Registry.CanMeet settings.authorities settings.threshold
  · rw [validate_of_canMeet hmeet] at h
    exact Registry.build_of_repeated hmeet (firstRepeated_of_checkAuthorities h)
  · rcases validate_of_not_canMeet hmeet with ⟨fault, hunmet, hvalidate⟩
    rw [hvalidate, Except.error.injEq] at h
    rw [h] at hunmet
    cases hunmet

/-- And the other way round, where no address is zero. -/
theorem validate_of_duplicateAuthority {a : Address} (hzero : Address.zero ∉ settings.authorities)
    (h : Registry.build settings.authorities settings.threshold =
      .error (.duplicateAuthority a)) :
    settings.validate = .error (.repeatedAuthority a) := by
  by_cases hmeet : Registry.CanMeet settings.authorities settings.threshold
  · rw [validate_of_canMeet hmeet, checkAuthorities_eq [] hzero]
    -- Both walks tell of the first repetition, and so of the same.
    cases hrepeated : firstRepeated [] settings.authorities with
    | some b =>
      rw [Registry.build_of_repeated hmeet hrepeated, Except.error.injEq,
        Refusal.duplicateAuthority.injEq] at h
      rw [Option.elim_some, h]
    | none =>
      rcases Registry.exists_build_of_not_repeated hmeet hrepeated with ⟨registry, hbuild⟩
      rw [hbuild] at h
      exact absurd h (by simp only [reduceCtorEq, not_false_eq_true])
  · rw [Registry.build_of_not_canMeet hmeet, Except.error.injEq] at h
    exact absurd h (by simp only [reduceCtorEq, not_false_eq_true])

/-! ## The registry -/

theorem registry_of_error {fault : Fault} (h : settings.validate = .error fault) :
    settings.registry = .error fault := by
  rw [registry, h]

/-- Settings have a registry of their authorities and their threshold if they
    pass the check. -/
theorem registry_eq_ok_iff {built : Registry} :
    settings.registry = .ok built ↔ settings.validate = .ok () ∧
      built.authorities = settings.authorities ∧ built.threshold = settings.threshold := by
  cases hvalidate : settings.validate with
  | error fault =>
    rw [registry_of_error hvalidate]
    simp only [reduceCtorEq, false_and]
  | ok =>
    rw [registry, hvalidate, and_iff_right rfl, ← Registry.build_eq_ok_iff]
    exact mapError_eq_ok_iff

theorem exists_registry_iff :
    (∃ built, settings.registry = .ok built) ↔ settings.validate = .ok () := by
  constructor
  · rintro ⟨built, hbuilt⟩
    exact (registry_eq_ok_iff.1 hbuilt).1
  · intro h
    rcases (validate_eq_ok_iff.1 h).1 with ⟨built, hbuilt⟩
    exact ⟨built, registry_eq_ok_iff.2 ⟨h, Registry.build_eq_ok_iff.1 hbuilt⟩⟩

/-- What is said against the registry of settings is said against the settings. -/
theorem registry_eq_error_iff {fault : Fault} :
    settings.registry = .error fault ↔ settings.validate = .error fault := by
  refine ⟨fun h => ?_, registry_of_error⟩
  cases hvalidate : settings.validate with
  | error other =>
    rw [registry_of_error hvalidate, Except.error.injEq] at h
    rw [h]
  | ok =>
    rcases exists_registry_iff.2 hvalidate with ⟨built, hbuilt⟩
    rw [hbuilt] at h
    exact absurd h (by simp only [reduceCtorEq, not_false_eq_true])

/-! ## What is said -/

/-- The fault that is never met is the only one with its text. -/
theorem Fault.message_eq_iff {fault : Fault} :
    fault.message = "Failed to build authority registry" ↔
      ∃ refusal, fault = .badRegistry refusal := by
  constructor
  · intro h
    have hchars := congrArg String.toList h
    have hsame : ∀ text : String, toString text = text := fun _ => rfl
    -- The texts differ in their first letters, before anything that is put into them.
    cases fault with
    | badRegistry refusal => exact ⟨refusal, rfl⟩
    | missing key => cases key <;> simp [message, chain, Key.name, hsame] at hchars
    | _ => simp [message, chain, Key.name, hsame] at hchars
  · rintro ⟨refusal, rfl⟩
    rfl

/-! ## Both -/

/-- The check and the registry say the same about settings. -/
structure Agreed (settings : Settings) : Prop where
  validate_iff : settings.validate = .ok () ↔ ∃ built, settings.registry = .ok built
  registry_iff : (∃ built, settings.registry = .ok built) ↔
    (∃ built, Registry.build settings.authorities settings.threshold = .ok built) ∧
      Address.zero ∉ settings.authorities
  /-- The registry is that of the authorities, in their order, and of the threshold. -/
  registry_eq : ∀ built, settings.registry = .ok built →
    built.authorities = settings.authorities ∧ built.threshold = settings.threshold
  /-- What is said against the registry is what the check says, and so it is
      never that the registry could not be built. -/
  fault : ∀ fault, settings.registry = .error fault →
    settings.validate = .error fault ∧ fault.message ≠ "Failed to build authority registry"
  /-- The check and the building of a registry find the same thresholds at fault. -/
  threshold : (∃ fault, Unmet settings fault ∧ settings.validate = .error fault) ↔
    Registry.build settings.authorities settings.threshold =
      .error (.invalidThreshold settings.threshold settings.authorities.length)
  /-- They name the same repetition. Only the zero address may be found before it. -/
  repeated : ∀ a, settings.validate = .error (.repeatedAuthority a) →
    Registry.build settings.authorities settings.threshold = .error (.duplicateAuthority a)
  duplicate : ∀ a, Address.zero ∉ settings.authorities →
    Registry.build settings.authorities settings.threshold = .error (.duplicateAuthority a) →
      settings.validate = .error (.repeatedAuthority a)

theorem agreed (settings : Settings) : Agreed settings where
  validate_iff := exists_registry_iff.symm
  registry_iff := exists_registry_iff.trans validate_eq_ok_iff
  registry_eq := fun _ h => (registry_eq_ok_iff.1 h).2
  fault := by
    intro fault h
    have hvalidate := registry_eq_error_iff.1 h
    refine ⟨hvalidate, fun hmessage => ?_⟩
    rcases Fault.message_eq_iff.1 hmessage with ⟨refusal, rfl⟩
    -- Whatever the check says is about the threshold or about an authority.
    rcases unmet_or_spoiled hvalidate with hunmet | hspoiled
    · cases hunmet
    · cases hspoiled
  threshold := exists_unmet_iff
  repeated := fun _ => build_of_repeatedAuthority
  duplicate := fun _ => validate_of_duplicateAuthority

theorem exists_registry_of_ofEnvironment {env : Environment}
    (h : ofEnvironment env = .ok settings) : ∃ built, settings.registry = .ok built :=
  exists_registry_iff.2 (ofEnvironment_eq_ok_iff.1 h).2

/-- The check and the registry agree about all settings, and all that are read
    are those of a registry. -/
structure Coherent : Prop where
  agreed : ∀ settings, Agreed settings
  ofEnvironment : ∀ env settings, ofEnvironment env = .ok settings →
    ∃ built, settings.registry = .ok built
  ofFile : ∀ env folder path settings, (ofFile env folder path).1 = .ok settings →
    ∃ built, settings.registry = .ok built
  load : ∀ env folder settings, (load env folder).1 = .ok settings →
    ∃ built, settings.registry = .ok built

/-- The check and the registry agree, and what is read passes both. -/
theorem coherent : Coherent where
  agreed := agreed
  ofEnvironment := fun _ _ h => exists_registry_of_ofEnvironment h
  ofFile := fun _ _ _ _ h => exists_registry_of_ofEnvironment (ofEnvironment_of_ofFound _ h)
  load := fun _ _ _ h => exists_registry_of_ofEnvironment (ofEnvironment_of_loadFound _ h)

end Settings

end QuorumBridge
