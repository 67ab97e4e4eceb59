import QuorumBridge.Proofs.Settings.AuthorityList
import QuorumBridge.Proofs.Text.Decimal
import QuorumBridge.Settings.Source

/-!
# Settings as variables

What variables settings are read from.

Each setting has a variable of its own, and each variable is read on its own, so
the settings that an environment gives are settled variable by variable. What
is left to ask is which texts a variable may have. For the numbers these are
numerals and for the authorities the texts that the list can be written as, in
either case with blanks around them. Nothing is lost on the way from settings
to texts, then: whatever text a setting is written as, the setting comes back.

The check comes last and does not change what was read. It is what keeps
settings out that cannot be used, so only settings that pass it come back.

## Main definitions

* `Settings.PaddedNumeral`: A numeral with blanks around it.
* `Settings.Given`: The variables from which settings are read.
* `Settings.Written`: Variables that settings were written to.
* `Settings.write`: One way to write settings.
* `Settings.Exact`: What is made of variables.

## Theorems

* `Settings.read_eq_ok_iff`: What variables are read, and as what.
* `Settings.ofEnvironment_eq_ok_iff`: Of these settings, those that pass the
  check are given.
* `Settings.Written.given`: Settings are read from what they were written to.
* `Settings.written_write`: Settings can be written.
* `Settings.source_exact`: Settings come back, and a list of authorities is
  what its grammar says.
-/

namespace QuorumBridge

namespace Settings

/-! ## Numbers -/

/-- A numeral with blanks around it. -/
def PaddedNumeral (text : List Char) (n : Nat) : Prop :=
  ∃ numeral, Padded text numeral ∧ Decimal.Numeral numeral n

theorem paddedNumeral_iff {text : List Char} {n : Nat} :
    PaddedNumeral text n ↔ Decimal.Numeral (trim text) n := by
  constructor
  · rintro ⟨numeral, hpadded, hnumeral⟩
    rwa [trim_of_padded hpadded hnumeral.bare]
  · exact fun h => ⟨trim text, padded_trim text, h⟩

theorem parse_trim_eq_ok_iff {text : List Char} {n : Nat} :
    Decimal.parse UInt64.size (trim text) = .ok n ↔ PaddedNumeral text n ∧ n < UInt64.size := by
  rw [Decimal.parse_eq_ok_iff (by decide), paddedNumeral_iff]

theorem thresholdOf_eq_ok_iff {text : String} {n : Nat} :
    thresholdOf text = .ok n ↔ PaddedNumeral text.toList n ∧ n < UInt64.size := by
  rw [thresholdOf, mapError_eq_ok_iff, parse_trim_eq_ok_iff]

/-- The limit of an estimate is that of its type. -/
theorem gasOf_eq_ok_iff {text : String} {gas : UInt64} :
    gasOf text = .ok gas ↔ PaddedNumeral text.toList gas.toNat := by
  rw [← and_iff_left (a := PaddedNumeral text.toList gas.toNat) gas.toNat_lt_size,
    ← parse_trim_eq_ok_iff, gasOf]
  cases hread : Decimal.parse UInt64.size (trim text.toList) with
  | error fault => simp only [reduceCtorEq]
  | ok n =>
    -- What is read is below the limit, so nothing is cut off when it becomes an estimate.
    have hlt : n < UInt64.size := (parse_trim_eq_ok_iff.1 hread).2
    simp only [Except.ok.injEq]
    constructor
    · rintro rfl
      exact (UInt64.toNat_ofNat_of_lt' hlt).symm
    · rintro rfl
      exact UInt64.ofNat_toNat

/-! ## Variables -/

/-- The variables from which settings are read. An estimate of zero may be left
    out. -/
structure Given (env : Environment) (settings : Settings) : Prop where
  authorities : ∃ text, env.get? Key.authorities.name = some text ∧
    AuthorityList.Renders text.toList settings.authorities
  threshold : ∃ text, env.get? Key.threshold.name = some text ∧
    PaddedNumeral text.toList settings.threshold
  threshold_lt : settings.threshold < UInt64.size
  gas : (∃ text, env.get? Key.gas.name = some text ∧
      PaddedNumeral text.toList settings.gas.toNat) ∨
    env.get? Key.gas.name = none ∧ settings.gas = 0

theorem required_eq_ok_iff {env : Environment} {key : Key} {text : String} :
    required env key = .ok text ↔ env.get? key.name = some text := by
  unfold required
  cases env.get? key.name with
  | none => simp only [reduceCtorEq]
  | some other => rw [Except.ok.injEq, Option.some.injEq]

/-- What variables are read, and as what. -/
theorem read_eq_ok_iff {env : Environment} {settings : Settings} :
    read env = .ok settings ↔ Given env settings := by
  have hrenders := fun text as => (AuthorityList.parse_exact text).renders_iff as
  unfold read
  simp only [bind_eq_ok_iff, required_eq_ok_iff, thresholdOf_eq_ok_iff, hrenders]
  constructor
  · rintro ⟨text, hget, as, has, numeral, hnumeral, n, ⟨hn, hlt⟩, hgas⟩
    -- Only the estimate may be missing, and then it is not read at all.
    cases hestimate : env.get? Key.gas.name with
    | none =>
      rw [hestimate] at hgas
      rw [← Except.ok.inj hgas]
      exact ⟨⟨text, hget, has⟩, ⟨numeral, hnumeral, hn⟩, hlt, .inr ⟨hestimate, rfl⟩⟩
    | some estimate =>
      rw [hestimate] at hgas
      rcases bind_eq_ok_iff.1 hgas with ⟨gas, hread, hsettings⟩
      rw [← Except.ok.inj hsettings]
      exact ⟨⟨text, hget, has⟩, ⟨numeral, hnumeral, hn⟩, hlt,
        .inl ⟨estimate, hestimate, gasOf_eq_ok_iff.1 hread⟩⟩
  · rintro ⟨⟨text, hget, has⟩, ⟨numeral, hnumeral, hn⟩, hlt, hgas⟩
    refine ⟨text, hget, _, has, numeral, hnumeral, _, ⟨hn, hlt⟩, ?_⟩
    rcases hgas with ⟨estimate, hestimate, hpadded⟩ | ⟨hestimate, hzero⟩
    · rw [hestimate]
      exact bind_eq_ok_iff.2 ⟨_, gasOf_eq_ok_iff.2 hpadded, rfl⟩
    · rw [hestimate, ← hzero]
      rfl

/-- Of the settings that are read, those that pass the check are given. -/
theorem ofEnvironment_eq_ok_iff {env : Environment} {settings : Settings} :
    ofEnvironment env = .ok settings ↔ Given env settings ∧ settings.validate = .ok () := by
  rw [← read_eq_ok_iff, ofEnvironment]
  cases hread : read env with
  | error fault => simp only [reduceCtorEq, false_and]
  | ok found =>
    rw [Except.ok.injEq]
    -- The check lets settings through as they are.
    cases hcheck : found.validate with
    | error fault =>
      refine ⟨fun h => absurd h (by simp only [hcheck, reduceCtorEq, not_false_eq_true]), ?_⟩
      rintro ⟨rfl, hok⟩
      rw [hcheck] at hok
      exact absurd hok (by simp only [reduceCtorEq, not_false_eq_true])
    | ok =>
      simp only [hcheck, Except.ok.injEq]
      constructor
      · rintro rfl
        exact ⟨rfl, hcheck⟩
      · exact fun h => h.1

/-! ## Writing -/

/-- Variables that settings were written to: the authorities in any way that
    their list can be written, and the digits of the numbers, all with any
    blanks around them. -/
structure Written (settings : Settings) (env : Environment) : Prop where
  authorities : ∃ text, env.get? Key.authorities.name = some text ∧
    AuthorityList.Renders text.toList settings.authorities
  threshold : ∃ text, env.get? Key.threshold.name = some text ∧
    Padded text.toList (Nat.toDigits 10 settings.threshold)
  gas : ∃ text, env.get? Key.gas.name = some text ∧
    Padded text.toList (Nat.toDigits 10 settings.gas.toNat)

/-- Settings are read from what they were written to. -/
theorem Written.given {settings : Settings} {env : Environment} (h : Written settings env)
    (hlt : settings.threshold < UInt64.size) : Given env settings where
  authorities := h.authorities
  threshold := by
    rcases h.threshold with ⟨text, hget, hpadded⟩
    exact ⟨text, hget, _, hpadded, Decimal.numeral_toDigits _⟩
  threshold_lt := hlt
  gas := by
    rcases h.gas with ⟨text, hget, hpadded⟩
    -- The gas may be left out. Here it was written.
    exact .inl ⟨text, hget, _, hpadded, Decimal.numeral_toDigits _⟩

/-- One way to write settings: lower case, nothing between the commas but the
    authorities, and no blanks. -/
def write (settings : Settings) : Environment :=
  .ofList [
    (Key.authorities.name,
      String.ofList ([','].intercalate (settings.authorities.map Octets.hexChars))),
    (Key.threshold.name, String.ofList (Nat.toDigits 10 settings.threshold)),
    (Key.gas.name, String.ofList (Nat.toDigits 10 settings.gas.toNat))]

theorem padded_self (text : List Char) : Padded text text :=
  ⟨[], [], fun _ hc => absurd hc List.not_mem_nil, fun _ hc => absurd hc List.not_mem_nil, by
    rw [List.nil_append, List.append_nil]⟩

theorem listing_hexChars (as : List Address) :
    Listing AuthorityList.Spells (as.map Octets.hexChars) as := by
  induction as with
  | nil => exact .nil
  | cons a rest ih =>
    exact .entry (padded_self _) ⟨_, rfl, Hex.map_toLower_encode a.toList⟩ ih

/-- Settings can be written. -/
theorem written_write (settings : Settings) : Written settings (write settings) where
  authorities := by
    -- Written one after the other, without blanks around them.
    refine ⟨_, rfl, _, listing_hexChars _, ?_⟩
    rw [String.toList_ofList]
  threshold := by
    refine ⟨_, rfl, ?_⟩
    rw [String.toList_ofList]
    exact padded_self _
  gas := by
    refine ⟨_, rfl, ?_⟩
    rw [String.toList_ofList]
    exact padded_self _

/-- What is made of variables. -/
structure Exact : Prop where
  /-- A list of authorities is what its grammar says. -/
  authorities : ∀ text, AuthorityList.Exact text
  /-- Settings that pass the check come back, however they were written. The
      threshold has the width of a machine word. -/
  written : ∀ settings env, settings.validate = .ok () → settings.threshold < UInt64.size →
    Written settings env → ofEnvironment env = .ok settings
  /-- There is a way to write any of them. -/
  writable : ∀ settings, Written settings (write settings)

/-- Settings come back, and a list of authorities is what its grammar says. -/
theorem source_exact : Exact where
  authorities := AuthorityList.parse_exact
  written := fun _ _ hvalid hlt hwritten =>
    ofEnvironment_eq_ok_iff.2 ⟨hwritten.given hlt, hvalid⟩
  writable := written_write

end Settings

end QuorumBridge
