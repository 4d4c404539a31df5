import ConnectionPool.Config.Defaults
import ConnectionPool.Proofs.Text.Numeral

/-!
# Which variables override defaults

The value of a variable is accepted if it spells a number, with blanks around it or none, and the
number is one that the variable may have. What the number stands for then overrides the default of
the variable. Every other value is passed over with one warning, and so is as good as no value.
Neither variable has a say in the default of the other.

## Main definitions

* `SpellsMax`, `SpellsTimeout`: the values that are accepted, and what they stand for.
* `Overrides`: what becomes of a default, and of its warnings.

## Main results

* `readMax_eq_ok_iff`, `readTimeout_eq_ok_iff`: reading accepts what is spelled right.
* `variables_override_defaults`: the defaults and the warnings for any two values.
-/

namespace ConnectionPool

/-- `fromRaw` accepts the raw values that stand for a limit. -/
theorem Limit.fromRaw_eq_ok_iff {raw : Int} {what : String} {limit : Limit} :
    fromRaw raw what = .ok limit ↔
      raw = -1 ∧ limit = .unbounded ∨
        1 ≤ raw ∧ ∃ positive, limit = .bounded raw.toNat positive := by
  unfold fromRaw
  split
  · rename_i hunbounded
    subst hunbounded
    simp [eq_comm]
  · rename_i hbounded
    rw [or_iff_right fun h => hbounded h.1]
    split
    · rename_i hpositive
      have hnat : 0 < raw.toNat := by omega
      rw [and_iff_right (by omega : 1 ≤ raw), exists_prop_of_true hnat, Except.ok.injEq, eq_comm]
    · rename_i hnegative
      constructor
      · rintro ⟨⟩
      · rintro ⟨hpositive, -⟩
        omega

/-- A raw value that `fromRaw` refuses is a fault of the configuration. -/
theorem Limit.fault_of_fromRaw {raw : Int} {what : String} {error : PoolError}
    (h : fromRaw raw what = .error error) : ∃ fault, error = .configuration fault := by
  unfold fromRaw at h
  split at h
  · cases h
  · split at h
    · cases h
    · exact ⟨_, (Except.error.inj h).symm⟩

namespace Defaults

/-- `SpellsMax raw limit`: the text spells a bound on connections, `-1` for no bound, or a positive
number that 32 bits with a sign can hold. -/
def SpellsMax (raw : String) (limit : Limit) : Prop :=
  ∃ value, Text.Spells raw.toList value ∧
    (value = -1 ∧ limit = .unbounded ∨
      1 ≤ value ∧ value ≤ 2 ^ 31 - 1 ∧ ∃ positive, limit = .bounded value.toNat positive)

/-- `SpellsTimeout raw timeout`: the text spells a timeout, `-1` for never to wait, or a number of
milliseconds that 64 bits with a sign can hold. -/
def SpellsTimeout (raw : String) (timeout : Duration) : Prop :=
  ∃ value, Text.Spells raw.toList value ∧
    (value = -1 ∧ timeout = Duration.zero ∨
      0 ≤ value ∧ value ≤ 2 ^ 63 - 1 ∧ timeout = .ofMillis value.toNat)

/-- What becomes of a default, and with which warnings, when its variable is found with a value or
not at all; `Spells` says which values are accepted and what they stand for. -/
structure Overrides {α : Type} (Spells : String → α → Prop) (variableName : DefaultsVariable)
    (default : α) (found : Option String) (result : α) (warnings : List IgnoredDefault) :
    Prop where
  /-- A variable that is not set leaves the default alone. -/
  unset : found = none → result = default ∧ warnings = []
  /-- An accepted value overrides the default. -/
  accepted : ∀ raw value, found = some raw → Spells raw value → result = value ∧ warnings = []
  /-- Any other value leaves the default alone and gives one warning. -/
  ignored : ∀ raw, found = some raw → (∀ value, ¬ Spells raw value) →
    result = default ∧ ∃ fault, warnings = [⟨variableName, raw, .configuration fault⟩]

variable {raw : String}

/-- A number in range that is `-1`, or at least the first that may be, is `-1` or among those that
may be. -/
theorem in_range_iff {lowest first highest value : Int} {never given : Prop}
    (hlowest : lowest ≤ -1) (hfirst : lowest ≤ first) (hhighest : -1 ≤ highest) :
    (lowest ≤ value ∧ value ≤ highest) ∧ (value = -1 ∧ never ∨ first ≤ value ∧ given) ↔
      value = -1 ∧ never ∨ first ≤ value ∧ value ≤ highest ∧ given := by
  constructor
  · rintro ⟨hrange, hnever | ⟨hmin, hgiven⟩⟩
    · exact .inl hnever
    · exact .inr ⟨hmin, hrange.2, hgiven⟩
  · rintro (⟨rfl, hnever⟩ | ⟨hmin, hmax, hgiven⟩)
    · exact ⟨⟨hlowest, hhighest⟩, .inl ⟨rfl, hnever⟩⟩
    · exact ⟨⟨Int.le_trans hfirst hmin, hmax⟩, .inr ⟨hmin, hgiven⟩⟩

/-- `readMax` accepts what `SpellsMax` knows. -/
theorem readMax_eq_ok_iff {limit : Limit} : readMax raw = .ok limit ↔ SpellsMax raw limit := by
  have hread : readMax raw = .ok limit ↔
      ∃ value, Text.readInt32 (Text.trimBlank raw.toList) = .ok value ∧
        Limit.fromRaw value "max connections" = .ok limit := by
    unfold readMax
    cases Text.readInt32 (Text.trimBlank raw.toList) <;> simp
  rw [hread, SpellsMax]
  refine exists_congr fun value => ?_
  rw [Text.readInt32, Text.readInteger_trimBlank_iff (by omega) (by omega),
    Limit.fromRaw_eq_ok_iff, and_assoc]
  exact and_congr_right fun _ => in_range_iff (by omega) (by omega) (by omega)

/-- `readTimeout` accepts what `SpellsTimeout` knows. -/
theorem readTimeout_eq_ok_iff {timeout : Duration} :
    readTimeout raw = .ok timeout ↔ SpellsTimeout raw timeout := by
  -- what is read is a number first, and then `-1` or not negative
  have hread : readTimeout raw = .ok timeout ↔
      ∃ value, Text.readInt64 (Text.trimBlank raw.toList) = .ok value ∧
        (value = -1 ∧ timeout = Duration.zero ∨
          0 ≤ value ∧ timeout = .ofMillis value.toNat) := by
    unfold readTimeout
    cases Text.readInt64 (Text.trimBlank raw.toList) with
    | error fault => simp
    | ok value =>
      simp only [Except.ok.injEq, exists_eq_left']
      split
      · rename_i hnever
        subst hnever
        simp [eq_comm]
      · rename_i hmillis
        rw [or_iff_right fun h => hmillis h.1]
        split
        · rename_i hnonneg
          rw [and_iff_right hnonneg, Except.ok.injEq, eq_comm]
        · rename_i hnegative
          simp [hnegative]
  rw [hread, SpellsTimeout]
  refine exists_congr fun value => ?_
  rw [Text.readInt64, Text.readInteger_trimBlank_iff (by omega) (by omega), and_assoc]
  exact and_congr_right fun _ => in_range_iff (by omega) (by omega) (by omega)

/-- What `readMax` does not accept is a fault of the configuration. -/
theorem fault_of_readMax {error : PoolError} (h : readMax raw = .error error) :
    ∃ fault, error = .configuration fault := by
  unfold readMax at h
  split at h
  · exact ⟨_, (Except.error.inj h).symm⟩
  · exact Limit.fault_of_fromRaw h

/-- What `readTimeout` does not accept is a fault of the configuration. -/
theorem fault_of_readTimeout {error : PoolError} (h : readTimeout raw = .error error) :
    ∃ fault, error = .configuration fault := by
  unfold readTimeout at h
  split at h
  · exact ⟨_, (Except.error.inj h).symm⟩
  · split at h
    · cases h
    · split at h
      · cases h
      · exact ⟨_, (Except.error.inj h).symm⟩

/-- What `read` accepts `Overrides` a default. -/
theorem override_overrides {α : Type} {read : String → Except PoolError α}
    {Spells : String → α → Prop} (hread : ∀ {raw value}, read raw = .ok value ↔ Spells raw value)
    (hfault : ∀ {raw error}, read raw = .error error → ∃ fault, error = .configuration fault)
    (variableName : DefaultsVariable) (default : α) (found : Option String) :
    Overrides Spells variableName default found (override read variableName default found).1
      (override read variableName default found).2 := by
  constructor
  · rintro rfl
    exact ⟨rfl, rfl⟩
  · rintro raw value rfl hspells
    rw [override, hread.mpr hspells]
    exact ⟨rfl, rfl⟩
  · rintro raw rfl hnone
    cases hvalue : read raw with
    | ok value => exact absurd (hread.mp hvalue) (hnone value)
    | error error =>
      obtain ⟨fault, rfl⟩ := hfault hvalue
      rw [override, hvalue]
      exact ⟨rfl, fault, rfl⟩

/-- Each variable `Overrides` its own default if its value is accepted. Otherwise the built-in
default of the machine stays, and a value that is not accepted gives one warning; a warning about
the bound on connections comes first. The other variable makes no difference. -/
theorem variables_override_defaults (processors : Nat)
    (maxConnections acquireTimeout : Option String) :
    (∃ maxWarnings timeoutWarnings,
      (readFrom (builtinOn processors) maxConnections acquireTimeout).2 =
        maxWarnings ++ timeoutWarnings ∧
      Overrides SpellsMax .maxConnections (builtinMax processors) maxConnections
        (readFrom (builtinOn processors) maxConnections acquireTimeout).1.maxConnections
        maxWarnings ∧
      Overrides SpellsTimeout .acquireTimeout (.ofMillis 45000) acquireTimeout
        (readFrom (builtinOn processors) maxConnections acquireTimeout).1.acquireTimeout
        timeoutWarnings) ∧
    (∀ other, (readFrom (builtinOn processors) maxConnections other).1.maxConnections =
      (readFrom (builtinOn processors) maxConnections acquireTimeout).1.maxConnections) ∧
    (∀ other, (readFrom (builtinOn processors) other acquireTimeout).1.acquireTimeout =
      (readFrom (builtinOn processors) maxConnections acquireTimeout).1.acquireTimeout) :=
  ⟨⟨_, _, rfl,
    override_overrides readMax_eq_ok_iff fault_of_readMax .maxConnections _ maxConnections,
    override_overrides readTimeout_eq_ok_iff fault_of_readTimeout .acquireTimeout _ acquireTimeout⟩,
    fun _ => rfl, fun _ => rfl⟩

/-- A no-break space is blank, zeros may lead, and a value without digits is passed over. -/
example : read (some "\u00a0+007\n") (some "-") =
    (⟨.bounded 7 (by decide), .ofMillis 45000⟩,
      [⟨.acquireTimeout, "-", .configuration (.unreadable .invalidDigit)⟩]) := by
  decide +kernel

end Defaults

end ConnectionPool
