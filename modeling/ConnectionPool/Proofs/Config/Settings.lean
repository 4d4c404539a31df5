import ConnectionPool.Config.Defaults
import Mathlib.Logic.Basic

/-!
# Which settings count

Settings are applied in order, and rejected ones are passed over. For each field of a configuration,
what counts is the value given to it last. Making the pool elastic gives a value to three fields at
once; every other setting gives one to the field that it is named for.

Settings that give nothing to the same field can change places. So the order matters only between
settings of the same name, and between one that makes the pool elastic and one that sets the acquire
timeout or bounds the queue.

## Main definitions

* `Setting.gives`: what a setting gives to each field.
* `Setting.last?`, `given`: what was given last.
* `Config.overlay`: a configuration with the fields that were given.
* `Setting.Forces`: a setting overrides another one of a different name.

## Main results

* `Config.applyAll_eq_overlay`: the outcome of a list of settings.
* `given_swap`: settings of different names that do not override each other can change places.
* `Config.last_setting_wins`: all of this, from the defaults on.
-/

namespace ConnectionPool

theorem Limit.toNat_pos_of_pos {raw : Int} (h : 0 < raw) : 0 < raw.toNat := by omega

/-- The limit that a raw value stands for: `-1` stands for no bound, a positive number for itself,
and any other number for nothing. -/
def Limit.ofRaw? (raw : Int) : Option Limit :=
  if raw = -1 then some .unbounded
  else if h : 0 < raw then some (.bounded raw.toNat (toNat_pos_of_pos h))
  else none

/-- `fromRaw` accepts a raw value if `ofRaw?` finds a limit. -/
theorem Limit.toOption_fromRaw (raw : Int) (what : String) :
    (fromRaw raw what).toOption = ofRaw? raw := by
  unfold fromRaw ofRaw?
  split
  · rfl
  · split <;> rfl

/-- The fields of a configuration. Each has a setting that is named for it. -/
inductive Field where
  /-- The name of the provider. -/
  | name
  /-- The bound on connections. -/
  | maxConnections
  /-- The bound on queued acquisitions. -/
  | maxPending
  /-- The time that a queued acquisition may wait. -/
  | acquireTimeout
  /-- The time that a connection may stay idle. -/
  | maxIdleTime
  /-- The age that a connection may reach. -/
  | maxLifeTime
  /-- The time that a disposal waits for callers. -/
  | disposeGrace
  /-- The interval between sweeps. -/
  | sweepInterval
deriving DecidableEq

/-- Values for the fields of a configuration, where there are any. -/
structure Given where
  /-- The name of the provider. -/
  name : Option String := none
  /-- The bound on connections. -/
  maxConnections : Option Limit := none
  /-- The bound on queued acquisitions. -/
  maxPending : Option Limit := none
  /-- The time that a queued acquisition may wait. -/
  acquireTimeout : Option Duration := none
  /-- The time that a connection may stay idle. -/
  maxIdleTime : Option Duration := none
  /-- The age that a connection may reach. -/
  maxLifeTime : Option Duration := none
  /-- The time that a disposal waits for callers. -/
  disposeGrace : Option Duration := none
  /-- The interval between sweeps. -/
  sweepOverride : Option Duration := none
deriving DecidableEq

namespace Setting

/-- The field that the setting is named for. -/
def field : Setting → Field
  | .name _ => .name
  | .maxConnections _ => .maxConnections
  | .maxPending _ => .maxPending
  | .acquireTimeout _ => .acquireTimeout
  | .maxIdleTime _ => .maxIdleTime
  | .maxLifeTime _ => .maxLifeTime
  | .disposeGrace _ => .disposeGrace
  | .sweepInterval _ => .sweepInterval

/-- What the setting gives to each field. A limit is given only by a raw value that stands for one.
An elastic pool never waits, and its queue has no bound. -/
def gives : Setting → Given
  | .name value => { name := value }
  | .maxConnections raw =>
    { maxConnections := Limit.ofRaw? raw
      maxPending := if raw = -1 then some .unbounded else none
      acquireTimeout := if raw = -1 then some Duration.zero else none }
  | .maxPending raw => { maxPending := Limit.ofRaw? raw }
  | .acquireTimeout value => { acquireTimeout := value }
  | .maxIdleTime value => { maxIdleTime := value }
  | .maxLifeTime value => { maxLifeTime := value }
  | .disposeGrace value => { disposeGrace := value }
  | .sweepInterval value => { sweepOverride := value }

/-- `Writes setting field`: the setting can give a value to the field, as it is named for it, or
makes the pool elastic. -/
def Writes (setting : Setting) (field : Field) : Prop :=
  setting.field = field ∨
    setting = .maxConnections (-1) ∧ (field = .acquireTimeout ∨ field = .maxPending)

/-- `Forces setting other`: the setting makes the pool elastic, and the other one is named for what
this decides. -/
def Forces (setting other : Setting) : Prop :=
  setting = .maxConnections (-1) ∧ (other.field = .acquireTimeout ∨ other.field = .maxPending)

variable {α : Type} {value? : Setting → Option α}

/-- The value that was given last. -/
def last? (value? : Setting → Option α) (settings : List Setting) : Option α :=
  (settings.filterMap value?).getLast?

/-- The first of several settings counts for `last?` if the others give nothing. -/
theorem last?_cons (value? : Setting → Option α) (setting : Setting) (rest : List Setting) :
    last? value? (setting :: rest) = (last? value? rest).or (value? setting) := by
  rw [last?, last?]
  cases hvalue : value? setting with
  | none => rw [List.filterMap_cons_none hvalue, Option.or_none]
  | some value =>
    rw [List.filterMap_cons_some hvalue, List.getLast?_cons]
    cases (rest.filterMap value?).getLast? <;> rfl

/-- Two settings can change places for `last?` if one of them gives nothing. -/
theorem last?_swap {a b : Setting} (h : value? a = none ∨ value? b = none)
    (before after : List Setting) :
    last? value? (before ++ a :: b :: after) = last? value? (before ++ b :: a :: after) := by
  have hpair : [a, b].filterMap value? = [b, a].filterMap value? := by
    obtain hnone | hnone := h <;> simp [List.filterMap_cons, hnone]
  have hsplit : ∀ first second : Setting,
      (before ++ first :: second :: after).filterMap value? =
        before.filterMap value? ++
          ([first, second].filterMap value? ++ after.filterMap value?) := by
    intro first second
    rw [← List.filterMap_append, ← List.filterMap_append]
    rfl
  rw [last?, last?, hsplit, hsplit, hpair]

end Setting

open Setting (last?)

/-- What a list of settings has given last to each field. -/
def given (settings : List Setting) : Given :=
  { name := last? (·.gives.name) settings
    maxConnections := last? (·.gives.maxConnections) settings
    maxPending := last? (·.gives.maxPending) settings
    acquireTimeout := last? (·.gives.acquireTimeout) settings
    maxIdleTime := last? (·.gives.maxIdleTime) settings
    maxLifeTime := last? (·.gives.maxLifeTime) settings
    disposeGrace := last? (·.gives.disposeGrace) settings
    sweepOverride := last? (·.gives.sweepOverride) settings }

/-- The configuration with what was given in the place of what was there. -/
def Config.overlay (c : Config) (values : Given) : Config :=
  { name := values.name.getD c.name
    maxConnections := values.maxConnections.getD c.maxConnections
    maxPending := values.maxPending.getD c.maxPending
    acquireTimeout := values.acquireTimeout.getD c.acquireTimeout
    maxIdleTime := values.maxIdleTime.or c.maxIdleTime
    maxLifeTime := values.maxLifeTime.or c.maxLifeTime
    disposeGrace := values.disposeGrace.or c.disposeGrace
    sweepOverride := values.sweepOverride.or c.sweepOverride }

namespace Config

variable {settings : List Setting} {setting : Setting}

/-- `applyOrKeep` applies a raw limit if it stands for a limit, and passes it over otherwise. -/
theorem applyOrKeep_of_fromRaw {c : Config} {raw : Int} {what : String} (change : Limit → Config)
    (h : c.apply setting = (Limit.fromRaw raw what).map change) :
    c.applyOrKeep setting = (Limit.ofRaw? raw).elim c change := by
  rw [applyOrKeep, h, ← Limit.toOption_fromRaw raw what]
  cases Limit.fromRaw raw what <;> rfl

/-- `applyOrKeep` of one setting is the `overlay` of what it `gives`. -/
theorem applyOrKeep_eq_overlay (c : Config) (setting : Setting) :
    c.applyOrKeep setting = c.overlay setting.gives := by
  cases setting with
  | maxConnections raw =>
    rw [applyOrKeep_of_fromRaw c.withMaxConnections rfl]
    unfold Limit.ofRaw?
    split
    · rename_i helastic
      subst helastic
      rfl
    · rename_i hbounded
      rw [overlay, Setting.gives, if_neg hbounded, if_neg hbounded, Limit.ofRaw?, if_neg hbounded]
      split <;> rfl
  | maxPending raw =>
    rw [applyOrKeep_of_fromRaw (fun limit => { c with maxPending := limit }) rfl]
    show _ = c.overlay { maxPending := Limit.ofRaw? raw }
    cases Limit.ofRaw? raw <;> rfl
  | _ => rfl

/-- In an `overlay`, what was given earlier counts where nothing was given later. -/
theorem overlay_overlay (c : Config) (setting : Setting) (rest : List Setting) :
    (c.overlay setting.gives).overlay (given rest) = c.overlay (given (setting :: rest)) := by
  have hgetD : ∀ {α : Type} (later earlier : Option α) (a : α),
      later.getD (earlier.getD a) = (later.or earlier).getD a := by
    intro α later earlier a
    cases later <;> rfl
  simp only [overlay, given, Setting.last?_cons, hgetD, Option.or_assoc]

/-- `applyAll` is the `overlay` of what was `given` last. -/
theorem applyAll_eq_overlay (c : Config) (settings : List Setting) :
    c.applyAll settings = c.overlay (given settings) := by
  induction settings generalizing c with
  | nil => rfl
  | cons setting rest ih =>
    calc c.applyAll (setting :: rest)
        = (c.applyOrKeep setting).applyAll rest := rfl
      _ = (c.overlay setting.gives).applyAll rest := by rw [applyOrKeep_eq_overlay]
      _ = (c.overlay setting.gives).overlay (given rest) := ih _
      _ = c.overlay (given (setting :: rest)) := overlay_overlay c setting rest

end Config

/-! ## Settings that can change places -/

/-- `Minds setting`: the setting gives nothing to a field that it does not write. -/
structure Setting.Minds (setting : Setting) : Prop where
  /-- It gives no name. -/
  name : ¬ setting.Writes .name → setting.gives.name = none
  /-- It gives no bound on connections. -/
  maxConnections : ¬ setting.Writes .maxConnections → setting.gives.maxConnections = none
  /-- It gives no bound on queued acquisitions. -/
  maxPending : ¬ setting.Writes .maxPending → setting.gives.maxPending = none
  /-- It gives no time for queued acquisitions. -/
  acquireTimeout : ¬ setting.Writes .acquireTimeout → setting.gives.acquireTimeout = none
  /-- It gives no time for idle connections. -/
  maxIdleTime : ¬ setting.Writes .maxIdleTime → setting.gives.maxIdleTime = none
  /-- It gives no age. -/
  maxLifeTime : ¬ setting.Writes .maxLifeTime → setting.gives.maxLifeTime = none
  /-- It gives no time for callers. -/
  disposeGrace : ¬ setting.Writes .disposeGrace → setting.gives.disposeGrace = none
  /-- It gives no interval. -/
  sweepOverride : ¬ setting.Writes .sweepInterval → setting.gives.sweepOverride = none

theorem Setting.minds (setting : Setting) : setting.Minds := by
  have hnamed : ¬ ¬ setting.Writes setting.field := fun hnot => hnot (.inl rfl)
  cases setting with
  | maxConnections raw =>
    -- only an elastic pool forces what is not a bound on connections
    have hforced : ∀ {α : Type} {field : Field} (a : α),
        field = .acquireTimeout ∨ field = .maxPending →
        ¬ (Setting.maxConnections raw).Writes field →
        (if raw = -1 then some a else none) = none := by
      intro α field a hfield hnot
      exact if_neg fun helastic => hnot (.inr ⟨congrArg _ helastic, hfield⟩)
    exact
      { name := fun _ => rfl
        maxConnections := fun hnot => absurd hnot hnamed
        maxPending := hforced _ (.inr rfl)
        acquireTimeout := hforced _ (.inl rfl)
        maxIdleTime := fun _ => rfl
        maxLifeTime := fun _ => rfl
        disposeGrace := fun _ => rfl
        sweepOverride := fun _ => rfl }
  | _ => constructor <;> intro hnot <;> first | exact absurd hnot hnamed | rfl

/-- Of two settings for different fields, neither of which `Forces` the other, at most one `Writes`
a field. -/
theorem Setting.not_writes_or {a b : Setting} (hfield : a.field ≠ b.field) (hab : ¬ a.Forces b)
    (hba : ¬ b.Forces a) (field : Field) : ¬ a.Writes field ∨ ¬ b.Writes field := by
  rw [← not_and_or]
  rintro ⟨rfl | ⟨ha, hforced⟩, hnamed | ⟨hb, hforced'⟩⟩
  · exact hfield hnamed.symm
  · exact hba ⟨hb, hforced'⟩
  · exact hab ⟨ha, hnamed ▸ hforced⟩
  · exact hfield (ha.trans hb.symm ▸ rfl)

/-- Settings for different fields, neither of which `Forces` the other, can change places in
`given`. -/
theorem given_swap {a b : Setting} (hfield : a.field ≠ b.field) (hab : ¬ a.Forces b)
    (hba : ¬ b.Forces a) (before after : List Setting) :
    given (before ++ a :: b :: after) = given (before ++ b :: a :: after) := by
  -- for each field, one of the two settings says nothing
  have hswap : ∀ {α : Type} (value? : Given → Option α) {field : Field},
      (∀ setting : Setting, ¬ setting.Writes field → value? setting.gives = none) →
      last? (value? ·.gives) (before ++ a :: b :: after) =
        last? (value? ·.gives) (before ++ b :: a :: after) := by
    intro α value? field hminds
    have hwrites := Setting.not_writes_or hfield hab hba field
    exact Setting.last?_swap (hwrites.imp (hminds a) (hminds b)) before after
  unfold given
  congr 1
  · exact hswap Given.name fun setting => setting.minds.name
  · exact hswap Given.maxConnections fun setting => setting.minds.maxConnections
  · exact hswap Given.maxPending fun setting => setting.minds.maxPending
  · exact hswap Given.acquireTimeout fun setting => setting.minds.acquireTimeout
  · exact hswap Given.maxIdleTime fun setting => setting.minds.maxIdleTime
  · exact hswap Given.maxLifeTime fun setting => setting.minds.maxLifeTime
  · exact hswap Given.disposeGrace fun setting => setting.minds.disposeGrace
  · exact hswap Given.sweepOverride fun setting => setting.minds.sweepOverride

/-! ## From the defaults on -/

namespace Config

/-- Elastic defaults force the `acquireTimeout` as an elastic setting does. -/
theorem ofDefaults_eq (name : String) (defaults : Defaults) :
    ofDefaults name defaults =
      { name
        maxConnections := defaults.maxConnections
        maxPending := .unbounded
        acquireTimeout :=
          if defaults.maxConnections = .unbounded then Duration.zero else defaults.acquireTimeout
        maxIdleTime := none
        maxLifeTime := none
        disposeGrace := none
        sweepOverride := none } := by
  unfold ofDefaults withMaxConnections
  cases defaults.maxConnections <;> rfl

/-- `applyAll` to a configuration made from defaults is an `overlay`: for each field the value
`given` last, and where nothing was given, the default. Nothing else counts, so lists of settings
that give the same values make the same configuration from the same initial values, and settings for
different fields can change places unless one of them `Forces` the other. -/
theorem last_setting_wins (name : String) (defaults : Defaults) :
    (∀ settings, (ofDefaults name defaults).applyAll settings =
      overlay
        { name
          maxConnections := defaults.maxConnections
          maxPending := .unbounded
          acquireTimeout :=
            if defaults.maxConnections = .unbounded then Duration.zero else defaults.acquireTimeout
          maxIdleTime := none
          maxLifeTime := none
          disposeGrace := none
          sweepOverride := none } (given settings)) ∧
    (∀ name' defaults' settings settings',
      ofDefaults name defaults = ofDefaults name' defaults' → given settings = given settings' →
      (ofDefaults name defaults).applyAll settings =
        (ofDefaults name' defaults').applyAll settings') ∧
    (∀ before after a b, a.field ≠ b.field → ¬ a.Forces b → ¬ b.Forces a →
      (ofDefaults name defaults).applyAll (before ++ a :: b :: after) =
        (ofDefaults name defaults).applyAll (before ++ b :: a :: after)) := by
  refine ⟨fun settings => ?_, fun name' defaults' settings settings' hinitial hgiven => ?_,
    fun before after a b hfield hab hba => ?_⟩
  · rw [applyAll_eq_overlay, ofDefaults_eq]
  · rw [applyAll_eq_overlay, applyAll_eq_overlay, hinitial, hgiven]
  · rw [applyAll_eq_overlay, applyAll_eq_overlay, given_swap hfield hab hba]

/-- A pool is made elastic, a bound of zero is passed over, and then the queue is bounded and
acquisitions may wait again. The last two settings can change places. -/
theorem last_setting_wins_waitingAgain :
    (ofDefaults "pool" .fixed).applyAll ([.acquireTimeout (.ofSeconds 5), .maxConnections (-1),
        .maxConnections 0] ++ .maxPending 10 :: .acquireTimeout (.ofSeconds 1) :: []) =
      { name := "pool", maxConnections := .unbounded, maxPending := .bounded 10 (by decide),
        acquireTimeout := .ofSeconds 1, maxIdleTime := none, maxLifeTime := none,
        disposeGrace := none, sweepOverride := none } ∧
    (ofDefaults "pool" .fixed).applyAll ([.acquireTimeout (.ofSeconds 5), .maxConnections (-1),
        .maxConnections 0] ++ .maxPending 10 :: .acquireTimeout (.ofSeconds 1) :: []) =
      (ofDefaults "pool" .fixed).applyAll ([.acquireTimeout (.ofSeconds 5), .maxConnections (-1),
        .maxConnections 0] ++ .acquireTimeout (.ofSeconds 1) :: .maxPending 10 :: []) := by
  obtain ⟨hlast, -, hswap⟩ := last_setting_wins "pool" .fixed
  refine ⟨(hlast _).trans (by decide), ?_⟩
  exact hswap _ [] (.maxPending 10) (.acquireTimeout (.ofSeconds 1)) (by decide)
    (fun h => by cases h.1) (fun h => by cases h.1)

/-- A setting that forces another cannot change places with it. -/
example : (ofDefaults "pool" .fixed).applyAll [.maxConnections (-1), .maxPending 10] ≠
    (ofDefaults "pool" .fixed).applyAll [.maxPending 10, .maxConnections (-1)] := by
  decide

end Config

end ConnectionPool
