import ConnectionPool.Proofs.Scenario.Deadlines
import ConnectionPool.Proofs.Site.Eviction

/-!
# Tightening a limit

A configuration is tightened by limiting how long connections may be idle, or how old they may
become, where there was no limit, or by lowering such a limit. A sweep then closes all that it
closed before. Where there still are sweeps, they are at least as frequent as before, so that both
limits are still enforced on what is idle.

Whether there still are sweeps is another matter. The interval is that of the shorter limit, and
there is no sweep at an interval of zero. A limit of zero therefore ends the sweeps of a pool,
unless an interval is set apart from the limits, and with the sweeps ends the enforcement of the
other limit.

## Main definitions

* `Config.Tightens`: a configuration limits what is idle more than another one.
* `Scenario.Enforces`: limits are enforced on what is idle, by sweeps at an interval.

## Main results

* `Config.Tightens.sweepInterval_eq_none_iff`: when tightening a limit ends the sweeps.
* `Config.Tightens.sweepInterval_le`: otherwise they are at least as frequent.
* `Config.Tightens.closesOf_sweep`: a sweep closes all that it closed before.
* `Scenario.tightening_keeps_enforcing`: all of this, in every scenario.
* `Scenario.unswept`: a connection that is not closed any more after a limit was added.
-/

namespace ConnectionPool

namespace Duration

variable {d : Duration}

theorem shorter_le_left (d e : Duration) : d.shorter e ≤ d := by
  rw [shorter]
  split
  · exact Nat.le_refl _
  · rename_i hlonger
    exact Nat.le_of_not_le hlonger

theorem shorter_le_right (d e : Duration) : d.shorter e ≤ e := by
  rw [shorter]
  split
  · assumption
  · exact Nat.le_refl _

theorem eq_zero_of_le (h : d ≤ zero) : d = zero := by
  obtain ⟨nanos⟩ := d
  exact congrArg mk (Nat.le_zero.1 h)

end Duration

/-- `Lowers lower limit`: a limit is set where there was none, or lowered, or left as it is. -/
def Lowers (lower limit : Option Duration) : Prop :=
  ∀ max, limit = some max → ∃ least, lower = some least ∧ least ≤ max

namespace Config

/-- `Tightens tighter config`: a configuration limits what is idle more than another one, and does
not differ from it otherwise. -/
structure Tightens (tighter config : Config) : Prop where
  /-- Nothing but the two limits is different. -/
  others : { tighter with
    maxIdleTime := config.maxIdleTime, maxLifeTime := config.maxLifeTime } = config
  /-- Connections may be idle for as long as before at most. -/
  idle : Lowers tighter.maxIdleTime config.maxIdleTime
  /-- Connections may become as old as before at most. -/
  life : Lowers tighter.maxLifeTime config.maxLifeTime

variable {config tighter : Config} {interval : Duration}

/-! ## The interval between sweeps -/

/-- The `derivedInterval` is one of the limits. -/
theorem limit_of_derivedInterval (h : config.derivedInterval = some interval) :
    config.maxIdleTime = some interval ∨ config.maxLifeTime = some interval := by
  unfold derivedInterval at h
  cases hidle : config.maxIdleTime <;> cases hlife : config.maxLifeTime <;> rw [hidle, hlife] at h
  · cases h
  · exact .inr h
  · exact .inl h
  · rename_i idle life
    obtain rfl := Option.some.inj h
    rw [Duration.shorter]
    split
    · exact .inl rfl
    · exact .inr rfl

/-- The `derivedInterval` is not longer than either of the limits. -/
theorem derivedInterval_le {max : Duration}
    (h : config.maxIdleTime = some max ∨ config.maxLifeTime = some max) :
    ∃ derived, config.derivedInterval = some derived ∧ derived ≤ max := by
  unfold derivedInterval
  obtain hidle | hlife := h
  · rw [hidle]
    cases config.maxLifeTime with
    | none => exact ⟨max, rfl, Nat.le_refl _⟩
    | some life => exact ⟨_, rfl, Duration.shorter_le_left max life⟩
  · rw [hlife]
    cases config.maxIdleTime with
    | none => exact ⟨max, rfl, Nat.le_refl _⟩
    | some idle => exact ⟨_, rfl, Duration.shorter_le_right idle max⟩

/-- The `derivedInterval` is zero if one of the limits is zero. -/
theorem derivedInterval_eq_zero_iff : config.derivedInterval = some .zero ↔
    config.maxIdleTime = some .zero ∨ config.maxLifeTime = some .zero := by
  refine ⟨limit_of_derivedInterval, fun h => ?_⟩
  obtain ⟨derived, hderived, hle⟩ := derivedInterval_le h
  rw [hderived, Duration.eq_zero_of_le hle]

/-- The `sweepInterval` is the `sweepOverride`, or else the `derivedInterval`. There has to be a
limit, and the interval is not zero. -/
theorem sweepInterval_eq_some_iff : config.sweepInterval = some interval ↔
    (∃ derived, config.derivedInterval = some derived ∧
      config.sweepOverride.getD derived = interval) ∧ interval ≠ .zero := by
  have hzero : interval.isZero = false ↔ interval ≠ .zero := by
    obtain ⟨nanos⟩ := interval
    simp [Duration.isZero, Duration.zero]
  rw [sweepInterval, Option.filter_eq_some_iff, Option.map_eq_some_iff, Bool.not_eq_true', hzero]

namespace Tightens

/-- What `Tightens` has the same `sweepOverride`. -/
theorem sweepOverride (h : tighter.Tightens config) :
    tighter.sweepOverride = config.sweepOverride := by
  have hothers := congrArg Config.sweepOverride h.others
  exact hothers

/-- What `Tightens` has a `derivedInterval` that is not longer. -/
theorem derivedInterval (h : tighter.Tightens config)
    (hderived : config.derivedInterval = some interval) :
    ∃ shorter, tighter.derivedInterval = some shorter ∧ shorter ≤ interval := by
  -- the limit that called for the interval has not been raised
  have hlimit : ∃ least, (tighter.maxIdleTime = some least ∨ tighter.maxLifeTime = some least) ∧
      least ≤ interval := by
    obtain hidle | hlife := limit_of_derivedInterval hderived
    · obtain ⟨least, hleast, hle⟩ := h.idle interval hidle
      exact ⟨least, .inl hleast, hle⟩
    · obtain ⟨least, hleast, hle⟩ := h.life interval hlife
      exact ⟨least, .inr hleast, hle⟩
  obtain ⟨least, hleast, hle⟩ := hlimit
  obtain ⟨shorter, hshorter, hshorterle⟩ := derivedInterval_le hleast
  exact ⟨shorter, hshorter, Nat.le_trans hshorterle hle⟩

/-- What `Tightens` has the `sweepInterval` as it is if it is set by the `sweepOverride`, and
otherwise one that is not longer. -/
theorem interval_cases (h : tighter.Tightens config)
    (hinterval : config.sweepInterval = some interval) :
    (config.sweepOverride = some interval ∧ tighter.sweepInterval = some interval) ∨
    (config.sweepOverride = none ∧ ∃ shorter, tighter.derivedInterval = some shorter ∧
      shorter ≤ interval ∧ tighter.sweepInterval = (some shorter).filter (!·.isZero)) := by
  obtain ⟨⟨derived, hderived, hset⟩, hpos⟩ := sweepInterval_eq_some_iff.1 hinterval
  obtain ⟨shorter, hshorter, hle⟩ := h.derivedInterval hderived
  cases hoverride : config.sweepOverride with
  | some set =>
    rw [hoverride, Option.getD_some] at hset
    subst hset
    refine .inl ⟨rfl, sweepInterval_eq_some_iff.2 ⟨⟨shorter, hshorter, ?_⟩, hpos⟩⟩
    rw [h.sweepOverride, hoverride, Option.getD_some]
  | none =>
    rw [hoverride, Option.getD_none] at hset
    subst hset
    refine .inr ⟨rfl, shorter, hshorter, hle, ?_⟩
    rw [sweepInterval, hshorter, h.sweepOverride, hoverride]
    rfl

/-- What `Tightens` has no `sweepInterval` exactly if a limit is zero then and there is no
`sweepOverride`. -/
theorem sweepInterval_eq_none_iff (h : tighter.Tightens config)
    (hinterval : config.sweepInterval = some interval) :
    tighter.sweepInterval = none ↔ config.sweepOverride = none ∧
      (tighter.maxIdleTime = some .zero ∨ tighter.maxLifeTime = some .zero) := by
  rw [← derivedInterval_eq_zero_iff]
  obtain ⟨hset, hsweeps⟩ | ⟨hunset, shorter, hshorter, -, hsweeps⟩ := h.interval_cases hinterval
  · rw [hset, hsweeps]
    simp
  · obtain ⟨nanos⟩ := shorter
    rw [hunset, hsweeps, hshorter]
    simp [Option.filter, Duration.isZero, Duration.zero]

/-- Otherwise the `sweepInterval` is not longer than before. -/
theorem sweepInterval_le (h : tighter.Tightens config)
    (hinterval : config.sweepInterval = some interval) {shorter : Duration}
    (hshorter : tighter.sweepInterval = some shorter) : shorter ≤ interval := by
  obtain ⟨-, hsame⟩ | ⟨-, derived, -, hle, hsweeps⟩ := h.interval_cases hinterval
  · obtain rfl := Option.some.inj (hsame.symm.trans hshorter)
    exact Nat.le_refl _
  · rw [hsweeps] at hshorter
    obtain ⟨hsame, -⟩ := Option.filter_eq_some_iff.1 hshorter
    obtain rfl := Option.some.inj hsame
    exact hle

end Tightens

end Config

/-! ## What a sweep closes -/

/-- What is over a limit is over a lower limit. -/
theorem Lowers.any_lt {lower limit : Option Duration} (h : Lowers lower limit) {d : Duration}
    (hover : limit.any (decide <| · < d) = true) : lower.any (decide <| · < d) = true := by
  obtain ⟨max, hlimit, hmax⟩ := (Option.any_eq_true _ _).1 hover
  obtain ⟨least, hleast, hle⟩ := h max hlimit
  have hover' : least < d := Nat.lt_of_le_of_lt hle (of_decide_eq_true hmax)
  rw [hleast, Option.any_some]
  exact decide_eq_true hover'

namespace Config.Tightens

variable {config tighter : Config} {interval : Duration} {m : Moment}

/-- What `isReusable` under tighter limits is so without them. -/
theorem isReusable (h : tighter.Tightens config) {e : Entry}
    (husable : e.isReusable tighter m = true) : e.isReusable config m = true := by
  obtain ⟨hhealthy, hrested, hyoung⟩ := Entry.isReusable_iff.1 husable
  refine Entry.isReusable_iff.2 ⟨hhealthy, ?_, ?_⟩
  · rw [← Bool.not_eq_true] at hrested ⊢
    refine fun hover => hrested ?_
    obtain ⟨hidle, hlong⟩ := (Bool.and_eq_true _ _).mp hover
    exact (Bool.and_eq_true _ _).mpr ⟨hidle, h.idle.any_lt hlong⟩
  · rw [← Bool.not_eq_true] at hyoung ⊢
    exact fun hover => hyoung (h.life.any_lt hover)

/-- At any moment, a `sweep` closes all that it would close without the tighter limits. -/
theorem closesOf_sweep (h : tighter.Tightens config) (m : Moment) (s : Site) :
    (Site.closesOf (s.sweep config m).2.2).Sublist (Site.closesOf (s.sweep tighter m).2.2) := by
  cases hclosed : s.pool.closed with
  | true =>
    rw [Site.sweep, if_pos hclosed]
    exact List.nil_sublist _
  | false =>
    rw [Site.closesOf_sweep hclosed, Site.closesOf_sweep hclosed]
    refine List.Sublist.map _ (List.monotone_filter_right _ fun e hunusable => ?_)
    rw [Bool.not_eq_true', ← Bool.not_eq_true] at hunusable ⊢
    exact fun husable => hunusable (h.isReusable husable)

end Config.Tightens

/-! ## What is enforced in every scenario -/

namespace Scenario

variable {config tighter : Config} {outfit : Outfit} {interval : Duration} {s : Scenario}

/-- `Enforces config interval s`: sweeps at the interval enforce the limits of the configuration on
what is idle. -/
structure Enforces (config : Config) (interval : Duration) (s : Scenario) : Prop where
  /-- Every open pool that is kept alive is going to be swept within an interval, if the clock
  reaches that far. -/
  swept : (s.simulation.moment.now.add interval).Representable →
    ∀ site, s.simulation.isOpenAt site = true → ∃ id due, s.simulation.Asleep site id due ∧
      s.simulation.moment.now ≤ due ∧ due ≤ s.simulation.moment.now.add interval
  /-- Nothing has been idle for longer than the limit and an interval. -/
  idle : ∀ index, ∀ e ∈ s.idleAt index, ∀ max, config.maxIdleTime = some max →
    (e.info.idleFor s.simulation.moment.now).nanos ≤ max.nanos + interval.nanos
  /-- Nothing that is idle is older than the limit and an interval. -/
  life : ∀ index, ∀ e ∈ s.idleAt index, ∀ max, config.maxLifeTime = some max →
    (e.info.age s.simulation.moment.now).nanos ≤ max.nanos + interval.nanos

/-- Pools that have a `sweepInterval` enforce the limits of their configuration. -/
theorem enforces_of_reachable (hinterval : config.sweepInterval = some interval)
    (h : Reachable config outfit s) (hquiet : s.simulation.IsQuiet) :
    Enforces config interval s := by
  have htended := tended_of_reachable hinterval h
  -- what is idle at a site was fresh at its last sweep
  have hfresh : ∀ index, ∀ e ∈ s.idleAt index, ∃ (known : Site) (since : Instant),
      e ∈ known.pool.idle ∧ known.FreshAt config since ∧
        s.simulation.moment.now ≤ since.add interval := by
    intro index e he
    obtain ⟨p, hp, -⟩ := htended.tending.sound.supply
    obtain ⟨known, hknown, hopen, halive, hidle⟩ := mem_idleAt hp he
    obtain ⟨since, hfresh, hnow⟩ := htended.tending.fresh hquiet.queue hquiet.timers
      htended.inRange hp hknown hopen halive
    exact ⟨known, since, hidle, hfresh, hnow⟩
  refine ⟨fun hrange site hopen => htended.tending.asleep hquiet.queue hquiet.timers hrange hopen,
    fun index e he max hmax => ?_, fun index e he max hmax => ?_⟩
  · obtain ⟨known, since, hidle, hfresh, hnow⟩ := hfresh index e he
    exact hfresh.idleFor_le hnow hidle hmax
  · obtain ⟨known, since, hidle, hfresh, hnow⟩ := hfresh index e he
    exact hfresh.age_le hnow hidle hmax

/-- Whoever `Enforces` tighter limits enforces the others as well. -/
theorem Enforces.of_tightens (h : Enforces tighter interval s)
    (htightens : tighter.Tightens config) : Enforces config interval s := by
  refine ⟨h.swept, fun index e he max hmax => ?_, fun index e he max hmax => ?_⟩
  · obtain ⟨least, hleast, hle⟩ := htightens.idle max hmax
    exact Nat.le_trans (h.idle index e he least hleast) (Nat.add_le_add_right hle _)
  · obtain ⟨least, hleast, hle⟩ := htightens.life max hmax
    exact Nat.le_trans (h.life index e he least hleast) (Nat.add_le_add_right hle _)

/-- If a configuration `Tightens` another under which pools are swept at an interval, a `sweep`
closes all that it closed before. Unless a limit is zero and there is no `sweepOverride`, pools
still have a `sweepInterval` that is not longer, and every scenario `Enforces` both of the limits
that there were before. In the case excepted there are no sweeps. -/
theorem tightening_keeps_enforcing (htightens : tighter.Tightens config)
    (hinterval : config.sweepInterval = some interval) :
    (∀ m (s : Site),
      (Site.closesOf (s.sweep config m).2.2).Sublist (Site.closesOf (s.sweep tighter m).2.2)) ∧
    (¬ (config.sweepOverride = none ∧
        (tighter.maxIdleTime = some .zero ∨ tighter.maxLifeTime = some .zero)) →
      ∃ shorter, tighter.sweepInterval = some shorter ∧ shorter ≤ interval ∧
        ∀ outfit s, Reachable tighter outfit s → s.simulation.IsQuiet →
          Enforces tighter shorter s ∧ Enforces config shorter s) ∧
    (config.sweepOverride = none →
      (tighter.maxIdleTime = some .zero ∨ tighter.maxLifeTime = some .zero) →
      tighter.sweepInterval = none) := by
  refine ⟨htightens.closesOf_sweep, fun hswept => ?_, fun hunset hzero =>
    (htightens.sweepInterval_eq_none_iff hinterval).2 ⟨hunset, hzero⟩⟩
  rw [← htightens.sweepInterval_eq_none_iff hinterval, ← ne_eq, Option.ne_none_iff_exists']
    at hswept
  obtain ⟨shorter, hshorter⟩ := hswept
  refine ⟨shorter, hshorter, htightens.sweepInterval_le hinterval hshorter,
    fun outfit s h hquiet => ?_⟩
  have henforces := enforces_of_reachable hshorter h hquiet
  exact ⟨henforces, henforces.of_tightens htightens⟩

/-! ## Limits on age -/

/-- Connections may be idle for a second, and are not to become older than a given time. -/
def idleForASecondUntil (age : Duration) : Config :=
  { idleForASecond with maxLifeTime := some age }

theorem tightens_idleForASecondUntil (age : Duration) :
    (idleForASecondUntil age).Tightens idleForASecond :=
  ⟨rfl, fun max hmax => ⟨max, hmax, Nat.le_refl _⟩, nofun⟩

/-- A connection has been given back at the start, right after it was acquired. -/
def parkedUnder (config : Config) : Scenario :=
  ((perform (.drop "conn")).run (acquiredUnder config)).2

theorem reachable_parkedUnder (config : Config) :
    Reachable config promptOutfit (parkedUnder config) :=
  (reachable_acquiredUnder config).step (.command (.drop "conn") rfl)

/-- With a limit of half a second on the age, a pool is swept twice a second, and connections are
still not idle for long. -/
theorem tightening_keeps_enforcing_halfASecond :
    (idleForASecondUntil (.ofMillis 500)).Tightens idleForASecond ∧
    idleForASecond.sweepInterval = some (.ofMillis 1000) ∧
    (idleForASecondUntil (.ofMillis 500)).sweepInterval = some (.ofMillis 500) ∧
    (parkedUnder (idleForASecondUntil (.ofMillis 500))).idleAt 0 ≠ [] ∧
    Enforces idleForASecond (.ofMillis 500)
      (parkedUnder (idleForASecondUntil (.ofMillis 500))) := by
  have hquiet : (parkedUnder (idleForASecondUntil (.ofMillis 500))).simulation.IsQuiet :=
    ⟨by decide +kernel, by decide +kernel⟩
  have htightens := tightens_idleForASecondUntil (.ofMillis 500)
  have hinterval : idleForASecond.sweepInterval = some (.ofMillis 1000) := rfl
  obtain ⟨-, hsweeps, -⟩ := tightening_keeps_enforcing htightens hinterval
  obtain ⟨shorter, hshorter, -, henforces⟩ := hsweeps (by decide)
  -- the shorter limit gives the interval
  obtain rfl := Option.some.inj hshorter
  exact ⟨htightens, hinterval, rfl, by decide +kernel,
    (henforces promptOutfit _ (reachable_parkedUnder _) hquiet).2⟩

/-- The clock stops every second, three times. -/
def threeSecondsLater (s : Scenario) : Scenario :=
  [1000, 2000, 3000].foldl (fun s time => ((simulate (Simulation.stopAt time)).run s).2) s

/-- A connection that may be idle for a second is closed by the second sweep. With a limit of zero
on its age in addition, it is not, because nothing is swept any more. -/
theorem unswept :
    (idleForASecondUntil .zero).Tightens idleForASecond ∧
    idleForASecond.sweepInterval = some (.ofMillis 1000) ∧
    (idleForASecondUntil .zero).sweepInterval = none ∧
    (threeSecondsLater (parkedUnder idleForASecond)).simulation.isOpenAt 0 = true ∧
    (threeSecondsLater (parkedUnder idleForASecond)).idleAt 0 = [] ∧
    Reachable (idleForASecondUntil .zero) promptOutfit
      (threeSecondsLater (parkedUnder (idleForASecondUntil .zero))) ∧
    (threeSecondsLater (parkedUnder (idleForASecondUntil .zero))).simulation.IsQuiet ∧
    (threeSecondsLater (parkedUnder (idleForASecondUntil .zero))).simulation.tasks.length = 0 ∧
    ∃ e ∈ (threeSecondsLater (parkedUnder (idleForASecondUntil .zero))).idleAt 0,
      e.info.idleFor (threeSecondsLater
        (parkedUnder (idleForASecondUntil .zero))).simulation.moment.now = .ofMillis 3000 := by
  have hstopped : Reachable (idleForASecondUntil .zero) promptOutfit
      (threeSecondsLater (parkedUnder (idleForASecondUntil .zero))) :=
    (((reachable_parkedUnder _).stopAt (by decide +kernel) (by decide)).stopAt
      (by decide +kernel) (by decide)).stopAt (by decide +kernel) (by decide)
  exact ⟨tightens_idleForASecondUntil .zero, rfl, rfl, by decide +kernel, by decide +kernel,
    hstopped, ⟨by decide +kernel, by decide +kernel⟩, by decide +kernel, by decide +kernel⟩

end Scenario

end ConnectionPool
