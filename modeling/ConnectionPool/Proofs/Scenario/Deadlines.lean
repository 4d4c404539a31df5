import ConnectionPool.Proofs.Scenario.Staleness

/-!
# Times that the clock cannot show

A configuration may hold durations longer than the clock can count. A queued acquisition and a grace
period that would end beyond the clock's range end thirty years from now instead. The first sweep of
a pool has no such way out: where it would come beyond the clock's range, the task that is to sweep
the pool is gone before its first sweep, without a word, and the pool is never swept.

## Main definitions

* `Simulation.isOpenAt`: there is an open pool at a site, and something keeps it alive.

## Main results

* `Instant.deadline_spec`: a deadline is in the clock's range and not in the past.
* `Simulation.runSweep_first`: the first run of a task that sweeps.
* `Scenario.only_first_sweep_overflows`: no time is out of range, except that of a first sweep.
* `Scenario.never_swept`: a pool that is never swept.
-/

namespace ConnectionPool

namespace Instant

variable {t : Instant} {d : Duration}

theorem le_add (t : Instant) (d : Duration) : t ≤ t.add d := by
  show t.nanos ≤ t.nanos + d.nanos
  omega

theorem add_le_add {u : Instant} (h : t ≤ u) (d : Duration) : t.add d ≤ u.add d :=
  Int.add_le_add_right h d.nanos

/-- `first?` is an interval from now if the clock reaches that far. -/
theorem first?_of_representable (h : (t.add d).Representable) :
    Sweep.first? t d = some (t.add d) := by
  rw [Sweep.first?, checkedAdd, if_pos h]

/-- Otherwise `first?` finds no time for a sweep. -/
theorem first?_of_not_representable (h : ¬ (t.add d).Representable) : Sweep.first? t d = none := by
  rw [Sweep.first?, checkedAdd, if_neg h]

/-- A `deadline` is `Representable` if the clock is thirty years away from the end of its range, and
it is never in the past. -/
theorem deadline_spec (h : (t.add .farFuture).Representable) (d : Duration) :
    (t.deadline d).Representable ∧ t ≤ t.deadline d := by
  rw [deadline, checkedAdd]
  by_cases hsum : (t.add d).Representable
  · rw [if_pos hsum]
    exact ⟨hsum, le_add t d⟩
  · rw [if_neg hsum]
    exact ⟨h, le_add t .farFuture⟩

end Instant

namespace Site

variable {config : Config} {m : Moment} {s : Site}

/-- An acquisition that `acquire` queues may wait until its `deadline`, counted from now. -/
theorem deadline_of_acquire {id : Nat} {deadline : Instant}
    (h : (s.acquire config m).1 = .ok (.request id deadline)) :
    deadline = m.now.deadline config.acquireTimeout := by
  obtain ⟨-, ⟨hopening, -⟩ | ⟨hrequest, -⟩ | ⟨⟨lease, hlease⟩ | ⟨error, herror⟩, -⟩⟩ :=
    acquire_tickets config m s
  · cases hopening.symm.trans h
  · cases hrequest.symm.trans h
    rfl
  · cases hlease.symm.trans h
  · cases herror.symm.trans h

/-- `pollDrain` that looks at a pool for the first time, and falls asleep until the grace period is
over, counts it from now. -/
theorem graceEnd_of_pollDrain {graceEnd : Instant} {graceOver changed : Bool}
    (hfirst : s.drain = .unobserved)
    (h : (s.pollDrain config m).1.drain = .waiting (some graceEnd) graceOver changed) :
    ∃ grace, config.disposeGrace = some grace ∧ graceEnd = m.now.deadline grace := by
  rw [(Looks.first hfirst).pollDrain] at h
  obtain ⟨-, heq⟩ | ⟨-, heq⟩ := look_cases m (fun _ => rfl) s
  · rw [heq] at h
    cases h
  · rw [heq] at h
    obtain ⟨hend, -, -⟩ := Drain.waiting.inj h
    split at hend
    · cases hend
    · obtain ⟨grace, hgrace, heq⟩ := Option.map_eq_some_iff.mp hend
      exact ⟨grace, hgrace, heq.symm⟩

end Site

namespace Simulation

variable {config : Config} {interval : Duration} {s : Simulation} {p : Provider} {id site : Nat}

/-- There is an open pool at a site, and something keeps it alive. -/
def isOpenAt (site : Nat) (s : Simulation) : Bool :=
  match s.supply with
  | .pooled p => p.sites[site]?.any (!·.pool.closed) && p.isSiteAlive site
  | .direct _ => false

theorem exists_of_isOpenAt (hp : s.supply = .pooled p) (h : s.isOpenAt site = true) :
    ∃ known, p.sites[site]? = some known ∧ known.pool.closed = false ∧
      p.isSiteAlive site = true := by
  rw [isOpenAt, hp] at h
  obtain ⟨hany, halive⟩ := (Bool.and_eq_true _ _).mp h
  obtain ⟨known, hknown, hopen⟩ := (Option.any_eq_true _ _).mp hany
  exact ⟨known, hknown, by simpa using hopen, halive⟩

/-- `runSweep` of a task that has not run before sets the timer for its first sweep, an interval
from now. If the clock does not reach that far, the task is gone, and nothing else has happened. -/
theorem runSweep_first (hp : s.supply = .pooled p)
    (hinterval : p.config.sweepInterval = some interval)
    (hsweep : s.sweepOf? id = some (site, none)) (hopen : s.isOpenAt site = true) :
    ((s.moment.now.add interval).Representable ∧
      ((runSweep id site none).run s).2.Asleep site id (s.moment.now.add interval)) ∨
    (¬ (s.moment.now.add interval).Representable ∧
      ((runSweep id site none).run s).2 = { s with tasks := s.tasks.filter (·.id != id) }) := by
  by_cases hrange : (s.moment.now.add interval).Representable
  · refine .inl ⟨hrange, ?_⟩
    have hfirst := Instant.first?_of_representable hrange
    obtain ⟨known, hknown, hopen', -⟩ := exists_of_isOpenAt hp hopen
    obtain ⟨-, hahead⟩ := Sweep.first?_spec (Config.sweepInterval_pos hinterval) hfirst
    -- a first sweep stands behind a variable: it cannot be evaluated
    generalize s.moment.now.add interval = first at hfirst hahead ⊢
    have hnot : s.moment.hasFired first = false := Sweep.not_hasFired hahead
    have hslept := sleepUntil_run hnot (.task id) (.task id)
    generalize hasleep : s.setTimer (.task id) first (.task id) = asleep at hslept
    have hp' : asleep.supply = .pooled p := by
      rw [← hasleep]
      exact hp
    have hnot' : asleep.moment.hasFired first = false := by
      rw [← hasleep]
      exact hnot
    have hgoes : asleep.IsOver site first p = false := by
      rw [IsOver, hknown, Option.all_some, hopen', hnot']
      rfl
    rw [runSweep_none hp hinterval hfirst, run_then, run_discard, hslept, sweepWhenDue_run hp',
      hgoes, hnot', if_neg Bool.false_ne_true, if_neg Bool.false_ne_true]
    have hsweep' : asleep.sweepOf? id = some (site, none) := by
      rw [← hasleep]
      exact hsweep
    refine ⟨sweepOf?_setSweep hsweep' (some first), ?_⟩
    show _ ∈ asleep.timers
    rw [← hasleep]
    exact mem_timers_setTimer _ _ _ _
  · rw [runSweep_none hp hinterval (Instant.first?_of_not_representable hrange)]
    exact .inr ⟨hrange, rfl⟩

/-- When no task is to run and no timer is due, the task that sweeps an open pool is `Asleep` until
the next sweep, if the clock is an interval away from the end of its range. -/
theorem Tending.asleep (h : Tending config interval s) (hquiet : s.queue = [])
    (hdue : ∀ timer ∈ s.timers, s.clock.now < timer.due)
    (hrange : (s.moment.now.add interval).Representable) (hopen : s.isOpenAt site = true) :
    ∃ id due, s.Asleep site id due ∧ s.moment.now ≤ due ∧ due ≤ s.moment.now.add interval := by
  obtain ⟨p, hp, -⟩ := h.sound.supply
  obtain ⟨known, hknown, hopen', halive⟩ := exists_of_isOpenAt hp hopen
  obtain ⟨since, hsince, -, ⟨id, -, htends⟩ | ⟨hpos, hnever⟩⟩ :=
    h.tended site p known hp hknown hopen' halive
  · cases htends with
    | starting hsweep hready hnow => exact absurd hready (h.not_ready hquiet id)
    | @asleep due hsweep hnext htimer =>
      exact ⟨id, due, ⟨hsweep, htimer⟩, Instant.le_of_lt_ceilMillis (hdue _ htimer),
        Int.le_trans hnext (Instant.add_le_add hsince interval)⟩
    | woken hsweep hfired hready => exact absurd hready (h.not_ready hquiet id)
  · -- the clock reaches an interval beyond now, and so beyond any time before
    have hpast : (since.add interval).Representable :=
      hrange.of_le (Int.add_nonneg hpos (Int.natCast_nonneg _))
        (Instant.add_le_add hsince interval)
    exact absurd hpast hnever

end Simulation

namespace Scenario

open Simulation (runSweep)

/-- Where the clock is thirty years away from the end of its range, a queued acquisition and a first
look at a closed pool end up with a time that is `Representable` and not in the past. The first
sweep of a pool is set, not in the past either, exactly if the clock is an interval away from the
end of its range; otherwise the task that is to sweep is gone. So as long as the clock is an
interval away from the end of its range, every open pool that is kept alive is swept: when no task
is to run and no timer is due, some task is `Asleep` until the next sweep. -/
theorem only_first_sweep_overflows (config : Config) :
    (∀ (m : Moment) (s : Site) id deadline, (m.now.add .farFuture).Representable →
      (s.acquire config m).1 = .ok (.request id deadline) →
      deadline.Representable ∧ m.now ≤ deadline) ∧
    (∀ (m : Moment) (s : Site) graceEnd graceOver changed, (m.now.add .farFuture).Representable →
      s.drain = .unobserved →
      (s.pollDrain config m).1.drain = .waiting (some graceEnd) graceOver changed →
      graceEnd.Representable ∧ m.now ≤ graceEnd) ∧
    ∀ interval, config.sweepInterval = some interval →
      (∀ (s : Simulation) p id site, s.supply = .pooled p → p.config = config →
        s.sweepOf? id = some (site, none) → s.isOpenAt site = true →
        ((s.moment.now.add interval).Representable ∧
          ((runSweep id site none).run s).2.Asleep site id (s.moment.now.add interval) ∧
          s.moment.now ≤ s.moment.now.add interval) ∨
        (¬ (s.moment.now.add interval).Representable ∧
          ((runSweep id site none).run s).2 =
            { s with tasks := s.tasks.filter (·.id != id) })) ∧
      ∀ outfit s, Reachable config outfit s → s.simulation.IsQuiet →
        (s.simulation.moment.now.add interval).Representable →
        ∀ site, s.simulation.isOpenAt site = true →
        ∃ id due, s.simulation.Asleep site id due ∧ s.simulation.moment.now ≤ due ∧
          due ≤ s.simulation.moment.now.add interval := by
  refine ⟨?_, ?_, fun interval hinterval => ⟨?_, ?_⟩⟩
  · intro m s id deadline hroom h
    rw [Site.deadline_of_acquire h]
    exact Instant.deadline_spec hroom _
  · intro m s graceEnd graceOver changed hroom hfirst h
    obtain ⟨grace, -, rfl⟩ := Site.graceEnd_of_pollDrain hfirst h
    exact Instant.deadline_spec hroom grace
  · intro s p id site hp hconfig hsweep hopen
    obtain ⟨hrange, hasleep⟩ | hgone :=
      Simulation.runSweep_first hp (hconfig ▸ hinterval) hsweep hopen
    · exact .inl ⟨hrange, hasleep, Instant.le_add _ _⟩
    · exact .inr hgone
  · intro outfit s h hquiet hrange site hopen
    have htended := tended_of_reachable hinterval h
    exact htended.tending.asleep hquiet.queue hquiet.timers hrange hopen

/-! ## Configurations without hurry -/

/-- The longest duration of whole seconds. -/
def longest : Duration := .ofSeconds 18446744073709551615

/-- Callers wait as long as can be, and connections may be idle for a given time. -/
def unhurried (idle : Duration) : Config :=
  { name := "pool", maxConnections := .bounded 1 Nat.one_pos, maxPending := .unbounded,
    acquireTimeout := longest, maxIdleTime := some idle, maxLifeTime := none,
    disposeGrace := some longest, sweepOverride := none }

/-- A connection has been acquired, and all tasks have run. -/
def acquiredUnder (config : Config) : Scenario :=
  ((perform .settle).run ((perform (.acquire "conn" (.ofAddress "db:1") .poll none)).run
    (pooled config promptOutfit)).2).2

theorem reachable_acquiredUnder (config : Config) :
    Reachable config promptOutfit (acquiredUnder config) :=
  (Reachable.start.step (.command (.acquire "conn" (.ofAddress "db:1") .poll none) rfl)).step
    (.command .settle rfl)

/-- The only connection is with a caller, and another one waits. -/
def crowdedSite : Site :=
  (Site.fresh (.ofAddress "db:1")).run (unhurried (.ofMillis 1000)) Site.crowded

/-- The task that is to sweep the pool has not run yet. -/
def beforeFirstRun : Simulation :=
  { Simulation.ofSupply
      (.pooled ((Provider.ofConfig (unhurried (.ofMillis 1000))).run Provider.crowded))
      promptOutfit.transport [] false with
    tasks := [⟨0, .sweep 0 none, false⟩] }

/-- Callers that wait as long as can be wait for thirty years, and the pool is swept every
second. -/
theorem only_first_sweep_overflows_unhurried :
    (∃ deadline, (crowdedSite.acquire (unhurried (.ofMillis 1000)) (.atMillis 0)).1 =
        .ok (.request 2 deadline) ∧
      deadline.Representable ∧ (Moment.atMillis 0).now ≤ deadline) ∧
    (∃ graceEnd,
      (crowdedSite.shutDown.1.pollDrain (unhurried (.ofMillis 1000)) (.atMillis 0)).1.drain =
        .waiting (some graceEnd) false false ∧
      graceEnd.Representable ∧ (Moment.atMillis 0).now ≤ graceEnd) ∧
    ((runSweep 0 0 none).run beforeFirstRun).2.Asleep 0 0
      (beforeFirstRun.moment.now.add (.ofMillis 1000)) ∧
    ∃ id due, (acquiredUnder (unhurried (.ofMillis 1000))).simulation.Asleep 0 id due := by
  have hroom : ((Moment.atMillis 0).now.add .farFuture).Representable := by decide
  have hquiet : (acquiredUnder (unhurried (.ofMillis 1000))).simulation.IsQuiet :=
    ⟨by decide +kernel, by decide +kernel⟩
  obtain ⟨hrequest, hgrace, hsweeps⟩ := only_first_sweep_overflows (unhurried (.ofMillis 1000))
  obtain ⟨hfirst, hlater⟩ := hsweeps (.ofMillis 1000) rfl
  refine ⟨⟨_, rfl, hrequest _ crowdedSite 2 _ hroom rfl⟩,
    ⟨_, rfl, hgrace _ crowdedSite.shutDown.1 _ false false hroom rfl rfl⟩, ?_, ?_⟩
  · obtain ⟨-, hasleep, -⟩ | ⟨hnever, -⟩ :=
      hfirst beforeFirstRun _ 0 0 rfl (by decide +kernel) (by decide +kernel) (by decide +kernel)
    · exact hasleep
    · exact absurd (by decide +kernel) hnever
  · obtain ⟨id, due, hasleep, -⟩ := hlater promptOutfit _ (reachable_acquiredUnder _) hquiet
      (by decide +kernel) 0 (by decide +kernel)
    exact ⟨id, due, hasleep⟩

/-- A pool whose connections may be idle as long as can be is to be swept at that interval. No task
sweeps it, though it is open, and the clock is thirty years away from the end of its range. -/
theorem never_swept :
    (unhurried longest).sweepInterval = some longest ∧
    Reachable (unhurried longest) promptOutfit (acquiredUnder (unhurried longest)) ∧
    (acquiredUnder (unhurried longest)).simulation.IsQuiet ∧
    ((acquiredUnder (unhurried longest)).simulation.moment.now.add .farFuture).Representable ∧
    Sweep.first? (acquiredUnder (unhurried longest)).simulation.moment.now longest = none ∧
    (acquiredUnder (unhurried longest)).simulation.isOpenAt 0 = true ∧
    ∀ id due, (acquiredUnder (unhurried longest)).simulation.sweepOf? id ≠ some (0, due) := by
  have hnone : (acquiredUnder (unhurried longest)).simulation.tasks.length = 0 := by
    decide +kernel
  refine ⟨rfl, reachable_acquiredUnder _, ⟨by decide +kernel, by decide +kernel⟩,
    by decide +kernel, by decide +kernel, by decide +kernel, fun id due hsweep => ?_⟩
  have hmem := (Simulation.task?_eq_some_iff (Simulation.task?_of_sweepOf? hsweep)).1
  rw [List.eq_nil_of_length_eq_zero hnone] at hmem
  cases hmem

end Scenario

end ConnectionPool
