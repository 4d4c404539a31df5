import ConnectionPool.Proofs.Scenario.Upkeep

/-!
# How stale idle connections become

Pools that limit how long a connection is idle, or how old it is, are swept at an interval. Where
the clock is moved only when no task is to run, a connection stays idle past a limit for at most one
interval, however far the clock is moved at a time and however late the timers fire.

An idle connection can be over its limit even when no sweep is late: a sweep leaves a connection
that is within the limit or exactly at it, and the next one comes an interval later.

## Main definitions

* `Step`: what can happen in a scenario.
* `Reachable`: the scenarios that some steps lead to.

## Main results

* `tended_of_reachable`: every open pool that is kept alive is looked after.
* `idle_not_stale`: how stale idle connections are when no task is to run and no timer is due.
-/

namespace ConnectionPool

/-- No task is to run, and no timer is due. -/
structure Simulation.IsQuiet (s : Simulation) : Prop where
  /-- No task is to run. -/
  queue : s.queue = []
  /-- No timer is due. -/
  timers : ∀ timer ∈ s.timers, s.clock.now < timer.due

namespace Scenario

/-- The clock is moved forward to `time`, in whole milliseconds. -/
def pass (time : Nat) (s : Scenario) : Scenario :=
  { s with simulation := s.simulation.passed time }

/-- What is idle in the pool at a site, if the pool is open and something keeps it alive. A pool
that nothing keeps alive is no longer there, with all that was idle in it. -/
def idleAt (index : Nat) (s : Scenario) : List Entry :=
  match s.simulation.supply with
  | .pooled p =>
    (p.sites[index]?.filter fun site => !site.pool.closed && p.isSiteAlive index).elim []
      (·.pool.idle)
  | .direct _ => []

/-- `Step s t`: what can happen in a scenario whose clock is moved only when no task is to run. -/
inductive Step (s : Scenario) : Scenario → Prop
  /-- A command is given that does not move the clock. -/
  | command (command : Command) (hstill : command.movesClock = false) :
      Step s ((perform command).run s).2
  /-- The log is taken. -/
  | takeLog : Step s (takeLog.run s).2
  /-- The next task runs. -/
  | work : Step s ((simulate Simulation.runNext).run s).2
  /-- The timers that are due fire. -/
  | fire : Step s ((simulate Simulation.fireTimers).run s).2
  /-- The clock is moved, as far as it can show the time. -/
  | pass (time : Nat) (hquiet : s.simulation.queue = [])
      (hrange : (Instant.ofMillis time).Representable) :
      Step s (s.pass time)

/-- `Reachable config outfit s`: some steps lead to `s` from a scenario with a provider that has
just been made. -/
inductive Reachable (config : Config) (outfit : Outfit) : Scenario → Prop
  | start : Reachable config outfit (pooled config outfit)
  | step {s t : Scenario} : Reachable config outfit s → Step s t → Reachable config outfit t

variable {config : Config} {outfit : Outfit} {interval : Duration} {s t : Scenario}

/-! ## The passage of time in steps -/

/-- `stopAt` is made of steps. -/
theorem Reachable.stopAt (h : Reachable config outfit s) {time : Nat}
    (hquiet : s.simulation.queue = []) (hrange : (Instant.ofMillis time).Representable) :
    Reachable config outfit ((simulate (Simulation.stopAt time)).run s).2 :=
  ((h.step (.pass time hquiet hrange)).step .fire).step (.command .settle rfl)

/-- `jump` is made of steps. -/
theorem Reachable.jump (h : Reachable config outfit s) {millis : Nat}
    (hquiet : s.simulation.queue = [])
    (hrange : (Instant.ofMillis (s.simulation.clock.now + millis)).Representable) :
    Reachable config outfit ((perform (.jump millis)).run s).2 :=
  (((h.step (.pass _ hquiet hrange)).step (.command .settle rfl)).step .fire).step
    (.command .settle rfl)

/-! ## Every pool is looked after -/

theorem tended_pooled (hinterval : config.sweepInterval = some interval) (outfit : Outfit) :
    Tended config interval false (pooled config outfit) := by
  have hsound : Simulation.Sound config none (Simulation.ofSupply (.pooled (.ofConfig config))
      outfit.transport outfit.script outfit.isTracing) :=
    { sweeps := by rw [hinterval, Option.isSome_some]
      supply := ⟨_, rfl, .start⟩
      numbered := nofun
      running := nofun
      own := nofun }
  -- where there is no site, there is nothing to tend
  have hbegun : Tended config interval false (.ofSimulation (Simulation.ofSupply
      (.pooled (.ofConfig config)) outfit.transport outfit.script outfit.isTracing)) :=
    { tending := ⟨hsound, rfl, fun _ p site hp hsite => by
        obtain rfl := Supply.pooled.inj hp
        cases hsite⟩
      inRange := by
        show (Instant.ofMillis 0).Representable
        decide
      held := fun _ => ⟨_, rfl, rfl⟩
      plain := nofun
      asks := nofun }
  exact hbegun.carried (Simulation.trace_tame _ _ hsound)

/-- Every `Step` leaves a scenario `Tended`. -/
theorem Tended.step (h : Tended config interval false s)
    (hinterval : config.sweepInterval = some interval) (hstep : Step s t) :
    Tended config interval false t := by
  -- time passes only while nothing is left to do, and all else takes no time
  cases hstep with
  | command command hstill => exact perform_keeps hinterval hstill s h
  | takeLog =>
    have hkeeps : Keeps config interval false takeLog :=
      .bind .get fun _ => .bind (.simulate (.of_modify fun _ => rfl)) fun _ => .pure _
    exact hkeeps s h
  | work =>
    obtain ⟨htending, hlater⟩ := Simulation.runNext_spec h.tending hinterval
    exact h.later htending hlater
  | fire =>
    obtain ⟨htending, hlater⟩ := Simulation.fireTimers_spec h.tending
    exact h.later htending hlater
  | pass time hquiet hrange =>
    refine ⟨Simulation.passed_spec h.tending hquiet time, ?_, h.held, fun entry hentry id hid => ?_,
      h.asks⟩
    · show (Instant.ofMillis (max s.simulation.clock.now time)).Representable
      obtain hle | hle := Nat.le_total s.simulation.clock.now time
      · rw [Nat.max_eq_right hle]
        exact hrange
      · rw [Nat.max_eq_left hle]
        exact h.inRange
    · obtain ⟨hnumbered, hsweep⟩ := h.plain entry hentry id hid
      exact ⟨hnumbered, hsweep⟩

/-- Every `Reachable` scenario is `Tended`: every open pool that is kept alive is looked after. -/
theorem tended_of_reachable (hinterval : config.sweepInterval = some interval)
    (h : Reachable config outfit s) : Tended config interval false s := by
  induction h with
  | start => exact tended_pooled hinterval outfit
  | step _ hstep ih => exact ih.step hinterval hstep

theorem mem_idleAt {index : Nat} {p : Provider} {e : Entry} (hp : s.simulation.supply = .pooled p)
    (he : e ∈ s.idleAt index) : ∃ site, p.sites[index]? = some site ∧ site.pool.closed = false ∧
      p.isSiteAlive index = true ∧ e ∈ site.pool.idle := by
  unfold idleAt at he
  rw [hp] at he
  dsimp only at he
  cases hfound : p.sites[index]?.filter fun site => !site.pool.closed && p.isSiteAlive index with
  | none =>
    rw [hfound] at he
    cases he
  | some site =>
    rw [hfound] at he
    obtain ⟨hsite, hopen⟩ := Option.filter_eq_some_iff.1 hfound
    rw [Bool.and_eq_true, Bool.not_eq_true'] at hopen
    exact ⟨site, hsite, hopen.1, hopen.2, he⟩

/-- When a scenario `IsQuiet`, what is idle in an open pool has been so for at most `maxIdleTime`
and a `sweepInterval`, and is at most as old as `maxLifeTime` and a `sweepInterval`. The clock of a
`Simulation` shows whole milliseconds, and so `Step.pass` moves it by whole milliseconds only. -/
theorem idle_not_stale (hinterval : config.sweepInterval = some interval)
    (h : Reachable config outfit s) (hquiet : s.simulation.IsQuiet) {index : Nat} {e : Entry}
    (he : e ∈ s.idleAt index) :
    (∀ max, config.maxIdleTime = some max →
      (e.info.idleFor s.simulation.moment.now).nanos ≤ max.nanos + interval.nanos) ∧
    (∀ max, config.maxLifeTime = some max →
      (e.info.age s.simulation.moment.now).nanos ≤ max.nanos + interval.nanos) := by
  have htended := tended_of_reachable hinterval h
  obtain ⟨p, hp, -⟩ := htended.tending.sound.supply
  obtain ⟨site, hsite, hopen, halive, hidle⟩ := mem_idleAt hp he
  obtain ⟨since, hfresh, hnow⟩ :=
    htended.tending.fresh hquiet.queue hquiet.timers htended.inRange hp hsite hopen halive
  exact ⟨fun max hmax => hfresh.idleFor_le hnow hidle hmax,
    fun max hmax => hfresh.age_le hnow hidle hmax⟩

/-- A connection may be idle for a second, and so pools are swept every second. -/
def idleForASecond : Config :=
  { name := "pool", maxConnections := .bounded 1 (by decide), maxPending := .unbounded,
    acquireTimeout := .zero, maxIdleTime := some (.ofMillis 1000), maxLifeTime := none,
    disposeGrace := none, sweepOverride := none }

/-- A transport that takes no time. -/
def promptOutfit : Outfit := ⟨.ofLatencies .zero .zero [], [], false⟩

/-- A connection has been acquired at the start, and the sweeps of its pool have started. -/
def justAcquired : Scenario :=
  ((perform .settle).run ((perform (.acquire "conn" (.ofAddress "db:1") .poll none)).run
    (pooled idleForASecond promptOutfit)).2).2

/-- It has been given back after half a second. -/
def parkedHalfway : Scenario := ((perform (.drop "conn")).run (justAcquired.pass 500)).2

/-- The sweep after a second has left it. -/
def sweptOnce : Scenario := ((simulate (Simulation.stopAt 1000)).run parkedHalfway).2

/-- The next sweep is still to come. -/
def beforeSecondSweep : Scenario := sweptOnce.pass 1900

theorem reachable_beforeSecondSweep : Reachable idleForASecond promptOutfit beforeSecondSweep := by
  have hacquired : Reachable idleForASecond promptOutfit justAcquired :=
    (Reachable.start.step (.command (.acquire "conn" (.ofAddress "db:1") .poll none) rfl)).step
      (.command .settle rfl)
  have hparked : Reachable idleForASecond promptOutfit parkedHalfway :=
    (hacquired.step (.pass 500 (by decide +kernel) (by decide))).step (.command (.drop "conn") rfl)
  have hswept : Reachable idleForASecond promptOutfit sweptOnce :=
    hparked.stopAt (by decide +kernel) (by decide)
  exact hswept.step (.pass 1900 (by decide +kernel) (by decide))

/-- Before the second sweep, the connection is over its limit, but not by an interval. -/
theorem idle_not_stale_beforeSecondSweep :
    ∃ e ∈ beforeSecondSweep.idleAt 0,
      1000000000 < (e.info.idleFor beforeSecondSweep.simulation.moment.now).nanos ∧
      (e.info.idleFor beforeSecondSweep.simulation.moment.now).nanos ≤ 2000000000 := by
  have hquiet : beforeSecondSweep.simulation.IsQuiet := ⟨by decide +kernel, by decide +kernel⟩
  have hover : ∃ e ∈ beforeSecondSweep.idleAt 0,
      1000000000 < (e.info.idleFor beforeSecondSweep.simulation.moment.now).nanos := by
    decide +kernel
  obtain ⟨e, he, hlonger⟩ := hover
  refine ⟨e, he, hlonger, ?_⟩
  exact (idle_not_stale rfl reachable_beforeSecondSweep hquiet he).1 (.ofMillis 1000) rfl

end Scenario

end ConnectionPool
