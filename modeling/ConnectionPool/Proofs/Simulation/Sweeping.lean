import ConnectionPool.Proofs.Simulation.Tameness

/-!
# Sweeps that follow one another

The task that sweeps a pool is at every moment in one of three states: it has not run yet and stands
in the run queue; it sleeps, and its timer is set for the next sweep; or the timer has fired and it
stands in the run queue. The next sweep is due no later than an interval after an instant at which
nothing idle was stale, so whenever nobody is to run and no timer is due, nothing idle has been
stale for longer than the interval.

Programs that are tame leave this as it is. A sweep renews it, and ends it only if the pool has been
shut down or nothing keeps it alive.

## Main definitions

* `Tends`: a task sees to it that a site is swept in time.
* `TendedAt`: an open pool that is kept alive is looked after.

## Main results

* `Sweep.nextAhead_spec`: the next sweep is due at most an interval after the last.
* `TendedAt.carried`: tame programs leave pools looked after.
* `runSweep_spec`: so does the task that sweeps.
-/

namespace ConnectionPool

/-! ## The rhythm -/

/-- There is no `sweepInterval` of zero. -/
theorem Config.sweepInterval_pos {config : Config} {interval : Duration}
    (h : config.sweepInterval = some interval) : 0 < interval.nanos := by
  obtain ⟨-, hpos⟩ := Option.filter_eq_some_iff.1 h
  simpa [Duration.isZero, Nat.pos_iff_ne_zero] using hpos

/-- `hasFired` says that the timers have reached the millisecond of an instant, and so
the instant. -/
theorem Moment.hasFired_iff {m : Moment} {t : Instant} :
    m.hasFired t = true ↔ t ≤ .ofMillis m.firedMillis := by
  show decide (t.ceilMillis ≤ m.firedMillis) = true ↔
    t.nanos ≤ ((m.firedMillis * Duration.nanosPerMilli : Nat) : Int)
  rw [decide_eq_true_iff]
  simp only [Instant.ceilMillis, Duration.nanosPerMilli]
  omega

/-- Where a sum is not in the clock's range, `checkedAdd` finds none. -/
theorem Instant.checkedAdd_eq_none {t : Instant} {d : Duration} (h : t.checkedAdd d = none) :
    ¬ (t.add d).Representable := by
  unfold checkedAdd at h
  split at h
  · cases h
  · assumption

/-- What `checkedAdd` finds is the sum. -/
theorem Instant.checkedAdd_eq_some {t u : Instant} {d : Duration} (h : t.checkedAdd d = some u) :
    u = t.add d := by
  unfold checkedAdd at h
  split at h
  · exact (Option.some.inj h).symm
  · cases h

namespace Sweep

variable {interval : Duration} {m : Moment} {due : Instant}

/-- `nextAhead` is a time that the timers have not reached, at most an interval after the last
sweep, which was made now. -/
theorem nextAhead_spec (hpos : 0 < interval.nanos) (m : Moment) (due : Instant) :
    Instant.ofMillis m.firedMillis < nextAhead interval m due ∧
      nextAhead interval m due ≤ m.now.add interval := by
  have hreached : (Instant.ofMillis m.firedMillis).nanos ≤ m.now.nanos := m.fired_le
  rw [nextAhead]
  split
  · rename_i hlate
    rw [next, if_pos hlate]
    refine ⟨?_, Int.le_refl _⟩
    show (Instant.ofMillis m.firedMillis).nanos < m.now.nanos + interval.nanos
    omega
  · -- the due times are an interval apart, and one falls into the interval after what was reached
    have hpos' : (0 : Int) < interval.nanos := Int.natCast_pos.2 hpos
    have hle := Int.mul_ediv_self_le (x := (Instant.ofMillis m.firedMillis).nanos - due.nanos)
      (Int.ne_of_gt hpos')
    have hlt := Int.lt_mul_ediv_self_add (x := (Instant.ofMillis m.firedMillis).nanos - due.nanos)
      hpos'
    refine ⟨?_, ?_⟩
    · show (Instant.ofMillis m.firedMillis).nanos < due.nanos + interval.nanos *
        (((Instant.ofMillis m.firedMillis).nanos - due.nanos) / interval.nanos + 1)
      rw [Int.mul_add]
      omega
    · show due.nanos + interval.nanos *
        (((Instant.ofMillis m.firedMillis).nanos - due.nanos) / interval.nanos + 1) ≤
          m.now.nanos + interval.nanos
      rw [Int.mul_add]
      omega

/-- `first?` is an interval from now, at a time that the timers have not reached. -/
theorem first?_spec (hpos : 0 < interval.nanos) {first : Instant}
    (hfirst : first? m.now interval = some first) :
    first = m.now.add interval ∧ Instant.ofMillis m.firedMillis < first := by
  obtain rfl := Instant.checkedAdd_eq_some hfirst
  have hreached : (Instant.ofMillis m.firedMillis).nanos ≤ m.now.nanos := m.fired_le
  refine ⟨rfl, ?_⟩
  show (Instant.ofMillis m.firedMillis).nanos < m.now.nanos + interval.nanos
  omega

/-- An instant after those that the timers have reached has not been reached. -/
theorem not_hasFired (h : Instant.ofMillis m.firedMillis < due) : m.hasFired due = false := by
  by_contra hfired
  have hreached : due.nanos ≤ (Instant.ofMillis m.firedMillis).nanos :=
    Moment.hasFired_iff.1 (by simpa using hfired)
  exact Int.not_lt.2 hreached h

end Sweep

namespace Simulation

variable {config : Config} {own : Option Nat} {interval : Duration} {since : Instant}
  {s t : Simulation} {id site : Nat}

/-- At the same time, the same timers have fired. -/
theorem hasFired_congr (h : t.clock = s.clock) (due : Instant) :
    t.moment.hasFired due = s.moment.hasFired due := by
  show decide (due.ceilMillis ≤ t.clock.fired) = decide (due.ceilMillis ≤ s.clock.fired)
  rw [h]

/-! ## Looking after a pool -/

/-- `Ready id s`: the task is to run, or is running. -/
def Ready (id : Nat) (s : Simulation) : Prop := id ∈ s.queue ∨ s.running = some id

theorem Ready.undisturbed (h : s.Ready id) (hundisturbed : Undisturbed own s t) : t.Ready id :=
  h.imp (fun hqueue => hundisturbed.queue hqueue) hundisturbed.running.trans

/-- `Tends interval since site id s`: the task sees to it that the site is swept at most `interval`
after `since`. -/
inductive Tends (interval : Duration) (since : Instant) (site id : Nat) (s : Simulation) : Prop
  /-- The task is to run for the first time, now. -/
  | starting (hsweep : s.sweepOf? id = some (site, none)) (hready : s.Ready id)
      (hnow : since = s.moment.now)
  /-- The timer for the next sweep is set. -/
  | asleep {due : Instant} (hsweep : s.sweepOf? id = some (site, some due))
      (hdue : due ≤ since.add interval)
      (htimer : ⟨.task id, due.ceilMillis, .task id⟩ ∈ s.timers)
  /-- The timer has fired, and the task is to run. -/
  | woken {due : Instant} (hsweep : s.sweepOf? id = some (site, some due))
      (hfired : s.moment.hasFired due = true) (hready : s.Ready id)

/-- `Watched own interval since site s`: some task other than `own` `Tends` the site, or the clock
does not reach that far. -/
def Watched (own : Option Nat) (interval : Duration) (since : Instant) (site : Nat)
    (s : Simulation) : Prop :=
  (∃ id, own ≠ some id ∧ Tends interval since site id s) ∨
    (0 ≤ since.nanos ∧ ¬ (since.add interval).Representable)

/-- `TendedAt config own interval index s`: if the pool at the site is open and kept alive, there is
an instant at which nothing that is idle was stale, and the site is `Watched` since then. -/
def TendedAt (config : Config) (own : Option Nat) (interval : Duration) (index : Nat)
    (s : Simulation) : Prop :=
  ∀ p site, s.supply = .pooled p → p.sites[index]? = some site → site.pool.closed = false →
    p.isSiteAlive index = true →
      ∃ since ≤ s.moment.now, site.FreshAt config since ∧ s.Watched own interval since index

theorem Tends.sweepOf? (h : Tends interval since site id s) :
    ∃ due, s.sweepOf? id = some (site, due) := by
  cases h with
  | starting hsweep hready hnow => exact ⟨_, hsweep⟩
  | asleep hsweep hdue htimer => exact ⟨_, hsweep⟩
  | woken hsweep hfired hready => exact ⟨_, hsweep⟩

/-- What is `Undisturbed` leaves it to the task that `Tends` a site. -/
theorem Tends.undisturbed (h : Tends interval since site id s) (hsound : Sound config own s)
    (hother : own ≠ some id) (hundisturbed : Undisturbed own s t) :
    Tends interval since site id t := by
  obtain ⟨due, hsweep⟩ := h.sweepOf?
  have hlt := hsound.lt_of_sweepOf? hsweep
  have hstays := hundisturbed.sweeps id hlt hother
  cases h with
  | starting hsweep hready hnow =>
    exact .starting (hstays.trans hsweep) (hready.undisturbed hundisturbed)
      (hnow.trans hundisturbed.moment_now.symm)
  | asleep hsweep hdue htimer =>
    have hsome : (s.sweepOf? id).isSome = true := by rw [hsweep, Option.isSome_some]
    have hset := hundisturbed.timers id hlt hother hsome _ htimer rfl
    rw [hsweep] at hstays
    exact .asleep hstays hdue hset
  | @woken due hsweep hfired hready =>
    exact .woken (hstays.trans hsweep) ((hasFired_congr hundisturbed.clock due).trans hfired)
      (hready.undisturbed hundisturbed)

theorem Watched.undisturbed (h : s.Watched own interval since site) (hsound : Sound config own s)
    (hundisturbed : Undisturbed own s t) : t.Watched own interval since site := by
  obtain ⟨id, hother, htends⟩ | hnever := h
  · exact .inl ⟨id, hother, htends.undisturbed hsound hother hundisturbed⟩
  · exact .inr hnever

/-- A pool whose sweeps are `Due` is `Watched`. -/
theorem Due.watched (h : s.Due own site) : s.Watched own interval s.moment.now site := by
  obtain ⟨id, hother, hsweep, hqueue⟩ := h
  exact .inl ⟨id, hother, .starting hsweep (.inl hqueue) rfl⟩

/-- Where a site is `TendedAt`, it is so after all that is `Carried`. -/
theorem TendedAt.carried (h : TendedAt config own interval site s) (hsound : Sound config own s)
    (hcarried : Carried config own s t) : TendedAt config own interval site t := by
  intro q u hq hu hopen halive
  obtain ⟨p, hp, -⟩ := hsound.supply
  obtain ⟨r, hr, -, hupkept⟩ := hcarried.upkept p hp
  obtain rfl := Supply.pooled.inj (hq.symm.trans hr)
  rw [hcarried.moment_now]
  obtain ⟨known, hknown, hopen', halive', hstays⟩ | ⟨hdue, hfresh⟩ :=
    hupkept site u hu hopen halive
  · obtain ⟨since, hsince, hfresh, hwatched⟩ := h p known hp hknown hopen' halive'
    exact ⟨since, hsince, hstays since hsince hfresh,
      hwatched.undisturbed hsound hcarried.toUndisturbed⟩
  · refine ⟨s.moment.now, Int.le_refl _, hfresh _ (Int.le_refl _), ?_⟩
    rw [← hcarried.moment_now]
    exact hdue.watched

/-! ## A sweep -/

/-- A task that sweeps goes on to sweep its site after `setJob`, at a time of its own. -/
theorem sweepOf?_setSweep {due : Option Instant} (hsweep : s.sweepOf? id = some (site, due))
    (next : Option Instant) :
    ((setJob id (.sweep site next)).run s).2.sweepOf? id = some (site, next) := by
  have hid : ∀ task : Task, ({ task with job := .sweep site next } : Task).id = task.id :=
    fun _ => rfl
  have hchanged : ((setJob id (.sweep site next)).run s).2.task? id = _ :=
    task?_changeTask id hid id s
  rw [task?_of_sweepOf? hsweep, Option.map_some, beq_self_eq_true, if_pos rfl] at hchanged
  rw [sweepOf?, hchanged]

/-- The task goes on with the sweeps of its site. -/
theorem setSweep_carried (h : Sound config (some id) s) {due : Option Instant}
    (hsweep : s.sweepOf? id = some (site, due)) (next : Option Instant) :
    Carried config (some id) s ((setJob id (.sweep site next)).run s).2 ∧
      ((setJob id (.sweep site next)).run s).2.sweepOf? id = some (site, next) := by
  refine ⟨Carried.changeTask h (fun task => { task with job := .sweep site next }) (fun _ => rfl)
    fun hplain => ?_, sweepOf?_setSweep hsweep next⟩
  cases hsweep.symm.trans hplain

/-- The only timer for a key is set. -/
def setTimer (key : TimerKey) (wakeAt : Instant) (sleeper : Sleeper) (s : Simulation) :
    Simulation :=
  { s with timers := s.timers.filter (·.key != key) ++ [⟨key, wakeAt.ceilMillis, sleeper⟩] }

/-- The timer of `setTimer` is there. -/
theorem mem_timers_setTimer (key : TimerKey) (wakeAt : Instant) (sleeper : Sleeper)
    (s : Simulation) : ⟨key, wakeAt.ceilMillis, sleeper⟩ ∈ (s.setTimer key wakeAt sleeper).timers :=
  List.mem_append_right _ (List.mem_singleton.2 rfl)

/-- `sleepUntil` an instant that the timers have not reached is `setTimer`. -/
theorem sleepUntil_run {wakeAt : Instant} (h : s.moment.hasFired wakeAt = false) (key : TimerKey)
    (sleeper : Sleeper) :
    ((sleepUntil key wakeAt sleeper).run s).2 = s.setTimer key wakeAt sleeper := by
  have hcleared : (clearTimer key).run s =
      pure ((), { s with timers := s.timers.filter (·.key != key) }) := rfl
  have hnot :
      { s with timers := s.timers.filter (·.key != key) }.moment.hasFired wakeAt = false := h
  unfold sleepUntil
  rw [StateT.run_bind, hcleared, pure_bind, StateT.run_bind, StateT.run_get, pure_bind]
  dsimp only
  rw [hnot]
  rfl

/-- The sweeps of a site are over: its pool has been shut down, or is found not to be kept alive
when a sweep is due. -/
def IsOver (site : Nat) (due : Instant) (p : Provider) (s : Simulation) : Bool :=
  p.sites[site]?.all (·.pool.closed) || (s.moment.hasFired due && !p.isSiteAlive site)

/-- What `sweepWhenDue` does next. -/
theorem sweepWhenDue_run {p : Provider} {due : Instant} (hp : s.supply = .pooled p) :
    (sweepWhenDue id site interval due).run s =
      if s.IsOver site due p then
        (do clearTimer (.task id)
            change fun _ p => p.sweepEnded site
            removeTask id).run s
      else if s.moment.hasFired due then
        (do change fun m p => p.sweep m site
            setJob id (.sweep site (some (Sweep.nextAhead interval s.moment due)))
            discard
              (sleepUntil (.task id) (Sweep.nextAhead interval s.moment due) (.task id))).run s
      else (setJob id (.sweep site (some due))).run s := by
  unfold sweepWhenDue
  rw [StateT.run_bind, StateT.run_get, pure_bind]
  dsimp only
  rw [hp]
  dsimp only
  rw [IsOver]
  split
  · rfl
  · split <;> rfl

/-- `Asleep site id due s`: the task sleeps, and its timer is set. -/
structure Asleep (site id : Nat) (due : Instant) (s : Simulation) : Prop where
  /-- The next sweep is due then. -/
  sweep : s.sweepOf? id = some (site, some due)
  /-- The timer is set. -/
  timer : ⟨.task id, due.ceilMillis, .task id⟩ ∈ s.timers

theorem Sound.anyone (h : Sound config own s) : Sound config none s :=
  ⟨h.sweeps, h.supply, h.numbered, h.running, nofun⟩

/-- Ending the sweeps of a site is `Tame`, but for its own task. -/
theorem endSweeps_tame (id site : Nat) : Tame config (some id) (do
    clearTimer (.task id)
    change fun _ p => p.sweepEnded site
    removeTask id) :=
  .bind (clearTimer_tame (own_task id)) fun _ =>
    .bind (change_tame (fun _ => .sweepEnded site) (fun _ _ => rfl) (fun _ => rfl) nofun) fun _ =>
      removeTask_tame id

/-- After a sweep, the site is `FreshAt` its instant. -/
theorem freshAt_of_swept {p : Provider} (hp : Provider.Reachable config p) {m : Moment}
    (hknown : ∀ known, p.sites[site]? = some known → known.pool.closed = false →
      ∃ since, known.FreshAt config since) {t : Site}
    (ht : (p.step (.sweep m site)).1.sites[site]? = some t) (hopen : t.pool.closed = false) :
    t.FreshAt config m.now := by
  obtain ⟨hother, -⟩ | ⟨known, -, hsite, rfl⟩ := Provider.site_changeSite ht
  · exact absurd rfl hother
  · rw [(Provider.sound_of_reachable hp).settings] at hopen ⊢
    have hopen' : known.pool.closed = false := by
      by_contra hclosed
      cases hopen.symm.trans (Site.step_closed (by simpa using hclosed) (.sweep m))
    obtain ⟨since, hfresh⟩ := hknown known hsite hopen'
    exact Site.freshAt_sweep hfresh hopen' m

/-- One program after another starts where the first has come to. -/
theorem run_then {α : Type} (first : Sim Unit) (rest : Sim α) (s : Simulation) :
    ((do first; rest).run s).2 = (rest.run (first.run s).2).2 := rfl

/-- What a program answers does not matter for what it does. -/
theorem run_discard {α : Type} (program : Sim α) (s : Simulation) :
    ((discard program).run s).2 = (program.run s).2 := rfl

/-- The task goes on with the sweeps of its site, and sleeps until the next. -/
theorem sleepOn_spec (h : Sound config (some id) s) {due : Option Instant}
    (hsweep : s.sweepOf? id = some (site, due)) {next : Instant}
    (hnext : s.moment.hasFired next = false) {t : Simulation}
    (ht : t = ((do setJob id (.sweep site (some next))
                   discard (sleepUntil (.task id) next (.task id))).run s).2) :
    Carried config (some id) s t ∧ t.Asleep site id next := by
  obtain ⟨hset, hgoes⟩ := setSweep_carried h hsweep (some next)
  rw [run_then, run_discard] at ht
  generalize hwent : ((setJob id (.sweep site (some next))).run s).2 = went at ht hset hgoes
  have hnot : went.moment.hasFired next = false := by
    rw [hasFired_congr hset.clock]
    exact hnext
  have hslept := sleepUntil_tame (own_task id) next (.task id) _ hset.sound
  rw [← ht] at hslept
  rw [sleepUntil_run hnot] at ht
  refine ⟨hset.trans hslept, ?_⟩
  subst ht
  exact ⟨hgoes, mem_timers_setTimer _ _ _ _⟩

/-- A sweep leaves the sweeps of others alone, the pool fresh, and the task `Asleep` until
the next. -/
theorem renew_spec (h : Sound config (some id) s) {p : Provider} (hp : s.supply = .pooled p)
    {due : Option Instant} (hsweep : s.sweepOf? id = some (site, due))
    (halive : p.isSiteAlive site = true) {next : Instant}
    (hnext : s.moment.hasFired next = false) {t : Simulation}
    (ht : t = ((do change fun m p => p.sweep m site
                   setJob id (.sweep site (some next))
                   discard (sleepUntil (.task id) next (.task id))).run s).2) :
    Carried config (some id) s t ∧
      Carried config (some id) { s with supply := .pooled (p.step (.sweep s.moment site)).1 } t ∧
      t.Asleep site id next := by
  have hpermitted : p.Permitted (.sweep s.moment site) := by
    refine ⟨nofun, fun m other heq => ?_⟩
    obtain ⟨-, rfl⟩ := Provider.Event.sweep.inj heq
    exact halive
  have hlooks : ∀ look ∈ (Provider.Event.sweep s.moment site).looks, look = s.moment.now :=
    fun look => List.mem_singleton.1
  have hswept : ∀ {own : Option Nat}, Sound config own s →
      Carried config own s ((change fun m p => p.sweep m site).run s).2 := fun hsound =>
    changeReporting_carried hsound hp rfl hpermitted nofun hlooks
  have hperformed : Carried config (some id)
      { s with supply := .pooled (p.step (.sweep s.moment site)).1 }
      ((change fun m p => p.sweep m site).run s).2 := (changeReporting_performs () h hp rfl).1
  -- the change of the pool leaves the task what it was
  have hstill := ((hswept h.anyone).sweeps id (h.lt_of_sweepOf? hsweep) nofun).trans hsweep
  have hclock : ((change fun m p => p.sweep m site).run s).2.moment.hasFired next = false := by
    rw [hasFired_congr (hswept h).clock]
    exact hnext
  rw [run_then] at ht
  obtain ⟨hslept, hasleep⟩ := sleepOn_spec (hswept h).sound hstill hclock ht
  exact ⟨(hswept h).trans hslept, hperformed.trans hslept, hasleep⟩

/-! ## A task that sweeps -/

/-- The simulation after the run of a task. -/
def rested (s : Simulation) : Simulation := { s with running := none, isRewoken := false }

/-- When a task has run, what others have `Watched` they do as before. -/
theorem Watched.rested (h : s.Watched own interval since site)
    (hrunning : ∀ id, s.running = some id → own = some id) :
    s.rested.Watched none interval since site := by
  obtain ⟨id, hother, htends⟩ | hnever := h
  · have hready : s.Ready id → s.rested.Ready id := fun hready =>
      .inl (hready.resolve_right fun hid => hother (hrunning id hid))
    refine .inl ⟨id, nofun, ?_⟩
    cases htends with
    | starting hsweep hqueue hnow => exact .starting hsweep (hready hqueue) hnow
    | asleep hsweep hdue htimer => exact .asleep hsweep hdue htimer
    | woken hsweep hfired hqueue => exact .woken hsweep hfired (hready hqueue)
  · exact .inr hnever

/-- When a task has run, pools that others look after are `TendedAt` as before. -/
theorem TendedAt.rested (h : TendedAt config own interval site s)
    (hrunning : ∀ id, s.running = some id → own = some id) :
    TendedAt config none interval site s.rested := by
  intro p u hp hu hopen halive
  obtain ⟨since, hsince, hfresh, hwatched⟩ := h p u hp hu hopen halive
  exact ⟨since, hsince, hfresh, hwatched.rested hrunning⟩

/-- `Awaits config interval site id due s`: the pool of the site is looked after by another task, or
the running task looks after it, as a sweep is due, or the timer for the next one is set. -/
def Awaits (config : Config) (interval : Duration) (site id : Nat) (due : Instant)
    (s : Simulation) : Prop :=
  ∀ p known, s.supply = .pooled p → p.sites[site]? = some known → known.pool.closed = false →
    p.isSiteAlive site = true → ∃ since ≤ s.moment.now, known.FreshAt config since ∧
      (s.Watched (some id) interval since site ∨ s.moment.hasFired due = true ∨
        (due ≤ since.add interval ∧ ⟨.task id, due.ceilMillis, .task id⟩ ∈ s.timers))

/-- The site of a task that is `Asleep` is `Watched`. -/
theorem Asleep.watched {due : Instant} (h : s.Asleep site id due)
    (hdue : due ≤ since.add interval) :
    s.rested.Watched none interval since site :=
  .inl ⟨id, nofun, .asleep h.sweep hdue h.timer⟩

/-- When a task has run, a pool is `TendedAt` if it is new, or if it was there before and is. -/
theorem Carried.tendedAt_rested (h : Carried config (some id) s t)
    (hsound : Sound config (some id) s) (hrunning : s.running = some id)
    (hold : ∀ p known, s.supply = .pooled p → p.sites[site]? = some known →
      known.pool.closed = false → p.isSiteAlive site = true →
        ∃ since ≤ s.moment.now, known.FreshAt config since ∧
          t.rested.Watched none interval since site) :
    TendedAt config none interval site t.rested := by
  intro q u hq hu hopen halive
  obtain ⟨p, hp, -⟩ := hsound.supply
  obtain ⟨r, hr, -, hupkept⟩ := h.upkept p hp
  obtain rfl := Supply.pooled.inj (hq.symm.trans hr)
  have hnow : t.rested.moment.now = s.moment.now := h.moment_now
  rw [hnow]
  obtain ⟨known, hknown, hopen', halive', hstays⟩ | ⟨hdue, hfresh⟩ :=
    hupkept site u hu hopen halive
  · obtain ⟨since, hsince, hfresh, hwatched⟩ := hold p known hp hknown hopen' halive'
    exact ⟨since, hsince, hstays since hsince hfresh, hwatched⟩
  · refine ⟨s.moment.now, Int.le_refl _, hfresh _ (Int.le_refl _), ?_⟩
    rw [← hnow]
    exact hdue.watched.rested fun other hother => (h.running.trans hrunning).symm.trans hother

/-- `sweepWhenDue` leaves all other sweeps alone, and its own pool looked after. -/
theorem sweepWhenDue_spec (h : Sound config (some id) s) (hrunning : s.running = some id)
    (hpos : 0 < interval.nanos) {known : Option Instant}
    (hsweep : s.sweepOf? id = some (site, known)) {due : Instant}
    (hawaits : Awaits config interval site id due s) {t : Simulation}
    (ht : t = ((sweepWhenDue id site interval due).run s).2) :
    Carried config (some id) s t ∧ TendedAt config none interval site t.rested := by
  obtain ⟨p, hp, hreachable⟩ := h.supply
  rw [sweepWhenDue_run hp] at ht
  split at ht
  · -- the pool has been shut down, or nothing keeps it alive
    rename_i hover
    have hended : Carried config (some id) s t := ht ▸ endSweeps_tame id site s h
    refine ⟨hended, hended.tendedAt_rested h hrunning fun q known hq hknown hopen halive => ?_⟩
    obtain rfl := Supply.pooled.inj (hp.symm.trans hq)
    simp [IsOver, hknown, hopen, halive] at hover
  · rename_i hgoes
    split at ht
    · -- a sweep is due
      rename_i hfired
      have halive : p.isSiteAlive site = true := by
        by_contra hdead
        simp [IsOver, hfired, hdead] at hgoes
      obtain ⟨hahead, hnext⟩ := Sweep.nextAhead_spec hpos s.moment due
      obtain ⟨hcarried, hswept, hasleep⟩ :=
        renew_spec h hp hsweep halive (Sweep.not_hasFired hahead) ht
      have hsound : Sound config (some id)
          { s with supply := .pooled (p.step (.sweep s.moment site)).1 } :=
        ⟨h.sweeps, ⟨_, rfl, hreachable.step _⟩, h.numbered, h.running, h.own⟩
      refine ⟨hcarried, hswept.tendedAt_rested hsound hrunning fun q u hq hu hopen _ => ?_⟩
      obtain rfl := Supply.pooled.inj hq
      refine ⟨s.moment.now, Int.le_refl _, ?_, hasleep.watched hnext⟩
      refine freshAt_of_swept hreachable (fun known hknown hopen => ?_) hu hopen
      obtain ⟨since, -, hfresh, -⟩ := hawaits p known hp hknown hopen halive
      exact ⟨since, hfresh⟩
    · -- the task was woken too early
      rename_i hwaits
      obtain ⟨hset, hgoes'⟩ := setSweep_carried h hsweep (some due)
      rw [← ht] at hset hgoes'
      refine ⟨hset, hset.tendedAt_rested h hrunning fun q known hq hknown hopen halive => ?_⟩
      obtain ⟨since, hsince, hfresh, hwatched | hfired | ⟨hdue, htimer⟩⟩ :=
        hawaits q known hq hknown hopen halive
      · refine ⟨since, hsince, hfresh, ?_⟩
        refine (hwatched.undisturbed h hset.toUndisturbed).rested fun other hother => ?_
        exact (hset.running.trans hrunning).symm.trans hother
      · exact absurd hfired hwaits
      · have hasleep : t.Asleep site id due := ⟨hgoes', ht ▸ htimer⟩
        exact ⟨since, hsince, hfresh, hasleep.watched hdue⟩

/-- Who has a site `Watched` is the given task or another. -/
theorem Watched.split (h : s.Watched none interval since site) (id : Nat) :
    s.Watched (some id) interval since site ∨ Tends interval since site id s := by
  obtain ⟨other, -, htends⟩ | hnever := h
  · by_cases hid : id = other
    · exact .inr (hid ▸ htends)
    · exact .inl (.inl ⟨other, fun heq => hid (Option.some.inj heq), htends⟩)
  · exact .inl (.inr hnever)

/-- A program that asks for the `sweepInterval` is told it. -/
theorem sweeper_run {p : Provider} (hp : s.supply = .pooled p)
    (hinterval : p.config.sweepInterval = some interval) (stop : Sim Unit)
    (again : Duration → Instant → Sim Unit) (first : Simulation → Duration → Sim Unit)
    (due : Option Instant) :
    StateT.run (do
      let s ← get
      match s.supply with
      | .direct _ => stop
      | .pooled p =>
        match p.config.sweepInterval, due with
        | none, _ => stop
        | some interval, some due => again interval due
        | some interval, none => first s interval) s =
      (due.elim (first s interval) (again interval)).run s := by
  rw [StateT.run_bind, StateT.run_get, pure_bind]
  dsimp only
  rw [hp]
  dsimp only
  rw [hinterval]
  cases due <;> rfl

/-- `runSweep` of a task that has run before is `sweepWhenDue`. -/
theorem runSweep_some {p : Provider} (hp : s.supply = .pooled p)
    (hinterval : p.config.sweepInterval = some interval) (due : Instant) :
    (runSweep id site (some due)).run s = (sweepWhenDue id site interval due).run s := by
  unfold runSweep
  refine (sweeper_run hp hinterval _ _ _ (some due)).trans ?_
  rw [Option.elim_some]

/-- `runSweep` of a task that has not run before. -/
theorem runSweep_none {p : Provider} (hp : s.supply = .pooled p)
    (hinterval : p.config.sweepInterval = some interval) {first : Option Instant}
    (hfirst : Sweep.first? s.moment.now interval = first) :
    (runSweep id site none).run s =
      (match first with
        | none => removeTask id
        | some first => do
          discard (sleepUntil (.task id) first (.task id))
          sweepWhenDue id site interval first).run s := by
  unfold runSweep
  -- the time of the first sweep stands behind a variable in the lemma: it cannot be evaluated
  refine (sweeper_run hp hinterval _ _ _ none).trans ?_
  cases first with
  | none => rw [Option.elim_none, hfirst]
  | some first => rw [Option.elim_none, hfirst]

/-- `runSweep` leaves all other sweeps alone, and its own pool looked after. -/
theorem runSweep_spec (h : Sound config (some id) s) (hrunning : s.running = some id)
    (hinterval : config.sweepInterval = some interval) {due : Option Instant}
    (hsweep : s.sweepOf? id = some (site, due)) (htended : TendedAt config none interval site s)
    {t : Simulation} (ht : t = ((runSweep id site due).run s).2) :
    Carried config (some id) s t ∧ TendedAt config none interval site t.rested := by
  obtain ⟨p, hp, hreachable⟩ := h.supply
  have hpos := Config.sweepInterval_pos hinterval
  rw [← (Provider.sound_of_reachable hreachable).settings] at hinterval
  cases due with
  | some due =>
    rw [runSweep_some hp hinterval] at ht
    refine sweepWhenDue_spec h hrunning hpos hsweep (fun q known hq hknown hopen halive => ?_) ht
    obtain ⟨since, hsince, hfresh, hwatched⟩ := htended q known hq hknown hopen halive
    refine ⟨since, hsince, hfresh, (hwatched.split id).imp_right fun htends => ?_⟩
    cases htends with
    | starting hstarting => cases hsweep.symm.trans hstarting
    | asleep hasleep hdue htimer =>
      cases hsweep.symm.trans hasleep
      exact .inr ⟨hdue, htimer⟩
    | woken hwoken hfired =>
      cases hsweep.symm.trans hwoken
      exact .inl hfired
  | none =>
    -- only a task that has just been started has not run before
    have hstarting : ∀ since, Tends interval since site id s → since = s.moment.now := by
      intro since htends
      cases htends with
      | starting _ _ hnow => exact hnow
      | asleep hasleep => cases hsweep.symm.trans hasleep
      | woken hwoken => cases hsweep.symm.trans hwoken
    cases hfirst : Sweep.first? s.moment.now interval with
    | none =>
      -- the clock does not reach as far as the first sweep
      rw [runSweep_none hp hinterval hfirst] at ht
      have hended : Carried config (some id) s t := ht ▸ removeTask_tame id s h
      refine ⟨hended, hended.tendedAt_rested h hrunning fun q known hq hknown hopen halive => ?_⟩
      obtain ⟨since, hsince, hfresh, hwatched⟩ := htended q known hq hknown hopen halive
      refine ⟨since, hsince, hfresh, ?_⟩
      obtain hothers | htends := hwatched.split id
      · refine (hothers.undisturbed h hended.toUndisturbed).rested fun other hother => ?_
        exact (hended.running.trans hrunning).symm.trans hother
      · obtain rfl := hstarting since htends
        exact .inr ⟨Int.natCast_nonneg _, Instant.checkedAdd_eq_none hfirst⟩
    | some first =>
      rw [runSweep_none hp hinterval hfirst] at ht
      obtain ⟨heq, hahead⟩ := Sweep.first?_spec hpos hfirst
      have hrun := sleepUntil_run (Sweep.not_hasFired hahead) (.task id) (.task id)
      have hslept := sleepUntil_tame (own_task id) first (.task id) s h
      rw [hrun] at hslept
      rw [run_then, run_discard, hrun] at ht
      have hawaits : Awaits config interval site id first
          (s.setTimer (.task id) first (.task id)) := by
        intro q known hq hknown hopen halive
        obtain ⟨since, hsince, hfresh, hwatched⟩ := htended q known hq hknown hopen halive
        refine ⟨since, hsince, hfresh, ?_⟩
        obtain hothers | htends := hwatched.split id
        · exact .inl (hothers.undisturbed h hslept.toUndisturbed)
        · rw [hstarting since htends, ← heq]
          exact .inr (.inr ⟨Int.le_refl _, mem_timers_setTimer _ _ _ _⟩)
      obtain ⟨hcarried, htended'⟩ :=
        sweepWhenDue_spec hslept.sound hrunning hpos hsweep hawaits ht
      exact ⟨hslept.trans hcarried, htended'⟩

end Simulation

end ConnectionPool
