import ConnectionPool.Proofs.Simulation.Sweeping
import ConnectionPool.Simulation.Time

/-!
# Runs of tasks and the passage of time

Whatever task runs next, whichever timers fire, and however far the clock moves while nobody is to
run: every open pool that is kept alive stays looked after.
-/

namespace ConnectionPool

namespace Instant

/-- An instant whose `ceilMillis` is still to come is still to come. -/
theorem le_of_lt_ceilMillis {millis : Nat} {due : Instant} (h : millis < due.ceilMillis) :
    ofMillis millis ≤ due := by
  show ((millis * Duration.nanosPerMilli : Nat) : Int) ≤ due.nanos
  simp only [ceilMillis, Duration.nanosPerMilli] at h ⊢
  omega

/-- What lies between the clock's origin and an instant that is `Representable` is so. -/
theorem Representable.of_le {t u : Instant} (h : u.Representable) (hpos : 0 ≤ t.nanos)
    (hle : t ≤ u) : t.Representable := by
  have hsecond : (0 : Int) < Duration.nanosPerSecond := by decide
  have hseconds : t.nanos / Duration.nanosPerSecond ≤ u.nanos / Duration.nanosPerSecond :=
    Int.ediv_le_ediv hsecond hle
  have hnonneg := Int.ediv_nonneg hpos (Int.le_of_lt hsecond)
  refine ⟨Int.le_trans ?_ hnonneg, Int.lt_of_le_of_lt hseconds h.2⟩
  decide

end Instant

namespace Simulation

variable {config : Config} {own : Option Nat} {interval : Duration} {s t : Simulation}
  {id site : Nat}

/-- `Tending config interval s`: between two runs of tasks, every open pool that is kept alive is
looked after. -/
structure Tending (config : Config) (interval : Duration) (s : Simulation) : Prop where
  /-- The pools are those of a provider, and the tasks are numbered. -/
  sound : Sound config none s
  /-- No task is running. -/
  idle : s.running = none
  /-- Every pool is looked after. -/
  tended : ∀ site, TendedAt config none interval site s

/-- `Later s t`: on the way from `s` to `t`, the clock is not moved, whoever holds the provider goes
on to, and no task becomes one that sweeps. -/
structure Later (s t : Simulation) : Prop where
  /-- The clock is not moved. -/
  now : t.clock.now = s.clock.now
  /-- Numbers are given once. -/
  nextTask : s.nextTask ≤ t.nextTask
  /-- No task becomes one that sweeps. -/
  plain : ∀ id < s.nextTask, s.sweepOf? id = none → t.sweepOf? id = none
  /-- Whoever holds the provider goes on to. -/
  held : ∀ p, s.supply = .pooled p → p.isHeld = true →
    ∃ q, t.supply = .pooled q ∧ q.isHeld = true

/-- `Plain id s`: the task has a number, and sweeps nothing. -/
structure Plain (id : Nat) (s : Simulation) : Prop where
  /-- It has a number. -/
  numbered : id < s.nextTask
  /-- It sweeps nothing. -/
  sweepOf? : s.sweepOf? id = none

theorem Plain.later (h : s.Plain id) (hlater : Later s t) : t.Plain id :=
  ⟨Nat.lt_of_lt_of_le h.numbered hlater.nextTask, hlater.plain id h.numbered h.sweepOf?⟩

theorem Later.refl (s : Simulation) : Later s s :=
  ⟨rfl, Nat.le_refl _, fun _ _ hplain => hplain, fun p hp hheld => ⟨p, hp, hheld⟩⟩

theorem Later.trans {u : Simulation} (h : Later s t) (hrest : Later t u) : Later s u := by
  refine ⟨hrest.now.trans h.now, Nat.le_trans h.nextTask hrest.nextTask, fun id hlt hplain => ?_,
    fun p hp hheld => ?_⟩
  · exact hrest.plain id (Nat.lt_of_lt_of_le hlt h.nextTask) (h.plain id hlt hplain)
  · obtain ⟨q, hq, hheld'⟩ := h.held p hp hheld
    exact hrest.held q hq hheld'

theorem Carried.later (h : Carried config own s t) : Later s t := by
  refine ⟨congrArg Clock.now h.clock, h.nextTask, h.plain, fun p hp hheld => ?_⟩
  obtain ⟨q, hq, hstays, -⟩ := h.upkept p hp
  exact ⟨q, hq, hstays hheld⟩

/-- `Tame` programs leave every pool looked after. -/
theorem Tending.tame {α : Type} {program : Sim α} (h : Tending config interval s)
    (htame : Tame config none program) : Tending config interval (program.run s).2 := by
  have hcarried := htame s h.sound
  exact ⟨hcarried.sound, hcarried.running.trans h.idle,
    fun site => (h.tended site).carried h.sound hcarried⟩

/-- What others look after is looked after. -/
theorem TendedAt.anyone (h : TendedAt config own interval site s) :
    TendedAt config none interval site s := by
  intro p known hp hknown hopen halive
  obtain ⟨since, hsince, hfresh, hwatched⟩ := h p known hp hknown hopen halive
  exact ⟨since, hsince, hfresh, hwatched.imp_left fun ⟨id, _, htends⟩ => ⟨id, nofun, htends⟩⟩

/-- A pool that a task does not sweep is `TendedAt` by another. -/
theorem TendedAt.others (h : TendedAt config none interval site s)
    (hnot : ∀ due, s.sweepOf? id ≠ some (site, due)) :
    TendedAt config (some id) interval site s := by
  intro p known hp hknown hopen halive
  obtain ⟨since, hsince, hfresh, hwatched⟩ := h p known hp hknown hopen halive
  refine ⟨since, hsince, hfresh, (hwatched.split id).resolve_right fun htends => ?_⟩
  obtain ⟨due, hsweep⟩ := htends.sweepOf?
  exact hnot due hsweep

/-! ## Tasks that sweep nothing -/

/-- A task that is to be dropped, or that has another job, sweeps nothing. -/
theorem sweepOf?_eq_none {task : Task} (htask : s.task? id = some task)
    (hplain : task.isAborted = true ∨ task.job.isSweep = false) : s.sweepOf? id = none := by
  rw [sweepOf?, htask]
  split
  · rename_i heq
    cases heq
    obtain hdropped | hjob := hplain
    · cases hdropped
    · cases hjob
  · rfl

theorem plain_of_task? {task : Task} (h : Sound config own s) (htask : s.task? id = some task)
    (hplain : task.isAborted = true ∨ task.job.isSweep = false) : s.Plain id := by
  refine ⟨?_, sweepOf?_eq_none htask hplain⟩
  obtain ⟨hmem, rfl⟩ := task?_eq_some_iff htask
  exact h.numbered task hmem

/-- A task that `spawn` starts with another job is `Plain`. -/
theorem plain_spawn {job : Job} (h : Sound config own s) (hjob : job.isSweep = false) :
    ((spawn job).run s).2.Plain s.nextTask := by
  have hbegun := Carried.withTask h job
  have hwoken := enqueue_tame s.nextTask _ hbegun.sound
  have hfound : (s.withTask job).task? s.nextTask = some ⟨s.nextTask, job, false⟩ := by
    rw [task?_withTask h, if_pos rfl]
  exact (plain_of_task? hbegun.sound hfound (.inr hjob)).later hwoken.later

/-- Programs that are `Tame` but for one task leave every pool looked after if that task
is `Plain`. -/
theorem Tending.tame_own {α : Type} {program : Sim α} (h : Tending config interval s)
    (hplain : s.Plain id) (htame : Tame config (some id) program) :
    Tending config interval (program.run s).2 ∧ Later s (program.run s).2 := by
  obtain ⟨hsweeps, hsupply, hnumbered, hrunning, -⟩ := h.sound
  have hsound : Sound config (some id) s := ⟨hsweeps, hsupply, hnumbered, hrunning,
    fun number hnumber => Option.some.inj hnumber ▸ hplain.numbered⟩
  have hcarried := htame s hsound
  refine ⟨⟨hcarried.sound.anyone, hcarried.running.trans h.idle, fun site => ?_⟩, hcarried.later⟩
  have hothers := (h.tended site).others fun due hsweep => by
    cases hplain.sweepOf?.symm.trans hsweep
  exact (hothers.carried hsound hcarried).anyone

/-! ## A run of a task -/

/-- A task from the head of the run queue has begun to run. -/
def begun (id : Nat) (rest : List Nat) (s : Simulation) : Simulation :=
  { s with queue := rest, running := some id, isRewoken := false }

/-- The run of a task is over; if it was woken meanwhile, it is to run again. -/
def afterRun (id : Nat) (s : Simulation) : Simulation :=
  if s.isRewoken && (s.task? id).isSome then ((enqueue id).run s.rested).2 else s.rested

theorem runNext_nil (h : s.queue = []) : runNext.run s = (false, s) := by
  unfold runNext
  rw [StateT.run_bind, StateT.run_get, pure_bind]
  dsimp only
  rw [h]
  rfl

/-- After the program of a task, its run is over as in `afterRun`. -/
theorem run_afterRun (program : Sim Unit) (id : Nat) (s : Simulation) :
    (StateT.run (do
      program
      let isRewoken := (← get).isRewoken
      modify fun s => { s with running := none, isRewoken := false }
      if isRewoken && ((← get).task? id).isSome then enqueue id
      return true) s).2 = afterRun id (program.run s).2 := by
  rw [run_then]
  generalize (program.run s).2 = t
  unfold afterRun
  rw [StateT.run_bind, StateT.run_get, pure_bind]
  dsimp only
  cases hagain : t.isRewoken && (t.task? id).isSome
  · rw [if_neg Bool.false_ne_true]
    show (StateT.run (if t.isRewoken && (t.task? id).isSome then do enqueue id; return true
      else pure true) t.rested).2 = t.rested
    rw [hagain]
    rfl
  · rw [if_pos rfl]
    show (StateT.run (if t.isRewoken && (t.task? id).isSome then do enqueue id; return true
      else pure true) t.rested).2 = ((enqueue id).run t.rested).2
    rw [hagain]
    rfl

theorem runNext_cons {rest : List Nat} (h : s.queue = id :: rest) :
    (runNext.run s).2 =
      afterRun id (((s.task? id).elim (pure ()) runTask).run (s.begun id rest)).2 := by
  unfold runNext
  rw [StateT.run_bind, StateT.run_get, pure_bind]
  dsimp only
  rw [h]
  dsimp only
  rw [run_then]
  cases s.task? id with
  | none => exact run_afterRun (pure ()) id (s.begun id rest)
  | some task => exact run_afterRun (runTask task) id (s.begun id rest)

/-- A task that has `begun` to run leaves every pool looked after. -/
theorem TendedAt.begun {rest : List Nat} (h : TendedAt config none interval site s)
    (hidle : s.running = none) (hqueue : s.queue = id :: rest) :
    TendedAt config none interval site (s.begun id rest) := by
  intro p known hp hknown hopen halive
  obtain ⟨since, hsince, hfresh, hwatched⟩ := h p known hp hknown hopen halive
  refine ⟨since, hsince, hfresh, hwatched.imp_left fun ⟨other, hother, htends⟩ => ?_⟩
  have hready : s.Ready other → (s.begun id rest).Ready other := by
    rintro (hmem | hrunning)
    · rw [hqueue] at hmem
      obtain rfl | hmem := List.mem_cons.1 hmem
      · exact .inr rfl
      · exact .inl hmem
    · cases hidle.symm.trans hrunning
  refine ⟨other, nofun, ?_⟩
  cases htends with
  | starting hsweep hother hnow => exact .starting hsweep (hready hother) hnow
  | asleep hsweep hdue htimer => exact .asleep hsweep hdue htimer
  | woken hsweep hfired hother => exact .woken hsweep hfired (hready hother)

/-- The `Tame` program of a task that does not sweep leaves every pool looked after. -/
theorem Tame.tendedAt_rested {program : Sim Unit} (htame : Tame config (some id) program)
    (h : Sound config (some id) s) (hrunning : s.running = some id) (hplain : s.sweepOf? id = none)
    (htended : TendedAt config none interval site s) :
    TendedAt config none interval site (program.run s).2.rested := by
  have hcarried := htame s h
  have hothers := htended.others fun due hsweep => by cases hplain.symm.trans hsweep
  refine (hothers.carried h hcarried).rested fun other hother => ?_
  exact (hcarried.running.trans hrunning).symm.trans hother

/-- `runTask` leaves every pool looked after. -/
theorem runTask_spec {task : Task} (h : Sound config (some id) s) (hrunning : s.running = some id)
    (hinterval : config.sweepInterval = some interval) (htask : s.task? id = some task)
    (htended : ∀ site, TendedAt config none interval site s) :
    Carried config (some id) s ((runTask task).run s).2 ∧
      ∀ site, TendedAt config none interval site ((runTask task).run s).2.rested := by
  obtain ⟨-, rfl⟩ := task?_eq_some_iff htask
  -- a task that was aborted or does not sweep is tame, and a sweep tends its own site and leaves
  -- the others alone
  by_cases hplain : task.isAborted = true ∨ task.job.isSweep = false
  · have htame : Tame config (some task.id) (runTask task) := runTask_tame hplain
    have hsweep := sweepOf?_eq_none htask hplain
    exact ⟨htame s h, fun site => htame.tendedAt_rested h hrunning hsweep (htended site)⟩
  · obtain ⟨id, job, isAborted⟩ := task
    cases isAborted with
    | true => exact absurd (.inl rfl) hplain
    | false =>
      cases job with
      | sweep site due =>
        have hsweep : s.sweepOf? id = some (site, due) := by rw [sweepOf?, htask]
        obtain ⟨hcarried, hlooked⟩ :=
          runSweep_spec h hrunning hinterval hsweep (htended site) rfl
        refine ⟨hcarried, fun other => ?_⟩
        by_cases hother : other = site
        · subst hother
          exact hlooked
        · have hothers := (htended other).others fun due' hsweep' => by
            cases hsweep.symm.trans hsweep'
            exact hother rfl
          refine (hothers.carried h hcarried).rested fun number hnumber => ?_
          exact (hcarried.running.trans hrunning).symm.trans hnumber
      | _ => exact absurd (.inr rfl) hplain

theorem Sound.rested (h : Sound config own s) : Sound config none s.rested :=
  ⟨h.sweeps, h.supply, h.numbered, fun _ hid => (by cases hid), fun _ hid => (by cases hid)⟩

/-- When the run of a task is over, the simulation is `Tending`. -/
theorem afterRun_spec (id : Nat) (h : Sound config none s.rested)
    (htended : ∀ site, TendedAt config none interval site s.rested) :
    Tending config interval (afterRun id s) ∧ Later s.rested (afterRun id s) := by
  have hrested : Tending config interval s.rested := ⟨h, rfl, htended⟩
  unfold afterRun
  split
  · exact ⟨hrested.tame (enqueue_tame id), (enqueue_tame id _ h).later⟩
  · exact ⟨hrested, .refl _⟩

/-- `runNext` leaves the simulation `Tending`, whatever task it runs. -/
theorem runNext_spec (h : Tending config interval s)
    (hinterval : config.sweepInterval = some interval) :
    Tending config interval (runNext.run s).2 ∧ Later s (runNext.run s).2 := by
  obtain ⟨hsweeps, hsupply, hnumbered, -, -⟩ := h.sound
  cases hqueue : s.queue with
  | nil =>
    rw [runNext_nil hqueue]
    exact ⟨h, .refl s⟩
  | cons id rest =>
    rw [runNext_cons hqueue]
    have hbegun : ∀ site, TendedAt config none interval site (s.begun id rest) := fun site =>
      (h.tended site).begun h.idle hqueue
    have hlater : ∀ t, Later (s.begun id rest) t → Later s t.rested := fun t ht =>
      ⟨ht.now, ht.nextTask, ht.plain, ht.held⟩
    cases htask : s.task? id with
    | none =>
      -- a task that is over does nothing, and sweeps nothing
      have hplain : s.sweepOf? id = none := by rw [sweepOf?, htask]
      have hrested : ∀ site, TendedAt config none interval site (s.begun id rest).rested :=
        fun site => ((hbegun site).others fun due hsweep => by
          cases hplain.symm.trans hsweep).rested fun _ hrunning => hrunning
      have hsound : Sound config none (s.begun id rest).rested :=
        ⟨hsweeps, hsupply, hnumbered, fun _ hid => (by cases hid), fun _ hid => (by cases hid)⟩
      obtain ⟨htending, hafter⟩ := afterRun_spec id hsound hrested
      exact ⟨htending, (hlater _ (.refl _)).trans hafter⟩
    | some task =>
      have hlt : id < s.nextTask := by
        obtain ⟨hmem, rfl⟩ := task?_eq_some_iff htask
        exact hnumbered task hmem
      have hsound : Sound config (some id) (s.begun id rest) :=
        ⟨hsweeps, hsupply, hnumbered, fun number hnumber => Option.some.inj hnumber ▸ hlt,
          fun number hnumber => Option.some.inj hnumber ▸ hlt⟩
      obtain ⟨hcarried, htended⟩ := runTask_spec hsound rfl hinterval htask hbegun
      obtain ⟨htending, hafter⟩ := afterRun_spec id hcarried.sound.rested htended
      exact ⟨htending, (hlater _ hcarried.later).trans hafter⟩

/-- A program starts where the one before has come to, and with its answer. -/
theorem run_bind_snd {α β : Type} (first : Sim α) (rest : α → Sim β) (s : Simulation) :
    ((first >>= rest).run s).2 = ((rest (first.run s).1).run (first.run s).2).2 := rfl

theorem runWithin_succ (runs : Nat) (s : Simulation) :
    ((runWithin (runs + 1)).run s).2 =
      if (runNext.run s).1 then ((runWithin runs).run (runNext.run s).2).2
      else (runNext.run s).2 := by
  rw [runWithin, run_bind_snd]
  generalize runNext.run s = next
  obtain ⟨ran, t⟩ := next
  cases ran <;> rfl

/-- `runWithin` leaves the simulation `Tending`, however many tasks run. -/
theorem runWithin_spec (h : Tending config interval s)
    (hinterval : config.sweepInterval = some interval) (runs : Nat) :
    Tending config interval ((runWithin runs).run s).2 ∧ Later s ((runWithin runs).run s).2 := by
  induction runs generalizing s with
  | zero => exact ⟨h, .refl s⟩
  | succ runs ih =>
    obtain ⟨hnext, hlater⟩ := runNext_spec h hinterval
    rw [runWithin_succ]
    split
    · obtain ⟨htending, hrest⟩ := ih hnext
      exact ⟨htending, hlater.trans hrest⟩
    · exact ⟨hnext, hlater⟩

theorem settle_spec (h : Tending config interval s)
    (hinterval : config.sweepInterval = some interval) :
    Tending config interval (settle.run s).2 ∧ Later s (settle.run s).2 := by
  unfold settle
  rw [StateT.run_bind, StateT.run_get, pure_bind]
  exact runWithin_spec h hinterval _

/-- `letGo` leaves every pool looked after that is still kept alive. -/
theorem letGo_spec {p : Provider} (h : Tending config interval s) (hp : s.supply = .pooled p) :
    Tending config interval { s with supply := .pooled p.letGo } := by
  obtain ⟨known, hknown, hreachable⟩ := h.sound.supply
  obtain rfl := Supply.pooled.inj (hp.symm.trans hknown)
  have hsound : Sound config none { s with supply := .pooled p.letGo } :=
    ⟨h.sound.sweeps, ⟨_, rfl, hreachable.step .letGo⟩, h.sound.numbered, h.sound.running, nofun⟩
  refine ⟨hsound, h.idle, fun site q t hq ht hopen halive => ?_⟩
  obtain rfl := Supply.pooled.inj hq
  have hpermitted : p.Permitted .letGo := ⟨nofun, nofun⟩
  have halive' : p.isSiteAlive site = true :=
    Provider.isSiteAlive_before hreachable hpermitted ht hopen ht hopen halive
  obtain ⟨since, hsince, hfresh, hwatched⟩ := h.tended site p t hp ht hopen halive'
  exact ⟨since, hsince, hfresh, hwatched.undisturbed h.sound (.of_supply s _)⟩

/-! ## The passage of time -/

/-- The timers that are due have fired, and nobody has been woken yet. -/
def fired (s : Simulation) : Simulation :=
  { s with
    timers := s.timers.filter (!·.due ≤ s.clock.now), clock := .settled s.clock.now }

theorem fireTimers_run (s : Simulation) :
    (fireTimers.run s).2 =
      ((((s.timers.filter (·.due ≤ s.clock.now)).mergeSort fun a b => a.due ≤ b.due).forM
        fun timer => wake timer.sleeper).run s.fired).2 := rfl

/-- A task is `Ready` after `enqueue`. -/
theorem ready_enqueue (id : Nat) (s : Simulation) : ((enqueue id).run s).2.Ready id := by
  by_cases hrunning : s.running = some id
  · obtain ⟨-, hsame⟩ | heq := enqueue_cases id s
    · exact .inr ((Rota.mk.inj hsame).2.2.2.2.2.1.trans hrunning)
    · rw [heq]
      exact .inr hrunning
  · exact .inl (mem_queue_enqueue hrunning)

theorem Sound.fired (h : Sound config none s) : Sound config none s.fired :=
  ⟨h.sweeps, h.supply, h.numbered, h.running, nofun⟩

/-- `fireTimers` wakes those for whom the timers were set, and leaves the sweeps alone. -/
theorem fireTimers_wakes (h : Sound config none s) :
    Carried config none s.fired (fireTimers.run s).2 ∧
      ∀ timer ∈ s.timers, timer.due ≤ s.clock.now → ∀ id, timer.sleeper = .task id →
        (fireTimers.run s).2.Ready id := by
  rw [fireTimers_run]
  refine ⟨Tame.forM _ (fun timer _ => wake_tame timer.sleeper) _ h.fired, ?_⟩
  intro timer htimer hdue id hsleeper
  have hmem : timer ∈ (s.timers.filter (·.due ≤ s.clock.now)).mergeSort fun a b => a.due ≤ b.due :=
    List.mem_mergeSort.2 (List.mem_filter.2 ⟨htimer, by simpa using hdue⟩)
  refine reaches_of_forM (motive := fun s => s.Ready id)
    (fun s t _ hcarried hready => hready.undisturbed hcarried.toUndisturbed)
    (fun timer _ => wake_tame timer.sleeper) hmem (fun t _ => ?_) h.fired
  rw [hsleeper]
  exact ready_enqueue id t

/-- A task that `Tends` a site goes on to when timers fire. -/
theorem Tends.fired {since : Instant} (h : Tends interval since site id s)
    (hsound : Sound config none s) : Tends interval since site id (fireTimers.run s).2 := by
  obtain ⟨hcarried, hwakes⟩ := fireTimers_wakes hsound
  have hundisturbed := hcarried.toUndisturbed
  have hreached : ∀ {due : Instant}, due.ceilMillis ≤ s.clock.now →
      s.fired.moment.hasFired due = true := fun hle => decide_eq_true hle
  cases h with
  | starting hsweep hready hnow =>
    have hbefore : Tends interval since site id s.fired := .starting hsweep hready hnow
    exact hbefore.undisturbed hsound.fired nofun hundisturbed
  | @asleep due hsweep hdue htimer =>
    by_cases hle : due.ceilMillis ≤ s.clock.now
    · -- the timer has fired, and the task is to run
      have hlt := hsound.fired.lt_of_sweepOf? (s := s.fired) hsweep
      refine .woken ((hundisturbed.sweeps id hlt nofun).trans hsweep) ?_ (hwakes _ htimer hle _ rfl)
      rw [hasFired_congr hundisturbed.clock]
      exact hreached hle
    · have hstays : (⟨.task id, due.ceilMillis, .task id⟩ : Timer) ∈ s.fired.timers :=
        List.mem_filter.2 ⟨htimer, by simpa using hle⟩
      have hbefore : Tends interval since site id s.fired := .asleep hsweep hdue hstays
      exact hbefore.undisturbed hsound.fired nofun hundisturbed
  | @woken due hsweep hfired hready =>
    have hle : due.ceilMillis ≤ s.clock.now :=
      Nat.le_trans (of_decide_eq_true hfired) s.clock.fired_le
    have hbefore : Tends interval since site id s.fired := .woken hsweep (hreached hle) hready
    exact hbefore.undisturbed hsound.fired nofun hundisturbed

/-- `fireTimers` leaves the simulation `Tending`, whichever timers fire. -/
theorem fireTimers_spec (h : Tending config interval s) :
    Tending config interval (fireTimers.run s).2 ∧ Later s (fireTimers.run s).2 := by
  obtain ⟨hcarried, -⟩ := fireTimers_wakes h.sound
  refine ⟨⟨hcarried.sound, hcarried.running.trans h.idle, fun site => ?_⟩,
    ⟨hcarried.later.now, hcarried.nextTask, hcarried.plain, hcarried.later.held⟩⟩
  intro q u hq hu hopen halive
  obtain ⟨p, hp, -⟩ := h.sound.supply
  obtain ⟨r, hr, -, hupkept⟩ := hcarried.upkept p hp
  obtain rfl := Supply.pooled.inj (hq.symm.trans hr)
  have hnow : (fireTimers.run s).2.moment.now = s.moment.now := hcarried.moment_now
  rw [hnow]
  -- a site was there before and is as fresh as it was, or it is new and a sweep of it is due
  obtain ⟨known, hknown, hopen', halive', hstays⟩ | ⟨hdue, hfresh⟩ :=
    hupkept site u hu hopen halive
  · obtain ⟨since, hsince, hfresh, hwatched⟩ := h.tended site p known hp hknown hopen' halive'
    refine ⟨since, hsince, hstays since hsince hfresh, ?_⟩
    exact hwatched.imp_left fun ⟨id, hother, htends⟩ => ⟨id, hother, htends.fired h.sound⟩
  · refine ⟨s.moment.now, Int.le_refl _, hfresh _ (Int.le_refl _), ?_⟩
    rw [← hnow]
    exact hdue.watched

/-- The clock is moved forward. -/
def passed (time : Nat) (s : Simulation) : Simulation := { s with clock := s.clock.ahead time }

/-- However far the clock moves while nobody is to run, the simulation stays `Tending`. -/
theorem passed_spec (h : Tending config interval s) (hquiet : s.queue = []) (time : Nat) :
    Tending config interval (s.passed time) := by
  refine ⟨⟨h.sound.sweeps, h.sound.supply, h.sound.numbered, h.sound.running, nofun⟩, h.idle,
    fun site => ?_⟩
  intro p known hp hknown hopen halive
  obtain ⟨since, hsince, hfresh, hwatched⟩ := h.tended site p known hp hknown hopen halive
  have hlater : s.moment.now ≤ (s.passed time).moment.now :=
    Int.ofNat_le.2 (Nat.mul_le_mul_right _ (Nat.le_max_left _ _))
  refine ⟨since, Int.le_trans hsince hlater, hfresh, ?_⟩
  refine hwatched.imp_left fun ⟨id, hother, htends⟩ => ⟨id, hother, ?_⟩
  -- whoever is ready would stand in the run queue
  have hready : ¬ s.Ready id := by
    rintro (hmem | hrunning)
    · rw [hquiet] at hmem
      cases hmem
    · cases h.idle.symm.trans hrunning
  cases htends with
  | starting hsweep hnew hnow => exact absurd hnew hready
  | asleep hsweep hdue htimer => exact .asleep hsweep hdue htimer
  | woken hsweep hfired hnew => exact absurd hnew hready

/-- When no task is to run, none is `Ready`. -/
theorem Tending.not_ready (h : Tending config interval s) (hquiet : s.queue = []) (id : Nat) :
    ¬ s.Ready id := by
  rintro (hmem | hrunning)
  · rw [hquiet] at hmem
    cases hmem
  · cases h.idle.symm.trans hrunning

/-- When no task is to run and no timer is due, there is for every open pool that is kept alive an
instant, at most an interval ago, at which it is `FreshAt`: nothing that is idle was stale. -/
theorem Tending.fresh (h : Tending config interval s) (hquiet : s.queue = [])
    (hdue : ∀ timer ∈ s.timers, s.clock.now < timer.due) (hclock : s.moment.now.Representable)
    {p : Provider} (hp : s.supply = .pooled p) {index : Nat} {known : Site}
    (hknown : p.sites[index]? = some known) (hopen : known.pool.closed = false)
    (halive : p.isSiteAlive index = true) :
    ∃ since, known.FreshAt config since ∧ s.moment.now ≤ since.add interval := by
  obtain ⟨since, hsince, hfresh, ⟨id, -, htends⟩ | ⟨hpos, hnever⟩⟩ :=
    h.tended index p known hp hknown hopen halive
  · refine ⟨since, hfresh, ?_⟩
    cases htends with
    | starting hsweep hready hnow => exact absurd hready (h.not_ready hquiet id)
    | asleep hsweep hnext htimer =>
      exact Int.le_trans (Instant.le_of_lt_ceilMillis (hdue _ htimer)) hnext
    | woken hsweep hfired hready => exact absurd hready (h.not_ready hquiet id)
  · -- the clock has not reached as far as the next sweep, and never will
    refine ⟨since, hfresh, ?_⟩
    by_contra hpast
    have hle : (since.add interval).nanos ≤ s.moment.now.nanos := Int.le_of_lt (Int.not_le.1 hpast)
    exact hnever (hclock.of_le (Int.add_nonneg hpos (Int.natCast_nonneg _)) hle)

end Simulation

end ConnectionPool
