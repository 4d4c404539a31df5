import ConnectionPool.Proofs.Provider.Upkeep
import ConnectionPool.Simulation.Tasks

/-!
# What programs leave to the sweeps

The sweeps of a pool are a task like any other: it has a number, stands in the run queue or sleeps
until its timer fires, and could be removed, given another job or robbed of its timer by any
program. No program does so, except to the task that it runs for.

A program is tame if it leaves the sweeps alone in this way, and changes the pools only by what may
happen to a provider. Tame programs can follow one another, so what a large program does is read off
from its smallest parts.

## Main definitions

* `sweepOf?`: what a task sweeps.
* `Undisturbed`: the sweeps are as they were.
* `Carried`: so are the pools that were there, and the sweeps of new pools have started.
* `Tame`: a program that does nothing else.

## Main results

* `Tame.bind`, `Tame.forM`: programs made of tame programs are tame.
* `reaches_of_forM`: what one of several tame programs brings about is there after all of them.
* `spawn_tame`, `setJob_tame`, `removeTask_tame`, `sleepUntil_tame`: the smallest programs.
-/

namespace ConnectionPool

/-- The job is to sweep a site. -/
def Job.isSweep : Job → Bool
  | .sweep _ _ => true
  | _ => false

namespace Simulation

variable {config : Config} {own : Option Nat} {s t u : Simulation} {id site : Nat}

/-! ## Sweeps among the tasks -/

/-- The site that a task sweeps, and when it does so next. -/
def sweepOf? (id : Nat) (s : Simulation) : Option (Nat × Option Instant) :=
  match s.task? id with
  | some ⟨_, .sweep site due, false⟩ => some (site, due)
  | _ => none

/-- `sweepOf?` depends on what `task?` finds under the number. -/
theorem sweepOf?_congr (h : t.task? id = s.task? id) : t.sweepOf? id = s.sweepOf? id := by
  rw [sweepOf?, h, sweepOf?]

theorem task?_eq_some_iff {task : Task} (h : s.task? id = some task) :
    task ∈ s.tasks ∧ task.id = id :=
  ⟨List.mem_of_find?_eq_some h, by simpa using List.find?_some h⟩

/-- The task behind the sweeps of a site. -/
theorem task?_of_sweepOf? {due : Option Instant} (h : s.sweepOf? id = some (site, due)) :
    s.task? id = some ⟨id, .sweep site due, false⟩ := by
  unfold sweepOf? at h
  split at h
  · rename_i number known due htask
    obtain ⟨rfl, rfl⟩ := Prod.mk.inj (Option.some.inj h)
    obtain rfl := (task?_eq_some_iff htask).2
    exact htask
  · cases h

/-- `Due own site s`: a new task sweeps the site, and is yet to run for the first time. -/
def Due (own : Option Nat) (site : Nat) (s : Simulation) : Prop :=
  ∃ id, own ≠ some id ∧ s.sweepOf? id = some (site, none) ∧ id ∈ s.queue

/-- `Sound config own s`: the pools are those of a provider, and numbers are given to tasks once.
The number `own` is that of the task for which programs run. -/
structure Sound (config : Config) (own : Option Nat) (s : Simulation) : Prop where
  /-- Pools are swept. -/
  sweeps : config.sweepInterval.isSome = true
  /-- There are pools, and what is known of providers holds for theirs. -/
  supply : ∃ p, s.supply = .pooled p ∧ Provider.Reachable config p
  /-- No task has a number that is yet to be given. -/
  numbered : ∀ task ∈ s.tasks, task.id < s.nextTask
  /-- The task that is running has a number. -/
  running : ∀ id, s.running = some id → id < s.nextTask
  /-- The task for which programs run has a number. -/
  own : ∀ id, own = some id → id < s.nextTask

/-- What sweeps has a number. -/
theorem Sound.lt_of_sweepOf? (h : Sound config own s) {due : Option Instant}
    (hsweep : s.sweepOf? id = some (site, due)) : id < s.nextTask := by
  obtain ⟨hmem, hid⟩ := task?_eq_some_iff (task?_of_sweepOf? hsweep)
  exact h.numbered _ hmem

/-- `Undisturbed own s t`: on the way from `s` to `t`, the sweeps are left alone, except by the task
`own` that is itself running. -/
structure Undisturbed (own : Option Nat) (s t : Simulation) : Prop where
  /-- The clock stands still. -/
  clock : t.clock = s.clock
  /-- The running task goes on. -/
  running : t.running = s.running
  /-- Numbers are given once. -/
  nextTask : s.nextTask ≤ t.nextTask
  /-- Whoever is to run is still to run. -/
  queue : s.queue ⊆ t.queue
  /-- Sweeps go on. -/
  sweeps : ∀ id < s.nextTask, own ≠ some id → t.sweepOf? id = s.sweepOf? id
  /-- No task becomes one that sweeps. -/
  plain : ∀ id < s.nextTask, s.sweepOf? id = none → t.sweepOf? id = none
  /-- The timers of sweeps stay. -/
  timers : ∀ id < s.nextTask, own ≠ some id → (s.sweepOf? id).isSome = true →
    ∀ timer ∈ s.timers, timer.key = .task id → timer ∈ t.timers

/-- `Carried config own s t`: on the way from `s` to `t`, the sweeps are left alone, and so are the
pools. -/
structure Carried (config : Config) (own : Option Nat) (s t : Simulation) : Prop
    extends Undisturbed own s t where
  /-- The pools are still those of a provider. -/
  sound : Sound config own t
  /-- The open pools that are kept alive were so before, or their sweeps have started. -/
  upkept : ∀ p, s.supply = .pooled p → ∃ q, t.supply = .pooled q ∧
    (p.isHeld = true → q.isHeld = true) ∧
    Provider.Upkept config s.moment.now (fun site => t.Due own site) p q

namespace Undisturbed

/-- The time stands still. -/
theorem moment_now (h : Undisturbed own s t) : t.moment.now = s.moment.now := by
  show Instant.ofMillis t.clock.now = Instant.ofMillis s.clock.now
  rw [h.clock]

/-- New sweeps stay `Due` where they are `Undisturbed`. -/
theorem due (h : Undisturbed own s t) (hsound : Sound config own s) (hdue : s.Due own site) :
    t.Due own site := by
  obtain ⟨id, hother, hsweep, hqueue⟩ := hdue
  refine ⟨id, hother, ?_, h.queue hqueue⟩
  rw [h.sweeps id (hsound.lt_of_sweepOf? hsweep) hother, hsweep]

theorem trans (h : Undisturbed own s t) (hrest : Undisturbed own t u) : Undisturbed own s u where
  clock := hrest.clock.trans h.clock
  running := hrest.running.trans h.running
  nextTask := Nat.le_trans h.nextTask hrest.nextTask
  queue := fun _ hid => hrest.queue (h.queue hid)
  sweeps := fun id hlt hother =>
    (hrest.sweeps id (Nat.lt_of_lt_of_le hlt h.nextTask) hother).trans (h.sweeps id hlt hother)
  plain := fun id hlt hplain =>
    hrest.plain id (Nat.lt_of_lt_of_le hlt h.nextTask) (h.plain id hlt hplain)
  timers := by
    intro id hlt hother hsweep timer htimer hkey
    have hstays : (t.sweepOf? id).isSome = true := h.sweeps id hlt hother ▸ hsweep
    exact hrest.timers id (Nat.lt_of_lt_of_le hlt h.nextTask) hother hstays timer
      (h.timers id hlt hother hsweep timer htimer hkey) hkey

end Undisturbed

namespace Carried

theorem trans (h : Carried config own s t) (hrest : Carried config own t u) :
    Carried config own s u := by
  refine ⟨h.toUndisturbed.trans hrest.toUndisturbed, hrest.sound, fun p hp => ?_⟩
  obtain ⟨q, hq, hheld, hupkept⟩ := h.upkept p hp
  obtain ⟨r, hr, hheld', hupkept'⟩ := hrest.upkept q hq
  rw [h.moment_now] at hupkept'
  exact ⟨r, hr, hheld' ∘ hheld, hupkept.trans hupkept'
    (fun _ hdue => hrest.toUndisturbed.due h.sound hdue) fun _ hdue => hdue⟩

/-- Where the provider stays, it is enough that the sweeps are `Undisturbed`. -/
theorem of_undisturbed (h : Sound config own s) (hundisturbed : Undisturbed own s t)
    (hsupply : t.supply = s.supply) (hnumbered : ∀ task ∈ t.tasks, task.id < t.nextTask) :
    Carried config own s t where
  toUndisturbed := hundisturbed
  sound :=
    { sweeps := h.sweeps
      supply := hsupply ▸ h.supply
      numbered := hnumbered
      running := fun id hid =>
        Nat.lt_of_lt_of_le (h.running id (hundisturbed.running ▸ hid)) hundisturbed.nextTask
      own := fun id hid => Nat.lt_of_lt_of_le (h.own id hid) hundisturbed.nextTask }
  upkept := fun p hp => ⟨p, hsupply.trans hp, id, .refl p⟩

end Carried

/-- A `Rota`: what the sweeps depend on. -/
structure Rota where
  /-- The clock. -/
  clock : Clock
  /-- The provider. -/
  supply : Supply
  /-- The tasks. -/
  tasks : List Task
  /-- The number of the next task. -/
  nextTask : Nat
  /-- The tasks that are to run. -/
  queue : List Nat
  /-- The task that is running. -/
  running : Option Nat
  /-- The timers that have not fired. -/
  timers : List Timer

/-- What the sweeps of a simulation depend on. -/
def rota (s : Simulation) : Rota :=
  ⟨s.clock, s.supply, s.tasks, s.nextTask, s.queue, s.running, s.timers⟩

/-- It is enough for `Carried` that the `rota` is the same. -/
theorem Carried.of_rota (h : Sound config own s) (hsame : t.rota = s.rota) :
    Carried config own s t := by
  obtain ⟨hclock, hsupply, htasks, hnext, hqueue, hrunning, htimers⟩ := Rota.mk.inj hsame
  have hsweeps : ∀ id, t.sweepOf? id = s.sweepOf? id := fun id =>
    sweepOf?_congr (by rw [task?, htasks, task?])
  refine .of_undisturbed h ?_ hsupply ?_
  · exact
      { clock := hclock
        running := hrunning
        nextTask := Nat.le_of_eq hnext.symm
        queue := hqueue ▸ List.Subset.refl _
        sweeps := fun id _ _ => hsweeps id
        plain := fun id _ hplain => (hsweeps id).trans hplain
        timers := fun _ _ _ _ timer htimer _ => htimers ▸ htimer }
  · rw [htasks, hnext]
    exact h.numbered

theorem Carried.refl (h : Sound config own s) : Carried config own s s := .of_rota h rfl

/-! ## Tame programs -/

/-- `Tame config own program`: the program leaves the sweeps alone, and the pools. -/
def Tame (config : Config) (own : Option Nat) (program : Sim α) : Prop :=
  ∀ s, Sound config own s → Carried config own s (program.run s).2

namespace Tame

variable {α β : Type}

theorem pure (a : α) : Tame config own (Pure.pure a : Sim α) := fun _ h => .refl h

theorem get : Tame config own (MonadState.get : Sim Simulation) := fun _ h => .refl h

/-- `Tame` programs can follow one another. -/
theorem bind {first : Sim α} {rest : α → Sim β} (h : Tame config own first)
    (hrest : ∀ a, Tame config own (rest a)) : Tame config own (first >>= rest) := fun s hs =>
  (h s hs).trans (hrest _ _ (h s hs).sound)

/-- Whether a program is `Tame` does not depend on its result. -/
theorem discard {program : Sim α} (h : Tame config own program) :
    Tame config own (Functor.discard program) := h

/-- `Tame` programs for the members of a list can follow one another. -/
theorem forM {f : α → Sim Unit} (as : List α) (h : ∀ a ∈ as, Tame config own (f a)) :
    Tame config own (as.forM f) := by
  induction as with
  | nil => exact .pure ()
  | cons a as ih =>
    refine .bind (h a List.mem_cons_self) fun _ => ?_
    exact ih fun b hb => h b (List.mem_cons_of_mem _ hb)

/-- A `Tame` program may go one way or another. -/
theorem ite {condition : Bool} {yes no : Sim α} (hyes : Tame config own yes)
    (hno : Tame config own no) : Tame config own (if condition then yes else no) := by
  cases condition
  · exact hno
  · exact hyes

/-- A change of what is not in the `rota` is `Tame`. -/
theorem of_modify {f : Simulation → Simulation} (h : ∀ s, (f s).rota = s.rota) :
    Tame config own (modify f : Sim Unit) := fun s hs => .of_rota hs (h s)

end Tame

/-- What one of several `Tame` programs brings about is there after all of them, if `Tame` programs
leave it. -/
theorem reaches_of_forM {α : Type} {f : α → Sim Unit} {motive : Simulation → Prop}
    (hstable : ∀ s t, Sound config own s → Carried config own s t → motive s → motive t)
    {as : List α} (htame : ∀ a ∈ as, Tame config own (f a)) {a : α} (ha : a ∈ as)
    (hreach : ∀ s, Sound config own s → motive ((f a).run s).2) (h : Sound config own s) :
    motive ((as.forM f).run s).2 := by
  induction as generalizing s with
  | nil => cases ha
  | cons b as ih =>
    have hb := htame b List.mem_cons_self s h
    have hrest : ∀ a ∈ as, Tame config own (f a) := fun a ha =>
      htame a (List.mem_cons_of_mem _ ha)
    obtain rfl | ha := List.mem_cons.1 ha
    · exact hstable _ _ hb.sound (Tame.forM as hrest _ hb.sound) (hreach s h)
    · exact ih hrest ha hb.sound

/-! ## The log and the run queue -/

theorem write_tame (text : String) : Tame config own (write text) := .of_modify fun _ => rfl

theorem trace_tame (line : EventLine) : Tame config own (trace line) :=
  .bind .get fun _ => .ite (write_tame _) (.pure ())

/-- `enqueue` of a task changes nothing that sweeps depend on if it is running or is to run, and
otherwise puts it at the end of the run queue. -/
theorem enqueue_cases (id : Nat) (s : Simulation) :
    ((s.running = some id ∨ id ∈ s.queue) ∧ ((enqueue id).run s).2.rota = s.rota) ∨
      ((enqueue id).run s).2 = { s with queue := s.queue ++ [id] } := by
  have heq : ((enqueue id).run s).2 =
      if s.running == some id then { s with isRewoken := true }
      else if s.queue.contains id then s
      else { s with queue := s.queue ++ [id] } := rfl
  rw [heq]
  split
  · rename_i hrunning
    exact .inl ⟨.inl (by simpa using hrunning), rfl⟩
  · split
    · rename_i hqueue
      exact .inl ⟨.inr (by simpa using hqueue), rfl⟩
    · exact .inr rfl

theorem enqueue_tame (id : Nat) : Tame config own (enqueue id) := by
  intro s h
  obtain ⟨-, hsame⟩ | heq := enqueue_cases id s
  · exact .of_rota h hsame
  · rw [heq]
    refine .of_undisturbed h ?_ rfl h.numbered
    exact
      { clock := rfl
        running := rfl
        nextTask := Nat.le_refl _
        queue := List.subset_append_left _ _
        sweeps := fun _ _ _ => rfl
        plain := fun _ _ hplain => hplain
        timers := fun _ _ _ _ _ htimer _ => htimer }

/-- A task is to run after `enqueue`, unless it is running. -/
theorem mem_queue_enqueue (hrunning : s.running ≠ some id) : id ∈ ((enqueue id).run s).2.queue := by
  obtain ⟨hwoken, hsame⟩ | heq := enqueue_cases id s
  · rw [(Rota.mk.inj hsame).2.2.2.2.1]
    exact hwoken.resolve_left hrunning
  · rw [heq]
    exact List.mem_append_right _ (List.mem_singleton.2 rfl)

/-! ## The tasks -/

/-- A task under the next number. -/
def withTask (job : Job) (s : Simulation) : Simulation :=
  { s with tasks := s.tasks ++ [⟨s.nextTask, job, false⟩], nextTask := s.nextTask + 1 }

/-- Nothing but the task of `withTask` is found under its number. -/
theorem task?_withTask (h : Sound config own s) (job : Job) (id : Nat) :
    (s.withTask job).task? id =
      if id = s.nextTask then some ⟨s.nextTask, job, false⟩ else s.task? id := by
  rw [task?, withTask, List.find?_append]
  by_cases hid : id = s.nextTask
  · subst hid
    have hnone : s.tasks.find? (·.id == s.nextTask) = none := by
      rw [List.find?_eq_none]
      intro task htask
      have hlt := h.numbered task htask
      simpa using Nat.ne_of_lt hlt
    rw [hnone, if_pos rfl]
    simp
  · have hnew : ([⟨s.nextTask, job, false⟩] : List Task).find? (·.id == id) = none := by
      simpa using fun heq => hid heq.symm
    rw [hnew, if_neg hid, Option.or_none]
    rfl

/-- `spawn` makes a new task that has begun to run, or is to run. -/
theorem spawn_run (job : Job) (s : Simulation) :
    (spawn job).run s = (s.nextTask, ((enqueue s.nextTask).run (s.withTask job)).2) := rfl

theorem Carried.withTask (h : Sound config own s) (job : Job) :
    Carried config own s (s.withTask job) := by
  -- a new task has the next number, so that it is none of those that were there
  have hold : ∀ id < s.nextTask, (s.withTask job).sweepOf? id = s.sweepOf? id := fun id hlt =>
    sweepOf?_congr (by rw [task?_withTask h, if_neg (Nat.ne_of_lt hlt)])
  refine .of_undisturbed h ?_ rfl ?_
  · exact
      { clock := rfl
        running := rfl
        nextTask := Nat.le_succ _
        queue := List.Subset.refl _
        sweeps := fun id hlt _ => hold id hlt
        plain := fun id hlt hplain => (hold id hlt).trans hplain
        timers := fun _ _ _ _ _ htimer _ => htimer }
  · intro task htask
    show task.id < s.nextTask + 1
    obtain hold | hnew := List.mem_append.1 htask
    · exact Nat.lt_succ_of_lt (h.numbered task hold)
    · obtain rfl := List.mem_singleton.1 hnew
      exact Nat.lt_succ_self _

theorem spawn_tame (job : Job) : Tame config own (spawn job) := fun s h =>
  (Carried.withTask h job).trans (enqueue_tame s.nextTask _ (Carried.withTask h job).sound)

/-- The sweeps of a site are `Due` when their task is started by `spawn`. -/
theorem due_spawn (h : Sound config own s) (site : Nat) :
    ((spawn (.sweep site none)).run s).2.Due own site := by
  have hbegun := Carried.withTask h (.sweep site none)
  have hwoken := enqueue_tame s.nextTask _ hbegun.sound
  have hnew : ∀ {number : Option Nat}, (∀ id, number = some id → id < s.nextTask) →
      number ≠ some s.nextTask := fun hlt heq => Nat.lt_irrefl _ (hlt _ heq)
  refine ⟨s.nextTask, hnew h.own, ?_, ?_⟩
  · rw [spawn_run, hwoken.sweeps _ (Nat.lt_succ_self _) (hnew h.own), sweepOf?,
      task?_withTask h, if_pos rfl]
  · exact mem_queue_enqueue (hnew h.running)

/-- A task changes, or is over, and its timer is set or cleared. -/
theorem Carried.of_own (h : Sound config (some id) s)
    (hsame : t.rota = { s.rota with tasks := t.tasks, timers := t.timers })
    (htasks : ∀ other, other ≠ id → t.task? other = s.task? other)
    (hplain : s.sweepOf? id = none → t.sweepOf? id = none)
    (hnumbered : ∀ task ∈ t.tasks, task.id < s.nextTask)
    (htimers : ∀ timer ∈ s.timers, timer.key ≠ .task id → timer ∈ t.timers) :
    Carried config (some id) s t := by
  obtain ⟨hclock, hsupply, -, hnext, hqueue, hrunning, -⟩ := Rota.mk.inj hsame
  -- the other tasks are what they were, so only the task's own part is to be looked at
  have hothers : ∀ other, some id ≠ some other → t.sweepOf? other = s.sweepOf? other :=
    fun other hother => sweepOf?_congr (htasks other fun heq => hother (heq ▸ rfl))
  refine .of_undisturbed h ?_ hsupply ?_
  · exact
      { clock := hclock
        running := hrunning
        nextTask := Nat.le_of_eq hnext.symm
        queue := by
          rw [hqueue]
          exact List.Subset.refl _
        sweeps := fun other _ hother => hothers other hother
        plain := by
          intro other _ hother
          by_cases heq : other = id
          · exact heq ▸ hplain (heq ▸ hother)
          · exact (hothers other fun hsome => heq (Option.some.inj hsome).symm).trans hother
        timers := by
          intro other _ hother _ timer htimer hkey
          refine htimers timer htimer fun hown => hother ?_
          exact congrArg some (TimerKey.task.inj (hown.symm.trans hkey)) }
  · rw [hnext]
    exact hnumbered

/-- The task with a number is changed. -/
def changeTask (id : Nat) (change : Task → Task) (s : Simulation) : Simulation :=
  { s with tasks := s.tasks.map fun task => if task.id == id then change task else task }

/-- Of the task of `changeTask`, the change is found, and other tasks stay. -/
theorem task?_changeTask (id : Nat) {change : Task → Task}
    (hid : ∀ task, (change task).id = task.id) (other : Nat) (s : Simulation) :
    (s.changeTask id change).task? other =
      (s.task? other).map fun task => if task.id == id then change task else task := by
  rw [task?, changeTask, List.find?_map, task?]
  congr 2
  funext task
  show ((if task.id == id then change task else task).id == other) = (task.id == other)
  split
  · rw [hid]
  · rfl

/-- `changeTask` of a task is its own. -/
theorem Carried.changeTask (h : Sound config (some id) s) (change : Task → Task)
    (hid : ∀ task, (change task).id = task.id)
    (hplain : s.sweepOf? id = none → (s.changeTask id change).sweepOf? id = none) :
    Carried config (some id) s (s.changeTask id change) := by
  refine .of_own h rfl (fun other hother => ?_) hplain ?_ fun timer htimer _ => htimer
  · rw [task?_changeTask id hid]
    cases htask : s.task? other with
    | none => rfl
    | some task =>
      have hne : task.id ≠ id := fun heq => hother ((task?_eq_some_iff htask).2 ▸ heq)
      simp [hne]
  · intro task htask
    obtain ⟨known, hknown, rfl⟩ := List.mem_map.1 htask
    have hlt := h.numbered known hknown
    split
    · rwa [hid]
    · exact hlt

/-- A task that is dropped by `changeTask`, or has another job to do, sweeps nothing. -/
theorem sweepOf?_changeTask {change : Task → Task} (hid : ∀ task, (change task).id = task.id)
    (hchange : ∀ task, (change task).isAborted = true ∨ (change task).job.isSweep = false) :
    (s.changeTask id change).sweepOf? id = none := by
  rw [sweepOf?, task?_changeTask id hid]
  cases htask : s.task? id with
  | none => rfl
  | some task =>
    rw [Option.map_some, (task?_eq_some_iff htask).2, beq_self_eq_true, if_pos rfl]
    split
    · rename_i number known due heq
      obtain habort | hjob := hchange task
      · rw [Option.some.inj heq] at habort
        cases habort
      · rw [Option.some.inj heq] at hjob
        cases hjob
    · rfl

theorem setJob_tame (id : Nat) {job : Job} (hjob : job.isSweep = false) :
    Tame config (some id) (setJob id job) := fun _ h =>
  Carried.changeTask h (fun task => { task with job }) (fun _ => rfl)
    fun _ => sweepOf?_changeTask (fun _ => rfl) fun _ => .inr hjob

/-- No task has the number of `removeTask`, and others stay. -/
theorem task?_removeTask (id other : Nat) (s : Simulation) :
    ((removeTask id).run s).2.task? other = if other = id then none else s.task? other := by
  show (s.tasks.filter (·.id != id)).find? (·.id == other) = _
  rw [List.find?_filter]
  split
  · rename_i heq
    subst heq
    rw [List.find?_eq_none]
    intro task _
    simp
  · rename_i hne
    rw [task?]
    congr 1
    funext task
    by_cases hother : task.id = other
    · simp [hother, hne]
    · simp [hother]

theorem removeTask_tame (id : Nat) : Tame config (some id) (removeTask id) := by
  intro s h
  refine .of_own h rfl (fun other hother => ?_) (fun _ => ?_) ?_ fun timer htimer _ => htimer
  · rw [task?_removeTask, if_neg hother]
  · rw [sweepOf?, task?_removeTask, if_pos rfl]
  · intro task htask
    exact h.numbered task (List.mem_of_mem_filter htask)

/-! ## The timers -/

/-- `Own own key`: the timer is none of a task, or one of the task for which programs run. -/
def Own (own : Option Nat) (key : TimerKey) : Prop := ∀ id, key = .task id → own = some id

theorem own_task (id : Nat) : Own (some id) (.task id) := fun _ hkey => by
  obtain rfl := TimerKey.task.inj hkey
  rfl

theorem own_attempt (number : Nat) : Own own (.attempt number) := fun _ hkey => nomatch hkey

theorem own_request (site request : Nat) : Own own (.request site request) :=
  fun _ hkey => nomatch hkey

theorem own_grace (site : Nat) : Own own (.grace site) := fun _ hkey => nomatch hkey

/-- Timers may be set, and those cleared that are no others' tasks. -/
theorem Carried.of_timers (h : Sound config own s)
    (hsame : t.rota = { s.rota with timers := t.timers })
    (htimers : ∀ timer ∈ s.timers, ¬ Own own timer.key → timer ∈ t.timers) :
    Carried config own s t := by
  obtain ⟨hclock, hsupply, htasks, hnext, hqueue, hrunning, -⟩ := Rota.mk.inj hsame
  have hsweeps : ∀ id, t.sweepOf? id = s.sweepOf? id := fun id =>
    sweepOf?_congr (by rw [task?, htasks, task?]; rfl)
  refine .of_undisturbed h ?_ hsupply ?_
  · exact
      { clock := hclock
        running := hrunning
        nextTask := Nat.le_of_eq hnext.symm
        queue := by
          rw [hqueue]
          exact List.Subset.refl _
        sweeps := fun id _ _ => hsweeps id
        plain := fun id _ hplain => (hsweeps id).trans hplain
        timers := fun id _ hother _ timer htimer hkey =>
          htimers timer htimer fun hown => hother (hown id hkey) }
  · rw [htasks, hnext]
    exact h.numbered

theorem clearTimer_tame {key : TimerKey} (hkey : Own own key) :
    Tame config own (clearTimer key) := by
  intro s h
  refine .of_timers h rfl fun timer htimer hother => ?_
  refine List.mem_filter.2 ⟨htimer, ?_⟩
  have hne : timer.key ≠ key := fun heq => hother (heq ▸ hkey)
  simpa using hne

theorem hasFired_tame (wakeAt : Instant) : Tame config own (hasFired wakeAt) :=
  .bind .get fun _ => .pure _

theorem instantIn_tame (d : Duration) : Tame config own (instantIn d) := .bind .get fun _ => .pure _

theorem sleepUntil_tame {key : TimerKey} (hkey : Own own key) (wakeAt : Instant)
    (sleeper : Sleeper) : Tame config own (sleepUntil key wakeAt sleeper) := by
  refine .bind (clearTimer_tame hkey) fun _ => .bind .get fun s => ?_
  refine .ite (.pure true) (.bind ?_ fun _ => .pure false)
  intro s h
  exact .of_timers h rfl fun timer htimer _ => List.mem_append_left _ htimer

/-! ## Waking -/

theorem wakeDisposal_tame (disposal : Disposal) : Tame config own (wakeDisposal disposal) :=
  .bind .get fun _ => .bind (.of_modify fun _ => rfl) fun _ =>
    .forM _ fun watcher _ => enqueue_tame watcher.2

theorem wakeDrain_tame (site : Nat) : Tame config own (wakeDrain site) :=
  .bind .get fun _ => .bind (.of_modify fun _ => rfl) fun _ =>
    .forM _ fun watcher _ => wakeDisposal_tame watcher.2

theorem wake_tame (sleeper : Sleeper) : Tame config own (wake sleeper) := by
  cases sleeper with
  | task id => exact enqueue_tame id
  | drain site => exact wakeDrain_tame site
  | nobody => exact .pure ()

theorem watchDisposal_tame (disposal : Disposal) (id : Nat) :
    Tame config own (watchDisposal disposal id) :=
  .of_modify fun s => by split <;> rfl

theorem watchDrain_tame (site : Nat) (disposal : Disposal) :
    Tame config own (watchDrain site disposal) :=
  .of_modify fun s => by split <;> rfl

end Simulation

end ConnectionPool
