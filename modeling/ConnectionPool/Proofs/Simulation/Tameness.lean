import ConnectionPool.Proofs.Simulation.Carried

/-!
# Tame programs

What happens to the provider of a simulation is an event of the provider, and carrying out what it
asks for leaves the sweeps alone, but for those that it starts. So every program is tame that
changes the provider by what anybody may do, and so is every task but those that sweep.
-/

namespace ConnectionPool

namespace Provider

/-- Anybody may bring the event about. -/
def Event.isFree : Event → Bool
  | .acquire _ | .disposeWhen _ | .disposeAtOnce | .sweep _ _ | .letGo => false
  | _ => true

variable {p : Provider} {event : Event}

theorem Permitted.of_isFree (h : event.isFree = true) : p.Permitted event where
  holder := by cases event <;> first | (cases h; done) | exact nofun
  alive := fun m site heq => by
    subst heq
    cases h

end Provider

namespace Simulation

variable {config : Config} {own : Option Nat} {s t u : Simulation} {id site : Nat}

/-! ## Effects -/

theorem wakeRequest_tame (site request : Nat) : Tame config own (wakeRequest site request) := by
  refine .bind .get fun s => ?_
  cases s.supply with
  | direct p => exact .pure ()
  | pooled p =>
    dsimp only
    split
    · exact enqueue_tame _
    · exact .pure ()

theorem wakeSweep_tame (site : Nat) : Tame config own (wakeSweep site) := by
  refine .bind .get fun s => ?_
  dsimp only
  split
  · exact enqueue_tame _
  · exact .pure ()

theorem performSite_tame (p : Provider) (site : Nat) (effect : Site.Effect) :
    Tame config own (performSite p site effect) := by
  cases effect with
  | note event =>
    unfold performSite
    dsimp only
    split
    · exact trace_tame _
    · exact .pure ()
  | wake request => exact wakeRequest_tame site request
  | close e => exact .discard (spawn_tame _)
  | openForQueue opening => exact .discard (spawn_tame _)
  | stopSweep => exact wakeSweep_tame site
  | wakeDrain => exact wakeDrain_tame site
  | setGraceTimer graceEnd =>
    cases graceEnd with
    | none => exact clearTimer_tame (own_grace site)
    | some graceEnd => exact .discard (sleepUntil_tame (own_grace site) _ _)

theorem perform_tame (p : Provider) (effect : Provider.Effect) :
    Tame config own (perform p effect) := by
  cases effect with
  | site index effect => exact performSite_tame p index effect
  | note event => exact trace_tame _
  | startSweep site => exact .discard (spawn_tame _)
  | startDisposal disposal => exact .discard (spawn_tame _)
  | watchDrain site disposal => exact watchDrain_tame site disposal
  | wakeDisposal disposal => exact wakeDisposal_tame disposal

/-- `perform` of what a change of the provider asks for leaves the sweeps alone, and starts the new
ones. -/
theorem perform_all (h : Sound config own s) (p : Provider) (effects : List Provider.Effect) :
    Carried config own s ((effects.forM (perform p)).run s).2 ∧
      ∀ site, .startSweep site ∈ effects → ((effects.forM (perform p)).run s).2.Due own site := by
  refine ⟨Tame.forM effects (fun effect _ => perform_tame p effect) s h, fun site hstart => ?_⟩
  exact reaches_of_forM (motive := Due own site)
    (fun s t hsound hcarried hdue => hcarried.toUndisturbed.due hsound hdue)
    (fun effect _ => perform_tame p effect) hstart (fun s hsound => due_spawn hsound site) h

/-! ## Changes of the provider -/

/-- `changeReporting` changes the provider and performs what that asks for: the sweeps are left
alone, and those of new sites have started. -/
theorem changeReporting_performs {α : Type} (absent : α)
    {change : Moment → Provider → α × Provider.Change} {p : Provider} {event : Provider.Event}
    (h : Sound config own s) (hp : s.supply = .pooled p)
    (hstep : (change s.moment p).2 = p.step event) :
    Carried config own { s with supply := .pooled (p.step event).1 }
        ((changeReporting absent change).run s).2 ∧
      ∀ site, .startSweep site ∈ (p.step event).2 →
        ((changeReporting absent change).run s).2.Due own site := by
  obtain ⟨known, hknown, hreachable⟩ := h.supply
  obtain rfl := Supply.pooled.inj (hp.symm.trans hknown)
  have hsound : Sound config own { s with supply := .pooled (p.step event).1 } :=
    { sweeps := h.sweeps
      supply := ⟨_, rfl, hreachable.step event⟩
      numbered := h.numbered
      running := h.running
      own := h.own }
  have hanswer : change s.moment p = ((change s.moment p).1, p.step event) := Prod.ext rfl hstep
  -- the provider takes its step, and then its effects are performed one by one
  have hrun : ((changeReporting absent change).run s).2 =
      (((p.step event).2.forM (perform (p.step event).1)).run
        { s with supply := .pooled (p.step event).1 }).2 := by
    unfold changeReporting
    rw [StateT.run_bind, StateT.run_get, pure_bind]
    dsimp only
    rw [hp]
    dsimp only
    rw [hanswer]
    rfl
  rw [hrun]
  exact perform_all hsound (p.step event).1 (p.step event).2

/-- `changeReporting` of what is `Permitted` at the provider, except to let it go, leaves the sweeps
alone. -/
theorem changeReporting_carried {α : Type} {absent : α}
    {change : Moment → Provider → α × Provider.Change} {p : Provider} {event : Provider.Event}
    (h : Sound config own s) (hp : s.supply = .pooled p)
    (hstep : (change s.moment p).2 = p.step event) (hpermitted : p.Permitted event)
    (hletGo : event ≠ .letGo) (hlooks : ∀ look ∈ event.looks, look = s.moment.now) :
    Carried config own s ((changeReporting absent change).run s).2 := by
  obtain ⟨known, hknown, hreachable⟩ := h.supply
  obtain rfl := Supply.pooled.inj (hp.symm.trans hknown)
  obtain ⟨hcarried, hstarts⟩ := changeReporting_performs absent h hp hstep
  refine ⟨⟨hcarried.clock, hcarried.running, hcarried.nextTask, hcarried.queue, hcarried.sweeps,
    hcarried.plain, hcarried.timers⟩, hcarried.sound, fun q hq => ?_⟩
  obtain rfl := Supply.pooled.inj (hp.symm.trans hq)
  obtain ⟨r, hr, hheld, hupkept⟩ := hcarried.upkept _ rfl
  have hchanged : Provider.Upkept config s.moment.now _ p (p.step event).1 :=
    Provider.step_upkept hreachable h.sweeps hpermitted hlooks
  exact ⟨r, hr, fun hbefore => hheld ((Provider.isHeld_step hreachable hletGo).trans hbefore),
    hchanged.trans hupkept hstarts fun _ hdue => hdue⟩

/-- `changeReporting` of what anybody may bring about at the provider is `Tame`. -/
theorem changeReporting_tame {α : Type} {absent : α}
    {change : Moment → Provider → α × Provider.Change} (event : Moment → Provider.Event)
    (hchange : ∀ m p, (change m p).2 = p.step (event m)) (hfree : ∀ m, (event m).isFree = true)
    (hlooks : ∀ m, ∀ look ∈ (event m).looks, look = m.now) :
    Tame config own (changeReporting absent change) := by
  intro s h
  obtain ⟨p, hp, -⟩ := h.supply
  refine changeReporting_carried h hp (hchange s.moment p) (.of_isFree (hfree s.moment))
    (fun hletGo => ?_) (hlooks s.moment)
  have hevent := hfree s.moment
  rw [hletGo] at hevent
  cases hevent

/-- `change` of what anybody may bring about at the provider is `Tame`. -/
theorem change_tame {change : Moment → Provider → Provider.Change}
    (event : Moment → Provider.Event) (hchange : ∀ m p, change m p = p.step (event m))
    (hfree : ∀ m, (event m).isFree = true)
    (hlooks : ∀ m, ∀ look ∈ (event m).looks, look = m.now) :
    Tame config own (Simulation.change change) :=
  changeReporting_tame event hchange hfree hlooks

/-- No sweep depends on the provider, except through the pools. -/
theorem Undisturbed.of_supply (s : Simulation) (supply : Supply) :
    Undisturbed own s { s with supply } where
  clock := rfl
  running := rfl
  nextTask := Nat.le_refl _
  queue := List.Subset.refl _
  sweeps := fun _ _ _ => rfl
  plain := fun _ _ hplain => hplain
  timers := fun _ _ _ _ _ htimer _ => htimer

/-- What makes no site may happen to the provider with nothing done about it. -/
theorem Carried.of_step {p : Provider} {event : Provider.Event} (h : Sound config own s)
    (hp : s.supply = .pooled p) (hpermitted : p.Permitted event) (hletGo : event ≠ .letGo)
    (hlooks : ∀ look ∈ event.looks, look = s.moment.now)
    (hnone : ∀ site, .startSweep site ∉ (p.step event).2) :
    Carried config own s { s with supply := .pooled (p.step event).1 } := by
  obtain ⟨known, hknown, hreachable⟩ := h.supply
  obtain rfl := Supply.pooled.inj (hp.symm.trans hknown)
  refine ⟨.of_supply s _, ?_, fun q hq => ?_⟩
  · exact ⟨h.sweeps, ⟨_, rfl, hreachable.step event⟩, h.numbered, h.running, h.own⟩
  · obtain rfl := Supply.pooled.inj (hp.symm.trans hq)
    have hchanged : Provider.Upkept config s.moment.now _ p (p.step event).1 :=
      Provider.step_upkept hreachable h.sweeps hpermitted hlooks
    refine ⟨_, rfl, fun hheld => (Provider.isHeld_step hreachable hletGo).trans hheld, ?_⟩
    exact hchanged.trans (.refl _) (fun site hstart => absurd hstart (hnone site))
      fun _ hdue => hdue

/-- `changeDirect` is `Tame`: where there are pools, there is no provider without them to change. -/
theorem changeDirect_tame {α : Type} (change : Direct → α × Direct) (absent : α) :
    Tame config own (changeDirect change absent) := by
  intro s h
  obtain ⟨p, hp, -⟩ := h.supply
  have hrun : (changeDirect change absent).run s = (absent, s) := by
    unfold changeDirect
    rw [StateT.run_bind, StateT.run_get, pure_bind]
    dsimp only
    rw [hp]
    rfl
  rw [hrun]
  exact .refl h

/-! ## Attempts to open connections -/

theorem setStage_tame (number : Nat) (stage : AttemptStage) :
    Tame config own (setStage number stage) := .of_modify fun _ => rfl

theorem removeAttempt_tame (number : Nat) : Tame config own (removeAttempt number) :=
  .of_modify fun _ => rfl

theorem changeGate_tame {α : Type} (name : String) (change : Gate → α × Gate) :
    Tame config own (changeGate name change) := fun _ h => .of_rota h rfl

theorem wakeAttempts_tame (numbers : List Nat) : Tame config own (wakeAttempts numbers) := by
  refine .forM _ fun number _ => .bind .get fun s => ?_
  split
  · exact wake_tame _
  · exact .pure ()

theorem openGate_tame (name : String) (count : Nat) : Tame config own (openGate name count) :=
  .bind (changeGate_tame _ _) fun _ => wakeAttempts_tame _

theorem refuseAttempt_tame (attempt : Attempt) (failure : ConnectFailure) :
    Tame config own (refuseAttempt attempt failure) :=
  .bind (removeAttempt_tame _) fun _ => .bind (write_tame _) fun _ => .pure _

theorem finishCall_tame (attempt : Attempt) (call : Nat) :
    Tame config own (finishCall attempt call) := by
  refine .bind .get fun s => ?_
  dsimp only
  refine .bind (.of_modify fun _ => rfl) fun _ => ?_
  split
  · exact .pure _
  · exact refuseAttempt_tame _ _
  · refine .ite (.bind (.of_modify fun _ => rfl) fun _ => ?_) ?_
    all_goals
      exact .bind (removeAttempt_tame _) fun _ => .bind (write_tame _) fun _ => .pure _

theorem callTransport_tame (attempt : Attempt) : Tame config own (callTransport attempt) := by
  unfold callTransport
  split
  · exact refuseAttempt_tame _ _
  · refine .bind .get fun s => ?_
    dsimp only
    refine .bind (.of_modify fun _ => rfl) fun _ => .ite (finishCall_tame _ _) ?_
    refine .bind (instantIn_tame _) fun wakeAt => .bind (setStage_tame _ _) fun _ => ?_
    exact .bind (sleepUntil_tame (own_attempt _) _ _) fun _ => .ite (finishCall_tame _ _) (.pure _)

theorem approachGate_tame (attempt : Attempt) : Tame config own (approachGate attempt) := by
  unfold approachGate
  split
  · exact callTransport_tame _
  · refine .bind (changeGate_tame _ _) fun _ => .ite (callTransport_tame _) ?_
    exact .bind (setStage_tame _ _) fun _ => .pure _

theorem pollAttempt_tame (attempt : Attempt) : Tame config own (pollAttempt attempt) := by
  unfold pollAttempt
  split
  · exact .bind (hasFired_tame _) fun _ => .ite (approachGate_tame _) (.pure _)
  · exact .bind (changeGate_tame _ _) fun _ => .ite (callTransport_tame _) (.pure _)
  · exact .bind (hasFired_tame _) fun _ => .ite (finishCall_tame _ _) (.pure _)

theorem beginAttempt_tame (owner : AttemptOwner) (destination : Destination) (sleeper : Sleeper) :
    Tame config own (beginAttempt owner destination sleeper) := by
  have hrest : ∀ (number : Nat) (hook : Hook) (wakeAt : Instant) (attempt : Attempt),
      Tame config own (do
        write ("connect #" ++ toString number ++ " " ++ destination.display)
        if hook.delay.isNone then approachGate attempt
        else if ← sleepUntil (.attempt number) wakeAt sleeper then approachGate attempt
        else return none) := by
    intro number hook wakeAt attempt
    refine .bind (write_tame _) fun _ => .ite (approachGate_tame _) ?_
    exact .bind (sleepUntil_tame (own_attempt _) _ _) fun _ => .ite (approachGate_tame _) (.pure _)
  intro s h
  -- the attempt is entered before anything else happens
  have hentered : ∀ attempts, Carried config own s
      { s with attemptCount := s.attemptCount + 1, attempts } := fun _ => .of_rota h rfl
  exact (hentered _).trans (hrest _ _ _ _ _ (hentered _).sound)

theorem pollAttemptOf_tame (owner : AttemptOwner) (destination : Destination) (sleeper : Sleeper) :
    Tame config own (pollAttemptOf owner destination sleeper) := by
  refine .bind .get fun s => ?_
  split
  · exact pollAttempt_tame _
  · exact beginAttempt_tame _ _ _

theorem dropAttemptOf_tame (owner : AttemptOwner) : Tame config own (dropAttemptOf owner) := by
  refine .bind .get fun s => ?_
  split
  · exact .pure ()
  · refine .bind (clearTimer_tame (own_attempt _)) fun _ => ?_
    split
    · exact .bind (.pure ()) fun _ => removeAttempt_tame _
    · refine .bind (changeGate_tame _ _) fun _ => .bind (wakeAttempts_tame _) fun _ => ?_
      exact removeAttempt_tame _
    · exact .bind (.of_modify fun _ => rfl) fun _ => removeAttempt_tame _

/-! ## Acquisitions -/

theorem clearDeadline_tame (known : Option Acquisition) :
    Tame config own (clearDeadline known) := by
  unfold clearDeadline
  split
  · exact clearTimer_tame (own_request _ _)
  · exact .pure ()

/-- Polling an acquisition is `Tame`, as anybody may do it. -/
theorem changeReporting_poll_tame (absent : Provider.Progress) (id : Nat) :
    Tame config own (changeReporting absent fun m p => p.poll m id) :=
  changeReporting_tame (.poll · id) (fun _ _ => rfl) (fun _ => rfl)
    fun _ _ => List.mem_singleton.1

theorem pollConnecting_tame (id : Nat) (destination : Destination) (sleeper : Sleeper) :
    Tame config own (pollConnecting id destination sleeper) := by
  refine .bind (pollAttemptOf_tame _ _ _) fun answer => ?_
  split
  · exact .pure _
  · rename_i failure
    refine .bind ?_ fun _ => .pure _
    exact changeReporting_tame (fun _ => .openingFailed id failure) (fun _ _ => rfl) (fun _ => rfl)
      nofun
  · rename_i conn
    refine .bind ?_ fun _ => .pure _
    exact changeReporting_tame (.opened · id conn) (fun _ _ => rfl) (fun _ => rfl)
      fun _ _ => List.mem_singleton.1

theorem pollPooled_tame (id : Nat) (sleeper : Sleeper) :
    Tame config own (pollPooled id sleeper) := by
  refine .bind .get fun s => ?_
  dsimp only
  refine .bind (changeReporting_poll_tame _ id) fun progress => ?_
  split
  · exact .bind (clearDeadline_tame _) fun _ => .pure _
  · exact pollConnecting_tame _ _ _
  · split
    · refine .bind (sleepUntil_tame (own_request _ _) _ _) fun _ => .ite ?_ (.pure _)
      refine .bind (changeReporting_poll_tame _ id) fun progress => ?_
      split <;> exact .pure _
    · exact .pure _

theorem pollDirect_tame (id : Nat) (destination : Destination) (sleeper : Sleeper) :
    Tame config own (pollDirect id destination sleeper) := by
  refine .bind (pollAttemptOf_tame _ _ _) fun answer => ?_
  split
  · exact .pure _
  · exact .bind (changeDirect_tame _ _) fun _ => .pure _
  · refine .bind .get fun s => ?_
    dsimp only
    refine .bind (changeDirect_tame _ _) fun lease => ?_
    split
    · exact .pure _
    · exact .bind (trace_tame _) fun _ => .pure _

theorem pollAcquisition_tame (id : Nat) (sleeper : Sleeper) :
    Tame config own (pollAcquisition id sleeper) := by
  refine .bind .get fun s => ?_
  split
  · exact pollPooled_tame _ _
  · split
    · exact .pure _
    · exact pollDirect_tame _ _ _

theorem dropAcquisition_tame (id : Nat) : Tame config own (dropAcquisition id) := by
  refine .bind (dropAttemptOf_tame _) fun _ => .bind .get fun _ => ?_
  refine .bind (clearDeadline_tame _) fun _ => .bind ?_ fun _ => changeDirect_tame _ _
  exact change_tame (.abandon · id) (fun _ _ => rfl) (fun _ => rfl)
    fun _ _ => List.mem_singleton.1

theorem release_tame (lease : Lease) : Tame config own (release lease) := by
  cases lease with
  | pooled known =>
    exact change_tame (.release · known) (fun _ _ => rfl) (fun _ => rfl)
      fun _ _ => List.mem_singleton.1
  | direct connection =>
    refine .bind .get fun s => ?_
    split
    · exact .pure ()
    · refine .bind (changeDirect_tame _ _) fun _ => .bind (trace_tame _) fun _ => ?_
      exact .discard (spawn_tame _)

theorem detach_tame (lease : Lease) : Tame config own (detach lease) := by
  cases lease with
  | pooled known =>
    exact changeReporting_tame (fun _ => .detach known) (fun _ _ => rfl) (fun _ => rfl) nofun
  | direct connection =>
    refine .bind .get fun s => ?_
    exact .bind (changeDirect_tame _ _) fun _ => .pure _

/-! ## Tasks -/

theorem finishClose_tame (id : Nat) (conn : Connection) (owner : Option SiteConnection) :
    Tame config (some id) (finishClose id conn owner) := by
  refine .bind (.of_modify fun _ => rfl) fun _ => .bind (write_tame _) fun _ => ?_
  split
  · exact .bind (.pure ()) fun _ => removeTask_tame id
  · rename_i known
    refine .bind ?_ fun _ => removeTask_tame id
    exact change_tame (fun _ => .closeFinished known.site known.connection) (fun _ _ => rfl)
      (fun _ => rfl) nofun

theorem runClose_tame (id : Nat) (conn : Connection) (owner : Option SiteConnection)
    (wakeAt : Option Instant) : Tame config (some id) (runClose id conn owner wakeAt) := by
  cases wakeAt with
  | some wakeAt => exact .bind (hasFired_tame _) fun _ => .ite (finishClose_tame _ _ _) (.pure ())
  | none =>
    refine .bind (write_tame _) fun _ => .bind .get fun s => ?_
    dsimp only
    refine .ite (finishClose_tame _ _ _) ?_
    refine .bind (instantIn_tame _) fun wakeAt => .bind (setJob_tame id rfl) fun _ => ?_
    refine .bind (sleepUntil_tame (own_task id) _ _) fun _ => ?_
    exact .ite (finishClose_tame _ _ _) (.pure ())

theorem runOpenForQueue_tame (id site opening : Nat) :
    Tame config (some id) (runOpenForQueue id site opening) := by
  refine .bind .get fun s => ?_
  split
  · exact removeTask_tame id
  · split
    · exact removeTask_tame id
    · refine .bind (pollAttemptOf_tame _ _ _) fun answer => ?_
      split
      · exact .pure ()
      · rename_i conn
        refine .bind ?_ fun _ => removeTask_tame id
        exact change_tame (fun m => .openedForQueue m site opening conn m.now) (fun _ _ => rfl)
          (fun _ => rfl) (by simp [Provider.Event.looks])
      · rename_i failure
        refine .bind ?_ fun _ => removeTask_tame id
        exact change_tame (.openingForQueueFailed · site opening failure) (fun _ _ => rfl)
          (fun _ => rfl) fun _ _ => List.mem_singleton.1

theorem finishHolding_tame (id : Nat) (label : String) (hold : Option Duration) (lease : Lease) :
    Tame config (some id) (finishHolding id label hold lease) :=
  .bind (release_tame _) fun _ => .bind (write_tame _) fun _ => setJob_tame id rfl

/-- A task that holds a connection for a while is `Tame`. -/
theorem keepFor_tame (id : Nat) (label : String) (time : Duration) (lease : Lease) :
    Tame config (some id) (do
      let wakeAt ← instantIn time
      setJob id (.acquire label (some time) (.holding lease wakeAt))
      if ← sleepUntil (.task id) wakeAt (.task id) then
        finishHolding id label (some time) lease) := by
  refine .bind (instantIn_tame _) fun wakeAt => .bind (setJob_tame id rfl) fun _ => ?_
  refine .bind (sleepUntil_tame (own_task id) _ _) fun _ => ?_
  exact .ite (finishHolding_tame _ _ _ _) (.pure ())

theorem runAcquire_tame (id : Nat) (label : String) (hold : Option Duration)
    (stage : AcquireStage) : Tame config (some id) (runAcquire id label hold stage) := by
  cases stage with
  | waiting acquisition =>
    refine .bind (pollAcquisition_tame _ _) fun answer => ?_
    split
    · exact .pure ()
    · exact .bind (write_tame _) fun _ => setJob_tame id rfl
    · rename_i lease
      refine .bind .get fun s => ?_
      cases hold with
      | none =>
        dsimp only
        split
        · exact setJob_tame id rfl
        · exact .bind (write_tame _) fun _ => setJob_tame id rfl
      | some time =>
        dsimp only
        split
        · exact keepFor_tame id label time lease
        · exact .bind (write_tame _) fun _ => keepFor_tame id label time lease
  | holding lease wakeAt =>
    exact .bind (hasFired_tame _) fun _ => .ite (finishHolding_tame _ _ _ _) (.pure ())
  | ended result => exact .pure ()
  | returned => exact .pure ()

theorem pollDisposal_tame (disposal : Disposal) : Tame config own (pollDisposal disposal) := by
  refine .bind ?_ fun _ => .bind .get fun _ => .pure _
  exact change_tame (.pollDisposal · disposal) (fun _ _ => rfl) (fun _ => rfl)
    fun _ _ => List.mem_singleton.1

theorem runDispose_tame (id : Nat) (disposal : Disposal) (label : Option String) :
    Tame config (some id) (runDispose id disposal label) := by
  have hwhole : ∀ {ending : Sim Unit}, Tame config (some id) ending → Tame config (some id) (do
      unless (← get).isDisposalFinished disposal do watchDisposal disposal id
      if ← pollDisposal disposal then ending) := by
    intro ending hending
    have hpolled : Tame config (some id) (do if ← pollDisposal disposal then ending) :=
      .bind (pollDisposal_tame _) fun _ => .ite hending (.pure ())
    refine .bind .get fun s => .ite hpolled ?_
    exact .bind (watchDisposal_tame _ _) fun _ => hpolled
  cases label with
  | none => exact hwhole (removeTask_tame id)
  | some label => exact hwhole (.bind (write_tame _) fun _ => setJob_tame id rfl)

/-- `runJob` is `Tame` for every task but those that sweep. -/
theorem runJob_tame (id : Nat) {job : Job} (hjob : job.isSweep = false) :
    Tame config (some id) (runJob id job) := by
  cases job with
  | sweep site due => cases hjob
  | close conn owner wakeAt => exact runClose_tame _ _ _ _
  | openForQueue site opening => exact runOpenForQueue_tame _ _ _
  | acquire label hold stage => exact runAcquire_tame _ _ _ _
  | dispose disposal label isFinished =>
    cases isFinished with
    | true => exact .pure ()
    | false => exact runDispose_tame _ _ _

/-- `dropJob` is `Tame`. -/
theorem dropJob_tame (id : Nat) (job : Job) : Tame config (some id) (dropJob id job) := by
  unfold dropJob
  split
  · exact dropAcquisition_tame _
  · exact .bind (clearTimer_tame (own_task id)) fun _ => release_tame _
  · exact .bind (clearTimer_tame (own_task id)) fun _ => release_tame _
  · exact .of_modify fun _ => rfl
  · exact .pure ()

/-- `runTask` is `Tame` for a task that is dropped, and for every task but those that sweep. -/
theorem runTask_tame {task : Task} (htask : task.isAborted = true ∨ task.job.isSweep = false) :
    Tame config (some task.id) (runTask task) := by
  unfold runTask
  split
  · exact .bind (dropJob_tame _ _) fun _ => removeTask_tame _
  · exact runJob_tame _ (htask.resolve_left (by assumption))

/-- A task is marked as one to be dropped. -/
theorem markAborted_tame (id : Nat) :
    Tame config (some id) (modify fun s => s.changeTask id fun task =>
      { task with isAborted := true } : Sim Unit) := fun _ h =>
  Carried.changeTask h (fun task => { task with isAborted := true }) (fun _ => rfl)
    fun _ => sweepOf?_changeTask (fun _ => rfl) fun _ => .inl rfl

/-- `abort` of a task leaves all sweeps alone but its own. -/
theorem abort_tame (id : Nat) : Tame config (some id) (abort id) := by
  refine .bind .get fun s => ?_
  split
  · exact .pure ()
  · refine .ite ?_ ?_
    · exact .bind (dropJob_tame _ _) fun _ => removeTask_tame id
    · exact .bind (markAborted_tame id) fun _ => enqueue_tame id

end Simulation

end ConnectionPool
