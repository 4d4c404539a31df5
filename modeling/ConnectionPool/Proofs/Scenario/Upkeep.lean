import ConnectionPool.Proofs.Simulation.Rounds
import ConnectionPool.Scenario

/-!
# Scenarios and the sweeps

Whatever command is given, as long as it does not move the clock: every open pool that is kept alive
stays looked after. Who asks the provider for anything has been found to hold it, and who drops a
task drops one that does not sweep.

## Main definitions

* `Tended`: every pool is looked after, and the rest of the scenario goes with it.
* `Keeps`: a program that leaves it so.

## Main results

* `Keeps.bind`, `Keeps.mapM`: programs made of such programs are so.
* `perform_keeps`: every command that does not move the clock.
-/

namespace ConnectionPool

/-- The task that stands behind what is kept. -/
def Held.task? : Held → Option Nat
  | .acquiring id | .disposing id => some id
  | _ => none

/-- The command moves the clock. -/
def Command.movesClock : Command → Bool
  | .advance _ | .jump _ => true
  | _ => false

namespace Scenario

open Simulation (Tending Tame Later Sound Carried)

/-- `Tended config interval asks s`: every pool is looked after, whoever is said to hold the
provider does, and no task that sweeps is kept under a handle. If `asks`, then somebody does hold
the provider. -/
structure Tended (config : Config) (interval : Duration) (asks : Bool) (s : Scenario) : Prop where
  /-- The simulation is `Tending`: every pool is looked after. -/
  tending : Tending config interval s.simulation
  /-- The time is in the clock's range. -/
  inRange : s.simulation.moment.now.Representable
  /-- Whoever is said to hold the provider does. -/
  held : s.isProviderHeld = true → ∃ p, s.simulation.supply = .pooled p ∧ p.isHeld = true
  /-- What is kept are no sweeps. -/
  plain : ∀ entry ∈ s.handles, ∀ id, entry.2.task? = some id → s.simulation.Plain id
  /-- Somebody holds the provider. -/
  asks : asks = true → s.isProviderHeld = true

/-- `Keeps config interval asks program`: the program leaves every pool looked after. -/
def Keeps (config : Config) (interval : Duration) (asks : Bool) (program : Play α) : Prop :=
  ∀ s, Tended config interval asks s → Tended config interval asks (program.run s).2

variable {config : Config} {interval : Duration} {asks : Bool} {s : Scenario} {α β : Type}

/-- A scenario stays `Tended` when its simulation becomes `Later`, without moving the clock. -/
theorem Tended.later {t : Simulation} (h : Tended config interval asks s)
    (htending : Tending config interval t) (hlater : Later s.simulation t) :
    Tended config interval asks { s with simulation := t } where
  tending := htending
  inRange := by
    have hnow : t.moment.now = s.simulation.moment.now := congrArg Instant.ofMillis hlater.now
    show t.moment.now.Representable
    rw [hnow]
    exact h.inRange
  held := fun hholds => by
    obtain ⟨p, hp, hheld⟩ := h.held hholds
    exact hlater.held p hp hheld
  plain := fun entry hentry id hid => (h.plain entry hentry id hid).later hlater
  asks := h.asks

/-- A scenario stays `Tended` when what is done with the pools is `Carried`. -/
theorem Tended.carried {t : Simulation} (h : Tended config interval asks s)
    (hcarried : Carried config none s.simulation t) :
    Tended config interval asks { s with simulation := t } := by
  refine h.later ⟨hcarried.sound, hcarried.running.trans h.tending.idle, fun site => ?_⟩
    hcarried.later
  exact (h.tending.tended site).carried h.tending.sound hcarried

/-- What is kept under handles may change. -/
theorem Tended.handles (h : Tended config interval asks s) {handles : List (String × Held)}
    (hplain : ∀ entry ∈ handles, ∀ id, entry.2.task? = some id → s.simulation.Plain id) :
    Tended config interval asks { s with handles } :=
  ⟨h.tending, h.inRange, h.held, hplain, h.asks⟩

/-! ## Programs that leave every pool looked after -/

namespace Keeps

theorem pure (a : α) : Keeps config interval asks (Pure.pure a : Play α) := fun _ h => h

/-- Programs that `Keeps` allows can follow one another. -/
theorem bind {first : Play α} {rest : α → Play β} (h : Keeps config interval asks first)
    (hrest : ∀ a, Keeps config interval asks (rest a)) :
    Keeps config interval asks (first >>= rest) := fun s hs => hrest _ _ (h s hs)

/-- A program may depend on how things are. -/
theorem look {rest : Scenario → Play α}
    (h : ∀ s, Tended config interval asks s → Tended config interval asks ((rest s).run s).2) :
    Keeps config interval asks (MonadState.get >>= rest) := h

theorem get : Keeps config interval asks (MonadState.get : Play Scenario) := fun _ h => h

/-- Programs that `Keeps` allows for the members of a list can follow one another. -/
theorem mapM {f : α → Play β} (as : List α) (h : ∀ a, Keeps config interval asks (f a)) :
    Keeps config interval asks (as.mapM f) := by
  induction as with
  | nil =>
    rw [List.mapM_nil]
    exact .pure _
  | cons a as ih =>
    rw [List.mapM_cons]
    exact .bind (h a) fun _ => .bind ih fun _ => .pure _

theorem ite {condition : Bool} {yes no : Play α} (hyes : Keeps config interval asks yes)
    (hno : Keeps config interval asks no) :
    Keeps config interval asks (if condition then yes else no) := by
  cases condition
  · exact hno
  · exact hyes

/-- `simulate` of a `Tame` program leaves every pool looked after. -/
theorem simulate {program : Sim α} (htame : Tame config none program) :
    Keeps config interval asks (Scenario.simulate program) := fun s h =>
  h.carried (htame s.simulation h.tending.sound)

theorem forget (handle : String) : Keeps config interval asks (Scenario.forget handle) :=
  fun _ h => h.handles fun entry hentry => h.plain entry (List.mem_filter.1 hentry).1

theorem held? (handle : String) : Keeps config interval asks (Scenario.held? handle) :=
  .bind .get fun _ => .pure _

/-- A program may depend on what is kept under a handle. -/
theorem held {rest : Option Held → Play α} (handle : String)
    (hnone : Keeps config interval asks (rest none))
    (hsome : ∀ s held, Tended config interval asks s → (handle, held) ∈ s.handles →
      Tended config interval asks ((rest (some held)).run s).2) :
    Keeps config interval asks (Scenario.held? handle >>= rest) := by
  intro s h
  show Tended config interval asks ((rest (s.handles.lookup handle)).run s).2
  cases hlookup : s.handles.lookup handle with
  | none => exact hnone s h
  | some held => exact hsome s held h (mem_of_lookup hlookup)

theorem mention (destination : Destination) :
    Keeps config interval asks (Scenario.mention destination) := by
  intro s h
  show Tended config interval asks
    (if s.mentioned.contains destination then s
      else { s with mentioned := s.mentioned ++ [destination] })
  split
  · exact h
  · exact ⟨h.tending, h.inRange, h.held, h.plain, h.asks⟩

end Keeps

/-- Something may be kept that is no task, or one that does not sweep. -/
theorem Tended.keep (h : Tended config interval asks s) (handle : String) {held : Held}
    (hplain : ∀ id, held.task? = some id → s.simulation.Plain id) :
    Tended config interval asks ((Scenario.keep handle held).run s).2 := by
  refine h.handles fun entry hentry => ?_
  obtain rfl | hold := List.mem_cons.1 hentry
  · exact hplain
  · exact h.plain entry (List.mem_filter.1 hold).1

theorem keep_keeps (handle : String) {held : Held} (hnone : held.task? = none) :
    Keeps config interval asks (keep handle held) := fun _ h =>
  h.keep handle fun id hid => by cases hnone.symm.trans hid

/-- `withProvider` is what somebody does who holds the provider. -/
theorem withProvider_tended {step : Play Report}
    (h : ∀ s, Tended config interval true s → Tended config interval false (step.run s).2) :
    Keeps config interval false (withProvider step) := by
  refine .look fun s hs => ?_
  cases hheld : s.isProviderHeld with
  | false => exact hs
  | true => exact h s ⟨hs.tending, hs.inRange, hs.held, hs.plain, fun _ => hheld⟩

theorem Tended.anyone (h : Tended config interval asks s) : Tended config interval false s :=
  ⟨h.tending, h.inRange, h.held, h.plain, nofun⟩

theorem withProvider_keeps {step : Play Report} (h : Keeps config interval true step) :
    Keeps config interval false (withProvider step) :=
  withProvider_tended fun s hs => (h s hs).anyone

theorem withFreeHandle_keeps {step : Play Report} (h : Keeps config interval asks step)
    (handle : String) : Keeps config interval asks (withFreeHandle handle step) :=
  .bind (.held? handle) fun _ => .ite (.pure _) h

/-! ## Looking -/

theorem viewLease_keeps (lease : Lease) : Keeps config interval asks (viewLease lease) := by
  refine .look fun s h => ?_
  dsimp only
  split <;> exact h

theorem describeSurroundings_keeps : Keeps config interval asks describeSurroundings :=
  .bind .get fun _ => .pure _

theorem describeHeld_keeps (held : Held) : Keeps config interval asks (describeHeld held) := by
  unfold describeHeld
  split
  · exact .pure _
  · exact .pure _
  · exact .bind .get fun _ => .pure _
  · refine .bind (viewLease_keeps _) fun report => ?_
    split <;> exact .pure _
  · exact .pure _
  · exact .pure _

/-! ## Polling and dropping -/

theorem settleAcquisition_keeps (handle : String) (result : Except PoolError Lease) :
    Keeps config interval asks (settleAcquisition handle result) := by
  cases result with
  | ok lease => exact .bind (keep_keeps handle rfl) fun _ => viewLease_keeps lease
  | error error => exact .bind (.forget handle) fun _ => .pure _

theorem settleDisposal_keeps (handle : String) :
    Keeps config interval asks (settleDisposal handle) := .bind (.forget handle) fun _ => .pure _

/-- A task with another job is `Plain`. -/
theorem plain_of_job? {job : Job} {id : Nat} (h : Tended config interval asks s)
    (hjob : s.simulation.job? id = some job) (hplain : job.isSweep = false) :
    s.simulation.Plain id := by
  obtain ⟨task, htask, rfl⟩ := Option.map_eq_some_iff.1 hjob
  exact Simulation.plain_of_task? h.tending.sound htask (.inr hplain)

/-- What is `Tame` but for one task may be done for a task that is `Plain`. -/
theorem Tended.simulate_own {program : Sim α} {id : Nat} (h : Tended config interval asks s)
    (hplain : s.simulation.Plain id) (htame : Tame config (some id) program) :
    Tended config interval asks ((simulate program).run s).2 := by
  obtain ⟨htending, hlater⟩ := h.tending.tame_own hplain htame
  exact h.later htending hlater

theorem pollHeld_keeps (handle : String) (held : Held) :
    Keeps config interval asks (pollHeld handle held) := by
  cases held with
  | acquisition id =>
    refine .bind (.simulate (Simulation.pollAcquisition_tame _ _)) fun answer => ?_
    split
    · exact .pure _
    · exact settleAcquisition_keeps _ _
  | acquiring id =>
    -- a task that keeps a result is no sweep, so taking it off disturbs none
    refine .look fun s h => ?_
    split
    · rename_i result hjob
      have hplain := plain_of_job? h hjob rfl
      exact settleAcquisition_keeps handle result _
        (h.simulate_own hplain (Simulation.removeTask_tame id))
    · exact h
  | disposal disposal =>
    refine .bind (.simulate (Simulation.pollDisposal_tame _)) fun _ => ?_
    exact .ite (settleDisposal_keeps _) (.pure _)
  | disposing id =>
    refine .look fun s h => ?_
    split
    · rename_i hjob
      have hplain := plain_of_job? h hjob rfl
      exact settleDisposal_keeps handle _ (h.simulate_own hplain (Simulation.removeTask_tame id))
    · exact h
  | lease lease => exact .pure _
  | detached conn => exact .pure _

theorem poll_keeps (handle : String) : Keeps config interval asks (poll handle) := by
  refine .bind (.held? handle) fun held => ?_
  split
  · exact .pure _
  · exact pollHeld_keeps _ _

theorem pollAll_keeps : Keeps config interval asks pollAll :=
  .bind .get fun _ => .bind (.mapM _ fun _ => .bind (poll_keeps _) fun _ => .pure _)
    fun _ => .pure _

/-- A scenario stays `Tended` when what was kept under a handle is dropped. -/
theorem Tended.dropHeld (h : Tended config interval asks s) {held : Held}
    (hplain : ∀ id, held.task? = some id → s.simulation.Plain id) :
    Tended config interval asks ((Scenario.dropHeld held).run s).2 := by
  have haborted : ∀ id, s.simulation.Plain id →
      Tended config interval asks ((simulate (Simulation.abort id)).run s).2 := fun id hplain =>
    h.simulate_own hplain (Simulation.abort_tame id)
  cases held with
  | acquisition id => exact Keeps.simulate (Simulation.dropAcquisition_tame id) s h
  | acquiring id => exact haborted id (hplain id rfl)
  | disposing id => exact haborted id (hplain id rfl)
  | lease lease => exact Keeps.simulate (Simulation.release_tame lease) s h
  | detached conn => exact h
  | disposal disposal => exact h

theorem drop_keeps (handle : String) : Keeps config interval asks (perform (.drop handle)) :=
  .held handle (.pure _) fun s _ h hmem => (Keeps.forget handle s h).dropHeld (h.plain _ hmem)

/-! ## Making -/

/-- `keepTask` starts and keeps a task that sweeps nothing. -/
theorem keepTask_keeps (handle : String) {job : Job} (hjob : job.isSweep = false)
    {held : Nat → Held} (htask : ∀ id, (held id).task? = some id) (report : Report) :
    Keeps config interval asks (do
      keep handle (held (← simulate (Simulation.spawn job)))
      return report) := by
  intro s h
  have hspawned := h.carried (Simulation.spawn_tame job s.simulation h.tending.sound)
  refine hspawned.keep handle fun id hid => ?_
  obtain rfl : s.simulation.nextTask = id := Option.some.inj ((htask _).symm.trans hid)
  exact Simulation.plain_spawn h.tending.sound hjob

theorem beginAcquisition_keeps (handle : String) (id : Nat) (hold : Option Duration) (mode : Mode) :
    Keeps config interval asks (beginAcquisition handle id hold mode) := by
  cases mode with
  | poll => exact .bind (keep_keeps handle rfl) fun _ => poll_keeps handle
  | cold => exact .bind (keep_keeps handle rfl) fun _ => .pure _
  | spawn => exact keepTask_keeps handle rfl (fun _ => rfl) _

theorem beginDisposal_keeps (handle : String) (disposal : Disposal) (mode : Mode) :
    Keeps config interval asks (beginDisposal handle disposal mode) := by
  cases mode with
  | poll => exact .bind (keep_keeps handle rfl) fun _ => poll_keeps handle
  | cold => exact .bind (keep_keeps handle rfl) fun _ => .pure _
  | spawn => exact keepTask_keeps handle rfl (fun _ => rfl) _

/-! ## What needs the provider -/

/-- Whoever holds the provider may ask it for a connection. -/
theorem acquire_keeps (destination : Destination) :
    Keeps config interval true (simulate (Simulation.acquire destination)) := by
  intro s h
  obtain ⟨p, hp, hheld⟩ := h.held (h.asks rfl)
  have hpermitted : p.Permitted (.acquire destination) := ⟨fun _ => hheld, nofun⟩
  have hcarried := Simulation.Carried.of_step h.tending.sound hp hpermitted nofun nofun
    fun _ => List.not_mem_nil
  have hrun : ((Simulation.acquire destination).run s.simulation).2 =
      { s.simulation with supply := .pooled (p.step (.acquire destination)).1 } := by
    unfold Simulation.acquire
    rw [StateT.run_bind, StateT.run_get, pure_bind]
    dsimp only
    rw [hp]
    rfl
  rw [← hrun] at hcarried
  exact h.carried hcarried

/-- `changeReporting` is what whoever holds the provider may do. -/
theorem changeReporting_keeps {absent : α} {change : Moment → Provider → α × Provider.Change}
    (event : Provider.Event) (hchange : ∀ m p, (change m p).2 = p.step event)
    (halive : ∀ m site, event ≠ .sweep m site) (hletGo : event ≠ .letGo)
    (hlooks : event.looks = []) :
    Keeps config interval true (simulate (Simulation.changeReporting absent change)) := by
  intro s h
  obtain ⟨p, hp, hheld⟩ := h.held (h.asks rfl)
  have hpermitted : p.Permitted event :=
    ⟨fun _ => hheld, fun m site heq => absurd heq (halive m site)⟩
  refine h.carried (Simulation.changeReporting_carried h.tending.sound hp (hchange _ p) hpermitted
    hletGo fun look hlook => ?_)
  rw [hlooks] at hlook
  cases hlook

/-- After `dropProvider`, what is still kept alive is looked after. -/
theorem dropProvider_keeps : Keeps config interval false (perform .dropProvider) := by
  refine withProvider_tended fun s h => ?_
  obtain ⟨p, hp, -⟩ := h.held (h.asks rfl)
  have hrun : ((Simulation.change fun _ p => (p.letGo, [])).run s.simulation).2 =
      { s.simulation with supply := .pooled p.letGo } := by
    unfold Simulation.change Simulation.changeReporting
    rw [StateT.run_bind, StateT.run_get, pure_bind]
    dsimp only
    rw [hp]
    rfl
  show Tended config interval false
    { s with
      isProviderHeld := false
      simulation := ((Simulation.change fun _ p => (p.letGo, [])).run s.simulation).2 }
  rw [hrun]
  refine ⟨Simulation.letGo_spec h.tending hp, h.inRange, nofun,
    fun entry hentry id hid => ?_, nofun⟩
  obtain ⟨hnumbered, hsweep⟩ := h.plain entry hentry id hid
  exact ⟨hnumbered, hsweep⟩

/-! ## Commands -/

/-- Where there are pools, what `lease?` finds belongs to one of them. -/
theorem pooled_of_lease? {t : Simulation} {p : Provider} {lease : Lease} {e : Entry}
    {d : Destination} (hp : t.supply = .pooled p) (h : t.lease? lease = some (e, d)) :
    ∃ known, lease = .pooled known ∧ p.lease? known = some e := by
  unfold Simulation.lease? at h
  rw [hp] at h
  cases lease with
  | direct connection => cases h
  | pooled known =>
    obtain ⟨entry, hentry, hrest⟩ := Option.bind_eq_some_iff.1 h
    obtain ⟨site, -, heq⟩ := Option.bind_eq_some_iff.1 hrest
    obtain ⟨rfl, -⟩ := Prod.mk.inj (Option.some.inj heq)
    exact ⟨known, rfl, hentry⟩

theorem exchange_run {t : Simulation} {p : Provider} (hp : t.supply = .pooled p)
    (known : SiteConnection) (conn : Connection) :
    ((Simulation.exchange (.pooled known) conn).run t).2 =
      { t with supply := .pooled (p.exchange known conn) } := by
  unfold Simulation.exchange
  dsimp only
  unfold Simulation.change Simulation.changeReporting
  rw [StateT.run_bind, StateT.run_get, pure_bind]
  dsimp only
  rw [hp]
  rfl

/-- `swap` leaves every pool looked after. -/
theorem swap_keeps (first second : Lease) : Keeps config interval asks (swap first second) := by
  refine .look fun s h => ?_
  dsimp only
  split
  · rename_i one _ other _ hone hother
    obtain ⟨p, hp, -⟩ := h.tending.sound.supply
    obtain ⟨given, rfl, hgiven⟩ := pooled_of_lease? hp hone
    obtain ⟨taken, rfl, htaken⟩ := pooled_of_lease? hp hother
    have hpermitted : p.Permitted (.swap given taken) := .of_isFree rfl
    have hcarried := Simulation.Carried.of_step h.tending.sound hp hpermitted nofun nofun
      fun _ => List.not_mem_nil
    -- a swap is two exchanges, each with the connection that the other lease had before
    have hswap : p.swap given taken = (p.exchange given other.conn).exchange taken one.conn := by
      rw [Provider.swap, hgiven, htaken]
    have hrun : ((Simulation.exchange (.pooled taken) one.conn).run
        ((Simulation.exchange (.pooled given) other.conn).run s.simulation).2).2 =
          { s.simulation with supply := .pooled (p.step (.swap given taken)).1 } := by
      rw [exchange_run hp, exchange_run rfl, Provider.step, hswap]
    rw [← hrun] at hcarried
    exact h.carried hcarried
  · exact h

theorem changeTransport_keeps (change : Transport → Transport) :
    Keeps config interval asks (changeTransport change) :=
  .bind (.simulate (.of_modify fun _ => rfl)) fun _ => .pure _

theorem settle_keeps (hinterval : config.sweepInterval = some interval) :
    Keeps config interval asks (simulate Simulation.settle) := by
  intro s h
  obtain ⟨htending, hlater⟩ := Simulation.settle_spec h.tending hinterval
  exact h.later htending hlater

/-- `perform` of every command that does not move the clock leaves every pool looked after. -/
theorem perform_keeps (hinterval : config.sweepInterval = some interval) {command : Command}
    (hstill : command.movesClock = false) : Keeps config interval false (perform command) := by
  -- a command is put together from parts that each keep what is tended, and what it reads or prints
  -- in between makes no difference
  cases command with
  | acquire handle destination mode hold =>
    refine withProvider_keeps (withFreeHandle_keeps ?_ handle)
    refine .bind (.mention _) fun _ => .bind (acquire_keeps _) fun _ => ?_
    exact beginAcquisition_keeps _ _ _ _
  | poll handle => exact poll_keeps handle
  | pollAll => exact pollAll_keeps
  | drop handle => exact drop_keeps handle
  | info handle =>
    refine .bind (.held? handle) fun held => ?_
    split
    · exact viewLease_keeps _
    · exact .pure _
  | describe handle =>
    refine .bind ?_ fun held => ?_
    · cases handle with
      | none => exact .pure _
      | some handle => exact .held? handle
    · split
      · exact describeHeld_keeps _
      · exact describeSurroundings_keeps
  | detach handle =>
    refine .bind (.held? handle) fun held => ?_
    split
    · refine .bind (.simulate (Simulation.detach_tame _)) fun answer => ?_
      split
      · exact .pure _
      · exact .bind (keep_keeps _ rfl) fun _ => .bind .get fun _ => .pure _
    · exact .pure _
  | close handle =>
    refine .bind (.held? handle) fun held => ?_
    split
    · refine .bind (.forget _) fun _ => .bind ?_ fun _ => .pure _
      exact .simulate (Simulation.spawn_tame _)
    · exact .pure _
  | swap first second =>
    refine .bind (.held? first) fun one => .bind (.held? second) fun other => ?_
    split
    · exact .ite (.pure _) (swap_keeps _ _)
    · exact .pure _
  | breakConnection connection =>
    refine .bind .get fun s => .ite ?_ (.pure _)
    exact .bind (.simulate (.of_modify fun _ => rfl)) fun _ => .pure _
  | openGate gate permits =>
    exact .bind (.simulate (Simulation.openGate_tame _ _)) fun _ => .pure _
  | failNext count => exact changeTransport_keeps _
  | refuse address => exact changeTransport_keeps _
  | accept address => exact changeTransport_keeps _
  | connectsTo address => exact .bind .get fun _ => .pure _
  | status destination =>
    refine withProvider_keeps (.bind (.mention _) fun _ => .bind .get fun _ => .pure _)
  | dispose =>
    refine withProvider_keeps (.bind (.simulate ?_) fun _ => .pure _)
    exact Simulation.change_tame (fun _ => .dispose) (fun _ _ => rfl) (fun _ => rfl) nofun
  | disposeAtOnce =>
    refine withProvider_keeps (.bind ?_ fun _ => .pure _)
    exact changeReporting_keeps .disposeAtOnce (fun _ _ => rfl) nofun nofun rfl
  | disposeLater handle mode =>
    refine withProvider_keeps (withFreeHandle_keeps (.bind ?_ fun _ => ?_) handle)
    · exact .bind .get fun s => by split <;> exact .pure _
    · exact beginDisposal_keeps _ _ _
  | disposeWhen handle destination mode =>
    refine withProvider_keeps (withFreeHandle_keeps (.bind (.mention _) fun _ => ?_) handle)
    refine .bind ?_ fun _ => beginDisposal_keeps _ _ _
    exact changeReporting_keeps (.disposeWhen destination) (fun _ _ => rfl) nofun nofun rfl
  | cloneDisposal source handle mode =>
    refine withFreeHandle_keeps (.bind (.held? source) fun held => ?_) handle
    split
    · exact beginDisposal_keeps _ _ _
    · exact .pure _
  | cloneProvider => exact withProvider_keeps (.pure _)
  | dropProvider => exact dropProvider_keeps
  | settle => exact .bind (settle_keeps hinterval) fun _ => .pure _
  | advance millis => cases hstill
  | jump millis => cases hstill

end Scenario

end ConnectionPool
