import ConnectionPool.Proofs.Site.Closed

/-!
# Waiting for a pool's end

Whoever waits for the end of a pool looks at it, and falls asleep if it may not end yet. It is never
asleep when the pool may end: every change that could bring this about tells it so, and what is told
looks again. When no grace period is set, the wait is over only if nothing is left of the pool.

## Main definitions

* `Driven`: the sites that events lead to when only the end of closed pools is waited for.
* `Alert`: whoever waits for a pool's end is not asleep when it may end.

## Main results

* `look_cases`: what a look at the pool makes of the wait.
* `alert_of_driven`: nobody oversleeps a pool's end.
* `timeless_of_driven`: without a grace period, the wait is over only if the pool has ended.
-/

namespace ConnectionPool

namespace Drain

/-- A `Drain` that has been `told` of a change knows what it knew about the grace period. -/
theorem exists_of_told {drain : Drain} {closed : Bool} {graceEnd : Option Instant}
    {graceOver changed : Bool} (h : drain.told closed = .waiting graceEnd graceOver changed) :
    ∃ before, drain = .waiting graceEnd graceOver before := by
  unfold told at h
  split at h
  · obtain ⟨rfl, rfl, -⟩ := waiting.inj h
    exact ⟨false, rfl⟩
  · exact ⟨changed, h⟩

/-- A `Drain` that has been `told` that a closed pool has changed is not asleep. -/
theorem told_true_ne (drain : Drain) (graceEnd : Option Instant) (graceOver : Bool) :
    drain.told true ≠ .waiting graceEnd graceOver false := by
  unfold told
  split
  · nofun
  · rename_i hne
    exact hne graceEnd graceOver

theorem told_eq_finished {drain : Drain} {closed : Bool} :
    drain.told closed = .finished ↔ drain = .finished := by
  cases drain with
  | unobserved | finished => exact Iff.rfl
  | waiting graceEnd graceOver changed => cases changed <;> simp [told]

theorem told_eq_unobserved {drain : Drain} {closed : Bool} :
    drain.told closed = .unobserved ↔ drain = .unobserved := by
  cases drain with
  | unobserved | finished => exact Iff.rfl
  | waiting graceEnd graceOver changed => cases changed <;> simp [told]

end Drain

namespace Site

variable {config : Config} {s t : Site} {event : Event} {m : Moment}

/-- `Driven config s`: events lead from a fresh site to `s` of which no look comes before the pool
is closed. -/
inductive Driven (config : Config) : Site → Prop
  | fresh (destination : Destination) : Driven config (.fresh destination)
  | step {s : Site} (event : Event) (hlook : event.isLook = true → s.pool.closed = true) :
      Driven config s → Driven config (s.step config event).1

theorem Driven.reachable (h : Driven config s) : Reachable config s := by
  induction h with
  | fresh destination => exact .fresh destination
  | step event _ _ ih => exact ih.step event

/-! ## What becomes of the wait -/

/-- `Keeps s t`: on the way from `s` to `t`, the `drain` is left alone or `told` of a change. -/
def Keeps (s t : Site) : Prop := t.drain = s.drain ∨ ∃ closed, t.drain = s.drain.told closed

theorem Keeps.waiting (h : s.Keeps t) {graceEnd : Option Instant} {graceOver changed : Bool}
    (hdrain : t.drain = .waiting graceEnd graceOver changed) :
    ∃ before, s.drain = .waiting graceEnd graceOver before := by
  obtain heq | ⟨closed, heq⟩ := h
  · exact ⟨changed, heq.symm.trans hdrain⟩
  · exact Drain.exists_of_told (heq.symm.trans hdrain)

theorem Keeps.finished (h : s.Keeps t) : t.drain = .finished ↔ s.drain = .finished := by
  obtain heq | ⟨closed, heq⟩ := h
  · rw [heq]
  · rw [heq, Drain.told_eq_finished]

theorem Keeps.unobserved (h : s.Keeps t) : t.drain = .unobserved ↔ s.drain = .unobserved := by
  obtain heq | ⟨closed, heq⟩ := h
  · rw [heq]
  · rw [heq, Drain.told_eq_unobserved]

theorem takeIn_keeps (config : Config) (m : Moment) (e : Entry) (s : Site) :
    s.Keeps (takeIn config m e s).1 := by
  obtain ⟨reason, -, heq⟩ | ⟨-, heq⟩ := takeIn_cases config m e s <;> rw [heq]
  · exact .inr ⟨s.pool.closed, by simp [Pool.giveUp, Pool.takeBack]⟩
  · exact .inr ⟨s.pool.closed, by simp [Pool.takeBack]⟩

theorem abandon_keeps (config : Config) (opening : Nat) (s : Site) :
    s.Keeps (s.abandon config opening).1 := by
  obtain ⟨-, heq⟩ | ⟨-, heq⟩ := abandon_cases config opening s <;> rw [heq]
  · exact .inl rfl
  · exact .inr ⟨s.pool.closed, by simp [Pool.freeSlot, endOpening]⟩

/-- A `step` that is not a look leaves the `drain` alone, or tells it of a change. -/
theorem step_keeps (config : Config) (hlook : event.isLook = false) (s : Site) :
    s.Keeps (s.step config event).1 := by
  -- what arrives, comes back, is closed or frees a slot is announced, and no other event touches
  -- the wait
  cases event with
  | acquire m =>
    obtain ⟨-, heq⟩ | ⟨-, ⟨e, -, heq⟩ | ⟨-, ⟨-, heq⟩ | ⟨-, -, -, heq⟩ | ⟨error, -, heq⟩⟩⟩ :=
      acquire_cases config m s <;> rw [step, heq] <;> exact .inl rfl
  | opened opening conn m =>
    obtain ⟨-, heq⟩ | ⟨-, ⟨-, heq⟩ | ⟨-, heq⟩⟩ := opened_cases opening conn m s <;> rw [step, heq]
    · exact .inl rfl
    · exact .inr ⟨s.pool.closed, by simp [Pool.giveUp, Pool.enlist, endOpening]⟩
    · exact .inl rfl
  | openingFailed opening failure =>
    rw [step, openingFailed_snd_fst]
    exact abandon_keeps config opening s
  | abandon opening => exact abandon_keeps config opening s
  | openedForQueue opening conn m created =>
    obtain ⟨-, heq⟩ | ⟨-, ⟨-, heq⟩ | ⟨-, heq⟩⟩ :=
      openedForQueue_cases config opening conn m created s <;>
      rw [step, heq]
    · exact .inl rfl
    · exact .inr ⟨s.pool.closed, by simp [Pool.giveUp, Pool.enlist, endOpening]⟩
    · exact .inr ⟨s.pool.closed, by simp [Pool.enlist, endOpening]⟩
  | openingForQueueFailed opening failure m =>
    obtain ⟨-, heq⟩ | ⟨-, heq⟩ := openingForQueueFailed_cases config opening failure m s <;>
      rw [step, heq]
    · exact .inl rfl
    · exact .inr ⟨s.pool.closed, by simp [Pool.freeSlot, endOpening]⟩
  | poll m request =>
    obtain ⟨e, -, heq⟩ | ⟨error, -, heq⟩ | ⟨-, ⟨-, heq⟩ | ⟨r, -, ⟨-, heq⟩ | ⟨-, heq⟩⟩⟩ :=
      poll_cases config m request s <;> rw [step, heq] <;> exact .inl rfl
  | cancel m request =>
    obtain ⟨-, heq⟩ | ⟨-, ⟨e, -, heq⟩ | ⟨-, heq⟩⟩ := cancel_cases config m request s <;>
      rw [step, heq]
    · exact .inl rfl
    · exact takeIn_keeps config m e { s with inbox := s.inbox.eraseP (·.1 == request) }
    · exact .inl rfl
  | release m lease =>
    obtain ⟨-, heq⟩ | ⟨e, -, heq⟩ := release_cases config m lease s <;> rw [step, heq]
    · exact .inl rfl
    · exact takeIn_keeps config m e (s.unlend lease)
  | detach lease =>
    obtain ⟨-, heq⟩ | ⟨e, -, heq⟩ := detach_cases config lease s <;> rw [step, heq]
    · exact .inl rfl
    · exact .inr ⟨s.pool.closed, by simp [Pool.freeSlot, Pool.takeBack, unlend]⟩
  | exchange lease conn => exact .inl rfl
  | sweep m =>
    obtain ⟨-, heq⟩ | ⟨-, notes, -, heq⟩ := sweep_cases config m s <;> rw [step, heq]
    · exact .inl rfl
    · exact .inl (by simp)
  | closeFinished connection =>
    obtain ⟨-, heq⟩ | ⟨e, -, heq⟩ := closeFinished_cases connection s <;> rw [step, heq]
    · exact .inl rfl
    · exact .inr ⟨s.pool.closed, by simp⟩
  | shutDown =>
    obtain ⟨-, heq⟩ | ⟨-, heq⟩ := shutDown_cases s <;> rw [step, heq] <;> exact .inl rfl
  | pollDrain m => cases hlook

theorem mayEnd_congr (h : t.pool = s.pool) (graceOver : Bool) :
    t.mayEnd graceOver = s.mayEnd graceOver := by
  rw [mayEnd, mayEnd, isBusy, isBusy, h]

/-- The grace period is over for a wait that looks at `m`, knowing `graceEnd` and `graceOver`. -/
def graceOverAt (m : Moment) (graceEnd : Option Instant) (graceOver : Bool) : Bool :=
  graceOver || graceEnd.any m.hasFired

/-- The grace period of a wait that has not seen its end is over when its timer has fired. -/
theorem graceOverAt_some (m : Moment) (instant : Instant) :
    graceOverAt m (some instant) false = m.hasFired instant := by
  rw [graceOverAt, Bool.false_or, Option.any_some]

/-- The wait after a look at a pool that is not `mayEnd`: asleep, with what it knows of the grace
period. -/
def stillWaiting (m : Moment) (graceEnd : Option Instant) (graceOver : Bool) : Drain :=
  let elapsed := graceOverAt m graceEnd graceOver
  .waiting (if elapsed then none else graceEnd) elapsed false

/-- A `look` ends the wait if the pool `mayEnd`, and else the wait falls asleep, with the rest of
the grace period before it. -/
theorem look_cases (m : Moment) {graceOver : Bool} {graceEnd : Option Instant}
    (hrunning : graceEnd ≠ none → graceOver = false) (s : Site) :
    (s.mayEnd (graceOverAt m graceEnd graceOver) = true ∧
      (look m graceOver graceEnd s).1 = { s with drain := .finished }) ∨
    (s.mayEnd (graceOverAt m graceEnd graceOver) = false ∧
      (look m graceOver graceEnd s).1 =
        { s with drain := stillWaiting m graceEnd graceOver }) := by
  have hwithout : ∀ elapsed, (s.mayEnd elapsed = true ∧
      (lookWithoutGrace elapsed s).1 = { s with drain := .finished }) ∨
      (s.mayEnd elapsed = false ∧
        (lookWithoutGrace elapsed s).1 = { s with drain := .waiting none elapsed false }) := by
    intro elapsed
    unfold lookWithoutGrace
    cases hend : s.mayEnd elapsed with
    | true => exact .inl ⟨rfl, rfl⟩
    | false => exact .inr ⟨rfl, rfl⟩
  cases graceEnd with
  | none => simpa [stillWaiting, graceOverAt, look] using hwithout graceOver
  | some instant =>
    -- while the grace period runs, the pool is looked at first and the timer only afterwards
    obtain rfl := hrunning (Option.some_ne_none instant)
    rw [stillWaiting, graceOverAt_some, look]
    by_cases hdrained : s.pool.isDrained = true
    · refine .inl ⟨?_, ?_⟩
      · rw [mayEnd, hdrained, Bool.true_or]
      · rw [if_pos hdrained]
        rfl
    · rw [if_neg hdrained]
      cases hfired : m.hasFired instant with
      | true => exact hwithout true
      | false =>
        refine .inr ⟨?_, rfl⟩
        rw [Bool.not_eq_true] at hdrained
        rw [mayEnd, hdrained]
        rfl

/-- `Looks config m s graceEnd graceOver`: what a wait knows that looks at the pool at `m`. That is
the end of the grace period while it runs, and whether it is over. -/
inductive Looks (config : Config) (m : Moment) (s : Site) : Option Instant → Bool → Prop
  /-- Nobody has looked before. -/
  | first (hdrain : s.drain = .unobserved) :
      Looks config m s (config.disposeGrace.map m.now.deadline) false
  /-- The pool has changed, or the grace period is over. -/
  | again {graceEnd : Option Instant} {graceOver changed : Bool}
      (hdrain : s.drain = .waiting graceEnd graceOver changed)
      (hdue : changed = true ∨ graceEnd.any m.hasFired = true) : Looks config m s graceEnd graceOver

/-- Whoever `Looks` at the pool does so in `pollDrain`. -/
theorem Looks.pollDrain {graceEnd : Option Instant} {graceOver : Bool}
    (h : Looks config m s graceEnd graceOver) :
    (s.pollDrain config m).1 = (look m graceOver graceEnd s).1 := by
  cases h with
  | first hdrain => rw [Site.pollDrain, hdrain]
  | @again _ _ changed hdrain hdue =>
    cases changed with
    | true => rw [Site.pollDrain, hdrain]
    | false =>
      obtain ⟨instant, rfl, hfired⟩ := (Option.any_eq_true _ _).1 (hdue.resolve_left nofun)
      -- a pool that is drained ends at the end of the grace period as well
      have hended : (s.endGrace).1 = (look m graceOver (some instant) s).1 := by
        rw [look, if_pos hfired, endGrace, Change.andThen_fst]
        split
        · rename_i hdrained
          rw [lookWithoutGrace, mayEnd, hdrained, Bool.true_or, if_pos rfl]
        · rfl
      rw [Site.pollDrain, hdrain]
      simpa only [hfired, if_pos] using hended

/-- `pollDrain` is a `look` at the pool, unless the wait is over or there is no reason to. -/
theorem pollDrain_cases (config : Config) (m : Moment) (s : Site) :
    ((s.drain = .finished ∨ ∃ graceEnd graceOver, s.drain = .waiting graceEnd graceOver false ∧
        graceEnd.any m.hasFired = false) ∧
      s.pollDrain config m = (s, [])) ∨
    ∃ graceEnd graceOver, Looks config m s graceEnd graceOver := by
  cases hdrain : s.drain with
  | finished => exact .inl ⟨.inl rfl, by rw [pollDrain, hdrain]⟩
  | unobserved => exact .inr ⟨_, _, .first hdrain⟩
  | waiting graceEnd graceOver changed =>
    cases changed with
    | true => exact .inr ⟨_, _, .again hdrain (.inl rfl)⟩
    | false =>
      cases hfired : graceEnd.any m.hasFired with
      | true => exact .inr ⟨_, _, .again hdrain (.inr hfired)⟩
      | false =>
        refine .inl ⟨.inr ⟨_, _, rfl, hfired⟩, ?_⟩
        rw [pollDrain, hdrain]
        cases graceEnd with
        | none => rfl
        | some instant =>
          rw [Option.any_some] at hfired
          dsimp only
          rw [hfired, if_neg Bool.false_ne_true]

/-! ## Nobody oversleeps the end of a pool -/

/-- `Alert s`: the `drain` is not asleep when `mayEnd` holds. -/
structure Alert (s : Site) : Prop where
  /-- The `drain` is `unobserved` until the pool is `closed`. -/
  closed : s.drain ≠ .unobserved → s.pool.closed = true
  /-- While the `drain` has a `graceEnd` before it, `graceOver` is false. -/
  running : ∀ instant graceOver changed,
    s.drain = .waiting (some instant) graceOver changed → graceOver = false
  /-- A `drain` that is asleep, not `changed` since its last look, has to wait: `mayEnd`
  is false. -/
  asleep : ∀ graceEnd graceOver, s.drain = .waiting graceEnd graceOver false →
    s.mayEnd graceOver = false

theorem Alert.of_unobserved (h : s.drain = .unobserved) : s.Alert := by
  refine ⟨fun hne => absurd h hne, fun _ _ _ hw => ?_, fun _ _ hw => ?_⟩ <;> cases h.symm.trans hw

namespace Alert

theorem looks (ha : s.Alert) {graceEnd : Option Instant} {graceOver : Bool}
    (h : Looks config m s graceEnd graceOver) (hgrace : graceEnd ≠ none) : graceOver = false := by
  cases h with
  | first hdrain => rfl
  | again hdrain hdue =>
    obtain ⟨instant, rfl⟩ := Option.ne_none_iff_exists'.1 hgrace
    exact ha.running _ _ _ hdrain

/-- After `pollDrain`, the `drain` is not `unobserved`. -/
theorem pollDrain_ne_unobserved (ha : s.Alert) (m : Moment) :
    (s.pollDrain config m).1.drain = .unobserved → s.drain = .unobserved := by
  intro hdrain
  obtain ⟨-, heq⟩ | ⟨graceEnd, graceOver, hlooks⟩ := pollDrain_cases config m s
  · rw [heq] at hdrain
    exact hdrain
  · rw [hlooks.pollDrain] at hdrain
    obtain ⟨-, heq⟩ | ⟨-, heq⟩ := look_cases m (ha.looks hlooks) s <;> rw [heq] at hdrain <;>
      cases hdrain

/-- `pollDrain` at a closed pool lets nobody fall asleep who need not wait. -/
theorem pollDrain (ha : s.Alert) (hclosed : s.pool.closed = true) (m : Moment) :
    (s.pollDrain config m).1.Alert := by
  obtain ⟨-, heq⟩ | ⟨graceEnd, graceOver, hlooks⟩ := pollDrain_cases config m s
  · rw [heq]
    exact ha
  · rw [hlooks.pollDrain]
    obtain ⟨-, heq⟩ | ⟨hwait, heq⟩ := look_cases m (ha.looks hlooks) s <;> rw [heq]
    · exact ⟨fun _ => hclosed, fun _ _ _ => nofun, fun _ _ => nofun⟩
    · refine ⟨fun _ => hclosed, fun instant elapsed changed hdrain => ?_,
        fun _ elapsed hdrain => ?_⟩
      · obtain ⟨hend, rfl, -⟩ := Drain.waiting.inj hdrain
        cases hover : graceOverAt m graceEnd graceOver with
        | false => rfl
        | true =>
          rw [hover, if_pos rfl] at hend
          cases hend
      · obtain ⟨-, rfl, -⟩ := Drain.waiting.inj hdrain
        exact hwait

/-- Every `step` leaves the site `Alert`, if only a closed pool is looked at. -/
theorem step (ha : s.Alert) (h : Reachable config s) (event : Event)
    (hlook : event.isLook = true → s.pool.closed = true) : (s.step config event).1.Alert := by
  cases hevent : event.isLook with
  | true =>
    obtain ⟨m, rfl⟩ := Event.eq_pollDrain hevent
    exact ha.pollDrain (hlook hevent) m
  | false =>
    cases hclosed : s.pool.closed with
    | false =>
      -- nobody waits for the end of an open pool
      have hdrain : s.drain = .unobserved := by
        by_contra hne
        exact Bool.false_ne_true (hclosed.symm.trans (ha.closed hne))
      refine .of_unobserved ?_
      obtain heq | ⟨closed, heq⟩ := step_keeps config hevent s <;> rw [heq, hdrain]
      rfl
    | true =>
      have hunwinds : Unwinds s event (s.step config event) :=
        closed_step hclosed (justified_of_reachable h) hevent
      have hstays : (s.step config event).1.pool.closed = true := by
        rw [(step_frame config event s).closed, hclosed, Bool.true_or]
      rcases hunwinds.rests_or_winds hclosed (balance_of_reachable h) with hrests | hwinds
      · refine ⟨fun _ => hstays, hrests.drain ▸ ha.running, fun graceEnd graceOver hdrain => ?_⟩
        rw [mayEnd_congr hrests.pool]
        exact ha.asleep graceEnd graceOver (hrests.drain.symm.trans hdrain)
      · refine ⟨fun _ => hstays, fun instant elapsed changed hdrain => ?_, fun _ _ hdrain => ?_⟩
        · obtain ⟨before, hbefore⟩ := Drain.exists_of_told (hwinds.told.symm.trans hdrain)
          exact ha.running instant elapsed before hbefore
        · exact absurd (hwinds.told.symm.trans hdrain) (Drain.told_true_ne _ _ _)

end Alert

theorem alert_of_driven (h : Driven config s) : s.Alert := by
  induction h with
  | fresh destination => exact .of_unobserved rfl
  | step event hlook hs ih => exact ih.step hs.reachable event hlook

theorem mayEnd_iff {graceOver : Bool} : s.mayEnd graceOver = true ↔
    (s.pool.allocated = 0 ∧ s.pool.closing = 0) ∨
      (graceOver = true ∧ s.pool.connecting + s.pool.closing = 0) := by
  simp [mayEnd, Pool.isDrained, isBusy]

/-- `Timeless s`: no grace period is set, so that nobody knows of one, and the wait is over only if
the pool has `Ended`. -/
structure Timeless (s : Site) : Prop where
  /-- No `graceEnd` is before the `drain`, and none is over. -/
  waiting : ∀ graceEnd graceOver changed, s.drain = .waiting graceEnd graceOver changed →
    graceEnd = none ∧ graceOver = false
  /-- The `drain` is `finished` only if the pool has `Ended`. -/
  finished : s.drain = .finished → s.Ended

theorem Timeless.pollDrain (ht : s.Timeless) (hgrace : config.disposeGrace = none)
    (hclosed : s.pool.closed = true) (m : Moment) : (s.pollDrain config m).1.Timeless := by
  obtain ⟨-, heq⟩ | ⟨graceEnd, graceOver, hlooks⟩ := pollDrain_cases config m s
  · rw [heq]
    exact ht
  · obtain ⟨rfl, rfl⟩ : graceEnd = none ∧ graceOver = false := by
      cases hlooks with
      | first hdrain => exact ⟨by rw [hgrace]; rfl, rfl⟩
      | again hdrain hdue => exact ht.waiting _ _ _ hdrain
    rw [hlooks.pollDrain]
    obtain ⟨hend, heq⟩ | ⟨-, heq⟩ := look_cases m (fun h => absurd rfl h) s <;> rw [heq]
    · refine ⟨fun _ _ _ => nofun, fun _ => ?_⟩
      obtain ⟨hallocated, hclosing⟩ | ⟨hover, -⟩ := mayEnd_iff.1 hend
      · exact ⟨hclosed, hallocated, hclosing⟩
      · cases hover
    · refine ⟨fun graceEnd graceOver changed hdrain => ?_, nofun⟩
      obtain ⟨rfl, rfl, -⟩ := Drain.waiting.inj hdrain
      exact ⟨rfl, rfl⟩

theorem timeless_of_driven (hgrace : config.disposeGrace = none) (h : Driven config s) :
    s.Timeless := by
  induction h with
  | fresh destination => exact ⟨fun _ _ _ => nofun, nofun⟩
  | @step s event hlook hs ih =>
    cases hevent : event.isLook with
    | true =>
      obtain ⟨m, rfl⟩ := Event.eq_pollDrain hevent
      exact ih.pollDrain hgrace (hlook hevent) m
    | false =>
      have hkeeps := step_keeps config hevent s
      refine ⟨fun graceEnd graceOver changed hdrain => ?_, fun hfinished => ?_⟩
      · obtain ⟨before, hbefore⟩ := hkeeps.waiting hdrain
        exact ih.waiting graceEnd graceOver before hbefore
      · have hended := ih.finished (hkeeps.finished.1 hfinished)
        exact (hended.step hs.reachable event).1

end Site

end ConnectionPool
