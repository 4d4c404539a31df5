import Mathlib.Data.List.Induction
import ConnectionPool.Proofs.Site.Crossings

/-!
# What those who wait learn

What an acquisition learns that was queued at a site on which several threads work, and when. Its
time is up only when the clock has shown its deadline, and it learns what it was sent at its next
polls, whatever the clock shows then. It is told that the pool is closed only of a closed pool.

## Main definitions

* `Threaded.Due`: whoever is told that its time is up is told so at the right time.
* `Threaded.pollSteps`: the steps of one poll.

## Main results

* `Threaded.due_of_run`: nobody's time is up before its deadline.
* `Threaded.told_after`: a shutdown that goes on tells everybody.
* `Threaded.run_poll`: a poll that nobody interrupts is `Site.poll`.
* `Threaded.yields`: what was sent is learnt.
* `Threaded.resolves_once`: all of it, of every run.
-/

namespace ConnectionPool.Site.Threaded

variable {config : Config} {t : Threaded} {event : Event} {w : Wait} {request : Nat} {r : Request}
  {answer : Delivery} {place : Place} {ending : Ending} {stage : Stage}

/-! ## Time -/

/-- The moment of a step, if it looks at the clock. -/
def Event.moment? : Event → Option Moment
  | .operate act => act.moment?
  | .checkTimer m _ | .discard m _ => some m
  | _ => none

/-- `Shown events instant`: in the course of the steps, the clock has shown the instant or a later
one. -/
def Shown (events : List Event) (instant : Instant) : Prop :=
  ∃ event ∈ events, ∃ m, event.moment? = some m ∧ instant ≤ m.now

/-- What is done by a step at some moment shows that moment. -/
theorem Event.moment?_of_act? {act : Site.Event} {m : Moment} (hact : event.act? = some act)
    (hmoment : act.moment? = some m) : event.moment? = some m := by
  cases event <;> cases hact <;> exact hmoment

/-- `Due config shown t`: whoever is to learn that its time is up has its deadline among the
instants that were `shown`. -/
structure Due (config : Config) (shown : Instant → Prop) (t : Threaded) : Prop where
  /-- Its timer has fired. -/
  late : ∀ w, t.wait? w.request = some w → w.stage = .late → shown w.deadline
  /-- It was sent that its time is up. -/
  sent : ∀ w timeout, t.wait? w.request = some w →
    t.Lies w.request (.sent (.error (.acquisitionTimeout timeout))) → shown w.deadline
  /-- It has learnt that its time is up. -/
  ended : ∀ w ending timeout, t.wait? w.request = some w → w.stage = .finished ending →
    ending.result? config = some (.error (.acquisitionTimeout timeout)) → shown w.deadline

/-- Whoever waits after a `step` was `Advances`d by it, or has just been queued. -/
theorem step_wait_cases (h : t.Kept config)
    (hwait : (t.step config event).wait? w.request = some w) :
    (∃ known, t.wait? known.request = some known ∧ known.request = w.request ∧
      known.deadline = w.deadline ∧ t.Advances known event w.stage) ∨
    t.wait? w.request = none ∧ w.stage = .asleep ∧
      (t.step config event).site.inbox = t.site.inbox := by
  cases hknown : t.wait? w.request with
  | some known =>
    have hrequest := request_of_wait? hknown
    rw [← hrequest] at hknown
    obtain ⟨next, hnext, hadvances⟩ := step_wait h hknown event
    rw [hrequest, hwait] at hnext
    have heq := Option.some.inj hnext
    have hstage : w.stage = next := congrArg Wait.stage heq
    exact .inl ⟨known, hknown, hrequest, (congrArg Wait.deadline heq).symm, hstage ▸ hadvances⟩
  | none =>
    refine .inr ⟨rfl, ?_⟩
    have hdoes := does_step config t event
    generalize t.step config event = u at hdoes hwait
    -- only an acquisition that is queued is new
    cases hdoes with
    | operates hstep =>
      rename_i act
      rw [wait?, List.find?_append] at hwait
      change (t.wait? w.request).or _ = _ at hwait
      rw [hknown, Option.none_or] at hwait
      have hmem := List.mem_of_find?_eq_some hwait
      cases act with
      | acquire m =>
        rw [newWaits] at hmem
        split at hmem <;> simp at hmem
        exact ⟨by rw [hmem], (acquire_tickets config m t.site).1⟩
      | _ => cases hmem
    | nothing | closesUp | tells | closesIdle => cases hknown.symm.trans hwait
    | reads | misses | checks | leaves | lingers | discards =>
      rw [setStage_wait?] at hwait
      change (if _ then (t.wait? w.request).map _ else t.wait? w.request) = _ at hwait
      rw [hknown] at hwait
      split at hwait <;> cases hwait

/-- Whatever is among the `requests` at the site is `isAwaited`. -/
theorem isAwaited_of_mem (h : t.Kept config) (hmem : request ∈ t.site.requests) :
    t.isAwaited request = true := by
  by_contra hgone
  have hplaced := h.placed request
  rw [Bool.eq_false_iff.2 hgone, placed_false] at hplaced
  exact List.count_eq_zero.1 hplaced hmem

theorem isAwaited_of_sent (h : t.Kept config) (hplace : t.Lies request (.sent answer)) :
    t.isAwaited request = true :=
  isAwaited_of_mem h (List.mem_append_right _ (List.mem_map_of_mem (f := Prod.fst) hplace.holds))

/-- Whoever `isAwaited` after a step was so before, if it was there. -/
theorem isAwaited_of_step (h : t.Kept config) (hwait : t.wait? w.request = some w)
    (hafter : (t.step config event).isAwaited w.request = true) :
    t.isAwaited w.request = true := by
  rw [isAwaited_of_wait? hwait]
  by_contra hover
  obtain ⟨ending, hending⟩ : ∃ ending, w.stage = .finished ending := by
    cases hstage : w.stage <;> simp_all [Stage.isOver]
  have hended := ended_of_over h (by rw [stage?, hwait, Option.map_some, hending]) [event]
  rw [run_cons, run_nil] at hended
  rw [isAwaited, hended.1] at hafter
  cases hafter

/-- A `step` tells those whose time is up when it is `Due`. -/
theorem Due.step {before after : Instant → Prop} (hdue : t.Due config before)
    (h : t.Kept config) (event : Event) (hmono : ∀ instant, before instant → after instant)
    (hshown : ∀ m instant, event.moment? = some m → instant ≤ m.now → after instant) :
    (t.step config event).Due config after := by
  refine ⟨fun w hwait hlate => ?_, fun w timeout hwait hplace => ?_,
    fun w ending timeout hwait hover hresult => ?_⟩
  -- whoever is late was so before, or its timer has just fired
  · obtain ⟨known, hknown, -, hdeadline, hadvances⟩ | ⟨-, hasleep, -⟩ := step_wait_cases h hwait
    · rw [hlate] at hadvances
      rw [← hdeadline]
      generalize hnext : Stage.late = next at hadvances
      cases hadvances with
      | stays => exact hmono _ (hdue.late known hknown hnext.symm)
      | late hstage hfired => exact hshown _ _ rfl (Moment.le_now_of_hasFired hfired)
      | _ => cases hnext
    · cases hlate.symm.trans hasleep
  -- whoever was sent so was sent it before, or by an event that knows the deadline
  · obtain ⟨known, hknown, hrequest, hdeadline, -⟩ | ⟨hunknown, -, hinbox⟩ :=
      step_wait_cases h hwait
    · rw [← hrequest] at hplace
      rw [← hdeadline]
      have hafter := isAwaited_of_sent (h.step event) hplace
      have hawaited := isAwaited_of_step h hknown hafter
      obtain ⟨place, hbefore⟩ := exists_place h hawaited
      obtain ⟨next, hnext, hshifts⟩ := step_place h hbefore event hawaited hafter
      obtain rfl := hnext.unique hplace
      cases hshifts with
      | stays => exact hmono _ (hdue.sent known timeout hknown hbefore)
      | answered hact hanswers =>
        obtain ⟨m, hmoment, hle⟩ := hanswers.deadline_le
        obtain ⟨hqueued, hid⟩ := hbefore.holds
        rw [h.deadlines _ hqueued known (hid ▸ hknown)]
        exact hshown m _ (Event.moment?_of_act? hact hmoment) hle
    · -- nothing was sent to somebody who has just been queued
      have hsent : (w.request, .error (.acquisitionTimeout timeout)) ∈ t.site.inbox :=
        hinbox ▸ hplace.holds
      have hawaited : t.isAwaited w.request = true :=
        isAwaited_of_mem h (List.mem_append_right _ (List.mem_map_of_mem (f := Prod.fst) hsent))
      rw [isAwaited, stage?, hunknown] at hawaited
      cases hawaited
  -- whoever has learnt so has read it, or was late
  · obtain ⟨known, hknown, hrequest, hdeadline, hadvances⟩ | ⟨-, hasleep, -⟩ :=
      step_wait_cases h hwait
    · rw [hover] at hadvances
      rw [← hdeadline]
      generalize hnext : Stage.finished ending = next at hadvances
      cases hadvances with
      | stays => exact hmono _ (hdue.ended known ending timeout hknown hnext.symm hresult)
      | received hevent hsent =>
        obtain rfl := Stage.finished.inj hnext
        rename_i answer
        obtain rfl : answer = .error (.acquisitionTimeout timeout) := by
          cases answer with
          | ok e => cases Option.some.inj hresult
          | error error => rw [Except.error.inj (Option.some.inj hresult)]
        have hawaited : t.isAwaited known.request = true := by
          rw [isAwaited_of_wait? hknown]
          rcases hevent with ⟨-, hstage⟩ | ⟨-, hstage⟩ <;> rw [hstage] <;> rfl
        have hplace : t.Lies known.request (.sent (.error (.acquisitionTimeout timeout))) :=
          (lies_iff h hawaited).2 (mem_of_lookup hsent)
        exact hmono _ (hdue.sent known timeout hknown hplace)
      | timedOut hlate => exact hmono _ (hdue.late known hknown hlate)
      | givenUp | discarded =>
        obtain rfl := Stage.finished.inj hnext
        cases hresult
      | _ => cases hnext
    · cases hover.symm.trans hasleep

/-- In a run, nobody's time is up before its deadline was `Shown`. -/
theorem due_of_run (config : Config) (destination : Destination) (events : List Event) :
    ((fresh destination).run config events).Due config (Shown events) := by
  -- from the end, as each step may show one more instant
  induction events using List.reverseRecOn with
  | nil =>
    -- nobody has been queued yet
    refine ⟨fun w hwait => ?_, fun w _ hwait => ?_, fun w _ _ hwait => ?_⟩ <;> cases hwait
  | append_singleton events event ih =>
    have hstart : Reachable config (fresh destination) := .fresh destination
    have hkept := kept_of_reachable (hstart.run events)
    rw [run_append, run_cons, run_nil]
    refine ih.step hkept event (fun instant hshown => ?_) fun m instant hmoment hle => ?_
    · obtain ⟨known, hmem, hmoment⟩ := hshown
      exact ⟨known, List.mem_append_left _ hmem, hmoment⟩
    · exact ⟨event, List.mem_append_right _ List.mem_cons_self, m, hmoment, hle⟩

/-! ## The list of a shutdown -/

/-- A shutdown tells somebody. -/
def Event.isTell : Event → Bool
  | .tell => true
  | _ => false

/-- `discard` does not open the books. -/
theorem discard_closed (config : Config) (m : Moment) (request : Nat) (s : Site) :
    (s.discard config m request).1.pool.closed = s.pool.closed := by
  unfold discard
  split
  · exact (takeIn_frame config m _ _).2.1
  · rfl
  · rfl

/-- A closed pool stays closed. -/
theorem step_closed (hclosed : t.site.pool.closed = true) (event : Event) :
    (t.step config event).site.pool.closed = true := by
  have hdoes := does_step config t event
  generalize t.step config event = u at hdoes
  cases hdoes with
  | nothing | misses | checks | lingers | closesIdle => exact hclosed
  | operates hstep =>
    rw [(step_frame config _ t.site).closed, hclosed, Bool.true_or]
  | reads hevent hwait hsent =>
    rw [setStage_site, (receive_of_lookup hsent).2.1]
    exact hclosed
  | leaves hevent hwait hqueued => exact hclosed
  | discards m hwait hstage =>
    rw [setStage_site, discard_closed]
    exact hclosed
  | closesUp hopen => rfl
  | tells huntold =>
    dsimp only
    split <;> exact hclosed

/-- The list of a shutdown becomes shorter by `tell`, and in no other way. -/
theorem step_untold (hclosed : t.site.pool.closed = true) (event : Event) :
    (t.step config event).untold = if event.isTell then t.untold.tail else t.untold := by
  cases event with
  | tell =>
    rw [step, Event.isTell, if_pos rfl]
    split <;> simp [*]
  | closeUp => rw [step, if_pos hclosed]; rfl
  | receive request | receiveAgain request =>
    rw [step]
    split
    · obtain ⟨answer, -, heq⟩ | ⟨-, heq⟩ := read_cases request _ t <;> rw [heq] <;> rfl
    · rfl
  | leaveQueue request | giveUp request =>
    rw [step]
    split
    · obtain ⟨-, heq⟩ | ⟨-, heq⟩ := leave_cases request _ _ _ t <;> rw [heq] <;> rfl
    · rfl
  | operate act | checkTimer m request | discard m request | closeIdle =>
    rw [step]
    split <;> rfl

/-- As many `tell`s as there are on the list of a shutdown tell everybody. -/
theorem run_untold (hclosed : t.site.pool.closed = true) (events : List Event) :
    (t.run config events).untold.length = t.untold.length - events.countP Event.isTell := by
  induction events generalizing t with
  | nil => rfl
  | cons event events ih =>
    rw [run_cons, ih (step_closed hclosed event), step_untold hclosed, List.countP_cons]
    split
    · rw [List.length_tail]
      omega
    · omega

/-- Whoever has an `Unread` answer and waits still has it. -/
theorem Unread.lies {events : List Event} (h : Unread config request answer t events)
    (hafter : (t.run config events).isAwaited request = true) :
    (t.run config events).Lies request (.sent answer) := by
  induction h with
  | unread hplace => exact hplace
  | stays hplace hrest ih => exact ih hafter
  | read hplace hevent hended | dropped hplace hended =>
    rename_i events
    rw [run_cons, isAwaited, (hended events).1] at hafter
    cases hafter

/-- Whoever was `Untold` and waits has still to be told, or has been told. -/
theorem Untold.lies {events : List Event} (h : Untold config request r t events)
    (hafter : (t.run config events).isAwaited request = true) :
    (t.run config events).Lies request (.untold r) ∨
      (t.run config events).Lies request (.sent (.error .poolClosed)) := by
  induction h with
  | untold hplace => exact .inl hplace
  | stays hplace hrest ih => exact ih hafter
  | told hplace hrest => exact .inr (hrest.lies hafter)
  | dropped hplace hended =>
    rename_i events
    rw [run_cons, isAwaited, (hended events).1] at hafter
    cases hafter

/-- When a shutdown has gone through its list, everybody on it has been told that the pool is
closed. -/
theorem told_after (h : t.Kept config) (hawaited : t.isAwaited request = true)
    (hplace : t.Lies request (.untold r)) {events : List Event}
    (htells : t.untold.length ≤ events.countP Event.isTell)
    (hafter : (t.run config events).isAwaited request = true) :
    (t.run config events).Lies request (.sent (.error .poolClosed)) := by
  rcases (untold_of_untold h hawaited hplace events).lies hafter with huntold | htold
  · -- nobody is on the list any more
    have hclosed := h.shut (List.ne_nil_of_mem hplace.holds.1)
    have hnone : (t.run config events).untold = [] := by
      rw [← List.length_eq_zero_iff, run_untold hclosed]
      omega
    have hmem := huntold.holds.1
    rw [hnone] at hmem
    cases hmem
  · exact htold

/-! ## The steps of a poll -/

/-- The steps of a poll: `receive`, `checkTimer`, `leaveQueue` and `receiveAgain`. Those that it
does not come to do nothing. -/
def pollSteps (m : Moment) (request : Nat) : List Event :=
  [.receive request, .checkTimer m request, .leaveQueue request, .receiveAgain request]

theorem step_receive_of_ne (hstage : t.stage? request ≠ some .asleep) :
    t.step config (.receive request) = t := by
  rw [step, if_neg hstage]

theorem step_checkTimer_of_ne (hstage : t.stage? request ≠ some .unsent) (m : Moment) :
    t.step config (.checkTimer m request) = t := by
  rw [step]
  split
  · rename_i hwait
    exact absurd (by rw [stage?, hwait, Option.map_some]) hstage
  · rfl

theorem step_leaveQueue_of_ne (hstage : t.stage? request ≠ some .late) :
    t.step config (.leaveQueue request) = t := by
  rw [step, if_neg hstage]

theorem step_receiveAgain_of_ne (hstage : t.stage? request ≠ some .committed) :
    t.step config (.receiveAgain request) = t := by
  rw [step, if_neg hstage]

theorem setStage_self (hstage : t.stage? request = some stage) (next : Stage) :
    (t.setStage request next).stage? request = some next := by
  rw [setStage_stage?, if_pos rfl, hstage, Option.map_some]

/-- `setStage` changes nothing about where a request `Lies`. -/
theorem lies_setStage (number : Nat) (next : Stage) (h : t.Lies request place) :
    (t.setStage number next).Lies request place := by
  cases place <;> exact ⟨h.queued, h.untold, h.sent⟩

/-- Whoever has slept since its last poll, or waits for the channel only, reads what was sent. -/
theorem reads_of_sent (hplace : t.Lies request (.sent answer))
    (hevent : event = .receive request ∧ t.stage? request = some .asleep ∨
      event = .receiveAgain request ∧ t.stage? request = some .committed) :
    (t.step config event).stage? request = some (.finished (.received answer)) := by
  have hread (next : Stage) : t.read request next = setStage request (.finished (.received answer))
      { t with site := (t.site.receive request).2.1 } := by
    simp only [read, hplace.lookup]
  rcases hevent with ⟨rfl, hstage⟩ | ⟨rfl, hstage⟩ <;>
    rw [step, if_pos hstage, hread] <;>
    exact setStage_self (t := { t with site := (t.site.receive request).2.1 }) hstage _

/-- Whoever finds out that its time is up after it was sent an answer learns the answer. -/
theorem late_of_sent (hplace : t.Lies request (.sent answer))
    (hlate : t.stage? request = some .late) :
    (t.run config [.leaveQueue request, .receiveAgain request]).stage? request =
      some (.finished (.received answer)) := by
  obtain ⟨hqueued, -⟩ | ⟨-, heq⟩ :=
    leave_cases request (.timedOut request) .timedOut .committed t
  · cases hqueued.symm.trans hplace.isQueued_eq_false
  · rw [run_cons, run_cons, run_nil, step, if_pos hlate, heq]
    exact reads_of_sent (lies_setStage _ _ hplace) (.inr ⟨rfl, setStage_self hlate _⟩)

/-- Whoever was sent an answer learns it by its next poll, unless a poll was under way that had
found nothing. That poll then either learns it or goes to sleep. -/
theorem poll_of_sent (h : t.Kept config) (hplace : t.Lies request (.sent answer))
    (hstage : t.stage? request = some stage) (hlive : stage.isOver = false)
    (hheld : stage ≠ .dropped) (m : Moment) :
    (t.run config (pollSteps m request)).stage? request = some (.finished (.received answer)) ∨
      stage = .unsent ∧ (t.run config (pollSteps m request)).stage? request = some .asleep ∧
        (t.run config (pollSteps m request)).Lies request (.sent answer) := by
  rw [pollSteps]
  -- of the four steps, those before the one that whoever waits has come to do nothing
  cases stage with
  | finished ending => cases hlive
  | dropped => exact absurd rfl hheld
  | asleep =>
    have hread : (t.step config (.receive request)).stage? request =
        some (.finished (.received answer)) := reads_of_sent hplace (.inl ⟨rfl, hstage⟩)
    rw [run_cons]
    exact .inl (ended_of_over (h.step _) hread _).1
  | committed =>
    rw [run_cons, step_receive_of_ne (by simp [hstage]), run_cons,
      step_checkTimer_of_ne (by simp [hstage]), run_cons,
      step_leaveQueue_of_ne (by simp [hstage]), run_cons, run_nil]
    exact .inl (reads_of_sent hplace (.inr ⟨rfl, hstage⟩))
  | late =>
    rw [run_cons, step_receive_of_ne (by simp [hstage]), run_cons,
      step_checkTimer_of_ne (by simp [hstage])]
    exact .inl (late_of_sent hplace hstage)
  | unsent =>
    obtain ⟨w, rfl, hwait, hunsent⟩ := exists_wait_of_stage? hstage
    have hchecked : t.step config (.checkTimer m w.request) =
        t.setStage w.request (if m.hasFired w.deadline then .late else .asleep) := by
      rw [step, hwait]
      split
      · rename_i heq
        obtain rfl := Option.some.inj heq
        rfl
      · rename_i hne
        exact absurd (by rw [← hunsent]) (hne w.request w.deadline)
    rw [run_cons, step_receive_of_ne (by simp [hstage]), run_cons, hchecked]
    have hplace := fun next => lies_setStage w.request next hplace
    have hstage := fun next => setStage_self hstage next
    -- it has looked at the channel before the answer came, so only the timer makes it look again
    split
    · exact .inl (late_of_sent (hplace _) (hstage _))
    · refine .inr ⟨rfl, ?_⟩
      rw [run_cons, step_leaveQueue_of_ne (by simp [hstage]), run_cons,
        step_receiveAgain_of_ne (by simp [hstage]), run_nil]
      exact ⟨hstage _, hplace _⟩

/-- Whoever was sent an answer learns it by its next two polls, whatever the clock shows. -/
theorem yields (h : t.Kept config) (hplace : t.Lies request (.sent answer))
    (hstage : t.stage? request = some stage) (hlive : stage.isOver = false)
    (hheld : stage ≠ .dropped) (m n : Moment) :
    (t.run config (pollSteps m request ++ pollSteps n request)).stage? request =
      some (.finished (.received answer)) := by
  have hpolled := h.run (pollSteps m request)
  rw [run_append]
  rcases poll_of_sent h hplace hstage hlive hheld m with hover | ⟨-, hasleep, hplace⟩
  · exact (ended_of_over hpolled hover _).1
  · obtain hover | ⟨heq, -⟩ := poll_of_sent hpolled hplace hasleep rfl (by simp) n
    · exact hover
    · cases heq

/-- A poll that nobody interrupts is `Site.poll`, unless a shutdown that is under way has taken the
request off the queue. -/
theorem run_poll (h : t.Kept config) (hwait : t.wait? w.request = some w)
    (hasleep : w.stage = .asleep) (hplace : t.Lies w.request place)
    (htold : ∀ r, place ≠ .untold r) (m : Moment) :
    ∃ next, t.run config (pollSteps m w.request) =
        setStage w.request next { t with site := (t.site.poll config m w.request).2.1 } ∧
      match (t.site.poll config m w.request).1 with
      | none => next = .asleep
      | some result => ∃ ending, next = .finished ending ∧ ending.result? config = some result := by
  have hstage : t.stage? w.request = some .asleep := by
    rw [stage?, hwait, Option.map_some, hasleep]
  rw [pollSteps, run_cons, step, if_pos hstage]
  cases place with
  | untold r => exact absurd rfl (htold r)
  | sent answer =>
    -- the answer is read, and no other step is come to
    have hpoll : t.site.poll config m w.request =
        (some (answer.map (·.info.id)), (t.site.receive w.request).2) := by
      cases answer <;> simp [poll, receive, hplace.lookup, Except.map]
    have hover := setStage_self (t := { t with site := (t.site.receive w.request).2.1 }) hstage
      (.finished (.received answer))
    rw [hpoll]
    refine ⟨.finished (.received answer), ?_, .received answer, rfl, rfl⟩
    simp only [read, hplace.lookup]
    rw [run_cons, step_checkTimer_of_ne (by simp [hover]), run_cons,
      step_leaveQueue_of_ne (by simp [hover]), run_cons, step_receiveAgain_of_ne (by simp [hover]),
      run_nil]
  | queued r =>
    have hunsent := hplace.lookup_eq_none
    have hqueued := hplace.isQueued
    obtain ⟨hmem, hid⟩ := hplace.holds
    have hdeadline : w.deadline = r.deadline := h.deadlines r hmem w (hid ▸ hwait)
    have hfind : t.site.pool.pending.find? (·.id == w.request) = some r := by
      rw [← List.head?_filter, hplace.queued, List.head?_cons]
    have hsender : t.hasSender w.request = true := by rw [hasSender, hqueued, Bool.true_or]
    have hfirst := setStage_self hstage .unsent
    have hchecked : (t.setStage w.request .unsent).step config (.checkTimer m w.request) =
        t.setStage w.request (if m.hasFired r.deadline then .late else .asleep) := by
      rw [step, setStage_wait?, if_pos rfl, hwait, Option.map_some, hdeadline]
      exact setStage_setStage _ _ _ _
    simp only [read, hunsent, hsender, if_true]
    rw [run_cons, hchecked]
    cases hfired : m.hasFired r.deadline with
    | false =>
      have hpoll : t.site.poll config m w.request = (none, t.site, []) := by
        simp [poll, receive, hunsent, hfind, hfired]
      have hsecond := setStage_self hstage .asleep
      rw [hpoll, if_neg Bool.false_ne_true]
      refine ⟨.asleep, ?_, rfl⟩
      rw [run_cons, step_leaveQueue_of_ne (by simp [hsecond]), run_cons,
        step_receiveAgain_of_ne (by simp [hsecond]), run_nil]
    | true =>
      have hpoll : t.site.poll config m w.request =
          (some (.error (.acquisitionTimeout config.acquireTimeout)),
            { t.site with pool := t.site.pool.dequeue w.request },
            [.note (.timedOut w.request)]) := by
        simp [poll, receive, Site.leaveQueue, hunsent, hfind, hfired, hqueued]
      have hlate := setStage_self hstage .late
      rw [hpoll, if_pos rfl]
      refine ⟨.finished .timedOut, ?_, .timedOut, rfl, rfl⟩
      rw [run_cons, step, if_pos hlate]
      obtain ⟨-, heq⟩ | ⟨hnot, -⟩ :=
        leave_cases w.request (.timedOut w.request) .timedOut .committed
          (t.setStage w.request .late)
      · have hover := setStage_self hlate (.finished .timedOut)
        rw [heq, run_cons, run_nil]
        refine (step_receiveAgain_of_ne ?_).trans ?_
        · change
            (setStage w.request (.finished .timedOut) (t.setStage w.request .late)).stage? _ ≠ _
          simp [hover]
        · exact setStage_setStage w.request .late (.finished .timedOut)
            { t with site := { t.site with pool := t.site.pool.dequeue w.request } }
      · cases hnot.symm.trans hqueued

/-! ## Every queued acquisition is resolved once -/

/-- `Resolves config events t`: how queued acquisitions fare at a site that a run of several threads
has led to. -/
structure Resolves (config : Config) (events : List Event) (t : Threaded) : Prop where
  /-- Whoever waits has exactly one place in which its request `Lies`. -/
  place : ∀ request, t.isAwaited request = true → ∃! place, t.Lies request place
  /-- Whoever is queued has a `Life` in the queue until exactly one thing takes its request off. -/
  life : ∀ request r, t.Lies request (.queued r) → ∀ later, Life config request r t later
  /-- Whoever waits and is not in the queue was sent one answer, or a shutdown has still to tell
  it. -/
  unqueued : ∀ request, t.isAwaited request = true → t.site.pool.isQueued request = false →
    (∃ answer, t.Lies request (.sent answer)) ∨
      ∃ r, t.Lies request (.untold r) ∧ t.site.pool.closed = true
  /-- Whoever a shutdown has still to tell has been told `poolClosed` when the shutdown has gone
  through its list. -/
  told : ∀ request r, t.isAwaited request = true → t.Lies request (.untold r) → ∀ later,
    t.untold.length ≤ later.countP Event.isTell → (t.run config later).isAwaited request = true →
      (t.run config later).Lies request (.sent (.error .poolClosed))
  /-- Whoever was sent an answer learns it by its next two polls, each of the `pollSteps`, whatever
  the clock shows. -/
  yields : ∀ request answer stage, t.Lies request (.sent answer) →
    t.stage? request = some stage → stage ≠ .dropped → ∀ m n,
      (t.run config (pollSteps m request ++ pollSteps n request)).stage? request =
        some (.finished (.received answer))
  /-- Where an answer was sent, `receiveAgain` finds it at once. -/
  atOnce : ∀ request answer, t.Lies request (.sent answer) →
    t.stage? request = some .committed →
      (t.step config (.receiveAgain request)).stage? request = some (.finished (.received answer))
  /-- Nobody's time is up before its deadline was `Shown`. -/
  timely : ∀ w ending timeout, t.wait? w.request = some w → w.stage = .finished ending →
    ending.result? config = some (.error (.acquisitionTimeout timeout)) →
      Shown events w.deadline
  /-- Nobody finds that the sender is gone. -/
  sender : ∀ request, t.stage? request ≠ some (.finished .senderGone)
  /-- Only of a closed pool is it learnt that it is closed. -/
  closed : ∀ request ending, t.stage? request = some (.finished ending) →
    ending.result? config = some (.error .poolClosed) → t.site.pool.closed = true

theorem isAwaited_of_lies (h : t.Kept config) (hplace : t.Lies request place)
    (hsite : ∀ r, place ≠ .untold r) : t.isAwaited request = true := by
  cases place with
  | queued r =>
    obtain ⟨hmem, rfl⟩ := hplace.holds
    exact isAwaited_of_mem h (List.mem_append_left _ (List.mem_map_of_mem hmem))
  | untold r => exact absurd rfl (hsite r)
  | sent answer => exact isAwaited_of_sent h hplace

/-- Every run of several threads `Resolves` each queued acquisition once. Whoever waits and is not
in the queue was sent its answer, except that a shutdown takes the whole queue first and sends
afterwards. -/
theorem resolves_once {destination : Destination} {events : List Event}
    (hrun : (fresh destination).run config events = t) : t.Resolves config events := by
  have h : t.Kept config := hrun ▸ (Kept.start config destination).run events
  have hdue : t.Due config (Shown events) := hrun ▸ due_of_run config destination events
  refine
    { place := fun request hawaited => ?_
      life := fun request r hplace => ?_
      unqueued := fun request hawaited hqueued => ?_
      told := fun request r hawaited hplace later htells hafter =>
        told_after h hawaited hplace htells hafter
      yields := fun request answer stage hplace hstage hheld m n => ?_
      atOnce := fun request answer hplace hstage => ?_
      timely := hdue.ended
      sender := h.sender
      closed := h.learnt }
  · obtain ⟨place, hplace⟩ := exists_place h hawaited
    exact ⟨place, hplace, fun other hother => hother.unique hplace⟩
  · exact life_of_queued h (isAwaited_of_lies h hplace (by simp)) hplace
  -- the two places outside of the queue
  · rcases place_of_not_isQueued h hawaited hqueued with hsent | ⟨r, hplace⟩
    · exact .inl hsent
    · exact .inr ⟨r, hplace, h.shut (List.ne_nil_of_mem hplace.holds.1)⟩
  · have hawaited := isAwaited_of_lies h hplace (by simp)
    refine yields h hplace hstage ?_ hheld m n
    simpa [isAwaited, hstage] using hawaited
  · exact reads_of_sent hplace (.inr ⟨rfl, hstage⟩)

/-- One caller has the only connection and another waits. Its timer has fired, but before its
request is taken off the queue, a shutdown closes the books. -/
def crossing : List Event :=
  [.operate (.acquire (.atMillis 0)), .operate (.opened 1 ⟨1, "db:1"⟩ (.atMillis 0)),
    .operate (.acquire (.atMillis 0)), .receive 1, .checkTimer (.atMillis 1000) 1, .closeUp,
    .leaveQueue 1]

/-- Where `closeUp` comes between the timer and the queue, `receiveAgain` finds nothing until the
shutdown goes on. -/
theorem resolves_once_crossing :
    ((fresh (.ofAddress "db:1")).run .oneSlot crossing).Resolves .oneSlot crossing ∧
    ((fresh (.ofAddress "db:1")).run .oneSlot crossing).isAwaited 1 = true ∧
    (∃ r, ((fresh (.ofAddress "db:1")).run .oneSlot crossing).Lies 1 (.untold r)) ∧
    ((fresh (.ofAddress "db:1")).run .oneSlot (crossing ++ [.receiveAgain 1])).stage? 1 =
      some .committed ∧
    ((fresh (.ofAddress "db:1")).run .oneSlot
        (crossing ++ [.receiveAgain 1, .tell, .receiveAgain 1])).stage? 1 =
      some (.finished (.received (.error .poolClosed))) :=
  ⟨resolves_once rfl, rfl, ⟨_, rfl, rfl, rfl⟩, rfl, rfl⟩

/-- A request that is not in the queue any more, so that its stage is `committed`, need not have
been answered. -/
theorem not_always_sent :
    ¬ ∀ (config : Config) (destination : Destination) (events : List Event) (request : Nat),
      ((fresh destination).run config events).stage? request = some .committed →
        ∃ answer, ((fresh destination).run config events).site.inbox.lookup request =
          some answer := by
  intro h
  obtain ⟨answer, hsent⟩ := h .oneSlot (.ofAddress "db:1") crossing 1 rfl
  cases hsent

end ConnectionPool.Site.Threaded
