import ConnectionPool.Proofs.Site.Waiting

/-!
# A site on which several threads work

Most operations of a site take place under its lock, and `Site.step` makes one step of each. Three
do not. `Site.shutDown` closes the books under the lock, and tells those who waited one after
another when it has let go of the lock. `Site.poll` reads the channel and looks at the timer without
the lock, and takes the request off the queue under the lock when the timer has fired; if the
request is not there any more, the channel is read again, for as long as nothing has been sent.
`Site.cancel` takes the request off the queue under the lock, and if it is not there any more, it
closes the channel and gives back what was sent. What other threads do may come between any two of
these steps.

A `Threaded` site keeps what is still to be done of such an operation, and its events are single
steps.

## Main definitions

* `Threaded`: a site, the shutdown that is under way, and all who were ever queued.
* `Threaded.step`: what a single step does.
* `Threaded.Reachable`: the states that some list of steps leads to.

## Main results

* `Threaded.does_step`: a step is nothing, an operation, or one of the steps of those who wait and
  of a shutdown, each with the condition under which it takes place.
* `Threaded.run_shutDown`, `Threaded.run_cancel`: steps of one operation that follow one another
  make up the operation.
-/

namespace ConnectionPool.Site

/-- The event is one step, whoever else works on the site: not `poll`, `cancel` or `shutDown`. -/
def Event.isStep : Event → Bool
  | .poll _ _ | .cancel _ _ | .shutDown => false
  | _ => true

/-- How waiting came to its end. -/
inductive Ending where
  /-- The answer was read from the channel. -/
  | received (answer : Delivery)
  /-- The request was taken off the queue when its time was up. -/
  | timedOut
  /-- Nothing had been sent, and nobody was left to send it. -/
  | senderGone
  /-- The request was given up. -/
  | givenUp
deriving DecidableEq

/-- What an acquisition learns when its waiting ends, unless it was given up. -/
def Ending.result? (config : Config) : Ending → Option (Except PoolError Nat)
  | .received answer => some (answer.map (·.info.id))
  | .timedOut => some (.error (.acquisitionTimeout config.acquireTimeout))
  | .senderGone => some (.error .poolClosed)
  | .givenUp => none

/-- A `Stage` of waiting: how far whoever waits has come. -/
inductive Stage where
  /-- Nothing is under way. The next poll begins with `receive`. -/
  | asleep
  /-- The channel was empty, and `checkTimer` comes next. -/
  | unsent
  /-- The timer has fired, and `leaveQueue` comes next. -/
  | late
  /-- The request had left the queue before, and only the channel is left to wait for, by
  `receiveAgain`. -/
  | committed
  /-- The request was given up when it had left the queue, and `discard` comes next. -/
  | dropped
  /-- Waiting has ended. -/
  | finished (ending : Ending)
deriving DecidableEq

/-- Waiting has ended. -/
def Stage.isOver : Stage → Bool
  | .finished _ => true
  | .asleep | .unsent | .late | .committed | .dropped => false

/-- The request was not in the queue when it was to be taken off. -/
def Stage.hasMissed : Stage → Bool
  | .committed | .dropped => true
  | .asleep | .unsent | .late | .finished _ => false

/-- A `Wait`: an acquisition that was queued. -/
structure Wait where
  /-- The number of its request. -/
  request : Nat
  /-- When its time is up. -/
  deadline : Instant
  /-- How far it has come. -/
  stage : Stage
deriving DecidableEq

/-- Those who begin to wait at an event, with a `request` from `acquire`. -/
def newWaits (config : Config) (s : Site) : Event → List Wait
  | .acquire m =>
    match (s.acquire config m).1 with
    | .ok (.request request deadline) => [⟨request, deadline, .asleep⟩]
    | .ok (.lease _) | .ok (.opening _) | .error _ => []
  | _ => []

/-- `Threaded`: a site on which several threads work. -/
structure Threaded where
  /-- The site. -/
  site : Site
  /-- The requests that a shutdown took off the queue and has not told that the pool is closed, in
  order. -/
  untold : List Request
  /-- The idle connections that it has not begun to close. -/
  unclosed : List Entry
  /-- All acquisitions that were ever queued, in order. -/
  waits : List Wait

namespace Threaded

/-- A site whose pool has just been made. -/
def fresh (destination : Destination) : Threaded :=
  { site := .fresh destination, untold := [], unclosed := [], waits := [] }

/-- An `Event`: a step of one of the threads. -/
inductive Event where
  /-- An operation that is a single step. -/
  | operate (event : Site.Event)
  /-- Whoever waits begins a poll and reads the channel. -/
  | receive (request : Nat)
  /-- Whoever waits found the channel empty and looks at the timer. -/
  | checkTimer (m : Moment) (request : Nat)
  /-- Whoever waits takes the request off the queue, as the timer has fired. -/
  | leaveQueue (request : Nat)
  /-- Whoever waits did not find the request in the queue and reads the channel again. -/
  | receiveAgain (request : Nat)
  /-- Whoever waits is no longer interested, and takes the request off the queue. -/
  | giveUp (request : Nat)
  /-- Whoever is no longer interested did not find the request in the queue, and
  closes the channel. -/
  | discard (m : Moment) (request : Nat)
  /-- A shutdown closes the books. -/
  | closeUp
  /-- A shutdown tells the next of those who waited. -/
  | tell
  /-- A shutdown has told all of them, and begins to close the idle connections. -/
  | closeIdle

/-- The acquisition with a request's number, among the `waits`. -/
def wait? (request : Nat) (t : Threaded) : Option Wait := t.waits.find? (·.request == request)

/-- The `stage` of the acquisition with a request's number. -/
def stage? (request : Nat) (t : Threaded) : Option Stage := (t.wait? request).map (·.stage)

/-- The acquisition with a request's number has come to `stage`. -/
def setStage (request : Nat) (stage : Stage) (t : Threaded) : Threaded :=
  { t with waits := t.waits.map fun w => if w.request == request then { w with stage } else w }

/-- Somebody is there to read what is sent to the request: its stage is not `isOver`. -/
def isAwaited (request : Nat) (t : Threaded) : Bool := (t.stage? request).any (!·.isOver)

/-- Somebody has the sending end of the request's channel: the queue, or a shutdown under way. -/
def hasSender (request : Nat) (t : Threaded) : Bool :=
  t.site.pool.isQueued request || t.untold.any (·.id == request)

/-- Whoever waits reads the channel, and goes on to `next` if it is empty. -/
def read (request : Nat) (next : Stage) (t : Threaded) : Threaded :=
  match t.site.inbox.lookup request with
  | some answer =>
    setStage request (.finished (.received answer)) { t with site := (t.site.receive request).2.1 }
  | none => t.setStage request (if t.hasSender request then next else .finished .senderGone)

/-- Whoever waits takes the request off the queue and ends so with `ending`, or goes on to `next` if
it is not there. -/
def leave (request : Nat) (reason : PoolEvent) (ending : Ending) (next : Stage) (t : Threaded) :
    Threaded :=
  match t.site.leaveQueue request reason with
  | (true, change) => setStage request (.finished ending) { t with site := change.1 }
  | (false, _) => t.setStage request next

/-- What a step of one of the threads does. A step of somebody who has not come to it does
nothing. -/
def step (config : Config) (t : Threaded) : Event → Threaded
  | .operate event =>
    if event.isStep then
      { t with
        site := (t.site.step config event).1, waits := t.waits ++ t.site.newWaits config event }
    else t
  | .receive request =>
    if t.stage? request = some .asleep then t.read request .unsent else t
  | .checkTimer m request =>
    match t.wait? request with
    | some ⟨_, deadline, .unsent⟩ =>
      t.setStage request (if m.hasFired deadline then .late else .asleep)
    | _ => t
  | .leaveQueue request =>
    if t.stage? request = some .late then
      t.leave request (.timedOut request) .timedOut .committed
    else t
  | .receiveAgain request =>
    if t.stage? request = some .committed then t.read request .committed else t
  | .giveUp request =>
    -- a poll that is under way cannot be given up
    if t.stage? request = some .asleep ∨ t.stage? request = some .committed then
      t.leave request (.cancelled request) .givenUp .dropped
    else t
  | .discard m request =>
    if t.stage? request = some .dropped then
      setStage request (.finished .givenUp) { t with site := (t.site.discard config m request).1 }
    else t
  | .closeUp =>
    if t.site.pool.closed then t
    else
      { t with
        site := t.site.closeUp.1, untold := t.site.pool.pending, unclosed := t.site.pool.idle }
  | .tell =>
    match t.untold with
    | [] => t
    | r :: rest =>
      -- what is sent to somebody who is gone is lost
      { t with
        site := if t.isAwaited r.id then (t.site.deliverClosed [r]).1 else t.site, untold := rest }
  | .closeIdle =>
    if t.untold.isEmpty then
      { t with site := (startClosing t.unclosed t.site).1, unclosed := [] }
    else t

/-- What a list of steps does. -/
def run (config : Config) (t : Threaded) (events : List Event) : Threaded :=
  events.foldl (step config) t

@[simp]
theorem run_nil (config : Config) (t : Threaded) : t.run config [] = t := rfl

@[simp]
theorem run_cons (config : Config) (t : Threaded) (event : Event) (events : List Event) :
    t.run config (event :: events) = (t.step config event).run config events := rfl

theorem run_append (config : Config) (t : Threaded) (first second : List Event) :
    t.run config (first ++ second) = (t.run config first).run config second :=
  List.foldl_append

/-- `Reachable config t`: a list of steps leads from a new pool to `t`. -/
inductive Reachable (config : Config) : Threaded → Prop
  | fresh (destination : Destination) : Reachable config (.fresh destination)
  | step {t : Threaded} (event : Event) :
      Reachable config t → Reachable config (t.step config event)

theorem Reachable.run {config : Config} {t : Threaded} (h : Reachable config t)
    (events : List Event) : Reachable config (t.run config events) := by
  induction events generalizing t with
  | nil => exact h
  | cons event events ih => exact ih (h.step event)

variable {config : Config} {t u : Threaded} {event : Event} {w : Wait} {request : Nat}

/-! ## What a step does -/

/-- `Does config t event u`: what `event` may make of `t`. -/
inductive Does (config : Config) (t : Threaded) : Event → Threaded → Prop
  /-- Whoever takes the step has not come to it. -/
  | nothing (event : Event) : Does config t event t
  /-- An operation takes place. -/
  | operates {act : Site.Event} (hstep : act.isStep = true) :
      Does config t (.operate act)
        { t with
          site := (t.site.step config act).1, waits := t.waits ++ t.site.newWaits config act }
  /-- An answer is read. -/
  | reads {event : Event} {w : Wait} {answer : Delivery}
      (hevent : event = .receive w.request ∧ w.stage = .asleep ∨
        event = .receiveAgain w.request ∧ w.stage = .committed)
      (hwait : t.wait? w.request = some w) (hsent : t.site.inbox.lookup w.request = some answer) :
      Does config t event (setStage w.request (.finished (.received answer))
        { t with site := (t.site.receive w.request).2.1 })
  /-- The channel is empty. -/
  | misses {event : Event} {w : Wait} {next : Stage}
      (hevent : event = .receive w.request ∧ w.stage = .asleep ∧ next = .unsent ∨
        event = .receiveAgain w.request ∧ w.stage = .committed ∧ next = .committed)
      (hwait : t.wait? w.request = some w) (hunsent : t.site.inbox.lookup w.request = none) :
      Does config t event
        (t.setStage w.request (if t.hasSender w.request then next else .finished .senderGone))
  /-- The timer is looked at. -/
  | checks {w : Wait} (m : Moment) (hwait : t.wait? w.request = some w)
      (hstage : w.stage = .unsent) :
      Does config t (.checkTimer m w.request)
        (t.setStage w.request (if m.hasFired w.deadline then .late else .asleep))
  /-- The request is taken off the queue. -/
  | leaves {event : Event} {w : Wait} {ending : Ending}
      (hevent : event = .leaveQueue w.request ∧ w.stage = .late ∧ ending = .timedOut ∨
        event = .giveUp w.request ∧ (w.stage = .asleep ∨ w.stage = .committed) ∧
          ending = .givenUp)
      (hwait : t.wait? w.request = some w) (hqueued : t.site.pool.isQueued w.request = true) :
      Does config t event (setStage w.request (.finished ending)
        { t with site := { t.site with pool := t.site.pool.dequeue w.request } })
  /-- The request is not in the queue any more. -/
  | lingers {event : Event} {w : Wait} {next : Stage}
      (hevent : event = .leaveQueue w.request ∧ w.stage = .late ∧ next = .committed ∨
        event = .giveUp w.request ∧ (w.stage = .asleep ∨ w.stage = .committed) ∧ next = .dropped)
      (hwait : t.wait? w.request = some w) (hqueued : t.site.pool.isQueued w.request = false) :
      Does config t event (t.setStage w.request next)
  /-- The channel is closed, and what was sent is given back. -/
  | discards {w : Wait} (m : Moment) (hwait : t.wait? w.request = some w)
      (hstage : w.stage = .dropped) :
      Does config t (.discard m w.request) (setStage w.request (.finished .givenUp)
        { t with site := (t.site.discard config m w.request).1 })
  /-- The books are closed. -/
  | closesUp (hopen : t.site.pool.closed = false) :
      Does config t .closeUp { t with
        site := t.site.closeUp.1, untold := t.site.pool.pending, unclosed := t.site.pool.idle }
  /-- A request is told that the pool is closed, if somebody is there to read it. -/
  | tells {r : Request} {rest : List Request} (huntold : t.untold = r :: rest) :
      Does config t .tell { t with
        site := if t.isAwaited r.id then (t.site.deliverClosed [r]).1 else t.site, untold := rest }
  /-- The idle connections begin to be closed. -/
  | closesIdle (huntold : t.untold = []) :
      Does config t .closeIdle
        { t with site := (startClosing t.unclosed t.site).1, unclosed := [] }

/-- What `wait?` finds has the request's number. -/
theorem request_of_wait? (h : t.wait? request = some w) : w.request = request := by
  simpa using List.find?_some (p := fun w : Wait => w.request == request) h

theorem exists_wait_of_stage? {stage : Stage} (h : t.stage? request = some stage) :
    ∃ w, w.request = request ∧ t.wait? w.request = some w ∧ w.stage = stage := by
  obtain ⟨w, hwait, rfl⟩ := Option.map_eq_some_iff.1 h
  obtain rfl := request_of_wait? hwait
  exact ⟨w, rfl, hwait, rfl⟩

/-- `read` yields the answer, or the channel is empty. -/
theorem read_cases (request : Nat) (next : Stage) (t : Threaded) :
    (∃ answer, t.site.inbox.lookup request = some answer ∧
      t.read request next =
        setStage request (.finished (.received answer))
          { t with site := (t.site.receive request).2.1 }) ∨
    t.site.inbox.lookup request = none ∧
      t.read request next =
        t.setStage request (if t.hasSender request then next else .finished .senderGone) := by
  cases hsent : t.site.inbox.lookup request with
  | some answer => exact .inl ⟨answer, rfl, by simp only [read, hsent]⟩
  | none => exact .inr ⟨rfl, by simp only [read, hsent]⟩

/-- `leave` takes the request off the queue, or it is not there. -/
theorem leave_cases (request : Nat) (reason : PoolEvent) (ending : Ending) (next : Stage)
    (t : Threaded) :
    t.site.pool.isQueued request = true ∧
      t.leave request reason ending next =
        setStage request (.finished ending)
          { t with site := { t.site with pool := t.site.pool.dequeue request } } ∨
    t.site.pool.isQueued request = false ∧
      t.leave request reason ending next = t.setStage request next := by
  cases hqueued : t.site.pool.isQueued request with
  | true => exact .inl ⟨rfl, by simp only [leave, Site.leaveQueue, hqueued, if_true]⟩
  | false =>
    exact .inr ⟨rfl, by simp only [leave, Site.leaveQueue, hqueued, Bool.false_eq_true, if_false]⟩

/-- Every `step` is one of the things that it `Does`. -/
theorem does_step (config : Config) (t : Threaded) (event : Event) :
    t.Does config event (t.step config event) := by
  -- each step is guarded by the stage of whoever takes it
  cases event with
  | operate act =>
    rw [step]
    split
    · exact .operates ‹_›
    · exact .nothing _
  | receive request =>
    rw [step]
    split
    · rename_i hstage
      obtain ⟨w, rfl, hwait, hasleep⟩ := exists_wait_of_stage? hstage
      obtain ⟨answer, hsent, heq⟩ | ⟨hunsent, heq⟩ := read_cases w.request .unsent t <;> rw [heq]
      · exact .reads (.inl ⟨rfl, hasleep⟩) hwait hsent
      · exact .misses (.inl ⟨rfl, hasleep, rfl⟩) hwait hunsent
    · exact .nothing _
  | checkTimer m request =>
    rw [step]
    split
    · rename_i hwait
      obtain rfl := request_of_wait? hwait
      exact .checks m hwait rfl
    · exact .nothing _
  | leaveQueue request =>
    rw [step]
    split
    · rename_i hstage
      obtain ⟨w, rfl, hwait, hlate⟩ := exists_wait_of_stage? hstage
      obtain ⟨hqueued, heq⟩ | ⟨hqueued, heq⟩ :=
        leave_cases w.request (.timedOut w.request) .timedOut .committed t <;> rw [heq]
      · exact .leaves (.inl ⟨rfl, hlate, rfl⟩) hwait hqueued
      · exact .lingers (.inl ⟨rfl, hlate, rfl⟩) hwait hqueued
    · exact .nothing _
  | receiveAgain request =>
    rw [step]
    split
    · rename_i hstage
      obtain ⟨w, rfl, hwait, hcommitted⟩ := exists_wait_of_stage? hstage
      obtain ⟨answer, hsent, heq⟩ | ⟨hunsent, heq⟩ := read_cases w.request .committed t <;>
        rw [heq]
      · exact .reads (.inr ⟨rfl, hcommitted⟩) hwait hsent
      · exact .misses (.inr ⟨rfl, hcommitted, rfl⟩) hwait hunsent
    · exact .nothing _
  | giveUp request =>
    rw [step]
    split
    · rename_i hstage
      -- no poll is under way in either of the two stages
      have hpaused : ∃ w, w.request = request ∧ t.wait? w.request = some w ∧
          (w.stage = .asleep ∨ w.stage = .committed) := by
        rcases hstage with hasleep | hcommitted
        · obtain ⟨w, hrequest, hwait, hstage⟩ := exists_wait_of_stage? hasleep
          exact ⟨w, hrequest, hwait, .inl hstage⟩
        · obtain ⟨w, hrequest, hwait, hstage⟩ := exists_wait_of_stage? hcommitted
          exact ⟨w, hrequest, hwait, .inr hstage⟩
      obtain ⟨w, rfl, hwait, hstage⟩ := hpaused
      obtain ⟨hqueued, heq⟩ | ⟨hqueued, heq⟩ :=
        leave_cases w.request (.cancelled w.request) .givenUp .dropped t <;> rw [heq]
      · exact .leaves (.inr ⟨rfl, hstage, rfl⟩) hwait hqueued
      · exact .lingers (.inr ⟨rfl, hstage, rfl⟩) hwait hqueued
    · exact .nothing _
  | discard m request =>
    rw [step]
    split
    · rename_i hstage
      obtain ⟨w, rfl, hwait, hdropped⟩ := exists_wait_of_stage? hstage
      exact .discards m hwait hdropped
    · exact .nothing _
  | closeUp =>
    rw [step]
    split
    · exact .nothing _
    · rename_i hopen
      exact .closesUp (by simpa using hopen)
  | tell =>
    rw [step]
    split
    · exact .nothing _
    · exact .tells ‹_›
  | closeIdle =>
    rw [step]
    split
    · rename_i huntold
      exact .closesIdle (by simpa using huntold)
    · exact .nothing _

/-! ## How far those who wait have come -/

@[simp]
theorem setStage_site (request : Nat) (stage : Stage) (t : Threaded) :
    (t.setStage request stage).site = t.site := rfl

@[simp]
theorem setStage_untold (request : Nat) (stage : Stage) (t : Threaded) :
    (t.setStage request stage).untold = t.untold := rfl

theorem setStage_wait? (request : Nat) (stage : Stage) (t : Threaded) (other : Nat) :
    (t.setStage request stage).wait? other =
      if other = request then (t.wait? other).map ({ · with stage }) else t.wait? other := by
  -- the numbers stay, so the same member is found
  have hkept : ((fun w : Wait => w.request == other) ∘
      fun w : Wait => if w.request == request then { w with stage } else w) =
        fun w => w.request == other := by
    funext w
    simp only [Function.comp_apply]
    split <;> rfl
  rw [wait?, setStage, List.find?_map, hkept, wait?]
  cases hfind : t.waits.find? (·.request == other) with
  | none => simp
  | some w =>
    obtain rfl : w.request = other := by
      simpa using List.find?_some (p := fun w : Wait => w.request == other) hfind
    by_cases heq : w.request = request <;> simp [heq]

theorem setStage_stage? (request : Nat) (stage : Stage) (t : Threaded) (other : Nat) :
    (t.setStage request stage).stage? other =
      if other = request then (t.stage? other).map fun _ => stage else t.stage? other := by
  rw [stage?, setStage_wait?, stage?]
  split <;> simp [Function.comp_def]

/-- `setStage` leaves the numbers of those who wait as they are. -/
theorem setStage_requests (request : Nat) (stage : Stage) (t : Threaded) :
    (t.setStage request stage).waits.map (·.request) = t.waits.map (·.request) := by
  rw [setStage, List.map_map]
  refine List.map_congr_left fun w _ => ?_
  simp only [Function.comp_apply]
  split <;> rfl

/-- `setStage` twice is the second alone. -/
theorem setStage_setStage (request : Nat) (first second : Stage) (t : Threaded) :
    (t.setStage request first).setStage request second = t.setStage request second := by
  simp only [setStage, List.map_map]
  congr 1
  refine List.map_congr_left fun w _ => ?_
  simp only [Function.comp_apply]
  by_cases heq : w.request = request <;> simp [heq]

/-! ## Steps that follow one another -/

/-- `giveUp` and `discard` with nothing in between are `Site.cancel`. -/
theorem run_cancel {stage : Stage} (hstage : t.stage? request = some stage)
    (hpaused : stage = .asleep ∨ stage = .committed) (m : Moment) :
    t.run config [.giveUp request, .discard m request] =
      setStage request (.finished .givenUp)
        { t with site := (t.site.cancel config m request).1 } := by
  have hpaused : t.stage? request = some .asleep ∨ t.stage? request = some .committed := by
    rcases hpaused with rfl | rfl
    · exact .inl hstage
    · exact .inr hstage
  rw [run_cons, run_cons, run_nil, step, if_pos hpaused]
  obtain ⟨hqueued, heq⟩ | ⟨hqueued, heq⟩ :=
    leave_cases request (.cancelled request) .givenUp .dropped t <;> rw [heq]
  · -- the request is off the queue, and nothing is left to be done
    rw [cancel_of_isQueued hqueued, step, if_neg]
    rw [setStage_stage?, if_pos rfl]
    change Option.map _ (t.stage? request) ≠ _
    simp [hstage]
  · have hdropped : (t.setStage request .dropped).stage? request = some .dropped := by
      rw [setStage_stage?, if_pos rfl, hstage, Option.map_some]
    rw [step, if_pos hdropped]
    have hcancel : t.site.cancel config m request = t.site.discard config m request := by
      simp [cancel, Site.leaveQueue, hqueued]
    rw [hcancel]
    exact setStage_setStage request .dropped (.finished .givenUp)
      { t with site := (t.site.discard config m request).1 }

/-- `tell` tells those who are there one after another, as `deliverClosed` does. -/
theorem run_tell (config : Config) (hawaited : ∀ r ∈ t.untold, t.isAwaited r.id = true) :
    t.run config (List.replicate t.untold.length .tell) =
      { t with site := (t.site.deliverClosed t.untold).1, untold := [] } := by
  induction huntold : t.untold generalizing t with
  | nil =>
    cases t
    simp_all [deliverClosed, deliver]
  | cons r rest ih =>
    rw [huntold] at hawaited
    have hfirst : t.step config .tell =
        { t with site := (t.site.deliverClosed [r]).1, untold := rest } := by
      simp only [step, huntold, hawaited r List.mem_cons_self, if_true]
    have hrest := ih (t := { t with site := (t.site.deliverClosed [r]).1, untold := rest })
      (fun q hq => hawaited q (List.mem_cons_of_mem r hq)) rfl
    rw [List.length_cons, List.replicate_succ, run_cons, hfirst, hrest]
    simp [deliverClosed, deliver]

/-- `closeUp`, the `tell` of everybody and `closeIdle` with nothing in between
are `Site.shutDown`. -/
theorem run_shutDown (config : Config) (hopen : t.site.pool.closed = false)
    (huntold : t.untold = []) (hunclosed : t.unclosed = [])
    (hawaited : ∀ r ∈ t.site.pool.pending, t.isAwaited r.id = true) :
    t.run config
        (.closeUp :: (List.replicate t.site.pool.pending.length .tell ++ [.closeIdle])) =
      { t with site := t.site.shutDown.1 } := by
  have hclosed : t.step config .closeUp = { t with
      site := t.site.closeUp.1, untold := t.site.pool.pending, unclosed := t.site.pool.idle } := by
    rw [step, if_neg (by simp [hopen])]
  have htold := run_tell (t := { t with
    site := t.site.closeUp.1, untold := t.site.pool.pending, unclosed := t.site.pool.idle })
    config hawaited
  rw [run_cons, hclosed, run_append, htold]
  simp [step, shutDown, hopen, hunclosed, huntold]

end Threaded

end ConnectionPool.Site
