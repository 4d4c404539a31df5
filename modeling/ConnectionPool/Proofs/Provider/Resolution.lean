import ConnectionPool.Proofs.Provider.Waiters

/-!
# How waiting ends

An acquisition that was queued waits until exactly one of four things happens to it: it is sent a
connection or an error, its pool is shut down, its own timer fires, or it is given up. `Life` says
this of the events that follow, whatever they are, and `Unread` of those that follow an answer.

* `learns_cases`: where the result of an acquisition comes from.
* `step_waits`, `step_answered`: what one event does to a waiter.
* `life_of_waits`: what a run does to a waiter.
* `deadline_le_of_timeout`: no time is up before the deadline.
* `closed_of_learns`: that the pool is closed is learnt only from a pool that is, or from a provider
  that was disposed of.
-/

namespace ConnectionPool.Provider

variable {config : Config} {p : Provider} {w : Waiter} {event : Event} {answer : Delivery}

namespace Event

/-- The acquisition that acts in an event. -/
def actor? : Event → Option Nat
  | .poll _ id | .opened _ id _ | .openingFailed id _ | .abandon _ id => some id
  | _ => none

/-- The moment at which an event may offer a connection to the queue of a site: a caller gives one
back, an acquisition is given up that has not read its answer, or the transport opened one. -/
def offersAt (site : Nat) : Event → Option Moment
  | .release m lease => if lease.site = site then some m else none
  | .abandon m _ => some m
  | .openedForQueue m other _ _ _ => if other = site then some m else none
  | _ => none

/-- An acquisition acts only in events of which it is the `actor?`. -/
theorem Causes.actor? {id site : Nat} {act : Site.Event} (h : event.Causes (some id) site act) :
    event.actor? = some id := by
  cases h <;> rfl

/-- What `offersAt` a site is brought about by an event that does so. -/
theorem Causes.offersAt {actor : Option Nat} {site : Nat} {act : Site.Event} {m : Moment}
    (h : event.Causes actor site act) (hoffers : act.offersAt = some m) :
    event.offersAt site = some m := by
  cases h with
  | release m lease => simpa [Event.offersAt, Site.Event.offersAt] using hoffers
  | cancel m id site request => simpa [Event.offersAt, Site.Event.offersAt] using hoffers
  | openedForQueue m site opening conn created =>
    simpa [Event.offersAt, Site.Event.offersAt] using hoffers
  | _ => cases hoffers

/-- Openings for the queue fail only in an `openingForQueueFailed`. -/
theorem Causes.eq_of_failed {actor : Option Nat} {site opening : Nat} {failure : ConnectFailure}
    {m : Moment} (h : event.Causes actor site (.openingForQueueFailed opening failure m)) :
    event = .openingForQueueFailed m site opening failure := by
  cases h
  rfl

/-- Pools are shut down only by what `isOfDisposal`. -/
theorem Causes.isOfDisposal {actor : Option Nat} {site : Nat}
    (h : event.Causes actor site .shutDown) : event.isOfDisposal = true := by
  cases h with
  | shutDown hdisposal => exact hdisposal

/-- Whatever `offersAt` a site has a `moment?`. -/
theorem moment?_of_offersAt {site : Nat} {m : Moment} (h : event.offersAt site = some m) :
    event.moment? = some m := by
  cases event with
  | release n lease =>
    simp only [Event.offersAt, Option.ite_none_right_eq_some] at h
    exact h.2
  | openedForQueue n other opening conn created =>
    simp only [Event.offersAt, Option.ite_none_right_eq_some] at h
    exact h.2
  | abandon n id => exact h
  | _ => cases h

end Event

/-! ## What is sent to a waiter -/

/-- `Delivers config w event answer`: the event may send the answer to the waiter. -/
inductive Waiter.Delivers (config : Config) (w : Waiter) : Event → Delivery → Prop
  /-- A connection that is offered in time. -/
  | entry {event : Event} {m : Moment} {e : Entry} (hoffers : event.offersAt w.site = some m)
      (htime : m.now < w.deadline) : Delivers config w event (.ok e)
  /-- Its time is up when a connection is offered. -/
  | late {event : Event} {m : Moment} (hoffers : event.offersAt w.site = some m)
      (hlate : w.deadline ≤ m.now) :
      Delivers config w event (.error (.acquisitionTimeout config.acquireTimeout))
  /-- The failure of an opening for the queue. -/
  | failure {m : Moment} {opening : Nat} {failure : ConnectFailure} (htime : m.now < w.deadline) :
      Delivers config w (.openingForQueueFailed m w.site opening failure)
        (.error (.connectionCreation failure))
  /-- Its time is up when an opening for the queue fails. -/
  | lateFailure {m : Moment} {opening : Nat} {failure : ConnectFailure}
      (hlate : w.deadline ≤ m.now) :
      Delivers config w (.openingForQueueFailed m w.site opening failure)
        (.error (.acquisitionTimeout config.acquireTimeout))
  /-- The pool is shut down. -/
  | shutDown {event : Event} (hdisposal : event.isOfDisposal = true) :
      Delivers config w event (.error .poolClosed)

/-- A request that is not late is in time. -/
theorem now_lt_of_isLate {now : Instant} {r : Request} (h : r.isLate now = false) :
    now < r.deadline := by
  have hlate : ¬ r.deadline ≤ now := of_decide_eq_false h
  exact Int.not_le.1 hlate

/-- What a site may send to a waiter is what an event `Delivers`. -/
theorem Waiter.MayBeSent.delivers (h : w.MayBeSent config event.Causes answer) :
    w.Delivers config event answer := by
  obtain ⟨actor, act, r, hcauses, -, hdeadline, hanswers⟩ := h
  cases hanswers with
  | entry hoffers htime =>
    exact .entry (hcauses.offersAt hoffers) (hdeadline ▸ now_lt_of_isLate htime)
  | late hoffers hlate =>
    exact .late (hcauses.offersAt hoffers) (hdeadline ▸ of_decide_eq_true hlate)
  | failure htime =>
    rw [hcauses.eq_of_failed]
    exact .failure (hdeadline ▸ now_lt_of_isLate htime)
  | lateFailure hlate =>
    rw [hcauses.eq_of_failed]
    exact .lateFailure (hdeadline ▸ of_decide_eq_true hlate)
  | shutDown => exact .shutDown hcauses.isOfDisposal

/-- Only after the deadline it `Delivers` to a waiter that its time is up. -/
theorem Waiter.Delivers.deadline_le {timeout : Duration}
    (h : w.Delivers config event (.error (.acquisitionTimeout timeout))) :
    ∃ m, event.moment? = some m ∧ w.deadline ≤ m.now := by
  cases h with
  | late hoffers hlate => exact ⟨_, Event.moment?_of_offersAt hoffers, hlate⟩
  | lateFailure hlate => exact ⟨_, rfl, hlate⟩

/-! ## What an acquisition learns -/

/-- `Learns p id event result`: an unfinished acquisition learns the result at the event, and is
over. -/
inductive Learns (p : Provider) (id : Nat) : Event → Except PoolError SiteConnection → Prop
  /-- It is polled. -/
  | polled {m : Moment} {known : Acquisition} {result : Except PoolError SiteConnection}
      (hknown : p.acquisitions.lookup id = some known)
      (hresult : (p.poll m id).1 = .finished result) : Learns p id (.poll m id) result
  /-- The transport opened the connection that it waits for. -/
  | opened {m : Moment} {conn : Connection} {d : Destination} {site opening : Nat}
      (hknown : p.acquisitions.lookup id = some (.opening d site opening)) :
      Learns p id (.opened m id conn) (p.opened m id conn).1
  /-- The transport could not open it. -/
  | failed {failure : ConnectFailure} {d : Destination} {site opening : Nat}
      (hknown : p.acquisitions.lookup id = some (.opening d site opening)) :
      Learns p id (.openingFailed id failure) (.error (p.openingFailed id failure).1)

/-- An acquisition `Learns` nothing from what others do. -/
theorem not_learns_of_others {id : Nat} (hother : event.actor? ≠ some id)
    (result : Except PoolError SiteConnection) : ¬ p.Learns id event result := by
  intro h
  cases h <;> exact hother rfl

/-- Whoever waits in a queue `Learns` by polling. -/
theorem Learns.polls {result : Except PoolError SiteConnection} (hknown : w.Known p)
    (h : p.Learns w.id event result) :
    ∃ m, event = .poll m w.id ∧ (p.poll m w.id).1 = .finished result := by
  cases h with
  | polled hunfinished hresult => exact ⟨_, rfl, hresult⟩
  | opened hopening => cases hopening.symm.trans hknown
  | failed hopening => cases hopening.symm.trans hknown

/-- What a provider passes on as an error, the site gave as one. -/
theorem eq_error_of_map {α β : Type} {f : α → β} {given : Except PoolError α} {error : PoolError}
    (h : given.map f = .error error) : given = .error error := by
  cases given with
  | ok connection => cases h
  | error sent => rw [show sent = error from Except.error.inj h]

/-- What a provider passes on as a connection, the site gave under its number. -/
theorem eq_ok_of_map {site : Nat} {given : Except PoolError Nat} {lease : SiteConnection}
    (h : given.map (⟨site, ·⟩) = .ok lease) :
    lease.site = site ∧ given = .ok lease.connection := by
  cases given with
  | error error => cases h
  | ok connection =>
    obtain rfl := Except.ok.inj h
    exact ⟨rfl, rfl⟩

/-- What an acquisition `Learns` comes from its first poll, from what a site says to a request in
its queue, or from the opening that the site began for it. -/
theorem learns_cases (hlinked : Linked p) {id : Nat} {result : Except PoolError SiteConnection}
    (h : p.Learns id event result) :
    (∃ m d, p.acquisitions.lookup id = some (.fresh d) ∧
      (p.start m id d).1 = .finished result) ∨
    (∃ m site request deadline s outcome,
      p.acquisitions.lookup id = some (.queued site request deadline) ∧
      p.sites[site]? = some s ∧ (s.poll p.config m request).1 = some outcome ∧
      outcome.map (⟨site, ·⟩) = result) ∨
    ∃ d site opening s, p.acquisitions.lookup id = some (.opening d site opening) ∧
      p.sites[site]? = some s ∧ s.isOpening opening .caller = true ∧
      ((∃ m conn, (s.opened opening conn m).1.map (⟨site, ·⟩) = result) ∨
        ∃ failure, .error (.connectionCreation failure) = result) := by
  cases h with
  | @polled m known _ hknown hfinished =>
    cases known with
    | fresh d =>
      rw [poll, hknown] at hfinished
      exact .inl ⟨m, d, hknown, hfinished⟩
    | opening d site opening =>
      -- whoever waits for the transport is told to wait on
      rw [poll, hknown] at hfinished
      cases hfinished
    | queued site request deadline =>
      obtain ⟨s, hs, -⟩ := hlinked.requests.exists_mem (mem_of_lookup hknown) (if_pos rfl)
      obtain ⟨-, hwaiting, -⟩ | ⟨outcome, hpoll, hprogress, -⟩ :=
        poll_of_known (w := ⟨id, site, request, deadline⟩) hs hknown m
      · cases hfinished.symm.trans hwaiting
      · have hresult := Progress.finished.inj (hprogress.symm.trans hfinished)
        exact .inr (.inl ⟨m, site, request, deadline, s, outcome, hknown, hs, hpoll, hresult⟩)
  | @opened m conn d site opening hknown =>
    obtain ⟨s, hs, hopening⟩ := isOpening_of_lookup hlinked hknown
    refine .inr (.inr ⟨d, site, opening, s, hknown, hs, hopening, .inl ⟨m, conn, ?_⟩⟩)
    simp only [Provider.opened, hknown, changeSiteReporting, hs, Option.map_some, Option.getD_some]
  | @failed failure d site opening hknown =>
    obtain ⟨s, hs, hopening⟩ := isOpening_of_lookup hlinked hknown
    refine .inr (.inr ⟨d, site, opening, s, hknown, hs, hopening, .inr ⟨failure, ?_⟩⟩)
    simp only [Provider.openingFailed, hknown, changeSiteReporting, hs, Option.map_some,
      Option.getD_some, Site.openingFailed]

/-- An event in which a queued acquisition acts is a poll or gives it up, or means nothing. -/
theorem step_of_actor (hknown : w.Known p) (hactor : event.actor? = some w.id) :
    (∃ m, event = .poll m w.id) ∨ (∃ m, event = .abandon m w.id) ∨
      ((p.step event).1 = p ∧ ∀ result, ¬ p.Learns w.id event result) := by
  -- whoever is queued is past the stage of the transport, and its answers mean nothing
  have hnothing : (∀ m, event ≠ .poll m w.id) → ∀ result, ¬ p.Learns w.id event result := by
    intro hpoll result hlearns
    obtain ⟨m, heq, -⟩ := hlearns.polls hknown
    exact hpoll m heq
  cases event with
  | poll m id =>
    obtain rfl := Option.some.inj hactor
    exact .inl ⟨m, rfl⟩
  | abandon m id =>
    obtain rfl := Option.some.inj hactor
    exact .inr (.inl ⟨m, rfl⟩)
  | opened m id conn =>
    obtain rfl := Option.some.inj hactor
    refine .inr (.inr ⟨?_, hnothing fun _ => Event.noConfusion⟩)
    rw [step, opened, hknown]
  | openingFailed id failure =>
    obtain rfl := Option.some.inj hactor
    refine .inr (.inr ⟨?_, hnothing fun _ => Event.noConfusion⟩)
    rw [step, openingFailed, hknown]
  | _ => cases hactor

/-- A `step` leaves a waiter that `Waits` there, sends it an answer, finds that its time is up or
gives it up. -/
theorem step_waits (h : Reachable config p) (hw : w.Waits p) (event : Event) :
    (w.Waits (p.step event).1 ∧ ∀ result, ¬ p.Learns w.id event result) ∨
    (∃ answer, w.Answered answer (p.step event).1 ∧ w.Delivers config event answer ∧
      ∀ result, ¬ p.Learns w.id event result) ∨
    (∃ m, event = .poll m w.id ∧ m.hasFired w.deadline = true ∧
      p.Learns w.id event (.error (.acquisitionTimeout config.acquireTimeout)) ∧
      w.Over (p.step event).1) ∨
    ∃ m, event = .abandon m w.id ∧ w.Over (p.step event).1 := by
  -- the acts of the waiter itself, and those of all others
  by_cases hactor : event.actor? = some w.id
  · obtain ⟨m, rfl⟩ | ⟨m, rfl⟩ | ⟨hsame, hnothing⟩ := step_of_actor hw.known hactor
    · obtain ⟨hfired, hresult, hover⟩ | ⟨-, hprogress, hwaits⟩ := step_poll_of_waits h hw m
      · exact .inr (.inr (.inl ⟨m, rfl, hfired, .polled hw.known hresult, hover⟩))
      · refine .inl ⟨hwaits, fun result hlearns => ?_⟩
        obtain ⟨n, heq, hresult⟩ := hlearns.polls hw.known
        obtain ⟨rfl, -⟩ := Event.poll.inj heq
        rw [hprogress] at hresult
        cases hresult
    · exact .inr (.inr (.inr ⟨m, rfl, step_abandon h (.inl hw) m⟩))
    · rw [hsame]
      exact .inl ⟨hw, hnothing⟩
  · have hothers := (step_moves p event).of_others (sound_of_reachable h) (linked_of_reachable h)
      fun site act hcauses => hactor hcauses.actor?
    rcases hothers.1 hw with hwaits | ⟨answer, hanswered, hsent⟩
    · exact .inl ⟨hwaits, not_learns_of_others hactor⟩
    · exact .inr (.inl ⟨answer, hanswered, hsent.delivers, not_learns_of_others hactor⟩)

/-- A `step` leaves a waiter `Answered`, lets it read the answer or gives it up. -/
theorem step_answered (h : Reachable config p) (hw : w.Answered answer p) (event : Event) :
    (w.Answered answer (p.step event).1 ∧ ∀ result, ¬ p.Learns w.id event result) ∨
    (∃ m, event = .poll m w.id ∧
      p.Learns w.id event (answer.map fun e => ⟨w.site, e.info.id⟩) ∧ w.Over (p.step event).1) ∨
    ∃ m, event = .abandon m w.id ∧ w.Over (p.step event).1 := by
  -- as for those who wait, with the answer in place of the timer
  by_cases hactor : event.actor? = some w.id
  · obtain ⟨m, rfl⟩ | ⟨m, rfl⟩ | ⟨hsame, hnothing⟩ := step_of_actor hw.known hactor
    · obtain ⟨hresult, hover⟩ := step_poll_of_answered h hw m
      exact .inr (.inl ⟨m, rfl, .polled hw.known hresult, hover⟩)
    · exact .inr (.inr ⟨m, rfl, step_abandon h (.inr ⟨answer, hw⟩) m⟩)
    · rw [hsame]
      exact .inl ⟨hw, hnothing⟩
  · have hothers := (step_moves p event).of_others (sound_of_reachable h) (linked_of_reachable h)
      fun site act hcauses => hactor hcauses.actor?
    exact .inl ⟨hothers.2 answer hw, not_learns_of_others hactor⟩

/-! ## What a run does to a waiter -/

/-- `Gone w p`: whatever happens, the acquisition stays `Over`. -/
def Waiter.Gone (w : Waiter) (p : Provider) : Prop := ∀ events, w.Over (p.run events)

/-- `Unread w answer p events`: the answer stays where it is until the acquisition reads it or is
given up. -/
inductive Unread (w : Waiter) (answer : Delivery) : Provider → List Event → Prop
  /-- It has not read the answer. -/
  | unread {p : Provider} (hanswered : w.Answered answer p) : Unread w answer p []
  /-- It learns nothing. -/
  | stays {p : Provider} {event : Event} {events : List Event} (hanswered : w.Answered answer p)
      (hnothing : ∀ result, ¬ p.Learns w.id event result)
      (hrest : Unread w answer (p.step event).1 events) : Unread w answer p (event :: events)
  /-- It learns the answer, at any time. -/
  | read {p : Provider} {m : Moment} {events : List Event} (hanswered : w.Answered answer p)
      (hlearns : p.Learns w.id (.poll m w.id) (answer.map fun e => ⟨w.site, e.info.id⟩))
      (hgone : w.Gone (p.step (.poll m w.id)).1) : Unread w answer p (.poll m w.id :: events)
  /-- It is given up. -/
  | dropped {p : Provider} {m : Moment} {events : List Event} (hanswered : w.Answered answer p)
      (hgone : w.Gone (p.step (.abandon m w.id)).1) : Unread w answer p (.abandon m w.id :: events)

/-- `Life config w p events`: the acquisition stays in the queue until one thing ends
its waiting. -/
inductive Life (config : Config) (w : Waiter) : Provider → List Event → Prop
  /-- It waits. -/
  | waits {p : Provider} (hwaits : w.Waits p) : Life config w p []
  /-- It learns nothing. -/
  | stays {p : Provider} {event : Event} {events : List Event} (hwaits : w.Waits p)
      (hnothing : ∀ result, ¬ p.Learns w.id event result)
      (hrest : Life config w (p.step event).1 events) : Life config w p (event :: events)
  /-- It is sent an answer. -/
  | delivered {p : Provider} {event : Event} {events : List Event} {answer : Delivery}
      (hwaits : w.Waits p) (hdelivers : w.Delivers config event answer)
      (hnothing : ∀ result, ¬ p.Learns w.id event result)
      (hrest : Unread w answer (p.step event).1 events) : Life config w p (event :: events)
  /-- It learns that its time is up. -/
  | timedOut {p : Provider} {m : Moment} {events : List Event} (hwaits : w.Waits p)
      (hfired : m.hasFired w.deadline = true)
      (hlearns : p.Learns w.id (.poll m w.id) (.error (.acquisitionTimeout config.acquireTimeout)))
      (hgone : w.Gone (p.step (.poll m w.id)).1) : Life config w p (.poll m w.id :: events)
  /-- It is given up. -/
  | dropped {p : Provider} {m : Moment} {events : List Event} (hwaits : w.Waits p)
      (hgone : w.Gone (p.step (.abandon m w.id)).1) : Life config w p (.abandon m w.id :: events)

/-- What is `Over` is `Gone`. -/
theorem gone_of_over (h : w.Over p) : w.Gone p := by
  intro events
  induction events generalizing p with
  | nil => exact h
  | cons event events ih => exact ih (step_over h event)

/-- An acquisition that was `Answered` has an `Unread` answer until it ends. -/
theorem unread_of_answered (h : Reachable config p) (hw : w.Answered answer p)
    (events : List Event) : Unread w answer p events := by
  -- on the events, as the first of them decides how the life goes on
  induction events generalizing p with
  | nil => exact .unread hw
  | cons event events ih =>
    obtain ⟨hstays, hnothing⟩ | ⟨m, rfl, hlearns, hover⟩ | ⟨m, rfl, hover⟩ :=
      step_answered h hw event
    · exact .stays hw hnothing (ih (h.step event) hstays)
    · exact .read hw hlearns (gone_of_over hover)
    · exact .dropped hw (gone_of_over hover)

/-- An acquisition that `Waits` has the `Life` of one that waits. -/
theorem life_of_waits (h : Reachable config p) (hw : w.Waits p) (events : List Event) :
    Life config w p events := by
  induction events generalizing p with
  | nil => exact .waits hw
  | cons event events ih =>
    obtain ⟨hstays, hnothing⟩ | ⟨answer, hanswered, hdelivers, hnothing⟩ |
      ⟨m, rfl, hfired, hlearns, hover⟩ | ⟨m, rfl, hover⟩ := step_waits h hw event
    · exact .stays hw hnothing (ih (h.step event) hstays)
    · exact .delivered hw hdelivers hnothing (unread_of_answered (h.step event) hanswered events)
    · exact .timedOut hw hfired hlearns (gone_of_over hover)
    · exact .dropped hw (gone_of_over hover)

/-! ## Deadlines -/

/-- `InOrder events`: the clock does not go back in the course of the events. -/
def InOrder (events : List Event) : Prop :=
  (events.filterMap Event.moment?).Pairwise fun m n => m.now ≤ n.now

/-- A request that `Waits` is not `Answered`. -/
theorem Waiter.Waits.not_answered (hw : w.Waits p) : ¬ w.Answered answer p := by
  rintro ⟨-, t, ht, hsent⟩
  obtain ⟨-, s, hs, hqueues⟩ := hw
  obtain rfl := Option.some.inj (hs.symm.trans ht)
  have hmem : (w.request, answer) ∈ s.inbox.filter (·.1 == w.request) := by
    rw [hsent.once]
    exact List.mem_singleton_self _
  have hnone := List.lookup_eq_none_iff.1 hqueues.unanswered _ (List.mem_filter.1 hmem).1
  simp at hnone

/-- What is `Over` is not `Answered`. -/
theorem Waiter.Over.not_answered (hw : w.Over p) : ¬ w.Answered answer p := by
  rintro ⟨hknown, -⟩
  rw [Waiter.Known, hw.unknown] at hknown
  cases hknown

/-- A `run` leaves a waiter `Answered`, or ends the acquisition. -/
theorem run_of_answered (h : Reachable config p) (hw : w.Answered answer p) (events : List Event) :
    w.Answered answer (p.run events) ∨ w.Over (p.run events) := by
  induction events generalizing p with
  | nil => exact .inl hw
  | cons event events ih =>
    obtain ⟨hstays, -⟩ | ⟨m, -, -, hover⟩ | ⟨m, -, hover⟩ := step_answered h hw event
    · exact ih (h.step event) hstays
    · exact .inr (gone_of_over hover events)
    · exact .inr (gone_of_over hover events)

/-- A `run` leaves a waiter that `Waits` there, sends it an answer or ends it. -/
theorem run_of_waits (h : Reachable config p) (hw : w.Waits p) (events : List Event) :
    w.Waits (p.run events) ∨ (∃ answer, w.Answered answer (p.run events)) ∨
      w.Over (p.run events) := by
  induction events generalizing p with
  | nil => exact .inl hw
  | cons event events ih =>
    obtain ⟨hstays, -⟩ | ⟨answer, hanswered, -⟩ | ⟨m, -, -, -, hover⟩ | ⟨m, -, hover⟩ :=
      step_waits h hw event
    · exact ih (h.step event) hstays
    · rcases run_of_answered (h.step event) hanswered events with hunread | hover
      · exact .inr (.inl ⟨answer, hunread⟩)
      · exact .inr (.inr hover)
    · exact .inr (.inr (gone_of_over hover events))
    · exact .inr (.inr (gone_of_over hover events))

/-- An answer does not change. -/
theorem answer_unique (h : Reachable config p) {events : List Event} {other : Delivery}
    (hw : w.Answered answer p) (hafter : w.Answered other (p.run events)) : answer = other := by
  rcases run_of_answered h hw events with ⟨-, s, hs, hsent⟩ | hover
  · obtain ⟨-, t, ht, hother⟩ := hafter
    obtain rfl := Option.some.inj (hs.symm.trans ht)
    exact hsent.unique hother
  · exact absurd hafter hover.not_answered

/-- Whoever was sent that its time is up was sent it after its deadline. -/
theorem late_of_answered (h : Reachable config p) (hw : w.Waits p) {events : List Event}
    {timeout : Duration}
    (hafter : w.Answered (.error (.acquisitionTimeout timeout)) (p.run events)) :
    ∃ event ∈ events, ∃ m, event.moment? = some m ∧ w.deadline ≤ m.now := by
  -- on the events up to the one that sends the answer, which is late by its own account
  induction events generalizing p with
  | nil => exact absurd hafter hw.not_answered
  | cons event events ih =>
    obtain ⟨hstays, -⟩ | ⟨answer, hanswered, hdelivers, -⟩ | ⟨m, -, -, -, hover⟩ | ⟨m, -, hover⟩ :=
      step_waits h hw event
    · obtain ⟨late, hlate, hmoment⟩ := ih (h.step event) hstays hafter
      exact ⟨late, List.mem_cons_of_mem event hlate, hmoment⟩
    · obtain rfl := answer_unique (h.step event) hanswered hafter
      exact ⟨event, List.mem_cons_self, hdelivers.deadline_le⟩
    · exact absurd hafter (gone_of_over hover events).not_answered
    · exact absurd hafter (gone_of_over hover events).not_answered

/-- When the events are `InOrder`, a poll that comes last comes at the latest time. -/
theorem InOrder.le_last {events : List Event} {id : Nat} {m n : Moment}
    (h : InOrder (events ++ [.poll m id])) (hevent : event ∈ events)
    (hmoment : event.moment? = some n) : n.now ≤ m.now := by
  rw [InOrder, List.filterMap_append, List.pairwise_append] at h
  exact h.2.2 n (List.mem_filterMap.2 ⟨event, hevent, hmoment⟩) m List.mem_cons_self

/-- When the events are `InOrder`, no acquisition `Learns` before its deadline that its time
is up. -/
theorem deadline_le_of_timeout (h : Reachable config p) (hw : w.Waits p) {events : List Event}
    {m : Moment} {timeout : Duration} (horder : InOrder (events ++ [.poll m w.id]))
    (hlearns : (p.run events).Learns w.id (.poll m w.id)
      (.error (.acquisitionTimeout timeout))) : w.deadline ≤ m.now := by
  have hafter := h.run events
  rcases run_of_waits h hw events with hwaits | ⟨answer, hanswered⟩ | hover
  · obtain ⟨hfired, -⟩ | ⟨-, hprogress, -⟩ := step_poll_of_waits hafter hwaits m
    · exact Moment.le_now_of_hasFired hfired
    · obtain ⟨n, heq, hresult⟩ := hlearns.polls hwaits.known
      obtain ⟨rfl, -⟩ := Event.poll.inj heq
      rw [hprogress] at hresult
      cases hresult
  · -- the answer was sent by an event after the deadline, and the poll comes later still
    obtain ⟨hprogress, -⟩ := step_poll_of_answered hafter hanswered m
    obtain ⟨n, heq, hresult⟩ := hlearns.polls hanswered.known
    obtain ⟨rfl, -⟩ := Event.poll.inj heq
    obtain rfl := eq_error_of_map (Progress.finished.inj (hprogress.symm.trans hresult))
    obtain ⟨event, hevent, n, hmoment, hlate⟩ := late_of_answered h hw hanswered
    exact Int.le_trans hlate (horder.le_last hevent hmoment)
  · obtain ⟨hknown⟩ := hlearns
    rw [hover.unknown] at hknown
    cases hknown

/-! ## Closed pools -/

/-- The site that an acquisition has come to, or will be sent to. -/
def siteOfAcquisition? (p : Provider) : Acquisition → Option Nat
  | .fresh d => p.siteOf? d
  | .opening _ site _ | .queued site _ _ => some site

/-- `start` tells `poolClosed` only if the provider `isDisposed`, or the pool that serves the
destination was shut down. -/
theorem closed_of_start (hsound : Sound config p) {m : Moment} {id : Nat} {d : Destination}
    (h : (p.start m id d).1 = .finished (.error .poolClosed)) :
    p.isDisposed = true ∨
      ∃ site s, p.siteOf? d = some site ∧ p.sites[site]? = some s ∧ s.pool.closed = true := by
  obtain ⟨s, hs, hserves⟩ := siteFor_cases hsound d
  obtain ⟨hdisposed, -⟩ | ⟨hticket, -⟩ := start_cases m id d p hs
  · exact .inl hdisposed
  · rw [h] at hticket
    -- the poll was refused, so the site refused the ticket
    have hrefused : (s.acquire p.config m).1 = .error .poolClosed := by
      cases hgiven : (s.acquire p.config m).1 with
      | error error =>
        rw [hgiven, Progress.ofTicket] at hticket
        obtain rfl : PoolError.poolClosed = error :=
          Except.error.inj (Progress.finished.inj hticket)
        rfl
      | ok ticket =>
        rw [hgiven] at hticket
        cases ticket <;> cases hticket
    have hclosed := Site.closed_of_acquire hrefused
    -- a site that has just been made is open
    rcases hserves with ⟨hsite, hs⟩ | rfl
    · exact .inr ⟨_, s, hsite, hs, hclosed⟩
    · cases hclosed

/-- Whoever waits in a queue is told `poolClosed` only by a pool that was shut down. -/
theorem closed_of_poll (h : Reachable config p) (hknown : w.Known p) {s : Site}
    (hs : p.sites[w.site]? = some s) {m : Moment}
    (hpoll : (s.poll p.config m w.request).1 = some (.error .poolClosed)) :
    s.pool.closed = true := by
  have hsite := (sound_of_reachable h).site hs
  obtain ⟨hwaiting, -⟩ | ⟨outcome, houtcome, hresult, -⟩ := poll_of_known hs hknown m
  · cases hwaiting.symm.trans hpoll
  obtain rfl := Option.some.inj (houtcome.symm.trans hpoll)
  rcases answered_or_waits h hknown with hwaits | ⟨answer, hanswered⟩
  · obtain ⟨-, hprogress, -⟩ | ⟨-, hprogress, -⟩ := step_poll_of_waits h hwaits m <;>
      cases hprogress.symm.trans hresult
  · obtain ⟨hprogress, -⟩ := step_poll_of_answered h hanswered m
    obtain rfl := eq_error_of_map (Progress.finished.inj (hprogress.symm.trans hresult))
    obtain ⟨-, t, ht, hsent⟩ := hanswered
    obtain rfl := Option.some.inj (hs.symm.trans ht)
    exact Site.closed_of_sent hsite ((Site.sent_iff (Site.requests_numbered hsite).nodup).1 hsent)

/-- An acquisition `Learns` that the pool is closed only if the provider `isDisposed`, or the pool
was shut down. -/
theorem closed_of_learns (h : Reachable config p) {id : Nat}
    (hlearns : p.Learns id event (.error .poolClosed)) :
    p.isDisposed = true ∨ ∃ known site s, p.acquisitions.lookup id = some known ∧
      p.siteOfAcquisition? known = some site ∧ p.sites[site]? = some s ∧ s.pool.closed = true := by
  obtain ⟨m, d, hknown, hrefused⟩ |
    ⟨m, site, request, deadline, s, outcome, hknown, hs, hpoll, htold⟩ |
    ⟨d, site, opening, s, hknown, hs, hopening, ⟨m, conn, htold⟩ | ⟨failure, htold⟩⟩ :=
    learns_cases (linked_of_reachable h) hlearns
  · rcases closed_of_start (sound_of_reachable h) hrefused with
      hdisposed | ⟨site, s, hsite, hs, hclosed⟩
    · exact .inl hdisposed
    · exact .inr ⟨_, site, s, hknown, hsite, hs, hclosed⟩
  · obtain rfl := eq_error_of_map htold
    exact .inr ⟨_, site, s, hknown, rfl, hs,
      closed_of_poll (w := ⟨id, site, request, deadline⟩) h hknown hs hpoll⟩
  · exact .inr ⟨_, site, s, hknown, rfl, hs, Site.closed_of_opened hopening (eq_error_of_map htold)⟩
  · -- a failed opening is told as such
    cases htold

/-! ## Every queued acquisition is resolved once -/

/-- `CanLearn config w p s`: what an unfinished acquisition that was queued can learn. -/
structure Waiter.CanLearn (config : Config) (w : Waiter) (p : Provider) (s : Site) : Prop where
  /-- The site is the one at which it was queued. -/
  site : p.sites[w.site]? = some s
  /-- As long as it is in the queue, it was sent nothing, and its timer tells it that its time is
  up. -/
  queued : s.pool.isQueued w.request = true → s.inbox.lookup w.request = none ∧
    ∀ m : Moment, m.hasFired w.deadline = true →
      p.Learns w.id (.poll m w.id) (.error (.acquisitionTimeout config.acquireTimeout))
  /-- When it is no longer in the queue, it was sent one answer, which it learns at any time. -/
  unqueued : s.pool.isQueued w.request = false →
    ∃ answer, s.inbox.filter (·.1 == w.request) = [(w.request, answer)] ∧
      ∀ m, p.Learns w.id (.poll m w.id) (answer.map fun e => ⟨w.site, e.info.id⟩)

/-- Whoever is `Known` and waits can learn that its time is up, and whoever was sent an answer can
learn it. -/
theorem canLearn_of_known (h : Reachable config p) (hknown : w.Known p) :
    ∃ s, w.CanLearn config p s := by
  rcases answered_or_waits h hknown with hwaits | ⟨answer, hanswered⟩
  · obtain ⟨-, s, hs, hqueues⟩ := id hwaits
    refine ⟨s, hs, fun _ => ⟨hqueues.unanswered, fun m hfired => ?_⟩, fun hunqueued => ?_⟩
    · obtain ⟨-, hresult, -⟩ | ⟨hnot, -⟩ := step_poll_of_waits h hwaits m
      · exact .polled hknown hresult
      · rw [hfired] at hnot
        cases hnot
    · rw [hqueues.isQueued] at hunqueued
      cases hunqueued
  · obtain ⟨-, s, hs, hsent⟩ := id hanswered
    refine ⟨s, hs, fun hqueued => ?_, fun _ => ⟨answer, hsent.once, fun m => ?_⟩⟩
    · rw [hsent.unqueued] at hqueued
      cases hqueued
    · exact .polled hknown (step_poll_of_answered h hanswered m).1

/-- Every queued acquisition is resolved exactly once. It has a `Life` in the queue until it is sent
an answer, learns that its time is up or is given up, and what was sent to it is `Unread` until it
is read or given up. When it is neither finished nor in the queue, its answer is there. Its time is
up only after the deadline, and an acquisition `Learns` that the pool is closed only if its provider
was disposed of or its pool was shut down. -/
theorem resolved_once (h : Reachable config p) :
    (∀ (w : Waiter) (m : Moment) (d : Destination),
      p.acquisitions.lookup w.id = some (.fresh d) →
      (p.poll m w.id).1 = .waiting w.site w.request w.deadline →
      w.deadline = m.now.deadline config.acquireTimeout ∧
      ∀ events, Life config w (p.step (.poll m w.id)).1 events ∧
        ∀ n timeout, InOrder (events ++ [.poll n w.id]) →
          ((p.step (.poll m w.id)).1.run events).Learns w.id (.poll n w.id)
            (.error (.acquisitionTimeout timeout)) →
          w.deadline ≤ n.now) ∧
    (∀ w : Waiter, w.Known p → ∃ s, w.CanLearn config p s) ∧
    ∀ id event, p.Learns id event (.error .poolClosed) →
      p.isDisposed = true ∨ ∃ known site s, p.acquisitions.lookup id = some known ∧
        p.siteOfAcquisition? known = some site ∧ p.sites[site]? = some s ∧
        s.pool.closed = true := by
  refine ⟨?_, fun w hknown => canLearn_of_known h hknown, ?_⟩
  · intro w m d hfresh hwaiting
    obtain ⟨hdeadline, hwaits⟩ := waits_of_start h hfresh hwaiting
    have hnext := h.step (.poll m w.id)
    refine ⟨hdeadline, fun events => ⟨life_of_waits hnext hwaits events, ?_⟩⟩
    intro n timeout horder hlearns
    exact deadline_le_of_timeout hnext hwaits horder hlearns
  · intro id event hlearns
    exact closed_of_learns h hlearns

/-- Where the only connection is in use, an acquisition is told to wait; it is given the connection
in time, and learns it after its deadline. -/
theorem resolved_once_crowded :
    Reachable .oneSlot ((ofConfig .oneSlot).run (crowded.take 4)) ∧
    ∃ w : Waiter,
      ((ofConfig .oneSlot).run (crowded.take 4)).acquisitions.lookup w.id =
        some (.fresh (.ofAddress "db:1")) ∧
      (((ofConfig .oneSlot).run (crowded.take 4)).poll (.atMillis 0) w.id).1 =
        .waiting w.site w.request w.deadline ∧
      Life .oneSlot w ((ofConfig .oneSlot).run crowded)
        [.release (.atMillis 1) ⟨0, 1⟩, .poll (.atMillis 5000) w.id] ∧
      (((ofConfig .oneSlot).run crowded).step (.release (.atMillis 1) ⟨0, 1⟩)).1.Learns w.id
        (.poll (.atMillis 5000) w.id) (.ok ⟨0, 1⟩) := by
  have hreachable : Reachable .oneSlot ((ofConfig .oneSlot).run (crowded.take 4)) :=
    Reachable.start.run (crowded.take 4)
  refine ⟨hreachable, ⟨1, 0, 1, .ofMillis 1000⟩, rfl, rfl, ?_, .polled rfl rfl⟩
  exact (((resolved_once hreachable).1 _ _ _ rfl rfl).2 _).1

end ConnectionPool.Provider
