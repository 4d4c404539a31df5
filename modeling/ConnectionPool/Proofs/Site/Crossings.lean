import ConnectionPool.Proofs.Site.Places

/-!
# How waiting ends where threads cross

On a site on which several threads work, whoever waits has one place at a time, which is a `Place`:
the queue, the list of a shutdown, or the inbox. `Shifts` says how one step changes the place, and
`Advances` how it brings whoever waits further. From the queue a request goes to exactly one of the
others, or its waiting ends there; it never comes back.

A request that is not in the queue any more need not have been answered. A shutdown takes the queue
under the lock and sends afterwards, and a timer that fires in between finds neither the request in
the queue nor an answer in the channel. What is true is that the sender still exists, so that the
second look at the channel waits for a short time and then yields the answer of the shutdown.

## Main definitions

* `Threaded.Lies`: a request is in a place, once, and in no other.
* `Threaded.Shifts`, `Threaded.Advances`: what one step does to a place and to a stage.
* `Threaded.Life`: how a queued request fares in the course of a run.

## Main results

* `Threaded.exists_place`: whoever waits has a place.
* `Threaded.step_place`, `Threaded.step_wait`: what a step does to whoever waits.
* `Threaded.life_of_queued`: what a run does to a queued request.
-/

namespace ConnectionPool.Site

variable {config : Config}

/-- Whatever says that a time is up has seen that it is. -/
theorem Event.Answers.deadline_le {act : Event} {r : Request} {timeout : Duration}
    (h : act.Answers config r (.error (.acquisitionTimeout timeout))) :
    ∃ m, act.moment? = some m ∧ r.deadline ≤ m.now := by
  cases h with
  | late hoffers hlate =>
    refine ⟨_, ?_, of_decide_eq_true hlate⟩
    cases act <;> first | exact hoffers | cases hoffers
  | lateFailure hlate => exact ⟨_, rfl, of_decide_eq_true hlate⟩

namespace Threaded

variable {t : Threaded} {event : Event} {w : Wait} {request : Nat} {r : Request}
  {answer : Delivery} {ending : Ending}

/-! ## Places -/

/-- A `Place`: where the request of somebody who waits may be. -/
inductive Place where
  /-- In the queue. -/
  | queued (r : Request)
  /-- On the list of those whom a shutdown has still to tell that the pool is closed. -/
  | untold (r : Request)
  /-- In the inbox, with its answer. -/
  | sent (answer : Delivery)

/-- `Finds request t queued untold sent`: all that is found under a number, in the queue, on the
list of a shutdown and in the inbox. -/
structure Finds (request : Nat) (t : Threaded) (queued untold : List Request)
    (sent : List (Nat × Delivery)) : Prop where
  /-- The queue. -/
  queued : t.site.pool.pending.filter (·.id == request) = queued
  /-- The list of a shutdown. -/
  untold : t.untold.filter (·.id == request) = untold
  /-- The inbox. -/
  sent : t.site.inbox.filter (·.1 == request) = sent

/-- `Lies request t place`: the request is in the place, once, and in no other. -/
def Lies (request : Nat) (t : Threaded) : Place → Prop
  | .queued r => t.Finds request [r] [] []
  | .untold r => t.Finds request [] [r] []
  | .sent answer => t.Finds request [] [] [(request, answer)]

variable {place other : Place}

/-- The request is found in the place. -/
def Place.Holds (request : Nat) (t : Threaded) : Place → Prop
  | .queued r => r ∈ t.site.pool.pending ∧ r.id = request
  | .untold r => r ∈ t.untold ∧ r.id = request
  | .sent answer => (request, answer) ∈ t.site.inbox

@[simp]
theorem Place.holds_queued :
    (Place.queued r).Holds request t ↔ r ∈ t.site.pool.pending ∧ r.id = request := Iff.rfl

@[simp]
theorem Place.holds_untold : (Place.untold r).Holds request t ↔ r ∈ t.untold ∧ r.id = request :=
  Iff.rfl

@[simp]
theorem Place.holds_sent : (Place.sent answer).Holds request t ↔ (request, answer) ∈ t.site.inbox :=
  Iff.rfl

/-- A request that `Lies` in a place is found there. -/
theorem Lies.holds (h : t.Lies request place) : place.Holds request t := by
  cases place with
  | queued r =>
    have hmem : r ∈ t.site.pool.pending.filter (·.id == request) := by simp [h.queued]
    simpa using hmem
  | untold r =>
    have hmem : r ∈ t.untold.filter (·.id == request) := by simp [h.untold]
    simpa using hmem
  | sent answer =>
    have hmem : (request, answer) ∈ t.site.inbox.filter (·.1 == request) := by simp [h.sent]
    exact (List.mem_filter.1 hmem).1

/-- A request `Lies` in one place. -/
theorem Lies.unique (h : t.Lies request place) (hother : t.Lies request other) :
    place = other := by
  -- the places show in what is found, which is the same for both
  cases place <;> cases other <;> obtain ⟨hqueued, huntold, hsent⟩ := h <;>
    obtain ⟨hqueued', huntold', hsent'⟩ := hother <;>
    simp [hqueued, huntold, hsent] at hqueued' huntold' hsent'
  · rw [hqueued']
  · rw [huntold']
  · rw [hsent']

/-- Whoever waits has a place in which its request `Lies`. -/
theorem exists_place (h : t.Kept config) (hawaited : t.isAwaited request = true) :
    ∃ place, t.Lies request place := by
  have hone := h.placed request
  rw [hawaited, placed_true, requests, List.count_append, count_map_eq_length_filter,
    count_map_eq_length_filter, count_map_eq_length_filter] at hone
  -- one of the three lengths is one, and the other two are zero
  have hcases : (t.site.pool.pending.filter (·.id == request)).length = 1 ∧
        (t.site.inbox.filter (·.1 == request)).length = 0 ∧
        (t.untold.filter (·.id == request)).length = 0 ∨
      (t.site.pool.pending.filter (·.id == request)).length = 0 ∧
        (t.site.inbox.filter (·.1 == request)).length = 1 ∧
        (t.untold.filter (·.id == request)).length = 0 ∨
      (t.site.pool.pending.filter (·.id == request)).length = 0 ∧
        (t.site.inbox.filter (·.1 == request)).length = 0 ∧
        (t.untold.filter (·.id == request)).length = 1 := by omega
  rcases hcases with ⟨hqueued, hsent, huntold⟩ | ⟨hqueued, hsent, huntold⟩ |
    ⟨hqueued, hsent, huntold⟩
  · obtain ⟨r, hqueued⟩ := List.length_eq_one_iff.1 hqueued
    exact ⟨.queued r, hqueued, List.length_eq_zero_iff.1 huntold, List.length_eq_zero_iff.1 hsent⟩
  · obtain ⟨⟨number, answer⟩, hfilter⟩ := List.length_eq_one_iff.1 hsent
    have hmem : (number, answer) ∈ t.site.inbox.filter (·.1 == request) := by simp [hfilter]
    obtain rfl : number = request := by simpa using (List.mem_filter.1 hmem).2
    exact ⟨.sent answer, List.length_eq_zero_iff.1 hqueued, List.length_eq_zero_iff.1 huntold,
      hfilter⟩
  · obtain ⟨r, huntold⟩ := List.length_eq_one_iff.1 huntold
    exact ⟨.untold r, List.length_eq_zero_iff.1 hqueued, huntold, List.length_eq_zero_iff.1 hsent⟩

/-- The request of whoever waits `Lies` where it is found. -/
theorem lies_iff (h : t.Kept config) (hawaited : t.isAwaited request = true) :
    t.Lies request place ↔ place.Holds request t := by
  refine ⟨Lies.holds, fun hholds => ?_⟩
  obtain ⟨found, hfound⟩ := exists_place h hawaited
  -- what is found in one place is not found in another
  suffices found = place by rwa [← this]
  cases place with
  | queued r =>
    have hmem : r ∈ t.site.pool.pending.filter (·.id == request) := by simpa using hholds
    cases found <;> rw [hfound.queued] at hmem <;> simp at hmem
    rw [hmem]
  | untold r =>
    have hmem : r ∈ t.untold.filter (·.id == request) := by simpa using hholds
    cases found <;> rw [hfound.untold] at hmem <;> simp at hmem
    rw [hmem]
  | sent answer =>
    have hmem : (request, answer) ∈ t.site.inbox.filter (·.1 == request) :=
      List.mem_filter.2 ⟨hholds, by simp⟩
    cases found <;> rw [hfound.sent] at hmem <;> simp at hmem
    rw [hmem]

/-- Whoever does not wait any more is not among the `requests` of the site. -/
theorem notMem_requests_of_over (h : t.Kept config)
    (hover : t.stage? request = some (.finished ending)) :
    request ∉ t.site.requests := by
  have hplaced := h.placed request
  rw [isAwaited, hover, Option.any_some, Stage.isOver, Bool.not_true, placed_false] at hplaced
  exact List.count_eq_zero.1 hplaced

theorem Lies.isQueued (h : t.Lies request (.queued r)) : t.site.pool.isQueued request = true := by
  obtain ⟨hmem, hid⟩ := h.holds
  exact List.any_eq_true.2 ⟨r, hmem, by simpa using hid⟩

/-- A request that is not in the queue has been sent its answer, or a shutdown has still to tell
it. -/
theorem place_of_not_isQueued (h : t.Kept config) (hawaited : t.isAwaited request = true)
    (hqueued : t.site.pool.isQueued request = false) :
    (∃ answer, t.Lies request (.sent answer)) ∨ ∃ r, t.Lies request (.untold r) := by
  obtain ⟨place, hplace⟩ := exists_place h hawaited
  cases place with
  | queued r => cases hplace.isQueued.symm.trans hqueued
  | untold r => exact .inr ⟨r, hplace⟩
  | sent answer => exact .inl ⟨answer, hplace⟩

theorem Finds.lookup_eq_none {queued untold : List Request}
    (h : t.Finds request queued untold []) : t.site.inbox.lookup request = none := by
  refine lookup_of_notMem_keys fun hmem => ?_
  obtain ⟨sent, hsent, rfl⟩ := List.mem_map.1 hmem
  have hnone := List.filter_eq_nil_iff.1 h.sent sent hsent
  simp at hnone

theorem Lies.lookup (h : t.Lies request (.sent answer)) :
    t.site.inbox.lookup request = some answer := by
  cases hsent : t.site.inbox.lookup request with
  | none => exact absurd (List.mem_map_of_mem h.holds) (notMem_keys_of_lookup hsent)
  | some found =>
    have hmem : (request, found) ∈ t.site.inbox.filter (·.1 == request) :=
      List.mem_filter.2 ⟨mem_of_lookup hsent, by simp⟩
    rw [h.sent] at hmem
    obtain rfl : found = answer := by simpa using hmem
    rfl

theorem Finds.isQueued_eq_false {untold : List Request} {sent : List (Nat × Delivery)}
    (h : t.Finds request [] untold sent) : t.site.pool.isQueued request = false := by
  rw [Pool.isQueued, List.any_eq_false]
  exact List.filter_eq_nil_iff.1 h.queued

/-! ## What a step does to whoever waits -/

/-- `Advances t w event next`: the step brings somebody who waits to the stage `next`. -/
inductive Advances (t : Threaded) (w : Wait) : Event → Stage → Prop
  /-- It is somebody else's step, or a step that it has not come to. -/
  | stays (event : Event) : Advances t w event w.stage
  /-- The channel is empty. -/
  | unsent (hstage : w.stage = .asleep) (hunsent : t.site.inbox.lookup w.request = none) :
      Advances t w (.receive w.request) .unsent
  /-- The timer has not fired. -/
  | waits {m : Moment} (hstage : w.stage = .unsent) (hrunning : m.hasFired w.deadline = false) :
      Advances t w (.checkTimer m w.request) .asleep
  /-- The timer has fired. -/
  | late {m : Moment} (hstage : w.stage = .unsent) (hfired : m.hasFired w.deadline = true) :
      Advances t w (.checkTimer m w.request) .late
  /-- Its time is up, and the request is not in the queue any more. -/
  | committed (hstage : w.stage = .late) (hqueued : t.site.pool.isQueued w.request = false) :
      Advances t w (.leaveQueue w.request) .committed
  /-- It is given up, and the request is not in the queue any more. -/
  | dropped (hstage : w.stage = .asleep ∨ w.stage = .committed)
      (hqueued : t.site.pool.isQueued w.request = false) :
      Advances t w (.giveUp w.request) .dropped
  /-- It reads its answer. -/
  | received {event : Event} {answer : Delivery}
      (hevent : event = .receive w.request ∧ w.stage = .asleep ∨
        event = .receiveAgain w.request ∧ w.stage = .committed)
      (hsent : t.site.inbox.lookup w.request = some answer) :
      Advances t w event (.finished (.received answer))
  /-- Its time is up. -/
  | timedOut (hstage : w.stage = .late) (hqueued : t.site.pool.isQueued w.request = true) :
      Advances t w (.leaveQueue w.request) (.finished .timedOut)
  /-- It is given up. -/
  | givenUp (hstage : w.stage = .asleep ∨ w.stage = .committed)
      (hqueued : t.site.pool.isQueued w.request = true) :
      Advances t w (.giveUp w.request) (.finished .givenUp)
  /-- It was given up, and what was sent is given back. -/
  | discarded {m : Moment} (hstage : w.stage = .dropped) :
      Advances t w (.discard m w.request) (.finished .givenUp)

/-- Those whom `setStage` moves are those whose step it is. -/
theorem wait?_setStage {known : Wait} {stage : Stage} (hwait : t.wait? w.request = some w)
    (hknown : t.wait? known.request = some known) (hadvances : t.Advances known event stage) :
    ∃ next, (t.setStage known.request stage).wait? w.request = some { w with stage := next } ∧
      t.Advances w event next := by
  rw [setStage_wait?, hwait]
  by_cases heq : w.request = known.request
  · obtain rfl : w = known := Option.some.inj (hwait.symm.trans (heq ▸ hknown))
    exact ⟨stage, by rw [if_pos rfl, Option.map_some], hadvances⟩
  · exact ⟨w.stage, by rw [if_neg heq], .stays event⟩

/-- Every `step` leaves somebody who is known among the `waits`, and `Advances` it. -/
theorem step_wait (h : t.Kept config) (hwait : t.wait? w.request = some w) (event : Event) :
    ∃ next, (t.step config event).wait? w.request = some { w with stage := next } ∧
      t.Advances w event next := by
  have hdoes := does_step config t event
  generalize t.step config event = u at hdoes
  cases hdoes with
  | nothing | closesUp hopen | tells huntold | closesIdle huntold =>
    exact ⟨w.stage, hwait, .stays _⟩
  | operates hstep =>
    -- those who are queued now come at the end of the list
    refine ⟨w.stage, ?_, .stays _⟩
    rw [wait?, List.find?_append]
    change (t.wait? w.request).or _ = _
    rw [hwait, Option.some_or]
  | reads hevent hknown hsent =>
    exact wait?_setStage hwait hknown (.received hevent hsent)
  | misses hevent hknown hunsent =>
    rename_i known next
    have hlive : known.stage.isOver = false := by
      rcases hevent with ⟨-, hstage, -⟩ | ⟨-, hstage, -⟩ <;> rw [hstage] <;> rfl
    -- somebody is left to send an answer, so whoever finds nothing waits on
    rw [if_pos (h.hasSender hknown hlive hunsent)]
    refine wait?_setStage hwait hknown ?_
    rcases hevent with ⟨rfl, hstage, rfl⟩ | ⟨rfl, hstage, rfl⟩
    · exact .unsent hstage hunsent
    · exact hstage ▸ .stays _
  | checks m hknown hstage =>
    refine wait?_setStage hwait hknown ?_
    split
    · rename_i hfired
      exact .late hstage hfired
    · rename_i hrunning
      exact .waits hstage (by simpa using hrunning)
  | leaves hevent hknown hqueued =>
    refine wait?_setStage hwait hknown ?_
    rcases hevent with ⟨rfl, hstage, rfl⟩ | ⟨rfl, hstage, rfl⟩
    · exact .timedOut hstage hqueued
    · exact .givenUp hstage hqueued
  | lingers hevent hknown hqueued =>
    refine wait?_setStage hwait hknown ?_
    rcases hevent with ⟨rfl, hstage, rfl⟩ | ⟨rfl, hstage, rfl⟩
    · exact .committed hstage hqueued
    · exact .dropped hstage hqueued
  | discards m hknown hstage =>
    exact wait?_setStage hwait hknown (.discarded hstage)

/-- The event of the site that a step is, if it is one. -/
def Event.act? : Event → Option Site.Event
  | .operate act => some act
  | .discard m request => some (.cancel m request)
  | _ => none

/-- `Shifts config event place next`: the step changes the place of somebody who waits on. -/
inductive Shifts (config : Config) : Event → Place → Place → Prop
  /-- The place stays. -/
  | stays (event : Event) (place : Place) : Shifts config event place place
  /-- An answer is sent to a request in the queue. -/
  | answered {event : Event} {act : Site.Event} {r : Request} {answer : Delivery}
      (hact : event.act? = some act) (hanswers : act.Answers config r answer) :
      Shifts config event (.queued r) (.sent answer)
  /-- The queue is cleared. -/
  | cleared {r : Request} : Shifts config .closeUp (.queued r) (.untold r)
  /-- It is told that the pool is closed. -/
  | told {r : Request} : Shifts config .tell (.untold r) (.sent (.error .poolClosed))

/-- A step that is an operation of others leaves the place, or sends an answer. -/
theorem holds_of_act {u : Threaded} {act : Site.Event} (hact : event.act? = some act)
    (hothers : act.isOfRequest request = false) (hsite : u.site = (t.site.step config act).1)
    (huntold : u.untold = t.untold) (hplace : place.Holds request t) :
    ∃ next, next.Holds request u ∧ Shifts config event place next := by
  obtain ⟨base, hserves, -, hkept⟩ := step_base config act t.site
  obtain ⟨hqueued, hsent⟩ := hkept request hothers
  cases place with
  | queued r =>
    obtain ⟨hmem, hid⟩ := hplace
    rcases hserves.queued (hqueued r hmem hid) with hstays | ⟨answer, hanswers, hmem⟩
    · exact ⟨.queued r, ⟨hsite ▸ hstays, hid⟩, .stays _ _⟩
    · refine ⟨.sent answer, ?_, .answered hact hanswers⟩
      rw [Place.holds_sent, hsite, ← hid]
      exact hmem
  | untold r => exact ⟨.untold r, ⟨huntold ▸ hplace.1, hplace.2⟩, .stays _ _⟩
  | sent answer =>
    refine ⟨.sent answer, ?_, .stays _ _⟩
    rw [Place.holds_sent, hsite]
    exact hserves.inbox_subset (hsent answer hplace)

/-- Whoever ends its waiting is not `isAwaited` any more. -/
theorem ne_of_isAwaited {s : Site} (hwait : t.wait? w.request = some w)
    (hafter :
      (setStage w.request (.finished ending) { t with site := s }).isAwaited request = true) :
    request ≠ w.request := by
  rintro rfl
  rw [setStage_isAwaited (t := { t with site := s }) hwait, if_pos rfl] at hafter
  cases hafter

/-- A `step` leaves the request of somebody who waits on where it `Lies`, or `Shifts` it. -/
theorem step_place (h : t.Kept config) (hplace : t.Lies request place) (event : Event)
    (hawaited : t.isAwaited request = true)
    (hafter : (t.step config event).isAwaited request = true) :
    ∃ next, (t.step config event).Lies request next ∧ Shifts config event place next := by
  have hholds := hplace.holds
  suffices ∃ next : Place, next.Holds request (t.step config event) ∧
      Shifts config event place next by
    obtain ⟨next, hnext, hshifts⟩ := this
    exact ⟨next, (lies_iff (h.step event) hafter).2 hnext, hshifts⟩
  have hdoes := does_step config t event
  generalize t.step config event = u at hdoes hafter
  cases hdoes with
  | nothing => exact ⟨place, hholds, .stays _ _⟩
  | operates hstep =>
    rename_i act
    refine holds_of_act rfl ?_ rfl rfl hholds
    cases act <;> first | rfl | cases hstep
  | reads hevent hwait hsent =>
    have hne := ne_of_isAwaited hwait hafter
    obtain ⟨-, hpool, hinbox⟩ := receive_of_lookup hsent
    refine ⟨place, ?_, .stays _ _⟩
    cases place with
    | queued r => exact ⟨hpool ▸ hholds.1, hholds.2⟩
    | untold r => exact hholds
    | sent answer =>
      rw [Place.holds_sent, setStage_site, hinbox]
      exact mem_inbox_eraseP hne hholds
  | misses | checks | lingers => exact ⟨place, by cases place <;> exact hholds, .stays _ _⟩
  | leaves hevent hwait hqueued =>
    have hne := ne_of_isAwaited hwait hafter
    refine ⟨place, ?_, .stays _ _⟩
    cases place with
    | queued r => exact ⟨mem_dequeue (hholds.2 ▸ hne) hholds.1, hholds.2⟩
    | untold r => exact hholds
    | sent answer => exact hholds
  | discards m hwait hstage =>
    rename_i w
    have hne := ne_of_isAwaited hwait hafter
    -- the channel is closed as it would be if nobody had come between
    have hgone := h.missed w.request .dropped (by rw [stage?, hwait, Option.map_some, hstage]) rfl
    refine holds_of_act rfl ?_ (congrArg Prod.fst (cancel_of_not_isQueued config m hgone)).symm rfl
      hholds
    simpa [Event.isOfRequest] using Ne.symm hne
  | closesUp hopen =>
    cases place with
    | queued r => exact ⟨.untold r, hholds, .cleared⟩
    | untold r =>
      -- nobody was to be told before, as the pool was open
      have hshut := h.shut (List.ne_nil_of_mem hholds.1)
      rw [hshut] at hopen
      cases hopen
    | sent answer => exact ⟨.sent answer, hholds, .stays _ _⟩
  | tells huntold =>
    rename_i r rest
    cases place with
    | queued q =>
      refine ⟨.queued q, ⟨?_, hholds.2⟩, .stays _ _⟩
      rw [apply_ite Site.pool]
      exact (ite_self t.site.pool).symm ▸ hholds.1
    | untold q =>
      obtain ⟨hmem, rfl⟩ := hholds
      rw [huntold, List.mem_cons] at hmem
      rcases hmem with rfl | hmem
      · refine ⟨.sent (.error .poolClosed), ?_, .told⟩
        rw [Place.holds_sent, if_pos hawaited]
        exact List.mem_append_right _ List.mem_cons_self
      · exact ⟨.untold q, ⟨hmem, rfl⟩, .stays _ _⟩
    | sent answer =>
      refine ⟨.sent answer, ?_, .stays _ _⟩
      rw [Place.holds_sent]
      split
      · exact List.mem_append_left _ hholds
      · exact hholds
  | closesIdle huntold => exact ⟨place, by cases place <;> exact hholds, .stays _ _⟩

/-! ## What a run does to a queued request -/

/-- `Ended config request ending t`: waiting has ended, and it stays so. Nothing is at the site for
the request any more, and nothing is sent to it. -/
def Ended (config : Config) (request : Nat) (ending : Ending) (t : Threaded) : Prop :=
  ∀ events, (t.run config events).stage? request = some (.finished ending) ∧
    request ∉ (t.run config events).site.requests

/-- `Unread config request answer t events`: the answer that was sent stays where it is until it is
read or given back. -/
inductive Unread (config : Config) (request : Nat) (answer : Delivery) :
    Threaded → List Event → Prop
  /-- The answer has not been read. -/
  | unread {t : Threaded} (hplace : t.Lies request (.sent answer)) :
      Unread config request answer t []
  /-- The answer stays. -/
  | stays {t : Threaded} {event : Event} {events : List Event}
      (hplace : t.Lies request (.sent answer))
      (hrest : Unread config request answer (t.step config event) events) :
      Unread config request answer t (event :: events)
  /-- The answer is read. -/
  | read {t : Threaded} {event : Event} {events : List Event}
      (hplace : t.Lies request (.sent answer))
      (hevent : event = .receive request ∨ event = .receiveAgain request)
      (hended : Ended config request (.received answer) (t.step config event)) :
      Unread config request answer t (event :: events)
  /-- The answer is given back. -/
  | dropped {t : Threaded} {m : Moment} {events : List Event}
      (hplace : t.Lies request (.sent answer))
      (hended : Ended config request .givenUp (t.step config (.discard m request))) :
      Unread config request answer t (.discard m request :: events)

/-- `Untold config request r t events`: a shutdown has still to tell the request, until it is told
or given up. -/
inductive Untold (config : Config) (request : Nat) (r : Request) : Threaded → List Event → Prop
  /-- It has not been told. -/
  | untold {t : Threaded} (hplace : t.Lies request (.untold r)) : Untold config request r t []
  /-- Others are told. -/
  | stays {t : Threaded} {event : Event} {events : List Event}
      (hplace : t.Lies request (.untold r))
      (hrest : Untold config request r (t.step config event) events) :
      Untold config request r t (event :: events)
  /-- It is told that the pool is closed. -/
  | told {t : Threaded} {events : List Event} (hplace : t.Lies request (.untold r))
      (hrest : Unread config request (.error .poolClosed) (t.step config .tell) events) :
      Untold config request r t (.tell :: events)
  /-- It is given up. -/
  | dropped {t : Threaded} {m : Moment} {events : List Event} (hplace : t.Lies request (.untold r))
      (hended : Ended config request .givenUp (t.step config (.discard m request))) :
      Untold config request r t (.discard m request :: events)

/-- `Life config request r t events`: the queued request stays in the queue until one thing takes it
off. -/
inductive Life (config : Config) (request : Nat) (r : Request) : Threaded → List Event → Prop
  /-- It is queued. -/
  | queued {t : Threaded} (hplace : t.Lies request (.queued r)) : Life config request r t []
  /-- It stays in the queue. -/
  | stays {t : Threaded} {event : Event} {events : List Event}
      (hplace : t.Lies request (.queued r))
      (hrest : Life config request r (t.step config event) events) :
      Life config request r t (event :: events)
  /-- It is sent an answer. -/
  | answered {t : Threaded} {event : Event} {act : Site.Event} {answer : Delivery}
      {events : List Event} (hplace : t.Lies request (.queued r)) (hact : event.act? = some act)
      (hanswers : act.Answers config r answer)
      (hrest : Unread config request answer (t.step config event) events) :
      Life config request r t (event :: events)
  /-- A shutdown takes it off, to tell it later. -/
  | cleared {t : Threaded} {events : List Event} (hplace : t.Lies request (.queued r))
      (hrest : Untold config request r (t.step config .closeUp) events) :
      Life config request r t (.closeUp :: events)
  /-- Whoever waits takes it off, as its timer has fired. -/
  | timedOut {t : Threaded} {events : List Event} (hplace : t.Lies request (.queued r))
      (hlate : t.stage? request = some .late)
      (hended : Ended config request .timedOut (t.step config (.leaveQueue request))) :
      Life config request r t (.leaveQueue request :: events)
  /-- Whoever waits takes it off, as it gives it up. -/
  | dropped {t : Threaded} {events : List Event} (hplace : t.Lies request (.queued r))
      (hended : Ended config request .givenUp (t.step config (.giveUp request))) :
      Life config request r t (.giveUp request :: events)

theorem exists_wait_of_isAwaited (hawaited : t.isAwaited request = true) :
    ∃ w, w.request = request ∧ t.wait? w.request = some w ∧ w.stage.isOver = false := by
  rw [isAwaited, Option.any_eq_true] at hawaited
  obtain ⟨stage, hstage, hlive⟩ := hawaited
  obtain ⟨w, hrequest, hwait, rfl⟩ := exists_wait_of_stage? hstage
  exact ⟨w, hrequest, hwait, by simpa using hlive⟩

/-- What has ended has `Ended` for good. -/
theorem ended_of_over (h : t.Kept config) (hover : t.stage? request = some (.finished ending)) :
    Ended config request ending t := by
  intro events
  induction events generalizing t with
  | nil => exact ⟨hover, notMem_requests_of_over h hover⟩
  | cons event events ih =>
    refine ih (h.step event) ?_
    obtain ⟨w, rfl, hwait, hstage⟩ := exists_wait_of_stage? hover
    obtain ⟨next, hnext, hadvances⟩ := step_wait h hwait event
    -- whoever has come to the end comes no further
    have hsame : next = w.stage := by
      cases hadvances <;> first | rfl | simp_all
    rw [stage?, hnext, Option.map_some, hsame, hstage]

/-- A `step` leaves somebody who waits waiting, in a place to which it `Shifts`, or ends its waiting
in a way that fits its place. -/
theorem step_cases (h : t.Kept config) (hawaited : t.isAwaited request = true)
    (hplace : t.Lies request place) (event : Event) :
    ((t.step config event).isAwaited request = true ∧
      ∃ next, (t.step config event).Lies request next ∧ Shifts config event place next) ∨
    (∃ answer, place = .sent answer ∧
      (event = .receive request ∨ event = .receiveAgain request) ∧
      Ended config request (.received answer) (t.step config event)) ∨
    (∃ r, place = .queued r ∧ event = .leaveQueue request ∧ t.stage? request = some .late ∧
      Ended config request .timedOut (t.step config event)) ∨
    (∃ r, place = .queued r ∧ event = .giveUp request ∧
      Ended config request .givenUp (t.step config event)) ∨
    ∃ m, (∀ r, place ≠ .queued r) ∧ event = .discard m request ∧
      Ended config request .givenUp (t.step config event) := by
  obtain ⟨w, rfl, hwait, hlive⟩ := exists_wait_of_isAwaited hawaited
  obtain ⟨next, hnext, hadvances⟩ := step_wait h hwait event
  have hstage : t.stage? w.request = some w.stage := by rw [stage?, hwait, Option.map_some]
  have hstep := h.step event
  -- whoever goes on waiting has a place; whoever ends had one
  have hgoes (hlives : next.isOver = false) :
      (t.step config event).isAwaited w.request = true ∧
        ∃ next, (t.step config event).Lies w.request next ∧ Shifts config event place next := by
    have hafter : (t.step config event).isAwaited w.request = true := by
      rw [isAwaited_of_wait? hnext, hlives, Bool.not_false]
    exact ⟨hafter, step_place h hplace event hawaited hafter⟩
  have hends {ending : Ending} (hover : next = .finished ending) :
      Ended config w.request ending (t.step config event) := by
    refine ended_of_over hstep ?_
    rw [stage?, hnext, Option.map_some, hover]
  cases hadvances with
  | stays => exact .inl (hgoes hlive)
  | unsent | waits | late | committed | dropped => exact .inl (hgoes rfl)
  | received hevent hsent =>
    rename_i answer
    have hsame : place = .sent answer :=
      hplace.unique ((lies_iff h hawaited).2 (mem_of_lookup hsent))
    exact .inr (.inl ⟨answer, hsame, hevent.imp And.left And.left, hends rfl⟩)
  | timedOut hlate hqueued =>
    cases place with
    | queued r =>
      exact .inr (.inr (.inl ⟨r, rfl, rfl, by rw [hstage, hlate], hends rfl⟩))
    | untold r => cases hqueued.symm.trans hplace.isQueued_eq_false
    | sent answer => cases hqueued.symm.trans hplace.isQueued_eq_false
  | givenUp hpaused hqueued =>
    cases place with
    | queued r => exact .inr (.inr (.inr (.inl ⟨r, rfl, rfl, hends rfl⟩)))
    | untold r => cases hqueued.symm.trans hplace.isQueued_eq_false
    | sent answer => cases hqueued.symm.trans hplace.isQueued_eq_false
  | discarded hdropped =>
    refine .inr (.inr (.inr (.inr ⟨_, ?_, rfl, hends rfl⟩)))
    rintro r rfl
    have hgone := h.missed w.request .dropped (by rw [hstage, hdropped]) rfl
    cases hgone.symm.trans hplace.isQueued

/-- An answer that was sent stays `Unread` until the waiting ends. -/
theorem unread_of_sent (h : t.Kept config) (hawaited : t.isAwaited request = true)
    (hplace : t.Lies request (.sent answer)) (events : List Event) :
    Unread config request answer t events := by
  -- on the events, as the first of them decides how it goes on
  induction events generalizing t with
  | nil => exact .unread hplace
  | cons event events ih =>
    obtain ⟨hafter, next, hnext, hshifts⟩ | ⟨read, hread, hevent, hended⟩ | ⟨r, hqueued, -⟩ |
      ⟨r, hqueued, -⟩ | ⟨m, -, rfl, hended⟩ := step_cases h hawaited hplace event
    · cases hshifts
      exact .stays hplace (ih (h.step event) hafter hnext)
    · obtain rfl := Place.sent.inj hread
      exact .read hplace hevent hended
    · cases hqueued
    · cases hqueued
    · exact .dropped hplace hended

/-- Whoever is `Untold` is told, or gives up. -/
theorem untold_of_untold (h : t.Kept config) (hawaited : t.isAwaited request = true)
    (hplace : t.Lies request (.untold r)) (events : List Event) :
    Untold config request r t events := by
  induction events generalizing t with
  | nil => exact .untold hplace
  | cons event events ih =>
    obtain ⟨hafter, next, hnext, hshifts⟩ | ⟨read, hread, -⟩ | ⟨r, hqueued, -⟩ |
      ⟨r, hqueued, -⟩ | ⟨m, -, rfl, hended⟩ := step_cases h hawaited hplace event
    · cases hshifts with
      | stays => exact .stays hplace (ih (h.step event) hafter hnext)
      | told => exact .told hplace (unread_of_sent (h.step .tell) hafter hnext events)
    · cases hread
    · cases hqueued
    · cases hqueued
    · exact .dropped hplace hended

/-- A queued request has a `Life` in the queue until one thing takes it off. -/
theorem life_of_queued (h : t.Kept config) (hawaited : t.isAwaited request = true)
    (hplace : t.Lies request (.queued r)) (events : List Event) :
    Life config request r t events := by
  induction events generalizing t with
  | nil => exact .queued hplace
  | cons event events ih =>
    obtain ⟨hafter, next, hnext, hshifts⟩ | ⟨read, hread, -⟩ | ⟨r, -, rfl, hlate, hended⟩ |
      ⟨r, -, rfl, hended⟩ | ⟨m, hqueued, -⟩ := step_cases h hawaited hplace event
    · have hstep := h.step event
      cases hshifts with
      | stays => exact .stays hplace (ih hstep hafter hnext)
      | answered hact hanswers =>
        exact .answered hplace hact hanswers (unread_of_sent hstep hafter hnext events)
      | cleared => exact .cleared hplace (untold_of_untold hstep hafter hnext events)
    · cases hread
    · exact .timedOut hplace hlate hended
    · exact .dropped hplace hended
    · exact absurd rfl (hqueued r)

end Threaded

end ConnectionPool.Site
