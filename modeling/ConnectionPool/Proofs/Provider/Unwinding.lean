import ConnectionPool.Proofs.Provider.Retirement

/-!
# How a pool winds down

From the event on at which its pool is shut down, a site only winds down, whatever happens to the
provider and in whatever order. Nobody gets a connection of it but those to whom one had been sent
before, whatever is opened for it is closed at once, and nothing more is opened. Each event leaves
the books of the pool as they are, or brings the pool nearer to its end, so the number of events
that change its counters is bounded from the start.

## Main definitions

* `Site.Dwindles`: what is left of the site of a closed pool.
* `WindsDown`: what one event does to such a site.
* `changes`: how many events change the counters of a site.

## Main results

* `step_windsDown`: every event does to a closed pool what `WindsDown` says.
* `run_dwindles`: only so many events change the counters of a closed pool as there are changes
  left.
* `only_winds_down`: both, from the event on that shuts the pool down.
-/

namespace ConnectionPool

namespace Site

variable {config : Config} {s t u : Site} {event : Event} {c : Change}

/-- The event asks for something of a pool, and brings it nothing. -/
def Event.onlyAsks : Event → Bool
  | .acquire _ | .poll _ _ | .exchange _ _ | .sweep _ | .shutDown | .pollDrain _ => true
  | _ => false

/-- An event that `onlyAsks` leaves the books of a closed pool as they are. -/
theorem pool_of_onlyAsks (h : Reachable config s) (hclosed : s.pool.closed = true)
    (hasks : event.onlyAsks = true) : (s.step config event).1.pool = s.pool := by
  obtain ⟨hpending, -⟩ := (justified_of_reachable h).closed hclosed
  cases event with
  | acquire m => rw [step, acquire, if_pos hclosed]
  | poll m request =>
    obtain ⟨e, -, heq⟩ | ⟨error, -, heq⟩ | ⟨-, ⟨-, heq⟩ | ⟨r, hqueued, -⟩⟩ :=
      poll_cases config m request s
    · rw [step, heq]
      rfl
    · rw [step, heq]
    · rw [step, heq]
    · -- nobody waits at a closed pool
      rw [hpending] at hqueued
      cases hqueued
  | exchange lease conn => rfl
  | sweep m => rw [step, sweep, if_pos hclosed]
  | shutDown => rw [step, shutDown, if_pos hclosed]
  | pollDrain m =>
    obtain ⟨drain, heq⟩ := pollDrain_fst config m s
    rw [step, heq]
  | _ => cases hasks

/-- No opening begins where a closed pool `Unwinds`. -/
theorem Unwinds.openings (h : s.Unwinds event c) : c.1.openings.Sublist s.openings := by
  cases h with
  | nothing | reads | drops | exchanges => exact .refl _
  | arrives | fails => simpa [endOpening] using List.eraseP_sublist
  | returns | recalls | detaches | closes => simp [unlend]

/-- Where a closed pool `Unwinds`, it asks for no connection for its queue. -/
theorem Unwinds.opensNothing (h : s.Unwinds event c) (opening : Nat) :
    .openForQueue opening ∉ c.2 := by
  have hannounce (s : Site) : Effect.openForQueue opening ∉ (announce s).2 := by
    unfold announce
    split
    · split <;> simp
    · simp
  cases h with
  | nothing | reads | drops | exchanges => exact List.not_mem_nil
  | arrives | fails | returns | recalls => simp [startClosing, hannounce]
  | detaches | closes => exact hannounce _

/-- `Dwindles s t`: what is left of the site of a closed pool. That is what was sent and is not yet
read, the openings that had begun, and books with fewer changes left if they have changed. -/
structure Dwindles (s t : Site) : Prop where
  /-- The pool is closed. -/
  closed : t.pool.closed = true
  /-- Nothing was sent. -/
  inbox : t.inbox.Sublist s.inbox
  /-- No opening has begun. -/
  openings : t.openings.Sublist s.openings
  /-- The books are as they were, or fewer changes are left. -/
  books : t.pool = s.pool ∨ t.pool.remaining < s.pool.remaining

namespace Dwindles

theorem refl (hclosed : s.pool.closed = true) : s.Dwindles s :=
  ⟨hclosed, .refl _, .refl _, .inl rfl⟩

theorem trans (h : s.Dwindles t) (hrest : t.Dwindles u) : s.Dwindles u := by
  refine ⟨hrest.closed, hrest.inbox.trans h.inbox, hrest.openings.trans h.openings, ?_⟩
  rcases hrest.books with hsame | hless
  · rw [hsame]
    exact h.books
  · refine .inr ?_
    rcases h.books with hsame | hbefore
    · rw [hsame] at hless
      exact hless
    · exact Nat.lt_trans hless hbefore

end Dwindles

/-- The site of a closed pool `Dwindles` at every `step`, and asks for no connection for
the queue. -/
theorem step_dwindles (h : Reachable config s) (hclosed : s.pool.closed = true) (event : Event) :
    s.Dwindles (s.step config event).1 ∧
      ∀ opening, .openForQueue opening ∉ (s.step config event).2 := by
  by_cases hlook : event.isLook = true
  · -- a look at the pool changes nothing but the wait
    obtain ⟨m, rfl⟩ := Event.eq_pollDrain hlook
    obtain ⟨drain, heq⟩ := pollDrain_fst config m s
    refine ⟨?_, fun opening hmem => ?_⟩
    · rw [step, heq]
      exact ⟨hclosed, .refl _, .refl _, .inl rfl⟩
    · have hquiet := pollDrain_quiet config m s _ hmem
      cases hquiet
  · rw [Bool.not_eq_true] at hlook
    have hunwinds : Unwinds s event (s.step config event) :=
      closed_step hclosed (justified_of_reachable h) hlook
    have hbooks := hunwinds.rests_or_winds hclosed (balance_of_reachable h)
    exact ⟨⟨step_closed hclosed event, hunwinds.inbox, hunwinds.openings,
      hbooks.imp Rests.pool Winds.less⟩, hunwinds.opensNothing⟩

/-- What is sent in the course of a shutdown is sent to nobody who gets a connection. -/
theorem sent_before (hevent : event.isShutDown = true ∨ event.isLook = true ∨
    event.isExchange = true) {request : Nat} {e : Entry}
    (hsent : (request, .ok e) ∈ (s.step config event).1.inbox) : (request, .ok e) ∈ s.inbox := by
  cases event with
  | shutDown =>
    obtain ⟨-, heq⟩ | ⟨-, heq⟩ := shutDown_cases s <;> rw [step, heq] at hsent
    · exact hsent
    · simpa [deliver, startClosing] using hsent
  | pollDrain m =>
    obtain ⟨drain, heq⟩ := pollDrain_fst config m s
    rw [step, heq] at hsent
    exact hsent
  | exchange lease conn => exact hsent
  | _ => simp [Event.isShutDown, Event.isLook, Event.isExchange] at hevent

end Site

namespace Provider

variable {config : Config} {allowed : Actors} {p q : Provider} {flow : Flow} {c : Change}
  {event : Event} {index : Nat} {s t : Site}

/-- The event asks for something, and brings no pool anything. -/
def Event.onlyAsks : Event → Bool
  | .acquire _ | .poll _ _ | .swap _ _ | .sweep _ _ | .sweepEnded _ | .dispose | .disposeAtOnce
  | .disposeWhen _ | .pollDisposal _ _ | .letGo => true
  | _ => false

theorem Event.Causes.onlyAsks {actor : Option Nat} {act : Site.Event}
    (h : event.Causes actor index act) (hasks : event.onlyAsks = true) : act.onlyAsks = true := by
  cases h with
  | acquire | poll | sweep | shutDown | pollDrain => rfl
  | _ => cases hasks

/-- `WindsDown index sent p s event`: what an event does to the site of a closed pool, where `sent`
had been sent to waiting requests when the pool was shut down. -/
structure WindsDown (index : Nat) (sent : List (Nat × Delivery)) (p : Provider) (s : Site)
    (event : Event) : Prop where
  /-- The site `Dwindles`: nothing is sent and no opening begins, and the books stay or have fewer
  changes left. -/
  dwindles : ∃ t, (p.step event).1.sites[index]? = some t ∧ s.Dwindles t ∧
    (event.onlyAsks = true → t.pool = s.pool)
  /-- The transport is not asked to open a connection for the queue. -/
  calls : ∀ opening, (index, .openForQueue opening) ∉ callsOf (p.step event).2
  /-- Whoever `Learns` that it has a connection had been sent it before. -/
  learns : ∀ id connection, p.Learns id event (.ok ⟨index, connection⟩) →
    ∃ request deadline e, p.acquisitions.lookup id = some (.queued index request deadline) ∧
      (request, .ok e) ∈ sent ∧ e.info.id = connection
  /-- A connection that was opened for a caller is closed, and the caller is told so. -/
  opened : ∀ m id conn d opening, event = .opened m id conn →
    p.acquisitions.lookup id = some (.opening d index opening) →
      (p.opened m id conn).1 = .error .poolClosed ∧
        ∃ e, e.conn = conn ∧ closesOf (p.step event).2 = [(index, e)]
  /-- A connection that was opened for the queue is closed. -/
  openedForQueue : ∀ m opening conn created, event = .openedForQueue m index opening conn created →
    s.isOpening opening .queue = true →
      ∃ e, e.conn = conn ∧ closesOf (p.step event).2 = [(index, e)]

/-! ## What one event does -/

/-- `siteFor` leaves the sites that are there as they are. -/
theorem siteFor_keeps (d : Destination) (hs : p.sites[index]? = some s) :
    (p.siteFor d).2.1.sites[index]? = some s := by
  unfold siteFor
  split
  · exact hs
  · exact (List.getElem?_append_left (List.getElem?_eq_some_iff.1 hs).1).trans hs

/-- `start` gives nobody a connection from a closed pool. -/
theorem start_ne_finished (hsound : Sound config p) (hs : p.sites[index]? = some s)
    (hclosed : s.pool.closed = true) (m : Moment) (id : Nat) (d : Destination) (connection : Nat) :
    (p.start m id d).1 ≠ .finished (.ok ⟨index, connection⟩) := by
  intro hfinished
  obtain ⟨asked, hasked, -⟩ := siteFor_cases hsound d
  obtain ⟨-, hrefused⟩ | ⟨hticket, -⟩ := start_cases m id d p hasked
  · cases hrefused.symm.trans hfinished
  · rw [hfinished] at hticket
    rcases hgiven : (asked.acquire p.config m).1 with error | ⟨number⟩ | ⟨opening⟩ |
      ⟨request, deadline⟩ <;> rw [hgiven] at hticket <;> cases hticket
    -- the site that was asked is the closed one, which refuses
    obtain rfl := Option.some.inj ((siteFor_keeps d hs).symm.trans hasked)
    rw [Site.acquire, if_pos hclosed] at hgiven
    cases hgiven

/-- Whoever `Learns` that it has a connection of a closed pool had been sent it. -/
theorem sent_of_learns (h : Reachable config p) (hs : p.sites[index]? = some s)
    (hclosed : s.pool.closed = true) {id connection : Nat}
    (hlearns : p.Learns id event (.ok ⟨index, connection⟩)) :
    ∃ request deadline e, p.acquisitions.lookup id = some (.queued index request deadline) ∧
      (request, .ok e) ∈ s.inbox ∧ e.info.id = connection := by
  obtain ⟨m, d, -, hgiven⟩ | ⟨m, site, request, deadline, t, outcome, hknown, ht, hpoll, hgiven⟩ |
    ⟨d, site, opening, t, -, ht, hopening, ⟨m, conn, hgiven⟩ | ⟨failure, hgiven⟩⟩ :=
    learns_cases (linked_of_reachable h) hlearns
  · exact absurd hgiven (start_ne_finished (sound_of_reachable h) hs hclosed m id d connection)
  · obtain ⟨rfl, rfl⟩ := eq_ok_of_map hgiven
    obtain rfl := Option.some.inj (hs.symm.trans ht)
    obtain ⟨e, hsent, heq⟩ | ⟨error, -, heq⟩ | ⟨-, ⟨-, heq⟩ | ⟨r, -, ⟨-, heq⟩ | ⟨-, heq⟩⟩⟩ :=
      Site.poll_cases p.config m request s <;> rw [heq] at hpoll <;> cases hpoll
    exact ⟨request, deadline, e, hknown, mem_of_lookup hsent, rfl⟩
  · obtain ⟨rfl, hopened⟩ := eq_ok_of_map hgiven
    obtain rfl := Option.some.inj (hs.symm.trans ht)
    -- the pool is closed, so the caller is told so
    obtain ⟨-, heq⟩ | ⟨-, ⟨-, heq⟩ | ⟨hopen, -⟩⟩ := Site.opened_cases opening conn m s
    · rw [heq] at hopened
      cases hopened
    · rw [heq] at hopened
      cases hopened
    · cases hclosed.symm.trans hopen
  · cases hgiven

/-- A connection that arrives at a closed pool is closed. -/
theorem closesOf_of_arrival {e : Entry} {ended : Site} :
    closesOf ((((Site.startClosing [e] ended).andThen Site.announce).2).map (.site index)) =
      [(index, e.retired)] := by
  simp

/-- `opened` closes the connection if the pool has been shut down, and the caller is told so. -/
theorem opened_of_closed (hlinked : Linked p) (hs : p.sites[index]? = some s)
    (hclosed : s.pool.closed = true) {id opening : Nat} {d : Destination}
    (hknown : p.acquisitions.lookup id = some (.opening d index opening)) (m : Moment)
    (conn : Connection) :
    (p.opened m id conn).1 = .error .poolClosed ∧
      ∃ e, e.conn = conn ∧ closesOf (p.step (.opened m id conn)).2 = [(index, e)] := by
  obtain ⟨t, ht, hopening⟩ := isOpening_of_lookup hlinked hknown
  obtain rfl := Option.some.inj (hs.symm.trans ht)
  obtain ⟨hother, -⟩ | ⟨-, ⟨-, heq⟩ | ⟨hopen, -⟩⟩ := Site.opened_cases opening conn m s
  · cases hopening.symm.trans hother
  · refine ⟨?_, (s.pool.enlist conn m.now).1.retired, rfl, ?_⟩
    · simp only [Provider.opened, hknown, changeSiteReporting, hs, Option.map_some,
        Option.getD_some, heq]
      rfl
    · simp only [step, Provider.opened, hknown, changeSiteReporting, changeSite, hs, heq]
      exact closesOf_of_arrival
  · cases hclosed.symm.trans hopen

/-- `openedForQueue` closes the connection if the pool has been shut down. -/
theorem openedForQueue_of_closed (hs : p.sites[index]? = some s) (hclosed : s.pool.closed = true)
    {opening : Nat} (hopening : s.isOpening opening .queue = true) (m : Moment)
    (conn : Connection) (created : Instant) :
    ∃ e, e.conn = conn ∧
      closesOf (p.step (.openedForQueue m index opening conn created)).2 = [(index, e)] := by
  obtain ⟨hother, -⟩ | ⟨-, ⟨-, heq⟩ | ⟨hopen, -⟩⟩ :=
    Site.openedForQueue_cases p.config opening conn m created s
  · cases hopening.symm.trans hother
  · refine ⟨(s.pool.enlist conn created).1.retired, rfl, ?_⟩
    simp only [step, openedForQueue, changeSite, hs, heq]
    exact closesOf_of_arrival
  · cases hclosed.symm.trans hopen

/-- The site of a closed pool `Dwindles` at every `step`, and its books stay if the event
`onlyAsks`. -/
theorem step_site (hsound : Sound config p) (hs : p.sites[index]? = some s)
    (hclosed : s.pool.closed = true) (event : Event) :
    ∃ t, (p.step event).1.sites[index]? = some t ∧ s.Dwindles t ∧
      (event.onlyAsks = true → t.pool = s.pool) := by
  have hdescends := (step_moves p event).descends
  obtain ⟨t, ht, hdwindles⟩ := hdescends.keeps (motive := s.Dwindles) hsound
    (fun u act hreachable _ hu => hu.trans (Site.step_dwindles hreachable hu.closed act).1) hs
    (.refl hclosed)
  -- what only asks of the provider only asks of each site, so the books stay through all its moves
  refine ⟨t, ht, hdwindles, fun hasks => ?_⟩
  obtain ⟨u, hu, hsame⟩ := hdescends.keeps (motive := fun u => u.pool = s.pool) hsound
    (fun u act hreachable hmay hsame => by
      have hact : act.onlyAsks = true := by
        obtain hexchange | ⟨actor, hcauses⟩ := hmay
        · cases act <;> first | rfl | cases hexchange
        · exact hcauses.onlyAsks hasks
      rw [Site.pool_of_onlyAsks hreachable (hsame ▸ hclosed) hact]
      exact hsame) hs rfl
  obtain rfl := Option.some.inj (ht.symm.trans hu)
  exact hsame

/-- Every `step` lets a closed pool wind down as `WindsDown` says. -/
theorem step_windsDown (h : Reachable config p) (hs : p.sites[index]? = some s)
    (hclosed : s.pool.closed = true) {sent : List (Nat × Delivery)}
    (hsent : ∀ request e, (request, .ok e) ∈ s.inbox → (request, .ok e) ∈ sent) (event : Event) :
    WindsDown index sent p s event := by
  have hsound := sound_of_reachable h
  refine ⟨step_site hsound hs hclosed event, fun opening => ?_, fun id connection hlearns => ?_, ?_,
    ?_⟩
  · refine (step_moves p event).notMem_callsOf (motive := fun s => s.pool.closed = true)
      (fun u act hreachable hu => ?_) hsound hs hclosed
    obtain ⟨hdwindles, hopens⟩ := Site.step_dwindles hreachable hu act
    exact ⟨hdwindles.closed, fun _ => hopens opening⟩
  · obtain ⟨request, deadline, e, hknown, hmem, hid⟩ := sent_of_learns h hs hclosed hlearns
    exact ⟨request, deadline, e, hknown, hsent request e hmem, hid⟩
  · rintro m id conn d opening rfl hknown
    exact opened_of_closed (linked_of_reachable h) hs hclosed hknown m conn
  · rintro m opening conn created rfl hopening
    exact openedForQueue_of_closed hs hclosed hopening m conn created

/-! ## What all events do -/

/-- The slots taken and the connections being closed at a site. -/
def counters (index : Nat) (p : Provider) : Option (Nat × Nat) :=
  p.sites[index]?.map fun s => (s.pool.allocated, s.pool.closing)

/-- How many of the events change the `counters` of a site. -/
def changes (index : Nat) : Provider → List Event → Nat
  | _, [] => 0
  | p, event :: events =>
    (if counters index (p.step event).1 = counters index p then 0 else 1) +
      changes index (p.step event).1 events

/-- The site of a closed pool `Dwindles` in a `run`. Each event that changed the `counters` has left
fewer changes for the others. -/
theorem run_dwindles (h : Reachable config p) (hs : p.sites[index]? = some s)
    (hclosed : s.pool.closed = true) (events : List Event) :
    ∃ t, (p.run events).sites[index]? = some t ∧ s.Dwindles t ∧
      changes index p events + t.pool.remaining ≤ s.pool.remaining := by
  induction events generalizing p s with
  | nil => exact ⟨s, hs, .refl hclosed, Nat.le_of_eq (Nat.zero_add _)⟩
  | cons event events ih =>
    obtain ⟨t, ht, hdwindles, -⟩ := step_site (sound_of_reachable h) hs hclosed event
    obtain ⟨u, hu, hrest, hless⟩ := ih (h.step event) ht hdwindles.closed
    refine ⟨u, hu, hdwindles.trans hrest, ?_⟩
    have hcounters : counters index (p.step event).1 = some (t.pool.allocated, t.pool.closing) := by
      rw [counters, ht, Option.map_some]
    have hbefore : counters index p = some (s.pool.allocated, s.pool.closing) := by
      rw [counters, hs, Option.map_some]
    rw [changes, hcounters, hbefore]
    -- an event that leaves the books alone does not count
    rcases hdwindles.books with hsame | hfewer
    · rw [hsame] at hless ⊢
      rw [if_pos rfl, Nat.zero_add]
      exact hless
    · split <;> omega

/-- A pool is shut down by an event that `isOfDisposal`. -/
theorem isOfDisposal_of_closed (hsound : Sound config p) (hs : p.sites[index]? = some s)
    (hopen : s.pool.closed = false) (ht : (p.step event).1.sites[index]? = some t)
    (hshut : t.pool.closed = true) : event.isOfDisposal = true := by
  by_contra hother
  obtain ⟨u, hu, hstays⟩ := (step_moves p event).descends.keeps
    (motive := fun u => u.pool.closed = false) hsound (fun u act _ hmay hu => by
      have hact : act.isShutDown = false := by
        obtain hexchange | ⟨actor, hcauses⟩ := hmay
        · cases act <;> first | rfl | cases hexchange
        · cases act <;> first | rfl | exact absurd hcauses.isOfDisposal hother
      rw [(Site.step_frame config act u).closed, hu, hact]
      rfl) hs hopen
  obtain rfl := Option.some.inj (ht.symm.trans hu)
  cases hstays.symm.trans hshut

/-- What had been sent when a pool was shut down had been sent before. -/
theorem sent_of_isOfDisposal (hsound : Sound config p) (hs : p.sites[index]? = some s)
    (hdisposal : event.isOfDisposal = true) (ht : (p.step event).1.sites[index]? = some t)
    {request : Nat} {e : Entry} (hsent : (request, .ok e) ∈ t.inbox) :
    (request, .ok e) ∈ s.inbox := by
  obtain ⟨u, hu, hstays⟩ := (step_moves p event).descends.keeps
    (motive := fun u => (request, .ok e) ∈ u.inbox → (request, .ok e) ∈ s.inbox) hsound
    (fun u act _ hmay hu hsent => by
      refine hu (Site.sent_before ?_ hsent)
      obtain hexchange | ⟨actor, hcauses⟩ := hmay
      · exact .inr (.inr hexchange)
      · cases hcauses <;> first | exact .inl rfl | exact .inr (.inl rfl) | cases hdisposal) hs id
  obtain rfl := Option.some.inj (ht.symm.trans hu)
  exact hstays hsent

/-- From the event on at which its pool is shut down, a site only winds down, whatever happens. The
pool stays closed, with nothing idle and nobody waiting. At most `Pool.remaining` further events
change its `counters`. Every event `WindsDown`: it gives nobody a connection that had not been sent
before the shutdown and opens none, and what arrives is closed. -/
theorem only_winds_down (h : Reachable config p) (hs : p.sites[index]? = some s)
    (hopen : s.pool.closed = false) (ht : (p.step event).1.sites[index]? = some t)
    (hshut : t.pool.closed = true) (later : List Event) :
    ∃ u, ((p.step event).1.run later).sites[index]? = some u ∧
      u.pool.closed = true ∧ u.pool.idle = [] ∧ u.pool.pending = [] ∧
      (∀ rest, changes index ((p.step event).1.run later) rest ≤ u.pool.remaining) ∧
      ∀ next, WindsDown index s.inbox ((p.step event).1.run later) u next := by
  have hsound := sound_of_reachable h
  have hreachable := (h.step event).run later
  obtain ⟨u, hu, hdwindles, -⟩ := run_dwindles (h.step event) ht hshut later
  obtain ⟨hpending, hidle⟩ := (Site.justified_of_reachable
    ((sound_of_reachable hreachable).site hu)).closed hdwindles.closed
  refine ⟨u, hu, hdwindles.closed, hidle, hpending, fun rest => ?_, fun next => ?_⟩
  · obtain ⟨v, -, -, hbound⟩ := run_dwindles hreachable hu hdwindles.closed rest
    exact Nat.le_trans (Nat.le_add_right _ _) hbound
  · -- the event that shuts the pool down sends nobody a connection
    have hdisposal := isOfDisposal_of_closed hsound hs hopen ht hshut
    exact step_windsDown hreachable hu hdwindles.closed (fun request e hmem =>
      sent_of_isOfDisposal hsound hs hdisposal ht (hdwindles.inbox.subset hmem)) next

/-- When the pool is shut down, the connection that is on its way still reaches its receiver. It can
be given back and closed, which is all that is left. -/
theorem only_winds_down_handedOn :
    ∃ s t, ((ofConfig .oneSlot).run handedOn).sites[0]? = some s ∧ s.pool.closed = false ∧
      (((ofConfig .oneSlot).run handedOn).step (.disposeWhen (.ofAddress "db:1"))).1.sites[0]? =
        some t ∧
      t.pool.closed = true ∧ t.pool.remaining = 2 ∧
      ∃ u, ((((ofConfig .oneSlot).run handedOn).step (.disposeWhen (.ofAddress "db:1"))).1.run
          [.poll (.atMillis 2) 1, .release (.atMillis 3) ⟨0, 1⟩]).sites[0]? = some u ∧
        u.pool.closed = true ∧ u.pool.idle = [] ∧ u.pool.pending = [] ∧
        (∀ rest, changes 0 ((((ofConfig .oneSlot).run handedOn).step
          (.disposeWhen (.ofAddress "db:1"))).1.run
            [.poll (.atMillis 2) 1, .release (.atMillis 3) ⟨0, 1⟩]) rest ≤ u.pool.remaining) ∧
        ∀ next, WindsDown 0 s.inbox ((((ofConfig .oneSlot).run handedOn).step
          (.disposeWhen (.ofAddress "db:1"))).1.run
            [.poll (.atMillis 2) 1, .release (.atMillis 3) ⟨0, 1⟩]) u next := by
  have hreachable : Reachable .oneSlot ((ofConfig .oneSlot).run handedOn) :=
    Reachable.start.run handedOn
  exact ⟨_, _, rfl, rfl, rfl, rfl, rfl, only_winds_down hreachable rfl rfl rfl rfl _⟩

end Provider

end ConnectionPool
