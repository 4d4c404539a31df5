import ConnectionPool.Proofs.Provider.Moves

/-!
# Runs of a provider

Everything that can happen to a provider, in any order: callers ask for connections, poll, give up,
give back, detach and swap; the transport answers; sweeps, closes and disposals take place. A
provider is reachable if some list of events leads to it from a provider that has just been made.

* `step_moves`: every event is a sequence of moves.
* `Reachable.invariant`: what every move keeps holds of every reachable provider.
* `sound_of_reachable`: the sites of a reachable provider are reachable, and registered under their
  own destinations.
-/

namespace ConnectionPool.Provider

/-- An `Event` of a provider: what callers, the transport, the sweeps and disposals do. -/
inductive Event where
  /-- Somebody asks for a connection. -/
  | acquire (d : Destination)
  /-- An acquisition is polled. -/
  | poll (m : Moment) (id : Nat)
  /-- The transport opened the connection that an acquisition waits for. -/
  | opened (m : Moment) (id : Nat) (conn : Connection)
  /-- The transport could not open the connection that an acquisition waits for. -/
  | openingFailed (id : Nat) (failure : ConnectFailure)
  /-- An acquisition is given up. -/
  | abandon (m : Moment) (id : Nat)
  /-- A caller gives a connection back. -/
  | release (m : Moment) (lease : SiteConnection)
  /-- A caller takes a connection out of its pool for good. -/
  | detach (lease : SiteConnection)
  /-- Callers swap the connections that they hold. -/
  | swap (first second : SiteConnection)
  /-- The transport opened a connection for the queue of a site, and its record is made at
  `created`. -/
  | openedForQueue (m : Moment) (site opening : Nat) (conn : Connection) (created : Instant)
  /-- The transport could not open a connection for the queue of a site. -/
  | openingForQueueFailed (m : Moment) (site opening : Nat) (failure : ConnectFailure)
  /-- A connection of a site has been closed. -/
  | closeFinished (site connection : Nat)
  /-- A site is swept. -/
  | sweep (m : Moment) (site : Nat)
  /-- The sweeps of a site have ended. -/
  | sweepEnded (site : Nat)
  /-- The whole provider is disposed of. -/
  | dispose
  /-- The whole provider is disposed of where no task can be started. -/
  | disposeAtOnce
  /-- The pool of one destination is disposed of. -/
  | disposeWhen (d : Destination)
  /-- A disposal is polled. -/
  | pollDisposal (m : Moment) (disposal : Disposal)
  /-- Nobody holds the provider any more. -/
  | letGo

/-- What an `Event` makes of a provider, and the effects that it asks for. -/
def step (p : Provider) : Event → Change
  | .acquire d => ((p.acquire d).2, [])
  | .poll m id => (p.poll m id).2
  | .opened m id conn => (p.opened m id conn).2
  | .openingFailed id failure => (p.openingFailed id failure).2
  | .abandon m id => p.abandon m id
  | .release m lease => p.release m lease
  | .detach lease => (p.detach lease).2
  | .swap first second => (p.swap first second, [])
  | .openedForQueue m site opening conn created => p.openedForQueue m site opening conn created
  | .openingForQueueFailed m site opening failure => p.openingForQueueFailed m site opening failure
  | .closeFinished site connection => p.closeFinished site connection
  | .sweep m site => p.sweep m site
  | .sweepEnded site => p.sweepEnded site
  | .dispose => p.dispose
  | .disposeAtOnce => p.disposeAtOnce
  | .disposeWhen d => (p.disposeWhen d).2
  | .pollDisposal m disposal => p.pollDisposal m disposal
  | .letGo => (p.letGo, [])

/-- What a list of events makes of a provider, one `step` after another. -/
def run (p : Provider) (events : List Event) : Provider :=
  events.foldl (fun p event => (p.step event).1) p

/-- `Reachable config p`: a list of events leads from a fresh provider to `p`. -/
inductive Reachable (config : Config) : Provider → Prop
  | start : Reachable config (.ofConfig config)
  | step {p : Provider} (event : Event) : Reachable config p → Reachable config (p.step event).1

/-- The `Flow` of an event of a site, if there is such a site. -/
def flowAt (p : Provider) (index : Nat) (event : Site.Event) : Flow :=
  (p.sites[index]?.map fun s => Flow.ofSite s event).getD .none

/-- The `Flow` of an event: what goes in and out of the pools' hands. -/
def flow (p : Provider) : Event → Flow
  | .opened m id conn =>
    match p.acquisitions.lookup id with
    | some (.opening _ site opening) => p.flowAt site (.opened opening conn m)
    | _ => .none
  | .openedForQueue m site opening conn created =>
    p.flowAt site (.openedForQueue opening conn m created)
  | .detach lease => p.flowAt lease.site (.detach lease.connection)
  | .closeFinished site connection => p.flowAt site (.closeFinished connection)
  | _ => .none

/-- The event has to do with a disposal. -/
def Event.isOfDisposal : Event → Bool
  | .disposeAtOnce | .disposeWhen _ | .pollDisposal _ _ => true
  | _ => false

/-- The moment of an event, if it looks at the clock. -/
def Event.moment? : Event → Option Moment
  | .poll m _ | .opened m _ _ | .abandon m _ | .release m _ | .openedForQueue m _ _ _ _
  | .openingForQueueFailed m _ _ _ | .sweep m _ | .pollDisposal m _ => some m
  | _ => none

/-- What the clock shows in the course of an event, in the order in which it is looked at:
`openedForQueue` looks twice, first for the queue and then for the record. -/
def Event.looks : Event → List Instant
  | .openedForQueue m _ _ _ created => [m.now, created]
  | event => (event.moment?.map (·.now)).toList

/-- `Causes event id site act`: the event may bring about `act` at the site, in which the
acquisition `id` acts. -/
inductive Event.Causes : Event → Actors
  | acquire (m : Moment) (id site : Nat) : Causes (.poll m id) (some id) site (.acquire m)
  | poll (m : Moment) (id site request : Nat) : Causes (.poll m id) (some id) site (.poll m request)
  | opened (m : Moment) (id site opening : Nat) (conn : Connection) :
      Causes (.opened m id conn) (some id) site (.opened opening conn m)
  | openingFailed (id site opening : Nat) (failure : ConnectFailure) :
      Causes (.openingFailed id failure) (some id) site (.openingFailed opening failure)
  | abandon (m : Moment) (id site opening : Nat) :
      Causes (.abandon m id) (some id) site (.abandon opening)
  | cancel (m : Moment) (id site request : Nat) :
      Causes (.abandon m id) (some id) site (.cancel m request)
  | release (m : Moment) (lease : SiteConnection) :
      Causes (.release m lease) none lease.site (.release m lease.connection)
  | detach (lease : SiteConnection) :
      Causes (.detach lease) none lease.site (.detach lease.connection)
  | openedForQueue (m : Moment) (site opening : Nat) (conn : Connection) (created : Instant) :
      Causes (.openedForQueue m site opening conn created) none site
        (.openedForQueue opening conn m created)
  | openingForQueueFailed (m : Moment) (site opening : Nat) (failure : ConnectFailure) :
      Causes (.openingForQueueFailed m site opening failure) none site
        (.openingForQueueFailed opening failure m)
  | closeFinished (site connection : Nat) :
      Causes (.closeFinished site connection) none site (.closeFinished connection)
  | sweep (m : Moment) (site : Nat) : Causes (.sweep m site) none site (.sweep m)
  | shutDown {event : Event} (hdisposal : event.isOfDisposal = true) (site : Nat) :
      Causes event none site .shutDown
  | pollDrain (m : Moment) (disposal : Disposal) (site : Nat) :
      Causes (.pollDisposal m disposal) none site (.pollDrain m)

/-! ## The parts of a change are moves -/

variable {allowed : Actors} {p : Provider} {config : Config}

/-- `changeSite` changes nothing where there is no such site. -/
theorem changeSite_cases (index : Nat) (change : Site → Site.Change) (p : Provider) :
    (p.sites[index]? = Option.none ∧ p.changeSite index change = (p, [])) ∨
    ∃ s, p.sites[index]? = some s ∧
      p.changeSite index change =
        (p.setSite index (change s).1, (change s).2.map (.site index)) := by
  unfold changeSite
  cases hs : p.sites[index]? with
  | none => exact .inl ⟨rfl, rfl⟩
  | some s => exact .inr ⟨s, rfl, rfl⟩

@[simp]
theorem acquisitions_changeSite (index : Nat) (change : Site → Site.Change) (p : Provider) :
    (p.changeSite index change).1.acquisitions = p.acquisitions := by
  obtain ⟨-, heq⟩ | ⟨s, -, heq⟩ := changeSite_cases index change p <;> rw [heq]
  rfl

/-- A site after `changeSite`: another site as it was, or the one that was changed. -/
theorem site_changeSite {index other : Nat} {change : Site → Site.Change} {t : Site}
    (ht : (p.changeSite index change).1.sites[other]? = some t) :
    (other ≠ index ∧ p.sites[other]? = some t) ∨
      ∃ s, other = index ∧ p.sites[index]? = some s ∧ t = (change s).1 := by
  obtain ⟨hnone, heq⟩ | ⟨s, hs, heq⟩ := changeSite_cases index change p <;> rw [heq] at ht
  · refine .inl ⟨?_, ht⟩
    rintro rfl
    cases hnone.symm.trans ht
  · rw [getElem?_setSite _ hs] at ht
    by_cases hother : other = index
    · rw [if_pos hother] at ht
      exact .inr ⟨s, hother, hs, (Option.some.inj ht).symm⟩
    · rw [if_neg hother] at ht
      exact .inl ⟨hother, ht⟩

/-- `changeSite` with an event that is no act of somebody who waits is a move. -/
theorem changeSite_moves {index : Nat} {event : Site.Event} (hallowed : allowed none index event)
    (hcaller : event.isOfCaller = false) (hexchange : event.isExchange = false) (p : Provider) :
    Moves allowed p (p.flowAt index event)
      (p.changeSite index fun s => s.step p.config event) := by
  obtain ⟨hs, heq⟩ | ⟨s, hs, heq⟩ := changeSite_cases index (fun s => s.step p.config event) p
  · rw [heq, flowAt, hs]
    exact .nil p
  · rw [heq, flowAt, hs]
    exact .single (.site hallowed hs hcaller hexchange)

/-- Events at a site at which nothing arrives or leaves have no `Flow`. -/
theorem flowAt_eq_none {index : Nat} {event : Site.Event}
    (h : ∀ s, Flow.ofSite s event = .none) (p : Provider) : p.flowAt index event = .none := by
  rw [flowAt]
  cases p.sites[index]? with
  | none => rfl
  | some s => exact h s

theorem shutDown_moves {index : Nat} (hallowed : allowed none index .shutDown) (p : Provider) :
    Moves allowed p .none (p.changeSite index Site.shutDown) := by
  have hmoves := changeSite_moves hallowed rfl rfl p
  rw [flowAt_eq_none fun s => rfl] at hmoves
  exact hmoves

theorem pollDrain_moves {index : Nat} {m : Moment} (hallowed : allowed none index (.pollDrain m))
    (p : Provider) : Moves allowed p .none (p.changeSite index (Site.pollDrain p.config m)) := by
  have hmoves := changeSite_moves hallowed rfl rfl p
  rw [flowAt_eq_none fun s => rfl] at hmoves
  exact hmoves

theorem unregister_moves (index : Nat) (p : Provider) :
    Moves allowed p .none (p.unregister index, []) :=
  .single (.books ⟨rfl, rfl, rfl, rfl, List.eraseP_sublist⟩ rfl)

/-- `awaitEnd` is a sequence of moves. -/
theorem awaitEnd_moves {index : Nat} {m : Moment} (hallowed : allowed none index (.pollDrain m))
    (disposal : Disposal) (p : Provider) : Moves allowed p .none (p.awaitEnd m disposal index) := by
  unfold awaitEnd
  split
  · exact unregister_moves index p
  · have hwatch : Moves allowed p .none (p, [.watchDrain index disposal]) :=
      .single (.books ⟨rfl, rfl, rfl, rfl, .refl _⟩ rfl)
    have hchange := hwatch.trans (pollDrain_moves hallowed p)
    dsimp only
    split
    · have hmoves := hchange.trans (unregister_moves index _)
      rw [List.append_nil] at hmoves
      exact hmoves
    · exact hchange

/-- `endSites` is a sequence of moves. -/
theorem endSites_moves {m : Moment} (hshut : ∀ index, allowed none index .shutDown)
    (hdrain : ∀ index, allowed none index (.pollDrain m)) (indices : List Nat) (p : Provider) :
    Moves allowed p .none (p.endSites m indices).2 := by
  induction indices generalizing p with
  | nil => exact .nil p
  | cons index rest ih =>
    have hlooked := (shutDown_moves (hshut index) p).trans (awaitEnd_moves (hdrain index) .whole _)
    exact hlooked.trans (ih _)

/-- `disposeRound` is a sequence of moves, those of the rounds that follow included. -/
theorem disposeRound_moves {m : Moment} (hshut : ∀ index, allowed none index .shutDown)
    (hdrain : ∀ index, allowed none index (.pollDrain m)) (rounds : Nat) (indices : List Nat)
    (p : Provider) : Moves allowed p .none (p.disposeRound m rounds indices) := by
  -- on the rounds that are left: each ends the sites that it is given and may be followed by
  -- another
  induction rounds generalizing indices p with
  | zero =>
    have hended := endSites_moves hshut hdrain indices p
    unfold disposeRound
    dsimp only
    split
    · exact hended.rebook ⟨rfl, rfl, rfl, rfl, .refl _⟩
    · split
      · exact hended.thenBooks ⟨rfl, rfl, rfl, rfl, .refl _⟩ rfl
      · exact hended.rebook ⟨rfl, rfl, rfl, rfl, .refl _⟩
  | succ rounds ih =>
    have hended := endSites_moves hshut hdrain indices p
    unfold disposeRound
    dsimp only
    split
    · exact hended.rebook ⟨rfl, rfl, rfl, rfl, .refl _⟩
    · split
      · exact hended.thenBooks ⟨rfl, rfl, rfl, rfl, .refl _⟩ rfl
      · exact hended.trans (ih _ _)

/-- `abandonSites` is a sequence of moves. -/
theorem abandonSites_moves (hshut : ∀ index, allowed none index .shutDown) (indices : List Nat)
    (p : Provider) : Moves allowed p .none (p.abandonSites indices) := by
  induction indices generalizing p with
  | nil => exact .nil p
  | cons index rest ih =>
    have hshutDown := (shutDown_moves (hshut index) p).trans (unregister_moves index _)
    rw [List.append_nil] at hshutDown
    exact hshutDown.trans (ih _)

/-- `pollDisposal` is a sequence of moves. -/
theorem pollDisposal_moves {m : Moment} (hshut : ∀ index, allowed none index .shutDown)
    (hdrain : ∀ index, allowed none index (.pollDrain m)) (disposal : Disposal) (p : Provider) :
    Moves allowed p .none (p.pollDisposal m disposal) := by
  -- the whole provider is marked as disposed first; a single disposal only looks
  cases disposal with
  | nothing => exact .nil p
  | whole =>
    rw [pollDisposal, pollWholeDisposal]
    split
    · exact .nil p
    · split
      · have hdisposing : Moves allowed p .none
            ({ p with isDisposed := true }, [.note (.disposing p.registry.length)]) :=
          .single (.books ⟨rfl, rfl, rfl, rfl, .refl _⟩ rfl)
        exact hdisposing.trans (disposeRound_moves hshut hdrain _ _ _)
      · exact .single (.books ⟨rfl, rfl, rfl, rfl, .refl _⟩ rfl)
    · exact disposeRound_moves hshut hdrain _ _ _
  | single index =>
    rw [pollDisposal, pollSingleDisposal]
    split
    · exact .nil p
    · exact .nil p
    · rename_i site _
      have hawaited := awaitEnd_moves (hdrain site) (.single index) p
      dsimp only
      split
      · exact hawaited.thenBooks ⟨rfl, rfl, rfl, rfl, .refl _⟩ rfl
      · exact hawaited

/-! ## Every event is a sequence of moves -/

/-- `siteFor` finds the site for a destination, or makes it. -/
theorem siteFor_moves (allowed : Actors) (d : Destination) (p : Provider) :
    Moves allowed p .none (p.siteFor d).2 ∧
      (p.siteFor d).2.1.config = p.config ∧ (p.siteFor d).2.1.acquisitions = p.acquisitions := by
  unfold siteFor
  split
  · exact ⟨.nil p, rfl, rfl⟩
  · refine ⟨.single (.found d ?_), rfl, rfl⟩
    split <;> rfl

@[simp]
theorem siteFor_config (d : Destination) (p : Provider) :
    (p.siteFor d).2.1.config = p.config :=
  (siteFor_moves (fun _ _ _ => False) d p).2.1

@[simp]
theorem siteFor_isDisposed (d : Destination) (p : Provider) :
    (p.siteFor d).2.1.isDisposed = p.isDisposed := by
  unfold siteFor
  split <;> rfl

/-- The ticket of the site says what `enter` gives to an acquisition, and how it goes on. -/
theorem enter_eq (m : Moment) (id : Nat) (d : Destination) (site : Nat) (p : Provider) :
    p.enter m id d site =
      let answered := p.changeSiteReporting site (.error .poolClosed) (Site.acquire p.config m)
      (.ofTicket d site answered.1,
        answered.2.1.proceed id (Acquisition.ofTicket d site answered.1), answered.2.2) := by
  unfold enter
  generalize p.changeSiteReporting site (.error .poolClosed) (Site.acquire p.config m) = answered
  obtain ⟨error | ticket, acquired⟩ := answered
  · rfl
  · cases ticket <;> rfl

/-- `start` does not even look for the site where the provider `isDisposed`. -/
theorem start_of_disposed (hdisposed : p.isDisposed = true) (m : Moment) (id : Nat)
    (d : Destination) :
    p.start m id d = (.finished (.error .poolClosed), p.finishAcquisition id, []) := by
  rw [start, if_pos hdisposed]

/-- `start` goes on to `enter` once it has found the site, where the provider
accepts acquisitions. -/
theorem start_of_accepting (haccepting : p.isDisposed = false) (m : Moment) (id : Nat)
    (d : Destination) :
    p.start m id d =
      let entered := (p.siteFor d).2.1.enter m id d (p.siteFor d).1
      (entered.1, entered.2.1, (p.siteFor d).2.2 ++ entered.2.2) := by
  simp [start, join, haccepting]

/-- `enter` is a sequence of moves, by which the acquisition begins at the site. -/
theorem enter_moves {m : Moment} {id site : Nat} {d : Destination}
    (hallowed : allowed (some id) site (.acquire m))
    (hknown : p.acquisitions.lookup id = some (.fresh d)) :
    Moves allowed p .none (p.enter m id d site).2 := by
  rw [enter_eq]
  -- where there is no site the acquisition is refused, and no site knows of it
  cases hs : p.sites[site]? with
  | none =>
    have hforget : Moves allowed p .none (p.finishAcquisition id, []) :=
      .single (.forget hknown (by simp [Acquisition.site?]))
    simpa [changeSiteReporting, changeSite, hs, Acquisition.ofTicket, proceed] using hforget
  | some s =>
    -- the site is asked, and its ticket says how the acquisition goes on
    have hact : Moves allowed p .none _ := .single (.act hallowed hknown hs (.begin m d))
    simpa [changeSiteReporting, changeSite, setSite, Site.step, hs] using hact

/-- `turnAway` is a sequence of moves, by which the acquisition is refused and the site that it
found is shut down. -/
theorem turnAway_moves {id site : Nat} {d : Destination}
    (hallowed : allowed none site .shutDown)
    (hknown : p.acquisitions.lookup id = some (.fresh d)) :
    Moves allowed p .none (p.turnAway id site).2 := by
  have hforget : Moves allowed (p.changeSite site Site.shutDown).1 .none
      ((p.changeSite site Site.shutDown).1.finishAcquisition id, []) :=
    .single (.forget (by simpa using hknown) (by simp [Acquisition.site?]))
  have hmoves := (shutDown_moves hallowed p).trans hforget
  rw [List.append_nil] at hmoves
  exact hmoves

/-- `start` looks for the site, and goes on there. -/
theorem start_moves {m : Moment} {id : Nat} {d : Destination}
    (hallowed : ∀ index, allowed (some id) index (.acquire m))
    (hknown : p.acquisitions.lookup id = some (.fresh d)) :
    Moves allowed p .none (p.start m id d).2 := by
  cases hdisposed : p.isDisposed with
  | true =>
    rw [start_of_disposed hdisposed]
    exact .single (.forget hknown (by simp [Acquisition.site?]))
  | false =>
    rw [start_of_accepting hdisposed]
    obtain ⟨hfound, -, hacquisitions⟩ := siteFor_moves allowed d p
    exact hfound.trans (enter_moves (hallowed _) (hacquisitions ▸ hknown))

/-- `pollQueued` leaves whoever waits in the queue, or tells it the outcome. -/
theorem pollQueued_moves {m : Moment} {id site request : Nat} {deadline : Instant}
    (hallowed : allowed (some id) site (.poll m request))
    (hknown : p.acquisitions.lookup id = some (.queued site request deadline)) :
    Moves allowed p .none (p.pollQueued m id site request deadline).2 := by
  unfold pollQueued
  cases hs : p.sites[site]? with
  | none =>
    have hforget : Moves allowed p .none (p.finishAcquisition id, []) := by
      refine .single (.forget hknown ?_)
      rintro index hindex
      obtain rfl : site = index := Option.some.inj hindex
      exact hs
    simpa [changeSiteReporting, changeSite, hs] using hforget
  | some s =>
    cases houtcome : (s.poll p.config m request).1 with
    -- whoever waits on changes nothing, so no move is made
    | none =>
      have hset : p.sites.set site s = p.sites := by
        obtain ⟨hlt, rfl⟩ := List.getElem?_eq_some_iff.1 hs
        exact List.set_getElem_self hlt
      simpa [changeSiteReporting, changeSite, hs, Site.poll_of_none houtcome, hset] using
        Moves.nil p
    | some result =>
      have hne : (s.poll p.config m request).1 ≠ none := by simp [houtcome]
      have hact : Moves allowed p .none _ :=
        .single (.act hallowed hknown hs (.learn m request deadline hne))
      simpa [changeSiteReporting, changeSite, setSite, Site.step, hs, houtcome, proceed] using hact

/-- An act of somebody whose acquisition is unfinished, after which the acquisition is over. -/
theorem changeSite_act_moves {id site : Nat} {event : Site.Event} {known : Acquisition}
    (hallowed : allowed (some id) site event) (hknown : p.acquisitions.lookup id = some known)
    (hsite : known.site? = some site)
    (hnext : ∀ s, Proceeds p.config site s known event .none) :
    Moves allowed p (p.flowAt site event)
      ((p.changeSite site fun s => s.step p.config event).1.finishAcquisition id,
        (p.changeSite site fun s => s.step p.config event).2) := by
  obtain ⟨hs, heq⟩ | ⟨s, hs, heq⟩ := changeSite_cases site (fun s => s.step p.config event) p <;>
    rw [heq, flowAt, hs]
  · refine .single (.forget hknown fun index hindex => ?_)
    obtain rfl : site = index := Option.some.inj (hsite.symm.trans hindex)
    exact hs
  · exact .single (.act hallowed hknown hs (hnext s))

/-- Every `step` is a sequence of moves that the event `Causes`. -/
theorem step_moves (p : Provider) (event : Event) :
    Moves event.Causes p (p.flow event) (p.step event) := by
  -- an event with the number of no unfinished acquisition, or of one at another stage, does nothing
  cases event with
  | acquire d => exact .single (.ask d)
  | poll m id =>
    show Moves _ p .none (p.poll m id).2
    rw [poll]
    cases hknown : p.acquisitions.lookup id with
    | none => exact .nil p
    | some known =>
      cases known with
      | fresh d => exact start_moves (fun site => .acquire m id site) hknown
      | opening d site opening => exact .nil p
      | queued site request deadline => exact pollQueued_moves (.poll m id site request) hknown
  | opened m id conn =>
    rw [step, opened, flow]
    cases hknown : p.acquisitions.lookup id with
    | none => exact .nil p
    | some known =>
      cases known with
      | fresh d => exact .nil p
      | queued site request deadline => exact .nil p
      | opening d site opening =>
        exact changeSite_act_moves (Event.Causes.opened m id site opening conn) hknown rfl
          fun s => .opened m d opening conn
  | openingFailed id failure =>
    show Moves _ p .none (p.openingFailed id failure).2
    rw [openingFailed]
    cases hknown : p.acquisitions.lookup id with
    | none => exact .nil p
    | some known =>
      cases known with
      | fresh d => exact .nil p
      | queued site request deadline => exact .nil p
      | opening d site opening =>
        have hmoves := changeSite_act_moves (Event.Causes.openingFailed id site opening failure)
          hknown rfl fun s => .failed d opening failure
        rw [flowAt_eq_none fun s => rfl] at hmoves
        exact hmoves
  | abandon m id =>
    show Moves _ p .none (p.abandon m id)
    rw [abandon]
    cases hknown : p.acquisitions.lookup id with
    | none =>
      -- nobody has the number, so nothing is taken off the list
      have hsame : p.finishAcquisition id = p := by
        rw [finishAcquisition, eraseP_of_lookup_none hknown]
      dsimp only
      rw [hsame]
      exact .nil p
    | some known =>
      cases known with
      | fresh d => exact .single (.forget hknown (by simp [Acquisition.site?]))
      | queued site request deadline =>
        have hmoves := changeSite_act_moves (Event.Causes.cancel m id site request) hknown rfl
          fun s => .cancel m request deadline
        rw [flowAt_eq_none fun s => rfl] at hmoves
        exact hmoves
      | opening d site opening =>
        have hmoves := changeSite_act_moves (Event.Causes.abandon m id site opening) hknown rfl
          fun s => .abandon d opening
        rw [flowAt_eq_none fun s => rfl] at hmoves
        exact hmoves
  | release m lease =>
    have hmoves := changeSite_moves (Event.Causes.release m lease) rfl rfl p
    rw [flowAt_eq_none fun s => rfl] at hmoves
    exact hmoves
  | detach lease => exact changeSite_moves (Event.Causes.detach lease) rfl rfl p
  | swap first second => exact .single (.swap first second)
  | openedForQueue m site opening conn created =>
    exact changeSite_moves (Event.Causes.openedForQueue m site opening conn created) rfl rfl p
  | openingForQueueFailed m site opening failure =>
    have hmoves := changeSite_moves (Event.Causes.openingForQueueFailed m site opening failure)
      rfl rfl p
    rw [flowAt_eq_none fun s => rfl] at hmoves
    exact hmoves
  | closeFinished site connection =>
    exact changeSite_moves (Event.Causes.closeFinished site connection) rfl rfl p
  | sweep m site =>
    have hmoves := changeSite_moves (Event.Causes.sweep m site) rfl rfl p
    rw [flowAt_eq_none fun s => rfl] at hmoves
    exact hmoves
  | sweepEnded site =>
    -- a line in the log only
    show Moves _ p .none (p.sweepEnded site)
    rw [sweepEnded]
    obtain ⟨-, heq⟩ | ⟨s, hs, heq⟩ :=
      changeSite_cases site (fun s => (s, [.note .sweepStopped])) p <;> rw [heq]
    · exact .nil p
    · refine .single (.books ⟨rfl, ?_, rfl, rfl, .refl _⟩ rfl)
      obtain ⟨hlt, rfl⟩ := List.getElem?_eq_some_iff.1 hs
      exact List.set_getElem_self hlt
  | dispose => exact .single (.books ⟨rfl, rfl, rfl, rfl, .refl _⟩ rfl)
  | disposeAtOnce =>
    have hdisposed : Moves Event.disposeAtOnce.Causes p .none ({ p with isDisposed := true }, []) :=
      .single (.books ⟨rfl, rfl, rfl, rfl, .refl _⟩ rfl)
    exact hdisposed.trans (abandonSites_moves (fun site => .shutDown rfl site) _ _)
  | disposeWhen d =>
    show Moves _ p .none (p.disposeWhen d).2
    rw [disposeWhen]
    split
    · exact .nil p
    · rename_i site _
      have hnoted : Moves (Event.disposeWhen d).Causes p .none (p, [.note (.disposingPool d)]) :=
        .single (.books ⟨rfl, rfl, rfl, rfl, .refl _⟩ rfl)
      have hshut := hnoted.trans (shutDown_moves (.shutDown rfl site) p)
      exact hshut.thenBooks ⟨rfl, rfl, rfl, rfl, .refl _⟩ rfl
  | pollDisposal m disposal =>
    exact pollDisposal_moves (fun site => .shutDown rfl site)
      (fun site => .pollDrain m disposal site) disposal p
  | letGo => exact .single (.books ⟨rfl, rfl, rfl, rfl, .refl _⟩ rfl)

/-! ## Reachable providers -/

/-- What every `Move` keeps holds of every `Reachable` provider. -/
theorem Reachable.invariant {motive : Provider → Prop} (start : motive (.ofConfig config))
    (move : ∀ allowed p flow c, motive p → Move allowed p flow c → motive c.1)
    (h : Reachable config p) : motive p := by
  induction h with
  | start => exact start
  | @step p event _ ih => exact (step_moves p event).invariant (move _) ih

/-- Whatever happens to a `Reachable` provider, it stays `Reachable`. -/
theorem Reachable.run (h : Reachable config p) (events : List Event) :
    Reachable config (p.run events) := by
  induction events generalizing p with
  | nil => exact h
  | cons event events ih => exact ih (h.step event)

/-- `Sound config p`: the provider has the given configuration, its sites are `Reachable`, and what
is registered for a destination is a site for it. -/
structure Sound (config : Config) (p : Provider) : Prop where
  /-- The configuration is never changed. -/
  settings : p.config = config
  /-- Nothing happens to a site but events. -/
  sites : ∀ s ∈ p.sites, Site.Reachable config s
  /-- The registry knows sites by their destinations. -/
  registered : ∀ d site, (d, site) ∈ p.registry → ∃ s, p.sites[site]? = some s ∧ s.destination = d

namespace Sound

theorem site (h : Sound config p) {index : Nat} {s : Site} (hs : p.sites[index]? = some s) :
    Site.Reachable config s :=
  h.sites s (List.mem_of_getElem? hs)

theorem setSite (h : Sound config p) {index : Nat} {s : Site} (hs : p.sites[index]? = some s)
    (event : Site.Event) : Sound config (p.setSite index (s.step p.config event).1) := by
  refine ⟨h.settings, ?_, ?_⟩
  · intro t ht
    rcases List.mem_or_eq_of_mem_set ht with hmem | rfl
    · exact h.sites t hmem
    · rw [h.settings]
      exact (h.site hs).step event
  · intro d site hd
    obtain ⟨t, ht, hdestination⟩ := h.registered d site hd
    rw [getElem?_setSite _ hs]
    -- an event at a site does not change its destination
    by_cases hsite : site = index
    · subst hsite
      obtain rfl : s = t := Option.some.inj (hs.symm.trans ht)
      exact ⟨_, if_pos rfl, (Site.step_frame p.config event s).destination.trans hdestination⟩
    · rw [if_neg hsite]
      exact ⟨t, ht, hdestination⟩

theorem exchange (h : Sound config p) (lease : SiteConnection) (conn : Connection) :
    Sound config (p.exchange lease conn) := by
  obtain ⟨-, heq⟩ | ⟨s, hs, heq⟩ := exchange_cases p lease conn <;> rw [heq]
  · exact h
  · exact h.setSite hs (.exchange lease.connection conn)

theorem move {flow : Flow} {c : Change} (h : Sound config p) (hmove : Move allowed p flow c) :
    Sound config c.1 := by
  cases hmove with
  | books hbooks =>
    refine ⟨hbooks.config.trans h.settings, by rw [hbooks.sites]; exact h.sites, ?_⟩
    intro d site hd
    rw [hbooks.sites]
    exact h.registered d site (hbooks.registry.subset hd)
  -- the new site comes after those that there were, so that these keep their numbers
  | found d =>
    refine ⟨h.settings, ?_, ?_⟩
    · intro t ht
      rcases List.mem_append.1 ht with hmem | hnew
      · exact h.sites t hmem
      · obtain rfl := List.mem_singleton.1 hnew
        exact .fresh d
    · intro other site hother
      rcases List.mem_append.1 hother with hmem | hnew
      · obtain ⟨s, hs, hdestination⟩ := h.registered other site hmem
        have hlt := (List.getElem?_eq_some_iff.1 hs).1
        exact ⟨s, (List.getElem?_append_left hlt).trans hs, hdestination⟩
      · obtain ⟨rfl, rfl⟩ := Prod.mk.inj (List.mem_singleton.1 hnew)
        exact ⟨.fresh other, List.getElem?_concat_length, rfl⟩
  | ask d => exact ⟨h.settings, h.sites, h.registered⟩
  | forget hknown hsite => exact ⟨h.settings, h.sites, h.registered⟩
  | site hallowed hs hcaller hexchange => exact h.setSite hs _
  | @act id index s event known next hallowed hknown hs hnext =>
    obtain ⟨hsettings, hsites, hregistered⟩ := h.setSite hs event
    refine ⟨(proceed_config _ _ _).trans hsettings, ?_, ?_⟩
    · rw [proceed_sites]
      exact hsites
    · rw [proceed_sites, proceed_registry]
      exact hregistered
  | swap first second =>
    exact swap_invariant p h (fun p lease conn hp => Sound.exchange hp lease conn) first second

end Sound

/-- Every `Reachable` provider is `Sound`. -/
theorem sound_of_reachable (h : Reachable config p) : Sound config p :=
  h.invariant ⟨rfl, by simp [ofConfig], by simp [ofConfig]⟩ fun _ _ _ _ hp hmove => hp.move hmove

/-! ## A pool with one slot -/

/-- One caller gets the only connection, and another has to wait. -/
def crowded : List Event :=
  [.acquire (.ofAddress "db:1"), .poll (.atMillis 0) 0, .opened (.atMillis 0) 0 ⟨1, "db:1"⟩,
    .acquire (.ofAddress "db:1"), .poll (.atMillis 0) 1]

/-- After `crowded` the only connection is given back, and is on its way to whoever waits for it. -/
def handedOn : List Event := crowded ++ [.release (.atMillis 1) ⟨0, 1⟩]

end ConnectionPool.Provider
