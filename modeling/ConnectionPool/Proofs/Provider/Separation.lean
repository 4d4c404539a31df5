import ConnectionPool.Proofs.Provider.Projection

/-!
# A step, seen from the destination that it concerns

Every step concerns one destination at most. To what the destination sees of the provider, the step
does what it would do to a provider that is used with this destination alone, with the same outcome.

## Main definitions

* `subject`: the destination that a step concerns.
* `outcome`: what a step gives to whoever takes it.
* `Event.renumber`, `Outcome.renumber`: a step and its outcome under the numbers that are used where
  there is only one destination.

## Main results

* `step_of_subject`: one step, seen from the destination that it concerns.
-/

namespace ConnectionPool

open Provider (Names)

/-- A connection under the number that its site has among others of its destination. -/
def SiteConnection.renumber (site : Nat → Nat) (c : SiteConnection) : SiteConnection :=
  ⟨site c.site, c.connection⟩

namespace Provider

variable {config : Config} {asked : List Destination} {p : Provider} {k : Destination}

/-- What polling gives, under another number of the site. -/
def Progress.renumber (site : Nat → Nat) : Progress → Progress
  | .finished result => .finished (result.map (SiteConnection.renumber site))
  | .connecting d => .connecting d
  | .waiting index request deadline => .waiting (site index) request deadline

/-- An `Outcome`: what a step gives to whoever takes it. -/
inductive Outcome where
  /-- Nothing. -/
  | nothing
  /-- The number of the acquisition that was asked for. -/
  | asked (id : Nat)
  /-- How far an acquisition has come. -/
  | progress (progress : Progress)
  /-- The connection that was opened, or why the caller does not get it. -/
  | opened (result : Except PoolError SiteConnection)
  /-- Why a connection could not be opened. -/
  | failed (error : PoolError)
  /-- The connection that was taken out of its pool. -/
  | detached (conn : Option Connection)
  /-- The disposal that was asked for. -/
  | disposing (disposal : Disposal)
  /-- Whether a disposal is over. -/
  | looked (isOver : Bool)

/-- The outcome under other numbers. -/
def Outcome.renumber (n : Names) : Outcome → Outcome
  | .asked id => .asked (n.acquisition id)
  | .progress reached => .progress (reached.renumber n.site)
  | .opened result => .opened (result.map (SiteConnection.renumber n.site))
  | .disposing disposal => .disposing (disposal.renumber n.disposal)
  | outcome => outcome

/-- The `Outcome` of a step. -/
def outcome (p : Provider) : Event → Outcome
  | .acquire d => .asked (p.acquire d).1
  | .poll m id => .progress (p.poll m id).1
  | .opened m id conn => .opened (p.opened m id conn).1
  | .openingFailed id failure => .failed (p.openingFailed id failure).1
  | .detach lease => .detached (p.detach lease).1
  | .disposeWhen d => .disposing (p.disposeWhen d).1
  | .pollDisposal m disposal =>
    .looked ((p.pollDisposal m disposal).1.isDisposalFinished disposal)
  | _ => .nothing

/-- The step under other numbers. -/
def Event.renumber (n : Names) : Event → Event
  | .acquire d => .acquire d
  | .poll m id => .poll m (n.acquisition id)
  | .opened m id conn => .opened m (n.acquisition id) conn
  | .openingFailed id failure => .openingFailed (n.acquisition id) failure
  | .abandon m id => .abandon m (n.acquisition id)
  | .release m lease => .release m (lease.renumber n.site)
  | .detach lease => .detach (lease.renumber n.site)
  | .swap first second => .swap (first.renumber n.site) (second.renumber n.site)
  | .openedForQueue m site number conn created =>
      .openedForQueue m (n.site site) number conn created
  | .openingForQueueFailed m site number failure =>
    .openingForQueueFailed m (n.site site) number failure
  | .closeFinished site connection => .closeFinished (n.site site) connection
  | .sweep m site => .sweep m (n.site site)
  | .sweepEnded site => .sweepEnded (n.site site)
  | .dispose => .dispose
  | .disposeAtOnce => .disposeAtOnce
  | .disposeWhen d => .disposeWhen d
  | .pollDisposal m disposal => .pollDisposal m (disposal.renumber n.disposal)
  | .letGo => .letGo

/-- The destination that a step asks for a connection to. -/
def Event.asks : Event → List Destination
  | .acquire d => [d]
  | _ => []

/-- The step has nothing to do with the disposal of the whole provider, and a `swap` is one of
connections of one pool. -/
def Event.isSeparate : Event → Bool
  | .dispose | .disposeAtOnce | .pollDisposal _ .whole => false
  | .swap first second => first.site == second.site
  | _ => true

/-- The destination that a step concerns, if it concerns one. -/
def subject (asked : List Destination) (p : Provider) : Event → Option Destination
  | .acquire d | .disposeWhen d => some d
  | .poll _ id | .opened _ id _ | .openingFailed id _ | .abandon _ id => asked[id]?
  | .release _ lease | .detach lease | .swap lease _ => p.destinations[lease.site]?
  | .openedForQueue _ site _ _ _ | .openingForQueueFailed _ site _ _ | .closeFinished site _
  | .sweep _ site | .sweepEnded site => p.destinations[site]?
  | .pollDisposal _ (.single index) => p.disposedOf[index]?.join
  | .dispose | .disposeAtOnce | .pollDisposal _ _ | .letGo => none

/-! ## Acquisitions, step by step -/

section Acquisitions

variable {id site : Nat} {d : Destination} {m : Moment}

/-- No `step` of a site changes its destination. -/
theorem destination_step (config : Config) (event : Site.Event) (s : Site) :
    (s.step config event).1.destination = s.destination :=
  (Site.step_frame config event s).destination

/-- `Acquisition.ofTicket` under another number of the site. -/
theorem renumber_ofTicket (site : Nat → Nat) (d : Destination) (index : Nat)
    (ticket : Except PoolError Site.Ticket) :
    (Acquisition.ofTicket d index ticket).map (Acquisition.renumber site) =
        Acquisition.ofTicket d (site index) ticket ∧
      (Progress.ofTicket d index ticket).renumber site =
        Progress.ofTicket d (site index) ticket := by
  cases ticket with
  | error error => exact ⟨rfl, rfl⟩
  | ok ticket => cases ticket <;> exact ⟨rfl, rfl⟩

/-- An acquisition that was given something at a site of its destination `IsFor`
that destination. -/
theorem isFor_ofTicket {destinations : List Destination} {index : Nat}
    (hindex : destinations[index]? = some d) {ticket : Except PoolError Site.Ticket}
    {a : Acquisition} (ha : Acquisition.ofTicket d index ticket = some a) :
    a.IsFor destinations d := by
  cases ticket with
  | error error => cases ha
  | ok ticket =>
    cases ticket with
    | lease number => cases ha
    | opening number =>
      cases ha
      exact ⟨rfl, hindex⟩
    | request number deadline =>
      cases ha
      exact hindex

/-- `start` of a provider that accepts acquisitions finds or makes the site, and asks it. -/
theorem start_eq (haccepting : p.isDisposed = false) (m : Moment) (id : Nat) (d : Destination) :
    p.start m id d =
      let found := p.siteFor d
      let answered := found.2.1.changeSiteReporting found.1 (.error .poolClosed)
        (Site.acquire p.config m)
      (.ofTicket d found.1 answered.1,
        answered.2.1.proceed id (Acquisition.ofTicket d found.1 answered.1),
        found.2.2 ++ answered.2.2) := by
  rw [start_of_accepting haccepting, enter_eq, siteFor_config]

/-- `start` for the destination is seen. -/
theorem only_start (h : Placed asked p) (hid : asked[id]? = some k) (m : Moment) :
    (p.only k asked).start m (rank k asked id) k =
      ((p.start m id k).1.renumber (rank k p.destinations),
        (p.start m id k).2.only k asked (p.names k asked)) := by
  obtain ⟨hsite, hrank⟩ := siteFor_destination h k
  have hconfig : (p.only k asked).config = p.config := rfl
  have hkept : ((p.siteFor k).2.1.changeSiteReporting (p.siteFor k).1 (.error .poolClosed)
      (Site.acquire p.config m)).2.1.destinations = (p.siteFor k).2.1.destinations :=
    destinations_changeSite (destination_step p.config (.acquire m)) (p.siteFor k).1 _
  have hanswered := only_changeSiteReporting asked (n := p.names k asked)
    (Except.error PoolError.poolClosed) hsite (hrank k).symm (Site.acquire p.config m)
    (destination_step p.config (.acquire m))
  rw [start_eq rfl, start_eq h.accepting]
  dsimp only
  rw [only_siteFor h, hconfig]
  dsimp only [Change.only]
  rw [← hrank k, hanswered]
  generalize (p.siteFor k).2.1.changeSiteReporting (p.siteFor k).1 (.error .poolClosed)
    (Site.acquire p.config m) = answered at hkept ⊢
  -- the number of the site is the same before and after it is made
  obtain ⟨-, hprogress⟩ := renumber_ofTicket (rank k p.destinations) k (p.siteFor k).1 answered.1
  obtain ⟨hnext, -⟩ :=
    renumber_ofTicket (rank k answered.2.1.destinations) k (p.siteFor k).1 answered.1
  have hproceed := only_proceed answered.2.1 hid (Acquisition.ofTicket k (p.siteFor k).1 answered.1)
  rw [hnext, hkept] at hproceed
  rw [hprogress, ← hproceed, hrank k, List.map_append]
  rfl

/-- `finishAcquisition` for the destination is seen. -/
theorem only_finish (hid : asked[id]? = some k) (p : Provider) :
    (p.only k asked).finishAcquisition (rank k asked id) =
      (p.finishAcquisition id).only k asked :=
  only_proceed p hid none

/-- `pollQueued` at a site of the destination is seen. -/
theorem only_pollQueued (hid : asked[id]? = some k) (hsite : p.destinations[site]? = some k)
    (m : Moment) (request : Nat) (deadline : Instant) :
    (p.only k asked).pollQueued m (rank k asked id) (rank k p.destinations site) request deadline =
      ((p.pollQueued m id site request deadline).1.renumber (rank k p.destinations),
        (p.pollQueued m id site request deadline).2.only k asked (p.names k asked)) := by
  have hconfig : (p.only k asked).config = p.config := rfl
  have hanswered := only_changeSiteReporting asked (n := p.names k asked)
    (some (Except.error PoolError.poolClosed)) hsite rfl (Site.poll p.config m request)
    (destination_step p.config (.poll m request))
  unfold pollQueued
  dsimp only
  rw [hconfig, hanswered]
  generalize p.changeSiteReporting site (some (.error .poolClosed))
    (Site.poll p.config m request) = answered
  obtain ⟨reached, change⟩ := answered
  cases reached with
  | none => rfl
  | some result =>
    have hfinish := only_finish hid change.1
    cases result <;> simp [Progress.renumber, SiteConnection.renumber, Change.only, hfinish,
      Except.map]

/-- An acquisition that is known `IsFor` what was asked for. -/
theorem Placed.isFor (h : Placed asked p) (hid : asked[id]? = some k) {a : Acquisition}
    (hknown : p.acquisitions.lookup id = some a) : a.IsFor p.destinations k := by
  obtain ⟨d, hd, hfor⟩ := h.known id a (mem_of_lookup hknown)
  obtain rfl : k = d := Option.some.inj (hid.symm.trans hd)
  exact hfor

/-- `poll` for the destination is seen. -/
theorem only_poll (h : Placed asked p) (hid : asked[id]? = some k) (m : Moment) :
    (p.only k asked).poll m (rank k asked id) =
      ((p.poll m id).1.renumber (rank k p.destinations),
        (p.poll m id).2.only k asked (p.names k asked)) := by
  unfold poll
  rw [only_lookup p hid]
  cases hknown : p.acquisitions.lookup id with
  | none => rfl
  | some a =>
    have hfor := h.isFor hid hknown
    cases a with
    | fresh d =>
      obtain rfl : d = k := hfor
      exact only_start h hid m
    | opening d site number => rfl
    | queued site request deadline => exact only_pollQueued hid hfor m request deadline

/-- `opened` for a caller at the destination is seen. -/
theorem only_opened (h : Placed asked p) (hid : asked[id]? = some k) (m : Moment)
    (conn : Connection) :
    (p.only k asked).opened m (rank k asked id) conn =
      ((p.opened m id conn).1.map (SiteConnection.renumber (rank k p.destinations)),
        (p.opened m id conn).2.only k asked (p.names k asked)) := by
  unfold opened
  rw [only_lookup p hid]
  cases hknown : p.acquisitions.lookup id with
  | none => rfl
  | some a =>
    have hfor := h.isFor hid hknown
    cases a with
    | fresh d => rfl
    | queued site request deadline => rfl
    -- the site gives the same answer, and the acquisition is over in both
    | opening d site number =>
      have hanswered := only_changeSiteReporting asked (n := p.names k asked)
        (Except.error PoolError.poolClosed) hfor.2 rfl (Site.opened number conn m)
        (destination_step p.config (.opened number conn m))
      dsimp only [Option.map_some, Acquisition.renumber]
      rw [hanswered]
      generalize p.changeSiteReporting site (.error .poolClosed) (Site.opened number conn m) =
        answered
      obtain ⟨result, change⟩ := answered
      have hfinish := only_finish hid change.1
      cases result <;> simp [SiteConnection.renumber, Change.only, hfinish, Except.map]

/-- `openingFailed` for a caller at the destination is seen. -/
theorem only_openingFailed (h : Placed asked p) (hid : asked[id]? = some k)
    (failure : ConnectFailure) :
    (p.only k asked).openingFailed (rank k asked id) failure =
      ((p.openingFailed id failure).1,
        (p.openingFailed id failure).2.only k asked (p.names k asked)) := by
  unfold openingFailed
  rw [only_lookup p hid]
  cases hknown : p.acquisitions.lookup id with
  | none => rfl
  | some a =>
    have hfor := h.isFor hid hknown
    cases a with
    | fresh d => rfl
    | queued site request deadline => rfl
    | opening d site number =>
      have hanswered := only_changeSiteReporting asked (n := p.names k asked)
        PoolError.poolClosed hfor.2 rfl (Site.openingFailed p.config number failure)
        (destination_step p.config (.openingFailed number failure))
      have hconfig : (p.only k asked).config = p.config := rfl
      dsimp only [Option.map_some, Acquisition.renumber]
      rw [hconfig, hanswered]
      dsimp only [Change.only]
      rw [only_finish hid]

/-- `abandon` of an acquisition for the destination is seen. -/
theorem only_abandon (h : Placed asked p) (hid : asked[id]? = some k) (m : Moment) :
    (p.only k asked).abandon m (rank k asked id) =
      (p.abandon m id).only k asked (p.names k asked) := by
  have hconfig : (p.only k asked).config = p.config := rfl
  unfold abandon
  rw [only_lookup p hid]
  cases hknown : p.acquisitions.lookup id with
  | none => exact congrArg (·, []) (only_finish hid p)
  | some a =>
    have hfor := h.isFor hid hknown
    cases a with
    | fresh d => exact congrArg (·, []) (only_finish hid p)
    -- the site of the destination loses an opening, or a request
    | opening d site number =>
      have hchange : (p.only k asked).changeSite (rank k p.destinations site)
          (Site.abandon p.config number) = _ :=
        only_changeSite asked (n := p.names k asked) hfor.2 rfl
          (destination_step p.config (.abandon number))
      dsimp only [Option.map_some, Acquisition.renumber]
      rw [hconfig, hchange]
      exact congrArg (·, _) (only_finish hid _)
    | queued site request deadline =>
      have hchange : (p.only k asked).changeSite (rank k p.destinations site)
          (Site.cancel p.config m request) = _ :=
        only_changeSite asked (n := p.names k asked) hfor rfl
          (destination_step p.config (.cancel m request))
      dsimp only [Option.map_some, Acquisition.renumber]
      rw [hconfig, hchange]
      exact congrArg (·, _) (only_finish hid _)

end Acquisitions

/-! ## Leases and disposals -/

section Leases

variable {lease first second : SiteConnection} {index : Nat}

/-- What a caller holds at a site of the destination is seen. -/
theorem only_lease (asked : List Destination) (hsite : p.destinations[lease.site]? = some k) :
    (p.only k asked).lease? (lease.renumber (rank k p.destinations)) = p.lease? lease :=
  congrArg (·.bind (Site.lease? lease.connection)) (only_sites asked hsite)

/-- `exchange` leaves all `destinations`. -/
theorem destinations_exchange (lease : SiteConnection) (conn : Connection) (p : Provider) :
    (p.exchange lease conn).destinations = p.destinations :=
  destinations_changeSite (fun _ => rfl) lease.site p

/-- `exchange` at a site of the destination is seen. -/
theorem only_exchange (asked : List Destination) (hsite : p.destinations[lease.site]? = some k)
    (conn : Connection) :
    (p.only k asked).exchange (lease.renumber (rank k p.destinations)) conn =
      (p.exchange lease conn).only k asked :=
  congrArg Prod.fst
    (only_changeSite asked (n := p.names k asked) hsite rfl (fun _ => rfl))

/-- `swap` at a site of the destination is seen. -/
theorem only_swap (asked : List Destination) (hsite : p.destinations[first.site]? = some k)
    (hsame : first.site = second.site) :
    (p.only k asked).swap (first.renumber (rank k p.destinations))
        (second.renumber (rank k p.destinations)) = (p.swap first second).only k asked := by
  have hsecond : p.destinations[second.site]? = some k := by rwa [← hsame]
  unfold swap
  rw [only_lease asked hsite, only_lease asked hsecond]
  cases p.lease? first with
  | none => rfl
  | some one =>
    cases p.lease? second with
    | none => rfl
    | some other =>
      have hkept := destinations_exchange first other.conn p
      have hexchange := only_exchange asked (hkept ▸ hsecond) one.conn
      rw [hkept] at hexchange
      dsimp only
      rw [only_exchange asked hsite, hexchange]

/-- `disposeWhen` of the destination is seen. -/
theorem only_disposeWhen (h : Placed asked p) (k : Destination) :
    (p.only k asked).disposeWhen k =
      ((p.disposeWhen k).1.renumber (rank (some k) p.disposedOf),
        (p.disposeWhen k).2.only k asked (p.names k asked)) := by
  have hserves := only_siteOf? k asked p
  unfold disposeWhen
  cases hsite : p.siteOf? k with
  | none =>
    rw [hserves, hsite]
    rfl
  | some site =>
    have hregistered := h.registered k site (mem_of_lookup hsite)
    have hshut := only_changeSite asked (n := p.names k asked) hregistered rfl shutDown_destination
    have hkept := destinations_changeSite shutDown_destination site p
    have hdispose := dispose_only asked k site (p := (p.changeSite site Site.shutDown).1)
    rw [if_pos (by rwa [hkept]), hkept] at hdispose
    rw [hserves, hsite]
    -- the disposal has the next number, of its destination as of all
    have hnumber := rank_disposals k asked p
    have hlast := singleDisposals_changeSite site Site.shutDown p
    dsimp only [Option.map_some, Change.andThen]
    rw [hshut, Change.only, Change.only, hdispose, ← hnumber]
    simp [Effect.renumber, names, Disposal.renumber]

/-- `pollSingleDisposal` of the destination is seen. -/
theorem only_pollSingleDisposal (h : Placed asked p) (hindex : p.disposedOf[index]? = some (some k))
    (m : Moment) :
    (p.only k asked).pollSingleDisposal m (rank (some k) p.disposedOf index) =
      (p.pollSingleDisposal m index).only k asked (p.names k asked) := by
  have hseen := only_singleDisposals asked hindex
  have hdisposal : (p.singleDisposals[index]?).map
      (fun disposal => p.destinations[disposal.site]?) = some (some k) := by
    simpa [disposedOf] using hindex
  unfold pollSingleDisposal
  rw [hseen]
  cases hknown : p.singleDisposals[index]? with
  | none => rfl
  | some disposal =>
    obtain ⟨site, finished⟩ := disposal
    have hsite : p.destinations[site]? = some k := by simpa [hknown] using hdisposal
    cases finished with
    | true => rfl
    | false =>
      have hawaited : (p.only k asked).awaitEnd m (.single (rank (some k) p.disposedOf index))
          (rank k p.destinations site) = _ := only_awaitEnd h hsite m (.single index)
      obtain ⟨hkept, hdisposals⟩ := awaitEnd_keeps m (.single index) site p
      dsimp only [Option.map_some]
      -- what the look leaves is a provider in its own right: only its destinations matter below
      rw [hawaited]
      generalize p.awaitEnd m (.single index) site = c at hkept hdisposals ⊢
      have hsite' : c.1.destinations[site]? = some k := by rwa [hkept]
      have hnumbers := disposedOf_eq hkept hdisposals
      have hended := only_hasEnded asked hsite'
      have hfinish := finish_only asked k (hdisposals ▸ hknown)
      rw [hkept] at hended
      rw [if_pos hsite', hkept, hnumbers] at hfinish
      have hended' : (c.only k asked (p.names k asked)).1.hasEnded (rank k p.destinations site) =
          c.1.hasEnded site := hended
      by_cases hover : c.1.hasEnded site = true
      · rw [if_pos (hended'.trans hover), if_pos hover]
        dsimp only [Change.andThen, Change.only]
        rw [hfinish]
        simp [Effect.renumber, names, Disposal.renumber]
      · rw [← hended'] at hover
        rw [if_neg hover, if_neg (by rwa [← hended'])]

/-- `pollSingleDisposal` leaves the destinations of sites and disposals. -/
theorem pollSingleDisposal_keeps (m : Moment) (index : Nat) (p : Provider) :
    (p.pollSingleDisposal m index).1.destinations = p.destinations ∧
      (p.pollSingleDisposal m index).1.disposedOf = p.disposedOf := by
  unfold pollSingleDisposal
  split
  · exact ⟨rfl, rfl⟩
  · exact ⟨rfl, rfl⟩
  · rename_i site hknown
    obtain ⟨hkept, hdisposals⟩ := awaitEnd_keeps m (.single index) site p
    dsimp only
    split
    · refine ⟨hkept, ?_⟩
      dsimp only [Change.andThen, disposedOf, destinations] at hkept ⊢
      rw [hkept, hdisposals]
      exact map_set_of_eq hknown rfl
    · exact ⟨hkept, disposedOf_eq hkept hdisposals⟩

/-- `isDisposalFinished` of the destination is seen. -/
theorem only_isDisposalFinished (asked : List Destination)
    (hindex : p.disposedOf[index]? = some (some k)) :
    (p.only k asked).isDisposalFinished (.single (rank (some k) p.disposedOf index)) =
      p.isDisposalFinished (.single index) := by
  have hseen := only_singleDisposals asked hindex
  unfold isDisposalFinished
  dsimp only
  rw [hseen]
  cases p.singleDisposals[index]? <;> rfl

end Leases

/-! ## One step -/

/-- A `step` whose `subject` is the destination is seen, and so is its `outcome`. -/
theorem step_of_subject (h : Placed asked p) {e : Event} (hseparate : e.isSeparate = true)
    (hk : p.subject asked e = some k) :
    (p.only k asked).outcome (e.renumber (p.names k asked)) =
        (p.outcome e).renumber (p.names k asked) ∧
      (p.only k asked).step (e.renumber (p.names k asked)) =
        (p.step e).only k (asked ++ e.asks) (p.names k asked) := by
  have hconfig : (p.only k asked).config = p.config := rfl
  cases e
  case acquire d =>
    obtain rfl : d = k := Option.some.inj hk
    have hseen := acquire_only h d d
    rw [if_pos rfl] at hseen
    exact ⟨congrArg Outcome.asked (h.rank_next d).symm, congrArg (·, []) hseen.symm⟩
  -- nothing else is asked for
  all_goals simp only [Event.asks, List.append_nil]
  case poll m id =>
    have hseen := only_poll h hk m
    obtain ⟨hreached, hchange⟩ := Prod.ext_iff.1 hseen
    exact ⟨congrArg Outcome.progress hreached, hchange⟩
  case opened m id conn =>
    have hseen := only_opened h hk m conn
    obtain ⟨hresult, hchange⟩ := Prod.ext_iff.1 hseen
    exact ⟨congrArg Outcome.opened hresult, hchange⟩
  case openingFailed id failure =>
    have hseen := only_openingFailed h hk failure
    obtain ⟨herror, hchange⟩ := Prod.ext_iff.1 hseen
    exact ⟨congrArg Outcome.failed herror, hchange⟩
  case abandon m id =>
    exact ⟨rfl, only_abandon h hk m⟩
  case release m lease =>
    exact ⟨rfl, only_changeSite asked hk rfl
      (destination_step p.config (.release m lease.connection))⟩
  case detach lease =>
    have hseen := only_changeSiteReporting asked (n := p.names k asked) none hk rfl
      (Site.detach p.config lease.connection) (destination_step p.config (.detach lease.connection))
    obtain ⟨hconn, hchange⟩ := Prod.ext_iff.1 hseen
    exact ⟨congrArg Outcome.detached hconn, hchange⟩
  case swap first second =>
    exact ⟨rfl, congrArg (·, []) (only_swap asked hk (beq_iff_eq.1 hseparate))⟩
  case openedForQueue m site number conn created =>
    exact ⟨rfl, only_changeSite asked hk rfl
      (destination_step p.config (.openedForQueue number conn m created))⟩
  case openingForQueueFailed m site number failure =>
    exact ⟨rfl, only_changeSite asked hk rfl
      (destination_step p.config (.openingForQueueFailed number failure m))⟩
  case closeFinished site connection =>
    exact ⟨rfl, only_changeSite asked hk rfl
      (destination_step p.config (.closeFinished connection))⟩
  case sweep m site =>
    exact ⟨rfl, only_changeSite asked hk rfl (destination_step p.config (.sweep m))⟩
  case sweepEnded site =>
    exact ⟨rfl, only_changeSite asked hk rfl fun s => rfl⟩
  case disposeWhen d =>
    obtain rfl : d = k := Option.some.inj hk
    have hseen := only_disposeWhen h d
    obtain ⟨hdisposal, hchange⟩ := Prod.ext_iff.1 hseen
    exact ⟨congrArg Outcome.disposing hdisposal, hchange⟩
  case pollDisposal m disposal =>
    cases disposal with
    | nothing => cases hk
    | whole => cases hk
    | single index =>
      have hindex : p.disposedOf[index]? = some (some k) := Option.join_eq_some_iff.1 hk
      have hseen := only_pollSingleDisposal h hindex m
      have hkept := (pollSingleDisposal_keeps m index p).2
      have hfinished := only_isDisposalFinished asked (p := (p.pollSingleDisposal m index).1)
        (by rwa [hkept] : _ = some (some k))
      rw [hkept] at hfinished
      refine ⟨congrArg Outcome.looked (Eq.trans ?_ hfinished), hseen⟩
      exact congrArg (fun c : Change => c.1.isDisposalFinished _) hseen
  case dispose => cases hk
  case disposeAtOnce => cases hk
  case letGo => cases hk

end Provider

end ConnectionPool
