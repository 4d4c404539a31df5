import ConnectionPool.Proofs.Provider.Succession
import ConnectionPool.Proofs.Site.Grace

/-!
# Pools that nothing keeps alive

A pool lives as long as something refers to it: a caller who holds one of its connections, an
acquisition, a connection being opened or closed, a wait for its end, or the registry of a provider
that is itself alive. When the last of these is gone nothing is out of the pool any more, and what
was idle is lost: nobody will close it. A pool that was shut down in time has nothing idle.

Disposing of the whole provider shuts all its pools down, but only if something keeps the provider
alive when the disposal is first polled. If nothing does, the disposal is over at once and no pool
is shut down.

## Main definitions

* `Site.Gone`: a connection that the pool was given and does not hold any more.
* `Forsaken`: what is known of a site that nothing keeps alive.
* `InTime`: the disposal of the whole provider is not first polled too late.
* `LettingGo`: what becomes of the connections when a provider is let go.
* `NothingLost`, `OverAtLast`: what one may wish for instead.

## Main results

* `HasLeft.gone`: what has left a pool never comes back.
* `forsaken_of_not_alive`: a site that nothing keeps alive loses what is idle, and nothing else.
* `Punctual.run`: a disposal that is polled in time is over only when no pool is registered.
* `letting_go`: all of this after any run.
-/

namespace ConnectionPool

namespace Site

variable {config : Config} {s : Site} {number : Nat}

/-- `Gone number s`: the number of the connection has been given out, and the site does not hold it
any more. -/
def Gone (number : Nat) (s : Site) : Prop := number < s.pool.nextConnection ∧ ¬ s.Holds number

/-- What a site `Holds` after an event was held before it, or arrives under the next number. -/
theorem holds_of_step {event : Event} (h : (s.step config event).1.Holds number) :
    s.Holds number ∨ number = s.pool.nextConnection := by
  cases hevent : event.isExchange with
  | true =>
    obtain ⟨lease, conn, rfl⟩ : ∃ lease conn, event = .exchange lease conn := by
      cases event <;> simp [Event.isExchange] at hevent ⊢
    -- the number stays with the caller, whatever connection it stands for
    rw [Holds, step, exchange_numbers] at h
    exact .inl h
  | false =>
    have hmem := ((step_holdings config event hevent s).map Prod.fst).subset (a := number)
    rw [List.map_append, List.map_append, List.mem_append, List.mem_append] at hmem
    refine (hmem (.inl h)).imp_right fun harrives => ?_
    obtain ⟨tag, htag, rfl⟩ := List.mem_map.1 harrives
    obtain ⟨conn, -, rfl⟩ := List.mem_map.1 htag
    rfl

/-- What is `Gone` does not come back: numbers are given out once. -/
theorem Gone.step (h : s.Gone number) (event : Event) : (s.step config event).1.Gone number := by
  obtain ⟨hlt, hmissing⟩ := h
  have hnext := (step_frame config event s).nextConnection
  refine ⟨by omega, fun hholds => ?_⟩
  obtain hheld | rfl := holds_of_step hholds
  · exact hmissing hheld
  · exact Nat.lt_irrefl _ hlt

/-- What is among the `departures` of an event is `Gone` after it. -/
theorem gone_of_departs (h : Reachable config s) {event : Event}
    (hleaves : number ∈ (s.departures event).map Prod.fst) :
    (s.step config event).1.Gone number := by
  have hnumbered := holdings_numbered h
  have hnext := (step_frame config event s).nextConnection
  obtain ⟨hexchange, harrivals⟩ : event.isExchange = false ∧ s.arrivals event = [] := by
    obtain ⟨rfl, -⟩ | ⟨rfl, -⟩ := eq_of_mem_departures hleaves <;> exact ⟨rfl, rfl⟩
  have hperm := (step_holdings config event hexchange s).map Prod.fst
  rw [harrivals, List.map_nil, List.append_nil, List.map_append] at hperm
  have hheld : number ∈ s.holdings.map Prod.fst := hperm.subset (List.mem_append_right _ hleaves)
  refine ⟨?_, fun hholds => ?_⟩
  · have hlt := hnumbered.lt _ hheld
    omega
  · -- no number is held twice
    have hnodup := hperm.nodup_iff.2 hnumbered.nodup
    exact (List.nodup_append.1 hnodup).2.2 _ hholds _ hleaves rfl

/-- A site that is not `isHeld` has nothing out, and is not waited for if its pool has been shut
down. -/
theorem nothing_out_of_not_isHeld (h : s.isHeld = false) :
    (s.leases = [] ∧ s.inbox = [] ∧ s.openings = [] ∧ s.closings = [] ∧ s.pool.pending = []) ∧
      (s.pool.closed = true → s.drain = .finished) := by
  simp only [isHeld, Bool.or_eq_false_iff, Bool.not_eq_false', List.isEmpty_iff,
    Bool.and_eq_false_imp, bne_eq_false_iff_eq] at h
  obtain ⟨⟨⟨⟨⟨hleases, hpending⟩, hinbox⟩, hopenings⟩, hclosings⟩, hdrain⟩ := h
  exact ⟨⟨hleases, hinbox, hopenings, hclosings, hpending⟩, hdrain⟩

/-- Where nothing is out, what a site `Holds` is idle. -/
theorem holds_iff_of_nothing_out (hleases : s.leases = []) (hinbox : s.inbox = [])
    (hclosings : s.closings = []) : s.Holds number ↔ number ∈ s.pool.idle.map (·.info.id) := by
  rw [Holds, holdings_numbers, hands, hleases, hinbox, hclosings]
  simp [entriesOf]

end Site

namespace Provider

variable {config : Config} {p q : Provider} {abrupt : Prop} {clock : Option Moment} {event : Event}
  {site number : Nat} {s t : Site}

/-! ## What has left does not come back -/

/-- What `Leaves` a site at an event is `Gone` after it. -/
theorem Leaves.gone (h : p.Leaves site number event) (hsound : Sound config p) :
    ∃ t, (p.step event).1.sites[site]? = some t ∧ t.Gone number := by
  -- what leaves a site at an act of its own is gone from it
  have hafter : ∀ {s : Site} (act : Site.Event), p.sites[site]? = some s →
      number ∈ (s.departures act).map Prod.fst →
      ∃ t, (p.changeSite site fun s => s.step p.config act).1.sites[site]? = some t ∧
        t.Gone number := by
    intro s act hs hleaves
    obtain ⟨hnone, -⟩ | ⟨known, hknown, heq⟩ :=
      changeSite_cases site (fun s => s.step p.config act) p
    · cases hs.symm.trans hnone
    · obtain rfl := Option.some.inj (hs.symm.trans hknown)
      rw [heq, getElem?_setSite _ hs, if_pos rfl]
      exact ⟨_, rfl, Site.gone_of_departs (hsound.here hs) hleaves⟩
  cases h with
  | @detached s e hs hlease =>
    have hid : e.info.id = number := by
      simpa using List.find?_some (p := fun e : Entry => e.info.id == number) hlease
    refine hafter (.detach number) hs ?_
    rw [Site.departures, hlease]
    exact List.mem_singleton.2 hid.symm
  | @closed s e hs hclosing hnumber =>
    have hsome : (s.closings.find? (·.info.id == number)).isSome = true :=
      List.find?_isSome.2 ⟨e, hclosing, by simpa using hnumber⟩
    obtain ⟨found, hfound⟩ := Option.isSome_iff_exists.1 hsome
    have hid : found.info.id = number := by
      simpa using List.find?_some (p := fun e : Entry => e.info.id == number) hfound
    refine hafter (.closeFinished number) hs ?_
    rw [Site.departures, hfound]
    exact List.mem_singleton.2 hid.symm

/-- What is `Gone` from a site stays so. -/
theorem gone_run (h : Reachable config p) (hs : p.sites[site]? = some s) (hgone : s.Gone number)
    (events : List Event) : ∃ t, (p.run events).sites[site]? = some t ∧ t.Gone number := by
  induction events generalizing p s with
  | nil => exact ⟨s, hs, hgone⟩
  | cons event events ih =>
    obtain ⟨t, ht, hstays⟩ := (step_moves p event).descends.keeps (sound_of_reachable h)
      (fun s act _ _ hgone => hgone.step act) hs hgone
    exact ih (h.step event) ht hstays

/-- What `HasLeft` a pool never comes back. -/
theorem HasLeft.gone {events : List Event} (h : (ofConfig config).HasLeft site number events) :
    ∃ t, ((ofConfig config).run events).sites[site]? = some t ∧ t.Gone number := by
  obtain ⟨before, event, after, rfl, hleaves⟩ := h
  have hbefore : Reachable config ((ofConfig config).run before) := Reachable.start.run before
  obtain ⟨t, ht, hgone⟩ := hleaves.gone (sound_of_reachable hbefore)
  rw [run_append]
  exact gone_run (hbefore.step event) ht hgone after

/-! ## Sites that nothing keeps alive -/

/-- `Forsaken config events site s`: what is known of a site that nothing keeps alive. -/
structure Forsaken (config : Config) (events : List Event) (site : Nat) (s : Site) : Prop where
  /-- Nothing is out of the site, and nobody waits there. -/
  out : s.leases = [] ∧ s.inbox = [] ∧ s.openings = [] ∧ s.closings = [] ∧ s.pool.pending = []
  /-- What is lost with the site is what is idle: of all connections that the pool was given, these
  are the ones that have not left. -/
  lost : ∀ number, s.WasGiven number →
    (number ∈ s.pool.idle.map (·.info.id) ↔ ¬ (ofConfig config).HasLeft site number events)
  /-- Nothing is lost with a pool that has been shut down: it has `Ended`. -/
  shut : s.pool.closed = true → s.Ended ∧ AllLeft config site events
  /-- A pool that has not been shut down is let go together with its provider, where it still serves
  its destination. -/
  serves : s.pool.closed = false →
    ((ofConfig config).run events).siteOf? s.destination = some site ∧
      ((ofConfig config).run events).isAlive = false

/-- A site that is not `isSiteAlive` is `Forsaken`: it loses what is idle, and nothing else. -/
theorem forsaken_of_not_alive {events : List Event}
    (hs : ((ofConfig config).run events).sites[site]? = some s)
    (hdead : ((ofConfig config).run events).isSiteAlive site = false) :
    Forsaken config events site s := by
  have h : Reachable config ((ofConfig config).run events) := Reachable.start.run events
  have hsound := sound_of_reachable h
  have hsuccession := succession_of_reachable h
  obtain ⟨hunheld, hunregistered⟩ := Bool.or_eq_false_iff.1 hdead
  rw [hs, Option.any_some] at hunheld
  obtain ⟨hout, hwaited⟩ := Site.nothing_out_of_not_isHeld hunheld
  obtain ⟨hleases, hinbox, hopenings, hclosings, hpending⟩ := hout
  have hholds : ∀ number, s.Holds number ↔ number ∈ s.pool.idle.map (·.info.id) := fun number =>
    Site.holds_iff_of_nothing_out hleases hinbox hclosings
  refine ⟨⟨hleases, hinbox, hopenings, hclosings, hpending⟩, fun number hgiven => ?_,
    fun hclosed => ?_, fun hopen => ?_⟩
  · -- what has left does not come back, so it is not idle
    rw [← hholds]
    refine ⟨fun hheld hleft => ?_, fun hstays => (holds_or_hasLeft hs hgiven).resolve_right hstays⟩
    obtain ⟨t, ht, hgone⟩ := hleft.gone
    obtain rfl := Option.some.inj (hs.symm.trans ht)
    exact hgone.2 hheld
  · -- with nothing out and nothing idle, no slot is taken
    have hidle := ((Site.justified_of_reachable (hsound.here hs)).closed hclosed).2
    have hbalance := Site.balance_of_reachable (hsound.here hs)
    have hended : s.Ended := by
      refine ⟨hclosed, ?_, ?_⟩
      · rw [hbalance.allocated, hbalance.inUse, hidle, hleases, hinbox, hopenings]
        rfl
      · rw [hbalance.closing, hclosings]
        rfl
    refine ⟨hended, allLeft_of_ended fun t ht => ?_⟩
    obtain rfl := Option.some.inj (hs.symm.trans ht)
    exact hended
  · -- a site is unregistered only once its pool has been shut down
    have hregistered : site ∈ ((ofConfig config).run events).registry.map Prod.snd := by
      by_contra hleft
      cases hopen.symm.trans (hsuccession.left site s hs hleft).1
    refine ⟨(hsuccession.siteOf?_iff hsound hs).2 hregistered, ?_⟩
    have hregistered' : ((ofConfig config).run events).isRegistered site = true := by
      obtain ⟨entry, hentry, rfl⟩ := List.mem_map.1 hregistered
      exact List.any_eq_true.2 ⟨entry, hentry, beq_self_eq_true _⟩
    rw [hregistered', Bool.true_and] at hunregistered
    exact hunregistered

/-! ## Disposals that are polled in time -/

/-- `Lapses p event`: the disposal of the whole provider is first polled when nothing keeps the
provider alive. -/
def Event.Lapses (p : Provider) : Event → Prop
  | .pollDisposal _ .whole => p.wholeDisposal = .unpolled ∧ p.isAlive = false
  | _ => False

/-- `InTime p events`: the disposal of the whole provider never `Lapses`. -/
def InTime (p : Provider) : List Event → Prop
  | [] => True
  | event :: events => ¬ event.Lapses p ∧ InTime (p.step event).1 events

/-- `Punctual p`: what the disposal of the whole provider keeps to if it is polled in time. -/
structure Punctual (p : Provider) : Prop where
  /-- When it has been polled, no acquisition is accepted. -/
  polled : p.wholeDisposal ≠ .unpolled → p.isDisposed = true
  /-- When it is over, no site is registered. -/
  finished : p.wholeDisposal = .finished → p.registry = []

namespace Punctual

/-- A new provider is `Punctual`: it has polled nothing. -/
theorem start (config : Config) : Punctual (ofConfig config) := by
  refine ⟨fun hpolled => absurd rfl hpolled, ?_⟩
  rintro ⟨⟩

/-- A provider that `Narrows`, with the disposal where it is, stays `Punctual`. -/
theorem of_narrows (h : Punctual p) (hnarrows : p.Narrows q)
    (hwhole : q.wholeDisposal = p.wholeDisposal) : Punctual q := by
  refine ⟨fun hpolled => hnarrows.disposed (h.polled (hwhole ▸ hpolled)), fun hfinished => ?_⟩
  have hempty := h.finished (hwhole ▸ hfinished)
  exact List.sublist_nil.1 (hempty ▸ hnarrows.registry)

/-- A provider stays `Punctual` when a site is made, as that comes before the disposal is polled. -/
theorem outside (h : Punctual p) (ho : p.Outside q) : Punctual q := by
  obtain heq | ⟨hopen, d, -, heq⟩ := ho.registers
  · exact h.of_narrows (.of_agenda heq) (congrArg Agenda.wholeDisposal heq)
  · have hwhole : q.wholeDisposal = p.wholeDisposal := congrArg Agenda.wholeDisposal heq
    have hunpolled : q.wholeDisposal = .unpolled := by
      by_contra hpolled
      cases hopen.symm.trans (h.polled (hwhole ▸ hpolled))
    exact ⟨fun hpolled => absurd hunpolled hpolled, fun hfinished => by
      cases hunpolled.symm.trans hfinished⟩

/-- A `Part` of a disposal that is not abrupt keeps a provider `Punctual`. -/
theorem part (h : Punctual p) (hpart : Part abrupt clock p q) (horderly : ¬ abrupt) :
    Punctual q := by
  cases hpart with
  | shut index =>
    have heq := agenda_changeSite index Site.shutDown p
    exact h.of_narrows (.of_agenda heq) (congrArg Agenda.wholeDisposal heq)
  | @look m hclock index hclosed =>
    have heq := agenda_changeSite index (Site.pollDrain p.config m) p
    exact h.of_narrows (.of_agenda heq) (congrArg Agenda.wholeDisposal heq)
  | unregister hclosed hended => exact h.of_narrows ⟨id, List.eraseP_sublist, rfl⟩ rfl
  | refuse => exact ⟨fun _ => rfl, h.finished⟩
  | wait sites hdisposed => exact ⟨fun _ => hdisposed, nofun⟩
  | finish hdisposed hregistry => exact ⟨fun _ => hdisposed, fun _ => hregistry⟩
  | lapse habrupt => exact absurd habrupt horderly
  | ask | conclude => exact ⟨h.polled, h.finished⟩

end Punctual

theorem abandonSites_wholeDisposal (indices : List Nat) (p : Provider) :
    (p.abandonSites indices).1.wholeDisposal = p.wholeDisposal := by
  induction indices generalizing p with
  | nil => rfl
  | cons index rest ih =>
    rw [abandonSites, Change.andThen_fst, ih]
    exact congrArg Agenda.wholeDisposal (agenda_changeSite index Site.shutDown p)

/-- An event `IsOrderly` if the disposal of the whole provider is not polled too late, and the
provider is not disposed of where no task can be started. -/
theorem Event.isOrderly_iff : event.IsOrderly p ↔ event ≠ .disposeAtOnce ∧ ¬ event.Lapses p := by
  cases event with
  | disposeAtOnce => simp [IsOrderly]
  | pollDisposal m disposal => cases disposal <;> simp [IsOrderly, Lapses]
  | _ => simp [IsOrderly, Lapses]

/-- An event that does not let the disposal of the whole provider lapse keeps the provider
`Punctual`. -/
theorem Punctual.step (h : Punctual p) (hreachable : Reachable config p)
    (hlapses : ¬ event.Lapses p) : Punctual (p.step event).1 := by
  by_cases hevent : event = .disposeAtOnce
  · subst hevent
    -- the sites are unregistered, and nothing is said of the disposal
    have hrefused : Punctual { p with isDisposed := true } := ⟨fun _ => rfl, h.finished⟩
    have hparts : Parts True Option.none { p with isDisposed := true } (p.step .disposeAtOnce).1 :=
      abandonSites_parts trivial _ rfl
    exact hrefused.of_narrows (Parts.narrows hparts) (abandonSites_wholeDisposal _ _)
  · have horderly := Event.isOrderly_iff.2 ⟨hevent, hlapses⟩
    rcases step_outside_or_parts (attended_of_reachable hreachable) event with houtside | hparts
    · exact h.outside houtside
    · have hnot : ¬ ¬ event.IsOrderly p := not_not_intro horderly
      exact Parts.invariant (fun _ _ hp hpart => Punctual.part hp hpart hnot) h hparts

/-- A run `InTime` keeps the provider `Punctual`. -/
theorem Punctual.run (h : Punctual p) (hreachable : Reachable config p) {events : List Event}
    (htime : InTime p events) : Punctual (p.run events) := by
  induction events generalizing p with
  | nil => exact h
  | cons event events ih =>
    exact ih (h.step hreachable htime.1) (hreachable.step event) htime.2

/-- `Orderly` events are `InTime`. -/
theorem Orderly.inTime {events : List Event} (h : Orderly p events) : InTime p events := by
  induction events generalizing p with
  | nil => trivial
  | cons event events ih => exact ⟨(Event.isOrderly_iff.1 h.1).2, ih h.2⟩

/-! ## Letting a provider go -/

/-- `LettingGo config events p`: what becomes of the connections of a provider in the course of
events in which it may be let go. -/
structure LettingGo (config : Config) (events : List Event) (p : Provider) : Prop where
  /-- A site that is not `isSiteAlive` is `Forsaken`. -/
  forsaken : ∀ site s, p.sites[site]? = some s → p.isSiteAlive site = false →
    Forsaken config events site s
  /-- When the disposal of the whole provider is over, having been polled `InTime`, every pool has
  been shut down and none is registered. -/
  shut : InTime (ofConfig config) events → p.isDisposalFinished .whole = true →
    p.registry = [] ∧ ∀ s ∈ p.sites, s.pool.closed = true
  /-- If it was `Orderly` besides, nothing is left of such a pool and every connection has left, or
  the grace period of the pool is over. -/
  ended : Orderly (ofConfig config) events → p.isDisposalFinished .whole = true →
    ∀ site s, p.sites[site]? = some s → s.pool.closed = true ∧
      ((s.Ended ∧ AllLeft config site events) ∨ GraceOver config site events)
  /-- A disposal of the whole provider that is first polled too late is `finished` at once, and
  leaves every site as it is. -/
  late : ∀ m, p.wholeDisposal = .unpolled → p.isAlive = false →
    (p.step (.pollDisposal m .whole)).1 = { p with wholeDisposal := .finished }

/-- A provider may be let go at any time, whatever else happens, and `LettingGo` says what becomes
of its connections. They are lost with a pool only if they are idle when nothing keeps the pool
alive any more, and the pool has not been shut down by then; a disposal of the whole provider shuts
every pool down if it is polled in time. -/
theorem letting_go (config : Config) (events : List Event) :
    LettingGo config events ((ofConfig config).run events) := by
  have hstart : Reachable config (ofConfig config) := .start
  have h := hstart.run events
  have hfinished : ∀ {q : Provider}, q.isDisposalFinished .whole = true →
      q.wholeDisposal = .finished := fun hfinished => by simpa [isDisposalFinished] using hfinished
  have hshut : InTime (ofConfig config) events →
      ((ofConfig config).run events).isDisposalFinished .whole = true →
      ((ofConfig config).run events).registry = [] ∧
        ∀ s ∈ ((ofConfig config).run events).sites, s.pool.closed = true := by
    intro htime hover
    have hregistry := ((Punctual.start config).run hstart htime).finished (hfinished hover)
    refine ⟨hregistry, fun s hs => ?_⟩
    obtain ⟨site, hsite⟩ := List.mem_iff_getElem?.1 hs
    -- an open pool would still be registered
    exact ((succession_of_reachable h).left site s hsite (by simp [hregistry])).1
  refine ⟨fun site s hs hdead => forsaken_of_not_alive hs hdead, hshut,
    fun horderly hover site s hs => ?_, fun m hunpolled hdead => ?_⟩
  · obtain ⟨hregistry, hclosed⟩ := hshut horderly.inTime hover
    refine ⟨hclosed s (List.mem_of_getElem? hs), ?_⟩
    have htidy := (Tidy.start config).run hstart horderly
    have hdrain := htidy.waited site s hs (by simp [hregistry])
    refine ((heeds_of_run events hs).finished hdrain).imp_left fun hended => ⟨hended, ?_⟩
    refine allLeft_of_ended fun t ht => ?_
    obtain rfl := Option.some.inj (hs.symm.trans ht)
    exact hended
  · show (Provider.pollWholeDisposal m _).1 = _
    rw [pollWholeDisposal, hunpolled, hdead]
    rfl

/-- The only connection is idle when the provider is disposed of and let go, and the disposal is
polled only then. -/
def disposedTooLate : List Event :=
  [.acquire (.ofAddress "db:1"), .poll (.atMillis 0) 0, .opened (.atMillis 0) 0 ⟨1, "db:1"⟩,
    .release (.atMillis 1) ⟨0, 1⟩, .dispose, .letGo, .pollDisposal (.atMillis 2) .whole]

/-- The provider is disposed of while its only connection is out, and let go once the disposal has
been polled. -/
def disposedInTime : List Event :=
  [.acquire (.ofAddress "db:1"), .poll (.atMillis 0) 0, .opened (.atMillis 0) 0 ⟨1, "db:1"⟩,
    .dispose, .pollDisposal (.atMillis 1) .whole, .letGo, .release (.atMillis 2) ⟨0, 1⟩,
    .closeFinished 0 1, .pollDisposal (.atMillis 3) .whole]

/-- The connection that is idle when the disposal comes too late has not left its pool; where the
disposal is polled in time, every connection has left when it is over. -/
theorem letting_go_disposedTooLate :
    ((ofConfig .oneSlot).run disposedTooLate).isSiteAlive 0 = false ∧
    ¬ (ofConfig .oneSlot).HasLeft 0 1 disposedTooLate ∧
    ((ofConfig .oneSlot).run disposedInTime).isDisposalFinished .whole = true ∧
    AllLeft .oneSlot 0 disposedInTime := by
  have hlate := (letting_go .oneSlot disposedTooLate).forsaken 0 _ rfl rfl
  have hlost := (hlate.lost 1 ⟨Nat.one_pos, Nat.lt_succ_self 1⟩).1 (List.mem_singleton_self 1)
  have hearly := (letting_go .oneSlot disposedInTime).forsaken 0 _ rfl rfl
  exact ⟨rfl, hlost, rfl, (hearly.shut rfl).2⟩

/-! ## What one may wish for instead -/

/-- No connection is lost: a pool that is not `isSiteAlive` has nothing idle. -/
def NothingLost (p : Provider) : Prop :=
  ∀ site s, p.sites[site]? = some s → p.isSiteAlive site = false → s.pool.idle = []

/-- The `wholeDisposal` is over only when nothing is left of any pool. -/
def OverAtLast (p : Provider) : Prop :=
  p.isDisposalFinished .whole = true → ∀ s ∈ p.sites, s.Ended

/-- A provider that is disposed of and let go at once loses its idle connections, though the
disposal is over. -/
theorem lost_disposedTooLate :
    ¬ (∀ config events, NothingLost ((ofConfig config).run events)) ∧
    ¬ ∀ config events, OverAtLast ((ofConfig config).run events) := by
  refine ⟨fun hlost => ?_, fun hover => ?_⟩
  · have hidle := hlost .oneSlot disposedTooLate 0 _ rfl rfl
    cases hidle
  · have hended := hover .oneSlot disposedTooLate rfl _ (List.mem_singleton_self _)
    cases hended.closed

end Provider

end ConnectionPool
