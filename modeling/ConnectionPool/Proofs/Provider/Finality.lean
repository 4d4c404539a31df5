import ConnectionPool.Proofs.Provider.Entrances
import ConnectionPool.Proofs.Provider.Retirement
import ConnectionPool.Proofs.Site.Bare

/-!
# Disposals among several threads

When the disposal of the whole provider is over, without a grace period, nothing is left of any
site, and nothing is asked of the transport any more, whatever the threads do then. An acquisition
may have been let in at its first look before the disposal began, and find its site after the
disposal is over. It registers a site then, and shuts it down at its second look, but nobody takes
that site off the registry. Nothing else is registered.

## Main definitions

* `Vacant`: no site of a provider holds anything.
* `Threaded.Kept`: what holds of every `Threaded` provider that steps lead to.
* `Threaded.Concluded`: nothing is left, and nothing follows.

## Main results

* `Moves.vacant`: as long as no acquisition begins at an open pool, a vacant provider stays so.
* `Threaded.kept_of_run`: whatever steps lead to is `Kept`.
* `Threaded.disposals_close_all`: when a disposal is over, nothing is left and nothing follows.
* `Threaded.not_always_unregistered`: a site can be registered when the disposal is over.
-/

namespace ConnectionPool.Provider

variable {config : Config} {allowed : Actors} {p q : Provider} {flow : Flow} {c : Change}
  {inside : Nat → Prop} {site index : Nat} {s : Site} {clock : Option Moment}

/-! ## Providers that hold nothing -/

/-- `Vacant inside p`: no site holds anything, and where somebody may still begin the pool was shut
down. -/
structure Vacant (inside : Nat → Prop) (p : Provider) : Prop where
  /-- Every site is `Site.Bare`. -/
  bare : ∀ (site : Nat) (s : Site), p.sites[site]? = some s → s.Bare
  /-- Nobody may begin at an open pool. -/
  shut : ∀ site, inside site → ∃ s, p.sites[site]? = some s ∧ s.pool.closed = true

namespace Vacant

theorem of_eq (h : Vacant inside p) (hsites : q.sites = p.sites) : Vacant inside q :=
  ⟨hsites ▸ h.bare, hsites ▸ h.shut⟩

theorem mono {fewer : Nat → Prop} (h : Vacant inside p)
    (hfewer : ∀ site, fewer site → inside site) : Vacant fewer p :=
  ⟨h.bare, fun site hsite => h.shut site (hfewer site hsite)⟩

/-- A provider stays `Vacant` at an event at one site, which is no acquisition unless somebody may
begin there. -/
theorem setSite (h : Vacant inside p) (hsound : Sound config p) (hs : p.sites[index]? = some s)
    {event : Site.Event} (hevent : event.isAcquire = true → inside index) :
    Vacant inside (p.setSite index (s.step p.config event).1) ∧
      ∀ effect ∈ (s.step p.config event).2, effect.isCall = false := by
  -- where the event is an acquisition, the pool is closed
  have hstep := (h.bare index s hs).step (hsound.here hs) event fun hacquire => by
    obtain ⟨t, ht, hclosed⟩ := h.shut index (hevent hacquire)
    obtain rfl := Option.some.inj (hs.symm.trans ht)
    exact hclosed
  refine ⟨⟨fun site t ht => ?_, fun site hsite => ?_⟩, hstep.2⟩
  · rw [getElem?_setSite _ hs] at ht
    by_cases hother : site = index
    · rw [if_pos hother] at ht
      obtain rfl := Option.some.inj ht
      exact hstep.1
    · rw [if_neg hother] at ht
      exact h.bare site t ht
  · obtain ⟨t, ht, hclosed⟩ := h.shut site hsite
    rw [getElem?_setSite _ hs]
    by_cases hother : site = index
    · subst hother
      obtain rfl := Option.some.inj (hs.symm.trans ht)
      exact ⟨_, if_pos rfl, Site.step_closed hclosed event⟩
    · exact ⟨t, (if_neg hother).trans ht, hclosed⟩

theorem exchange (h : Vacant inside p) (hsound : Sound config p) (lease : SiteConnection)
    (conn : Connection) : Vacant inside (p.exchange lease conn) := by
  obtain ⟨-, heq⟩ | ⟨s, hs, heq⟩ := exchange_cases p lease conn <;> rw [heq]
  · exact h
  · have hevent :
        (Site.Event.exchange lease.connection conn).isAcquire = true → inside lease.site :=
      nofun
    exact (h.setSite hsound hs hevent).1

end Vacant

/-- A provider stays `Vacant` at every `Move` at which no acquisition begins at an open pool, and
nothing is asked for. -/
theorem Move.vacant (hmove : Move allowed p flow c) (hsound : Sound config p)
    (h : Vacant inside p) (hallowed : ∀ actor site act, allowed actor site act →
      act.isAcquire = true → inside site) : Vacant inside c.1 ∧ callsOf c.2 = [] := by
  have hcalls {index : Nat} {effects : List Site.Effect}
      (hquiet : ∀ effect ∈ effects, effect.isCall = false) :
      callsOf (effects.map (.site index)) = [] := by
    rw [callsOf_site, List.filter_eq_nil_iff.2 (by simpa using hquiet), List.map_nil]
  cases hmove with
  | books hbooks hquiet => exact ⟨h.of_eq hbooks.sites, hquiet⟩
  -- a new site is empty, and those that were closed stand where they stood
  | found d hquiet =>
    refine ⟨⟨fun site t ht => ?_, fun site hsite => ?_⟩, hquiet⟩
    · rcases List.mem_append.1 (List.mem_of_getElem? ht) with hold | hnew
      · obtain ⟨index, hindex⟩ := List.mem_iff_getElem?.1 hold
        exact h.bare index t hindex
      · obtain rfl := List.mem_singleton.1 hnew
        exact Site.bare_fresh d
    · obtain ⟨s, hs, hclosed⟩ := h.shut site hsite
      have hlt := (List.getElem?_eq_some_iff.1 hs).1
      exact ⟨s, (List.getElem?_append_left hlt).trans hs, hclosed⟩
  | ask d => exact ⟨h.of_eq rfl, rfl⟩
  | forget hknown hsite => exact ⟨h.of_eq rfl, rfl⟩
  | site hact hs hcaller hexchange =>
    obtain ⟨hvacant, hquiet⟩ := h.setSite hsound hs (hallowed _ _ _ hact)
    exact ⟨hvacant, hcalls hquiet⟩
  | act hact hknown hs hnext =>
    obtain ⟨hvacant, hquiet⟩ := h.setSite hsound hs (hallowed _ _ _ hact)
    exact ⟨hvacant.of_eq (proceed_sites _ _ _), hcalls hquiet⟩
  -- an exchange keeps a site vacant only if it is sound, so both are carried along
  | swap first second =>
    have hboth := swap_invariant (motive := fun q => Sound config q ∧ Vacant inside q) p
      ⟨hsound, h⟩ (fun q lease conn hq => ⟨hq.1.exchange lease conn, hq.2.exchange hq.1 lease conn⟩)
      first second
    exact ⟨hboth.2, rfl⟩

/-- A provider stays `Vacant` in `Moves` in which no acquisition begins at an open pool, and nothing
is asked for. -/
theorem Moves.vacant (h : Moves allowed p flow c) (hsound : Sound config p)
    (hvacant : Vacant inside p) (hallowed : ∀ actor site act, allowed actor site act →
      act.isAcquire = true → inside site) : Vacant inside c.1 ∧ callsOf c.2 = [] := by
  induction h with
  | nil p => exact ⟨hvacant, rfl⟩
  | cons hmove _ ih =>
    obtain ⟨hfirst, hquiet⟩ := hmove.vacant hsound hvacant hallowed
    obtain ⟨hrest, hstill⟩ := ih (hsound.move hmove) hfirst
    exact ⟨hrest, by rw [callsOf_append, hquiet, hstill]; rfl⟩

/-! ## The end of a disposal -/

/-- `Winding config inside p`: what disposals that are not abrupt keep of a provider, at some of
whose sites acquisitions may still begin. -/
structure Winding (config : Config) (inside : Nat → Prop) (p : Provider) : Prop where
  /-- The provider is `Attended`: it knows its disposals. -/
  attended : Attended config p
  /-- The provider is `Waited`: a site is registered until the wait for its end is over. -/
  waited : Waited p
  /-- When the disposal of the whole provider has been polled, no acquisition is accepted. -/
  polled : p.wholeDisposal ≠ .unpolled → p.isDisposed = true
  /-- Acquisitions begin at sites that are there. -/
  present : ∀ site, inside site → ∃ s, p.sites[site]? = some s
  /-- Without a grace period, nothing is held when the disposal of the whole provider is over. -/
  vacant : config.disposeGrace = none → p.wholeDisposal = .finished → Vacant inside p

namespace Winding

theorem changeSite (h : Winding config inside p) {change : Site → Site.Change}
    (hattended : Attended config (p.changeSite index change).1)
    (hwaited : Waited (p.changeSite index change).1)
    (hmoves : Moves (fun _ _ act => act.isAcquire = false) p .none (p.changeSite index change)) :
    Winding config inside (p.changeSite index change).1 := by
  obtain ⟨-, -, hdisposed, hwhole, -⟩ := Agenda.mk.inj (agenda_changeSite index change p)
  refine ⟨hattended, hwaited, ?_, fun site hsite => ?_, fun hgrace hfinished => ?_⟩
  · rw [hwhole, hdisposed]
    exact h.polled
  · obtain ⟨s, hs⟩ := h.present site hsite
    obtain ⟨t, ht, -⟩ := hmoves.descends.site hs
    exact ⟨t, ht⟩
  · refine (hmoves.vacant h.attended.sound (h.vacant hgrace (hwhole ▸ hfinished)) ?_).1
    intro actor site act hact hacquire
    cases hact.symm.trans hacquire

/-- A provider stays `Winding` at a `Part` of a disposal that is not abrupt. The last part of the
disposal of the whole provider finds nothing registered, and so the wait for the end of every site
is over. -/
theorem part (h : Winding config inside p) (hpart : Part False clock p q) :
    Winding config inside q := by
  have hattended := h.attended.part hpart
  have hwaited := h.waited.part hpart not_false
  cases hpart with
  | shut index => exact h.changeSite hattended hwaited (shutDown_moves rfl p)
  | @look m hclock index hclosed => exact h.changeSite hattended hwaited (pollDrain_moves rfl p)
  | unregister | ask | conclude =>
    exact ⟨hattended, hwaited, h.polled, h.present, fun hgrace hfinished =>
      (h.vacant hgrace hfinished).of_eq rfl⟩
  | refuse =>
    exact ⟨hattended, hwaited, fun _ => rfl, h.present, fun hgrace hfinished =>
      (h.vacant hgrace hfinished).of_eq rfl⟩
  | wait sites hdisposed =>
    exact ⟨hattended, hwaited, fun _ => hdisposed, h.present, fun _ => nofun⟩
  -- whoever is not registered any more was waited for
  | finish hdisposed hregistry =>
    refine ⟨hattended, hwaited, fun _ => hdisposed, h.present, fun hgrace _ => ?_⟩
    have hended : ∀ (site : Nat) (s : Site), p.sites[site]? = some s → s.Ended := by
      intro site s hs
      have hdrain := h.waited site s hs (by rw [hregistry]; nofun)
      exact (Site.timeless_of_driven hgrace (h.attended.site hs)).finished hdrain
    refine ⟨fun site s hs => (hended site s hs).bare (h.attended.sound.here hs),
      fun site hsite => ?_⟩
    obtain ⟨s, hs⟩ := h.present site hsite
    exact ⟨s, hs, (hended site s hs).closed⟩
  | lapse habrupt => exact habrupt.elim

end Winding

namespace Threaded

variable {t u v : Threaded} {act : Act} {effects more : List Effect} {id : Nat} {d : Destination}

/-! ## What every run keeps -/

/-- `Kept config t`: what holds of every provider that steps of several threads lead to. -/
structure Kept (config : Config) (t : Threaded) : Prop where
  /-- Its disposals are `Winding`. -/
  winding : Winding config t.MayEnter t.provider
  /-- The provider is `Linked`: acquisitions and sites agree. -/
  linked : Linked t.provider
  /-- First polls are `Entering`. -/
  entering : t.Entering
  /-- Whoever has found a site has found one that is there. -/
  found : ∀ id d site, t.entrances id = some (.found d site) → ∃ s, t.provider.sites[site]? = some s

/-- A provider on which nobody works yet is `Kept`. -/
theorem kept_start (config : Config) : (start config).Kept config := by
  have hwinding : Winding config (start config).MayEnter (start config).provider := by
    refine ⟨attended_of_reachable .start, fun site s hs => ?_, fun hpolled => absurd rfl hpolled,
      fun site hsite => ?_, fun _ => nofun⟩
    · cases hs
    · obtain ⟨id, d, hentrance⟩ := hsite
      cases hentrance
  exact ⟨hwinding, .start config, fun id _ => nofun, fun id d site => nofun⟩

namespace Kept

theorem sound (h : t.Kept config) : Sound config t.provider := h.winding.attended.sound

/-- Every `Step` keeps acquisitions and sites `Linked`. -/
theorem linked_step (h : t.Kept config) (hstep : Step t act effects u) :
    Sound config u.provider ∧ Linked u.provider := by
  obtain ⟨allowed, hmoves, -⟩ := hstep.moves h.entering
  exact hmoves.invariant (motive := fun p => Sound config p ∧ Linked p)
    (fun _ _ _ hp hmove => ⟨hp.1.move hmove, hp.2.move hp.1 hmove⟩) ⟨h.sound, h.linked⟩

/-- No `Step` removes a site. -/
theorem site_step (h : t.Kept config) (hstep : Step t act effects u)
    (hs : t.provider.sites[site]? = some s) : ∃ s', u.provider.sites[site]? = some s' := by
  obtain ⟨allowed, hmoves, -⟩ := hstep.moves h.entering
  obtain ⟨s', hs', -⟩ := hmoves.descends.site hs
  exact ⟨s', hs'⟩

/-- After a `Step`, what is found, and where somebody may begin, is there. -/
theorem found_step (h : t.Kept config) (hstep : Step t act effects u) (id : Nat) (d : Destination)
    (site : Nat) (hentrance : u.entrances id = some (.found d site)) :
    ∃ s, u.provider.sites[site]? = some s := by
  obtain hstays | ⟨_, heq, -⟩ | ⟨d', heq, -, hprovider⟩ | ⟨_, _, heq, -⟩ :=
    hstep.entrance_cases hentrance
  · obtain ⟨s, hs⟩ := h.found id d site hstays
    exact h.site_step hstep hs
  · cases heq
  · obtain ⟨rfl, rfl⟩ := Entrance.found.inj heq
    obtain ⟨s, hs, -⟩ := siteFor_cases h.sound d
    exact ⟨s, hprovider ▸ hs⟩
  · cases heq

theorem present_step (h : t.Kept config) (hstep : Step t act effects u) (site : Nat)
    (hsite : u.MayEnter site) : ∃ s, u.provider.sites[site]? = some s := by
  obtain ⟨id, d, hentrance⟩ := hsite
  have hbefore : ∃ s, t.provider.sites[site]? = some s := by
    obtain hstays | ⟨_, heq, -⟩ | ⟨_, heq, -⟩ | ⟨_, _, heq, hfound, -⟩ :=
      hstep.entrance_cases hentrance
    · exact h.winding.present site ⟨id, d, hstays⟩
    · cases heq
    · cases heq
    · obtain ⟨rfl, rfl⟩ := Entrance.cleared.inj heq
      exact h.found id d site hfound
  obtain ⟨s, hs⟩ := hbefore
  exact h.site_step hstep hs

/-- A provider that `isDisposed` and is `Vacant` stays so at every `Step`, and nothing is
asked for. -/
theorem vacant_step (h : t.Kept config) (hstep : Step t act effects u)
    (hdisposed : t.provider.isDisposed = true) (hvacant : Vacant t.MayEnter t.provider) :
    Vacant u.MayEnter u.provider ∧ callsOf effects = [] := by
  obtain ⟨allowed, hmoves, hallowed⟩ := hstep.moves h.entering
  obtain ⟨hafter, hquiet⟩ := hmoves.vacant h.sound hvacant (hallowed hdisposed)
  exact ⟨hafter.mono fun site hsite => hstep.mayEnter hdisposed hsite, hquiet⟩

/-- Every `Step` leaves the provider `Kept`. -/
theorem step (h : t.Kept config) (hstep : Step t act effects u) : u.Kept config := by
  obtain ⟨hsound, hlinked⟩ := h.linked_step hstep
  have hattended := h.winding.attended
  refine ⟨?_, hlinked, h.entering.step hattended hstep, h.found_step hstep⟩
  obtain hapart | ⟨clock, hparts, hentrances⟩ := hstep.apart_or_parts hattended h.entering
  · obtain ⟨hdisposed, hwhole, -⟩ := hapart.unchanged
    refine ⟨hattended.apart hsound hapart, h.winding.waited.apart hapart, ?_, h.present_step hstep,
      fun hgrace hfinished => ?_⟩
    · rw [hwhole, hdisposed]
      exact h.winding.polled
    · -- it was over before
      rw [hwhole] at hfinished
      exact (h.vacant_step hstep (h.winding.polled (by simp [hfinished]))
        (h.winding.vacant hgrace hfinished)).1
  · have hsame : u.MayEnter = t.MayEnter := by
      funext site
      rw [MayEnter, MayEnter, hentrances]
    rw [hsame]
    exact Parts.invariant (fun _ _ hp hpart => Winding.part hp hpart) h.winding hparts

/-- Every `Run` leaves the provider `Kept`. -/
theorem run (h : t.Kept config) {flow : Flow} (hrun : Run t flow effects u) : u.Kept config := by
  induction hrun with
  | nil => exact h
  | step _ hstep ih => exact ih.step hstep

/-- A provider that `isDisposed` is so after every `Step`. -/
theorem disposed_step (h : t.Kept config) (hstep : Step t act effects u)
    (hdisposed : t.provider.isDisposed = true) : u.provider.isDisposed = true := by
  obtain hapart | ⟨clock, hparts, -⟩ := hstep.apart_or_parts h.winding.attended h.entering
  · exact hapart.unchanged.1.trans hdisposed
  · exact hparts.narrows.disposed hdisposed

end Kept

/-- Whatever steps lead to is `Kept`. -/
theorem kept_of_run {flow : Flow} (hrun : Run (start config) flow effects t) : t.Kept config :=
  (kept_start config).run hrun

/-! ## Nothing is left, and nothing follows -/

/-- `Learns t id act result`: an unfinished acquisition learns the result at the step, and
is over. -/
inductive Learns (t : Threaded) (id : Nat) : Act → Except PoolError SiteConnection → Prop
  /-- It learns it where `Provider.step` is one step. -/
  | operates {event : Event} {result : Except PoolError SiteConnection}
      (hlearns : t.provider.Learns id event result) : Learns t id (.operate event) result
  /-- It is refused at its first look. -/
  | refused (hdisposed : t.provider.isDisposed = true) : Learns t id (.look id) (.error .poolClosed)
  /-- It is refused at its second look. -/
  | turnedAway (hdisposed : t.provider.isDisposed = true) :
      Learns t id (.lookAgain id) (.error .poolClosed)
  /-- It begins at its site. -/
  | enters {m : Moment} {d : Destination} {site : Nat} {result : Except PoolError SiteConnection}
      (hentrance : t.entrances id = some (.cleared d site))
      (hresult : (t.provider.enter m id d site).1 = .finished result) :
      Learns t id (.enter m id) result

/-- `Connects t act`: the transport is asked at the step to open a connection for a caller. -/
inductive Connects (t : Threaded) : Act → Prop
  /-- An acquisition is polled. -/
  | polled {m : Moment} {id : Nat} {d : Destination}
      (hresult : (t.provider.poll m id).1 = .connecting d) : Connects t (.operate (.poll m id))
  /-- An acquisition begins at its site. -/
  | enters {m : Moment} {id site : Nat} {d : Destination}
      (hentrance : t.entrances id = some (.cleared d site))
      (hresult : (t.provider.enter m id d site).1 = .connecting d) : Connects t (.enter m id)

/-- `enter` at a closed pool refuses the acquisition. -/
theorem enter_of_closed (hs : p.sites[site]? = some s) (hclosed : s.pool.closed = true) (m : Moment)
    (id : Nat) (d : Destination) : (p.enter m id d site).1 = .finished (.error .poolClosed) := by
  obtain ⟨-, heq⟩ | ⟨hopen, -⟩ := Site.acquire_cases p.config m s
  · simp [enter_eq, changeSiteReporting, hs, heq, Progress.ofTicket]
  · cases hclosed.symm.trans hopen

/-- `Concluded t`: nothing is left of the provider, and nothing that any thread does next asks the
transport for anything or gives anybody a connection. -/
structure Concluded (t : Threaded) : Prop where
  /-- No acquisition is accepted. -/
  disposed : t.provider.isDisposed = true
  /-- No slot is taken at any site, nothing is being closed, and no connection is held or opened. -/
  sites : ∀ (site : Nat) (s : Site), t.provider.sites[site]? = some s →
    s.pool.allocated = 0 ∧ s.pool.closing = 0 ∧ s.holdings = [] ∧ s.openings = []
  /-- The transport is not called to close a connection or to open one for a queue. -/
  calls : ∀ act effects u, Step t act effects u → callsOf effects = []
  /-- It is not called to open one for a caller. -/
  connects : ∀ act, ¬ t.Connects act
  /-- Nobody gets a connection. -/
  learns : ∀ id act lease, ¬ t.Learns id act (.ok lease)

/-- `Vacated t`: no acquisitions are accepted, and no site holds anything. -/
structure Vacated (t : Threaded) : Prop where
  /-- No acquisition is accepted. -/
  disposed : t.provider.isDisposed = true
  /-- The provider is `Vacant`. -/
  vacant : Vacant t.MayEnter t.provider

namespace Vacated

theorem step (hv : t.Vacated) (h : t.Kept config) (hstep : Step t act effects u) :
    u.Vacated ∧ callsOf effects = [] := by
  obtain ⟨hvacant, hquiet⟩ := h.vacant_step hstep hv.disposed hv.vacant
  exact ⟨⟨h.disposed_step hstep hv.disposed, hvacant⟩, hquiet⟩

theorem run (hv : t.Vacated) (h : t.Kept config) {flow : Flow} (hrun : Run t flow effects u) :
    u.Vacated ∧ callsOf effects = [] := by
  induction hrun with
  | nil => exact ⟨hv, rfl⟩
  | step hbefore hstep ih =>
    obtain ⟨hvacated, hquiet⟩ := ih
    obtain ⟨hafter, hstill⟩ := hvacated.step (h.run hbefore) hstep
    exact ⟨hafter, by rw [callsOf_append, hquiet, hstill]; rfl⟩

/-- Where a provider is `Vacated`, whoever may begin is refused. -/
theorem enter (hv : t.Vacated) (hentrance : t.entrances id = some (.cleared d site)) (m : Moment) :
    (t.provider.enter m id d site).1 = .finished (.error .poolClosed) := by
  obtain ⟨s, hs, hclosed⟩ := hv.vacant.shut site ⟨id, d, hentrance⟩
  exact enter_of_closed hs hclosed m id d

/-- Where a provider is `Vacated`, nobody waits for a connection to be opened. -/
theorem not_opening (hv : t.Vacated) (h : t.Kept config) {opening : Nat} :
    t.provider.acquisitions.lookup id ≠ some (.opening d site opening) := by
  intro hknown
  obtain ⟨s, hs, hopening⟩ := isOpening_of_lookup h.linked hknown
  rw [(hv.vacant.bare site s hs).isOpening_eq_false] at hopening
  cases hopening

/-- Where a provider is `Vacated`, nobody is told to wait for the transport. -/
theorem poll_ne_connecting (hv : t.Vacated) (h : t.Kept config) (m : Moment) (id : Nat)
    (d : Destination) : (t.provider.poll m id).1 ≠ .connecting d := by
  rw [Provider.poll]
  split
  · rintro ⟨⟩
  · rw [start_of_disposed hv.disposed]
    rintro ⟨⟩
  · rename_i hknown
    exact absurd hknown (hv.not_opening h)
  · unfold pollQueued
    dsimp only
    split <;> rintro ⟨⟩

/-- Where a provider is `Vacated`, nobody gets a connection. -/
theorem not_learns (hv : t.Vacated) (h : t.Kept config) (id : Nat) (act : Act)
    (lease : SiteConnection) : ¬ t.Learns id act (.ok lease) := by
  intro hlearns
  cases hlearns with
  | enters hentrance hresult =>
    rw [hv.enter hentrance] at hresult
    cases hresult
  | operates hlearns =>
    obtain ⟨m, d, -, hgiven⟩ | ⟨m, site, request, deadline, s, outcome, -, hs, hpoll, hgiven⟩ |
      ⟨d, site, opening, s, hknown, -⟩ := learns_cases h.linked hlearns
    · rw [start_of_disposed hv.disposed] at hgiven
      cases hgiven
    · obtain ⟨-, rfl⟩ := eq_ok_of_map hgiven
      exact (hv.vacant.bare site s hs).poll_ne_ok m request _ hpoll
    · exact hv.not_opening h hknown

/-- A provider that is `Vacated` is `Concluded`: nothing is left, and nothing follows. -/
theorem concluded (hv : t.Vacated) (h : t.Kept config) : t.Concluded := by
  refine ⟨hv.disposed, fun site s hs => ?_, fun act effects u hstep => (hv.step h hstep).2,
    fun act hconnects => ?_, hv.not_learns h⟩
  · have hbare := hv.vacant.bare site s hs
    obtain ⟨hallocated, hclosing, hholdings⟩ := hbare.counters (h.sound.here hs)
    exact ⟨hallocated, hclosing, hholdings, hbare.openings⟩
  · cases hconnects with
    | polled hresult => exact hv.poll_ne_connecting h _ _ _ hresult
    | enters hentrance hresult =>
      rw [hv.enter hentrance] at hresult
      cases hresult

/-- Where a provider is `Vacated`, nothing is `held`. -/
theorem held (hv : t.Vacated) (h : t.Kept config) : t.provider.held = [] := by
  refine List.flatMap_eq_nil_iff.2 fun s hs => ?_
  obtain ⟨site, hsite⟩ := List.mem_iff_getElem?.1 hs
  rw [((hv.vacant.bare site s hsite).counters (h.sound.here hsite)).2.2, List.map_nil]

end Vacated

/-- Every `Run` `Conserves` what is held. -/
theorem Run.conserves (h : t.Kept config) {flow : Flow} (hrun : Run t flow effects u) :
    Conserves t.provider flow (u.provider, effects) := by
  induction hrun with
  | nil => exact .of_eq rfl rfl rfl
  | step hbefore hstep ih =>
    have hkept := h.run hbefore
    obtain ⟨allowed, hmoves, -⟩ := hstep.moves hkept.entering
    exact ih.append (hmoves.conserves hkept.sound)

/-! ## The registry -/

namespace Kept

/-- The `Step` that finishes the disposal of the whole provider finds nothing registered. -/
theorem registry_of_finishing (h : t.Kept config) (hstep : Step t act effects u)
    (hbefore : t.provider.wholeDisposal ≠ .finished)
    (hafter : u.provider.wholeDisposal = .finished) : u.provider.registry = [] := by
  obtain hapart | ⟨clock, hparts, -⟩ := hstep.apart_or_parts h.winding.attended h.entering
  · exact absurd (hapart.unchanged.2.1.symm.trans hafter) hbefore
  -- the registry is empty when the disposal ends, and no part of a disposal registers a site
  · refine Parts.invariant
      (motive := fun p => p.wholeDisposal = .finished → p.registry = []) (fun p q hp hpart => ?_)
      (fun hfinished => absurd hfinished hbefore) hparts hafter
    cases hpart with
    | finish hdisposed hregistry => exact fun _ => hregistry
    | wait => nofun
    | lapse habrupt => exact habrupt.elim
    | refuse | ask | conclude => exact hp
    | unregister =>
      intro hfinished
      rw [unregister, hp hfinished]
      rfl
    | shut index =>
      obtain ⟨hregistry, -, -, hwhole, -⟩ := Agenda.mk.inj (agenda_changeSite index Site.shutDown p)
      rw [hregistry, hwhole]
      exact hp
    | @look m hclock index =>
      obtain ⟨hregistry, -, -, hwhole, -⟩ :=
        Agenda.mk.inj (agenda_changeSite index (Site.pollDrain p.config m) p)
      rw [hregistry, hwhole]
      exact hp

/-- Where a provider `isDisposed`, and nobody is `admitted`, which is let in at its first look only,
no `Step` registers a site or lets anybody in. -/
theorem registry_step (h : t.Kept config) (hstep : Step t act effects u)
    (hdisposed : t.provider.isDisposed = true)
    (hnone : ∀ id d, t.entrances id ≠ some (.admitted d)) :
    u.provider.registry.Sublist t.provider.registry ∧
      ∀ id d, u.entrances id ≠ some (.admitted d) := by
  refine ⟨?_, fun id d hentrance => ?_⟩
  -- where nothing is accepted, only `finds` registers a site, and nobody has come to it
  · cases hstep with
    | operates horderly hothers =>
      exact (step_narrows h.winding.attended hdisposed _).registry
    | disposes hpart =>
      obtain ⟨clock, hpart⟩ := hpart.part
      exact hpart.narrows.registry
    | finds hentrance => exact absurd hentrance (hnone _ _)
    | refused | admitted | cleared => exact .refl _
    | turnedAway => exact (Narrows.changeSite _ Site.shutDown _).registry
    | enters m hentrance => exact (Narrows.of_agenda (agenda_enter m _ _ _ _)).registry
  -- nobody is let in at a first look
  · obtain hstays | ⟨_, -, haccepting⟩ | ⟨_, heq, -⟩ | ⟨_, _, heq, -⟩ :=
      hstep.entrance_cases hentrance
    · exact hnone id d hstays
    · cases hdisposed.symm.trans haccepting
    · cases heq
    · cases heq

theorem registry_run (h : t.Kept config) {flow : Flow} (hrun : Run t flow effects u)
    (hdisposed : t.provider.isDisposed = true)
    (hnone : ∀ id d, t.entrances id ≠ some (.admitted d)) :
    u.provider.registry.Sublist t.provider.registry := by
  have hall : u.Kept config ∧ u.provider.isDisposed = true ∧
      (∀ id d, u.entrances id ≠ some (.admitted d)) ∧
      u.provider.registry.Sublist t.provider.registry := by
    induction hrun with
    | nil => exact ⟨h, hdisposed, hnone, .refl _⟩
    | step _ hstep ih =>
      obtain ⟨hkept, hdisposed, hnone, hbefore⟩ := ih
      obtain ⟨hregistry, hnone'⟩ := hkept.registry_step hstep hdisposed hnone
      exact ⟨hkept.step hstep, hkept.disposed_step hstep hdisposed, hnone',
        hregistry.trans hbefore⟩
  exact hall.2.2.2

end Kept

/-! ## The disposal of one destination -/

/-- `Dismantled site t`: nothing is left of the pool of the site, and nothing that any thread does
next asks the transport for anything on its account or gives anybody a connection of it. -/
structure Dismantled (site : Nat) (t : Threaded) : Prop where
  /-- The pool has `Site.Ended`, and no connection is held or opened. -/
  pool : ∃ s, t.provider.sites[site]? = some s ∧ s.Ended ∧ s.holdings = [] ∧ s.openings = []
  /-- It serves no destination. -/
  registry : ∀ d, (d, site) ∉ t.provider.registry
  /-- The transport is not called. -/
  calls : ∀ act effects u, Step t act effects u → ∀ effect, (site, effect) ∉ callsOf effects
  /-- Nobody gets a connection. -/
  learns : ∀ id act connection, ¬ t.Learns id act (.ok ⟨site, connection⟩)

namespace Kept

theorem retired_run (h : t.Kept config) {flow : Flow} (hrun : Run t flow effects u)
    (hretired : Retired site t.provider) : Retired site u.provider := by
  induction hrun with
  | nil => exact hretired
  | step hbefore hstep ih =>
    have hkept := h.run hbefore
    obtain ⟨allowed, hmoves, -⟩ := hstep.moves hkept.entering
    exact ih.moves hkept.sound hmoves

/-- A site that is `Retired` is `Dismantled`. -/
theorem dismantled (h : t.Kept config) (hretired : Retired site t.provider) :
    t.Dismantled site := by
  obtain ⟨s, hs, hended⟩ := hretired.ended
  have hsite : ∀ t', t.provider.sites[site]? = some t' → t'.Ended := by
    intro t' ht'
    obtain rfl := Option.some.inj (hs.symm.trans ht')
    exact hended
  refine ⟨⟨s, hs, hended, hended.holdings (h.sound.here hs)⟩, fun d hd => ?_,
    fun act effects u hstep effect => ?_, fun id act connection hlearns => ?_⟩
  · exact hretired.unregistered (List.mem_map.2 ⟨_, hd, rfl⟩)
  · obtain ⟨allowed, hmoves, -⟩ := hstep.moves h.entering
    exact hretired.notMem_callsOf h.sound hmoves effect
  · cases hlearns with
    | operates hlearns =>
      -- a connection comes from a site that has not ended, or that is registered, or that is new
      obtain ⟨t', ht', hnot⟩ | ⟨-, hregistered | hle⟩ := source_of_learns h.sound h.linked hlearns
      · exact hnot (hsite t' ht')
      · exact hretired.unregistered hregistered
      · exact absurd (List.getElem?_eq_some_iff.1 hs).1 (Nat.not_lt.2 hle)
    | @enters m d other _ hentrance hresult =>
      -- the site that gives a connection is the one at which the acquisition begins
      obtain ⟨known, hknown⟩ := h.winding.present other ⟨id, d, hentrance⟩
      have hticket := hresult
      rw [enter_eq] at hticket
      simp only [changeSiteReporting, hknown, Option.map_some, Option.getD_some] at hticket
      rcases hgiven : (known.acquire t.provider.config m).1 with error | ⟨lease⟩ | ⟨opening⟩ |
        ⟨request, deadline⟩ <;> rw [hgiven] at hticket <;> cases hticket
      rw [enter_of_closed hknown (hsite known hknown).closed] at hresult
      cases hresult

/-- A disposal that `WaitsFor` a site goes on to in every `Run`. -/
theorem waitsFor_run (h : t.Kept config) {flow : Flow} (hrun : Run t flow effects u)
    {disposal : Nat} (hwaits : WaitsFor disposal site t.provider) :
    WaitsFor disposal site u.provider := by
  induction hrun with
  | nil => exact hwaits
  | step hbefore hstep ih =>
    have hkept := h.run hbefore
    obtain hapart | ⟨clock, hparts, -⟩ :=
      hstep.apart_or_parts hkept.winding.attended hkept.entering
    · exact ih.apart hapart
    · exact Parts.invariant (fun _ _ hp hpart => WaitsFor.part hp hpart) ih hparts

end Kept

/-! ## Disposals close everything -/

/-- What a run has made of its disposals, where no grace period is set. -/
structure Settled (flow : Flow) (t : Threaded) : Prop where
  /-- When the disposal of the whole provider is over, every connection that the transport handed
  over has been closed or was taken for good. -/
  closed : t.provider.isDisposalFinished .whole = true →
    (flow.detached ++ flow.closed).Perm flow.arrived
  /-- The provider is `Concluded` then and after any further steps, and those ask nothing of the
  transport. -/
  concluded : t.provider.isDisposalFinished .whole = true → ∀ flow effects u,
    Run t flow effects u → u.Concluded ∧ callsOf effects = []
  /-- At the step at which it ends, no site is registered. -/
  unregistered : ∀ act effects u, Step t act effects u →
    t.provider.isDisposalFinished .whole = false →
      u.provider.isDisposalFinished .whole = true → u.provider.registry = []
  /-- Where no acquisitions are accepted, only those register a site that had their first look
  before and have not found one yet. -/
  registers : t.provider.isDisposed = true → (∀ id d, t.entrances id ≠ some (.admitted d)) →
    ∀ flow effects u, Run t flow effects u → u.provider.registry.Sublist t.provider.registry
  /-- When the disposal of a destination is asked for, whoever waits at its site is told that the
  pool is closed. -/
  told : ∀ d site, t.provider.siteOf? d = some site → ∀ w : Waiter, w.site = site →
    w.Waits t.provider →
      w.Answered (.error .poolClosed) (t.provider.step (.disposeWhen d)).1
  /-- When it is over, the site is `Dismantled`, and it is so after any further steps. -/
  dismantled : ∀ d site, t.provider.siteOf? d = some site → ∀ flow effects u,
    Run ⟨(t.provider.step (.disposeWhen d)).1, t.entrances⟩ flow effects u →
      u.provider.isDisposalFinished (t.provider.disposeWhen d).1 = true →
        ∀ flow effects v, Run u flow effects v → v.Dismantled site

/-- Without a `disposeGrace`, every provider is `Settled` whatever several threads do: a disposal
that is over has closed everything, and nothing follows. -/
theorem disposals_close_all (hgrace : config.disposeGrace = none) {flow : Flow}
    (hrun : Run (start config) flow effects t) : t.Settled flow := by
  have hkept : t.Kept config := kept_of_run hrun
  have hvacated : t.provider.isDisposalFinished .whole = true → t.Vacated := by
    intro hover
    have hfinished : t.provider.wholeDisposal = .finished := by
      simpa [isDisposalFinished] using hover
    exact ⟨hkept.winding.polled (by simp [hfinished]), hkept.winding.vacant hgrace hfinished⟩
  refine
    { closed := fun hover => ?_
      concluded := fun hover flow effects u hlater => ?_
      unregistered := fun act effects u hstep hbefore hafter => ?_
      registers := fun hdisposed hnone flow effects u hlater =>
        hkept.registry_run hlater hdisposed hnone
      told := fun d site hserves w hsite hw =>
        answered_of_disposeWhen hkept.winding.attended hkept.linked hserves hsite hw
      dismantled := fun d site hserves flow effects u hsince hover flow' effects' v hlater => ?_ }
  · have hconserves := (hrun.conserves (kept_start config)).held
    rw [(hvacated hover).held hkept] at hconserves
    exact hconserves
  · obtain ⟨hafter, hquiet⟩ := (hvacated hover).run hkept hlater
    exact ⟨hafter.concluded (hkept.run hlater), hquiet⟩
  · refine hkept.registry_of_finishing hstep (by simpa [isDisposalFinished] using hbefore) ?_
    simpa [isDisposalFinished] using hafter
  · -- the disposal is asked for in one step, and waits for the site from then on
    have hasked : Step t (.operate (.disposeWhen d)) _ _ :=
      .operates trivial fun _ hactor => by cases hactor
    have hu := (hkept.step hasked).run hsince
    obtain ⟨hdisposal, hwaits⟩ := waitsFor_of_disposeWhen hserves
    rw [hdisposal] at hover
    have hretired := ((hkept.step hasked).waitsFor_run hsince hwaits).retired hgrace
      hu.winding.attended hover
    exact (hu.run hlater).dismantled (hu.retired_run hlater hretired)

/-- What happens to a provider in single steps only, `Orderly` and while nobody polls for the first
time, is a `Run`. -/
theorem run_of_orderly (hnone : ∀ id, t.entrances id = none) {events : List Event}
    (horderly : Orderly t.provider events) :
    ∃ flow effects, Run t flow effects ⟨t.provider.run events, t.entrances⟩ := by
  induction events generalizing t with
  | nil => exact ⟨_, _, .nil t⟩
  | cons event events ih =>
    have hfirst := (Run.nil t).step (.operates horderly.1 fun id _ => hnone id)
    obtain ⟨flow, effects, hrest⟩ :=
      ih (t := ⟨(t.provider.step event).1, t.entrances⟩) hnone horderly.2
    exact ⟨_, _, hfirst.trans hrest⟩

/-- An acquisition is let in at its first look, everything is disposed of, and then the acquisition
finds its site and is refused at its second look. -/
theorem run_foundTooLate : ∃ flow effects t, Run (start .oneSlot) flow effects t ∧
    t.provider.isDisposalFinished .whole = true ∧
    t.provider.registry = [(.ofAddress "db:1", 0)] := by
  let asked : Threaded := ⟨(ofConfig .oneSlot).run [.acquire (.ofAddress "db:1")], fun _ => none⟩
  have hasked : Step (start .oneSlot) (.operate (.acquire (.ofAddress "db:1"))) [] asked :=
    .operates trivial nofun
  have hlooks : Step asked (.look 0) [] (asked.goOn 0 (some (.admitted (.ofAddress "db:1"))) _) :=
    .admitted rfl rfl rfl
  have hadmitted := ((Run.nil _).step hasked).step hlooks
  -- the whole disposal takes place between the first look and the registry
  have hdisposed := hadmitted.step (.operates (show Event.IsOrderly _ .dispose from trivial) nofun)
  have hpolled := hdisposed.step
    (.operates (show Event.IsOrderly _ (.pollDisposal (.atMillis 1) .whole) from fun _ => rfl)
      nofun)
  have hfound := hpolled.step (.finds (Function.update_self _ _ _))
  have hturned := hfound.step (.turnedAway (Function.update_self _ _ _) rfl)
  exact ⟨_, _, _, hturned, rfl, rfl⟩

/-- An acquisition that finds its site too late leaves it registered, and nothing follows all the
same. Whoever waits when a destination is disposed of is told. -/
theorem disposals_close_all_foundTooLate :
    (∃ flow effects t, Run (start .oneSlot) flow effects t ∧
      t.provider.isDisposalFinished .whole = true ∧
      t.provider.registry = [(.ofAddress "db:1", 0)] ∧ t.Concluded) ∧
    Waiter.Answered ⟨1, 0, 1, .ofMillis 1000⟩ (.error .poolClosed)
      (((ofConfig .oneSlot).run crowded).step (.disposeWhen (.ofAddress "db:1"))).1 := by
  constructor
  · obtain ⟨flow, effects, t, hrun, hover, hregistry⟩ := run_foundTooLate
    have hsettled := disposals_close_all rfl hrun
    exact ⟨flow, effects, t, hrun, hover, hregistry, (hsettled.concluded hover _ _ _ (.nil t)).1⟩
  · have horderly : Orderly (start .oneSlot).provider crowded :=
      ⟨trivial, trivial, trivial, trivial, trivial, trivial⟩
    obtain ⟨flow, effects, hrun⟩ := run_of_orderly (t := start .oneSlot) (fun _ => rfl) horderly
    exact (disposals_close_all rfl hrun).told (.ofAddress "db:1") 0 rfl
      ⟨1, 0, 1, .ofMillis 1000⟩ rfl ⟨rfl, _, rfl, ⟨_, rfl, rfl⟩, rfl⟩

/-- A site can be registered when the disposal of the whole provider is over. -/
theorem not_always_unregistered :
    ¬ ∀ (config : Config) (flow : Flow) (effects : List Effect) (t : Threaded),
      config.disposeGrace = none → Run (start config) flow effects t →
        t.provider.isDisposalFinished .whole = true → t.provider.registry = [] := by
  intro h
  obtain ⟨flow, effects, t, hrun, hover, hregistry⟩ := run_foundTooLate
  rw [h .oneSlot flow effects t rfl hrun hover] at hregistry
  cases hregistry

end Threaded

end ConnectionPool.Provider
