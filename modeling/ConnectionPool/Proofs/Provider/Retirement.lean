import ConnectionPool.Proofs.Provider.Custody
import ConnectionPool.Proofs.Provider.Departures
import ConnectionPool.Proofs.Provider.Resolution

/-!
# The end of a disposal

Where no grace period is set, a disposal is over only when nothing is left of what it disposes of,
and it stays so whatever happens afterwards: no connection is opened or closed any more, nobody gets
one, and no site takes the place of what was disposed of.

The disposal of one destination is the end of one site. For the disposal of the whole provider to be
the end of all its sites, it must be orderly: a provider disposed of where no task can be started
forgets its sites before they have ended, and so does one that nothing keeps alive when its disposal
is first polled.

## Main definitions

* `Retired`: a site has ended and is not registered.
* `Emptied`: all sites of a provider that accepts no acquisitions have ended.
* `Orderly`: events that leave a disposal of the whole provider its time.

## Main results

* `Retired.run`, `Emptied.run`: what is over stays so.
* `Retired.dismantled`, `Emptied.dissolved`: nothing follows.
* `Tidy.run`: an orderly disposal forgets no site before it has ended.
* `disposals_are_final`: when a disposal is over, nothing is left and nothing follows.
-/

namespace ConnectionPool.Provider

variable {config : Config} {allowed : Actors} {p q : Provider} {flow : Flow} {c : Change}
  {event : Event} {abrupt : Prop} {clock : Option Moment} {site index : Nat} {s t : Site}

/-- The sites of a `Sound` provider are `Reachable` under its own configuration. -/
theorem Sound.here (h : Sound config p) (hs : p.sites[index]? = some s) :
    Site.Reachable p.config s :=
  h.settings ▸ h.site hs

/-! ## Sites that have ended -/

/-- What the events that may happen at a site keep, the site keeps where the provider `Descends`. -/
theorem Descends.keeps {may : Nat → Site.Event → Prop} {motive : Site → Prop} (h : Descends may p q)
    (hsound : Sound config p)
    (hkept : ∀ s act, Site.Reachable config s → may site act → motive s →
      motive (s.step config act).1)
    (hs : p.sites[site]? = some s) (hbefore : motive s) :
    ∃ t, q.sites[site]? = some t ∧ motive t := by
  obtain ⟨t, ht, hbecomes⟩ := h.site hs
  rw [hsound.settings] at hbecomes
  have hstays := hbecomes.invariant (motive := fun t => Site.Reachable config t ∧ motive t)
    (fun t act hmay ⟨hreachable, hbefore⟩ =>
      ⟨hreachable.step act, hkept t act hreachable hmay hbefore⟩) ⟨hsound.site hs, hbefore⟩
  exact ⟨t, ht, hstays.2⟩

/-- A site that has `Ended` does so where the provider `Descends`. -/
theorem Descends.ended {may : Nat → Site.Event → Prop} (h : Descends may p q)
    (hsound : Sound config p) (hs : p.sites[site]? = some s) (hended : s.Ended) :
    ∃ t, q.sites[site]? = some t ∧ t.Ended :=
  h.keeps hsound (fun _ act hreachable _ hended => (hended.step hreachable act).1) hs hended

/-- `callsOf` a site are of one that is there. -/
theorem mem_callsOf_setSite {other : Nat} {effects : List Site.Effect} {effect : Site.Effect}
    (h : (site, effect) ∈ callsOf (effects.map (.site other))) :
    site = other ∧ effect ∈ effects ∧ effect.isCall = true := by
  rw [callsOf_site] at h
  obtain ⟨found, hfound, heq⟩ := List.mem_map.1 h
  obtain ⟨rfl, rfl⟩ := Prod.mk.inj heq
  obtain ⟨hmem, hcall⟩ := List.mem_filter.1 hfound
  exact ⟨rfl, hmem, hcall⟩

/-- `callsOf` a `Move` are brought about by events at sites that are there. -/
theorem Move.calls (hmove : Move allowed p flow c) {effect : Site.Effect}
    (h : (site, effect) ∈ callsOf c.2) :
    ∃ s act, p.sites[site]? = some s ∧ effect ∈ (s.step p.config act).2 ∧ effect.isCall = true := by
  cases hmove with
  | books hbooks hquiet | found d hquiet =>
    rw [hquiet] at h
    cases h
  | ask | forget | swap => cases h
  | site hallowed hs hcaller hexchange =>
    obtain ⟨rfl, hmem, hcall⟩ := mem_callsOf_setSite h
    exact ⟨_, _, hs, hmem, hcall⟩
  | act hallowed hknown hs hnext =>
    obtain ⟨rfl, hmem, hcall⟩ := mem_callsOf_setSite h
    exact ⟨_, _, hs, hmem, hcall⟩

/-- What the transport is not called for at a site, whatever happens there, is not among the
`callsOf` any `Moves`. -/
theorem Moves.notMem_callsOf {motive : Site → Prop} {effect : Site.Effect}
    (hkept : ∀ s act, Site.Reachable config s → motive s →
      motive (s.step config act).1 ∧ (effect.isCall = true → effect ∉ (s.step config act).2))
    (h : Moves allowed p flow c) (hsound : Sound config p) (hs : p.sites[site]? = some s)
    (hbefore : motive s) : (site, effect) ∉ callsOf c.2 := by
  induction h generalizing s with
  | nil p => nofun
  | @cons p first rest c d hmove _ ih =>
    rw [callsOf_append, List.mem_append, not_or]
    obtain ⟨t, ht, hstays⟩ := hmove.descends.keeps hsound
      (fun s act hreachable _ hbefore => (hkept s act hreachable hbefore).1) hs hbefore
    refine ⟨fun hcall => ?_, ih (hsound.move hmove) ht hstays⟩
    obtain ⟨known, act, hknown, hmem, hcall⟩ := hmove.calls hcall
    obtain rfl := Option.some.inj (hs.symm.trans hknown)
    rw [hsound.settings] at hmem
    exact (hkept s act (hsound.site hs) hbefore).2 hcall hmem

/-- Sites that are unregistered stay so at every `Move`. -/
theorem Move.notMem_registry (hmove : Move allowed p flow c) (hlt : site < p.sites.length)
    (h : site ∉ p.registry.map Prod.snd) : site ∉ c.1.registry.map Prod.snd := by
  cases hmove with
  | books hbooks => exact fun hmem => h ((hbooks.registry.map Prod.snd).subset hmem)
  | found d =>
    rw [List.map_append, List.mem_append, not_or]
    exact ⟨h, fun hmem => Nat.ne_of_lt hlt (List.mem_singleton.1 hmem)⟩
  | act hallowed hknown hs hnext =>
    rw [proceed_registry]
    exact h
  | swap first second =>
    refine swap_invariant (motive := fun q => site ∉ q.registry.map Prod.snd) p h ?_ first second
    intro q lease conn hq
    rw [show (q.exchange lease conn).registry = q.registry from
      congrArg Agenda.registry (agenda_exchange lease conn q)]
    exact hq
  | ask | forget | site => exact h

/-- `Retired site p`: nothing is left of the pool of the site, and it serves no destination. -/
structure Retired (site : Nat) (p : Provider) : Prop where
  /-- It has ended. -/
  ended : ∃ s, p.sites[site]? = some s ∧ s.Ended
  /-- It is not registered. -/
  unregistered : site ∉ p.registry.map Prod.snd

namespace Retired

theorem moves (h : Retired site p) (hsound : Sound config p) (hmoves : Moves allowed p flow c) :
    Retired site c.1 := by
  have hboth := hmoves.invariant (motive := fun p => Sound config p ∧ Retired site p)
    (fun p flow c ⟨hsound, hretired⟩ hmove => by
      obtain ⟨s, hs, hended⟩ := hretired.ended
      exact ⟨hsound.move hmove, hmove.descends.ended hsound hs hended,
        hmove.notMem_registry (List.getElem?_eq_some_iff.1 hs).1 hretired.unregistered⟩)
    ⟨hsound, h⟩
  exact hboth.2

/-- What is `Retired` stays so. -/
theorem run (h : Retired site p) (hreachable : Reachable config p) (events : List Event) :
    Retired site (p.run events) := by
  induction events generalizing p with
  | nil => exact h
  | cons event events ih =>
    exact ih (h.moves (sound_of_reachable hreachable) (step_moves p event)) (hreachable.step event)

end Retired

/-- No `callsOf` are for a site that is `Retired`. -/
theorem Retired.notMem_callsOf (h : Retired site p) (hsound : Sound config p)
    (hmoves : Moves allowed p flow c) (effect : Site.Effect) : (site, effect) ∉ callsOf c.2 := by
  obtain ⟨s, hs, hended⟩ := h.ended
  refine hmoves.notMem_callsOf (motive := Site.Ended) (fun s act hreachable hended => ?_)
    hsound hs hended
  obtain ⟨hstays, hquiet⟩ := hended.step hreachable act
  refine ⟨hstays, fun hcall hmem => ?_⟩
  rw [hquiet effect hmem] at hcall
  cases hcall

/-! ## Where connections come from -/

theorem not_ended_of_isOpening (h : Site.Reachable config s) {opening : Nat} {purpose : Purpose}
    (hopening : s.isOpening opening purpose = true) : ¬ s.Ended := by
  intro hended
  have hmem := Site.isOpening_iff.1 hopening
  rw [(hended.holdings h).2] at hmem
  cases hmem

/-- Whoever gets a connection by `start` gets it from a registered site or a new one, of a provider
that accepts acquisitions. -/
theorem source_of_start (hsound : Sound config p) {m : Moment} {id : Nat} {d : Destination}
    {lease : SiteConnection} (h : (p.start m id d).1 = .finished (.ok lease)) :
    p.isDisposed = false ∧
      (lease.site ∈ p.registry.map Prod.snd ∨ p.sites.length ≤ lease.site) := by
  obtain ⟨s, hs, -⟩ := siteFor_cases hsound d
  have hsite : (p.siteFor d).1 ∈ p.registry.map Prod.snd ∨ p.sites.length ≤ (p.siteFor d).1 := by
    unfold siteFor
    split
    · rename_i hserves
      exact .inl (List.mem_map.2 ⟨_, mem_of_lookup hserves, rfl⟩)
    · exact .inr (Nat.le_refl _)
  cases hdisposed : p.isDisposed with
  | true =>
    rw [start, hdisposed, if_pos rfl] at h
    cases h
  | false =>
    obtain ⟨hyes, -⟩ | ⟨hticket, -⟩ := start_cases m id d p hs
    · rw [hdisposed] at hyes
      cases hyes
    -- a lease is the only ticket that ends the acquisition with a connection
    · rw [h] at hticket
      rcases hgiven : (s.acquire p.config m).1 with error | ⟨connection⟩ | ⟨opening⟩ |
        ⟨request, deadline⟩ <;> rw [hgiven] at hticket <;> cases hticket
      exact ⟨rfl, hsite⟩

/-- Whoever `Learns` that it has a connection gets it from a site that has not `Ended`, or from a
registered site or a new one, of a provider that accepts acquisitions. -/
theorem source_of_learns (hsound : Sound config p) (hlinked : Linked p) {id : Nat}
    {lease : SiteConnection} (hlearns : p.Learns id event (.ok lease)) :
    (∃ s, p.sites[lease.site]? = some s ∧ ¬ s.Ended) ∨
      (p.isDisposed = false ∧
        (lease.site ∈ p.registry.map Prod.snd ∨ p.sites.length ≤ lease.site)) := by
  obtain ⟨m, d, -, hgiven⟩ | ⟨m, site, request, deadline, s, outcome, -, hs, hpoll, hgiven⟩ |
    ⟨d, site, opening, s, -, hs, hopening, ⟨m, conn, hgiven⟩ | ⟨failure, hgiven⟩⟩ :=
    learns_cases hlinked hlearns
  · exact .inr (source_of_start hsound hgiven)
  · obtain ⟨rfl, rfl⟩ := eq_ok_of_map hgiven
    exact .inl ⟨s, hs, fun hended => hended.poll_ne_ok (hsound.here hs) m request _ hpoll⟩
  · obtain ⟨rfl, -⟩ := eq_ok_of_map hgiven
    exact .inl ⟨s, hs, not_ended_of_isOpening (hsound.here hs) hopening⟩
  · cases hgiven

/-! ## What is left of a site -/

/-- `Dismantled site p`: nothing is left of the pool of the site, no connection is being opened for
it, and nothing that happens next asks the transport for anything on its account or gives anybody a
connection of it. -/
structure Dismantled (site : Nat) (p : Provider) : Prop where
  /-- The pool was shut down, no slot is taken, nothing is being closed, and no connection is
  held. -/
  pool : ∃ s, p.sites[site]? = some s ∧ s.Ended ∧ s.holdings = [] ∧ s.openings = []
  /-- It serves no destination. -/
  registry : ∀ d, (d, site) ∉ p.registry
  /-- No acquisition waits for a connection that is being opened. -/
  opening : ∀ id d opening, p.acquisitions.lookup id ≠ some (.opening d site opening)
  /-- The transport is not called. -/
  calls : ∀ event effect, (site, effect) ∉ callsOf (p.step event).2
  /-- Nobody gets a connection. -/
  learns : ∀ event id connection, ¬ p.Learns id event (.ok ⟨site, connection⟩)

theorem Retired.dismantled (hretired : Retired site p) (h : Reachable config p) :
    Dismantled site p := by
  have hsound := sound_of_reachable h
  have hquiet := fun event => hretired.notMem_callsOf hsound (step_moves p event)
  obtain ⟨⟨s, hs, hended⟩, hunregistered⟩ := hretired
  obtain ⟨hholdings, hopenings⟩ := hended.holdings (hsound.here hs)
  have hsite : ∀ t, p.sites[site]? = some t → t.Ended := by
    intro t ht
    obtain rfl := Option.some.inj (hs.symm.trans ht)
    exact hended
  refine ⟨⟨s, hs, hended, hholdings, hopenings⟩, fun d hd => ?_, fun id d opening hknown => ?_,
    hquiet, fun event id connection hlearns => ?_⟩
  · exact hunregistered (List.mem_map.2 ⟨_, hd, rfl⟩)
  · obtain ⟨t, ht, hopening⟩ := isOpening_of_lookup (linked_of_reachable h) hknown
    exact not_ended_of_isOpening (hsound.here ht) hopening (hsite t ht)
  · -- a connection comes from a site that has not ended, or that is registered, or that is new
    obtain ⟨t, ht, hnot⟩ | ⟨-, hregistered | hle⟩ :=
      source_of_learns hsound (linked_of_reachable h) hlearns
    · exact hnot (hsite t ht)
    · exact hunregistered hregistered
    · have hlt := (List.getElem?_eq_some_iff.1 hs).1
      exact absurd hlt (Nat.not_lt.2 hle)

/-! ## Providers of which nothing is left -/

/-- `Emptied p`: no acquisition is accepted, no site is registered, and all have `Ended`. -/
structure Emptied (p : Provider) : Prop where
  /-- No acquisition is accepted. -/
  disposed : p.isDisposed = true
  /-- No site is registered. -/
  registry : p.registry = []
  /-- All sites have ended. -/
  ended : ∀ (site : Nat) (s : Site), p.sites[site]? = some s → s.Ended

namespace Emptied

theorem retired (h : Emptied p) (hs : p.sites[site]? = some s) : Retired site p :=
  ⟨⟨s, hs, h.ended site s hs⟩, by rw [h.registry]; nofun⟩

/-- Where a provider is `Emptied`, no site is made any more, and no site is registered. -/
theorem agenda_step (he : Emptied p) (h : Reachable config p) (event : Event) :
    (p.step event).1.isDisposed = true ∧ (p.step event).1.registry = [] ∧
      (p.step event).1.sites.length = p.sites.length := by
  have hnarrows := step_narrows (attended_of_reachable h) he.disposed event
  have hregistry := hnarrows.registry
  rw [he.registry, List.sublist_nil] at hregistry
  exact ⟨hnarrows.disposed he.disposed, hregistry, hnarrows.sites⟩

theorem step (he : Emptied p) (h : Reachable config p) (event : Event) :
    Emptied (p.step event).1 := by
  obtain ⟨hdisposed, hregistry, hlength⟩ := he.agenda_step h event
  refine ⟨hdisposed, hregistry, fun site t ht => ?_⟩
  have hlt := (List.getElem?_eq_some_iff.1 ht).1
  rw [hlength] at hlt
  have hs := List.getElem?_eq_getElem hlt
  obtain ⟨u, hu, hended⟩ :=
    (step_moves p event).descends.ended (sound_of_reachable h) hs (he.ended site _ hs)
  obtain rfl := Option.some.inj (ht.symm.trans hu)
  exact hended

theorem run (he : Emptied p) (h : Reachable config p) (events : List Event) :
    Emptied (p.run events) := by
  induction events generalizing p with
  | nil => exact he
  | cons event events ih => exact ih (he.step h event) (h.step event)

end Emptied

/-- `Dissolved p`: nothing is left of the provider, and nothing that happens next asks the transport
for anything or gives anybody a connection. -/
structure Dissolved (p : Provider) : Prop where
  /-- No acquisition is accepted. -/
  disposed : p.isDisposed = true
  /-- No site is registered. -/
  registry : p.registry = []
  /-- Nothing is left of any site. -/
  sites : ∀ site < p.sites.length, Dismantled site p
  /-- The transport is not called to close a connection or to open one for a queue. -/
  calls : ∀ event, callsOf (p.step event).2 = []
  /-- It is not called to open one for a caller. -/
  connects : ∀ m id d, (p.poll m id).1 ≠ .connecting d
  /-- Nobody gets a connection. -/
  learns : ∀ event id lease, ¬ p.Learns id event (.ok lease)

/-- `callsOf` any `Moves` are for sites that are there in the end. -/
theorem Moves.site_of_mem_callsOf (h : Moves allowed p flow c) {effect : Site.Effect}
    (hcall : (site, effect) ∈ callsOf c.2) : site < c.1.sites.length := by
  induction h with
  | nil p => cases hcall
  | cons hmove hrest ih =>
    rw [callsOf_append] at hcall
    rcases List.mem_append.1 hcall with hfirst | hlast
    · obtain ⟨s, act, hs, -⟩ := hmove.calls hfirst
      have hlt := (List.getElem?_eq_some_iff.1 hs).1
      exact Nat.lt_of_lt_of_le hlt
        (Nat.le_trans hmove.descends.length_le hrest.descends.length_le)
    · exact ih hlast

theorem Emptied.dissolved (he : Emptied p) (h : Reachable config p) : Dissolved p := by
  have hsound := sound_of_reachable h
  have hsites : ∀ site < p.sites.length, Dismantled site p := fun site hlt =>
    (he.retired (List.getElem?_eq_getElem hlt)).dismantled h
  refine ⟨he.disposed, he.registry, hsites, fun event => ?_, fun m id d => ?_,
    fun event id lease hlearns => ?_⟩
  · -- calls are made on account of a site, and no site is made any more
    rw [List.eq_nil_iff_forall_not_mem]
    rintro ⟨site, effect⟩ hcall
    have hlt := (step_moves p event).site_of_mem_callsOf hcall
    rw [(he.agenda_step h event).2.2] at hlt
    exact (hsites site hlt).calls event effect hcall
  · rw [poll]
    split
    · rintro ⟨⟩
    · rw [start, he.disposed, if_pos rfl]
      rintro ⟨⟩
    · rename_i d site opening hknown
      obtain ⟨s, hs, -⟩ := isOpening_of_lookup (linked_of_reachable h) hknown
      exact absurd hknown ((hsites site (List.getElem?_eq_some_iff.1 hs).1).opening id d opening)
    · unfold pollQueued
      dsimp only
      split <;> rintro ⟨⟩
  · obtain ⟨s, hs, hnot⟩ | ⟨hopen, -⟩ :=
      source_of_learns hsound (linked_of_reachable h) hlearns
    · exact hnot (he.ended lease.site s hs)
    · rw [he.disposed] at hopen
      cases hopen

/-! ## Orderly ends -/

/-- `Orderly p events`: every event `IsOrderly`, so that a disposal of the whole provider has its
time. -/
def Orderly (p : Provider) : List Event → Prop
  | [] => True
  | event :: events => event.IsOrderly p ∧ Orderly (p.step event).1 events

/-- `Waited p`: a site is registered until the wait for its end is over. -/
def Waited (p : Provider) : Prop :=
  ∀ (site : Nat) (s : Site), p.sites[site]? = some s → site ∉ p.registry.map Prod.snd →
    s.drain = .finished

namespace Waited

/-- `Apart` from disposals, no site is unregistered, so that the provider stays `Waited`. -/
theorem apart (h : Waited p) (ha : p.Apart q) : Waited q := by
  intro site t ht hunregistered
  have hlt := (List.getElem?_eq_some_iff.1 ht).1
  -- the site was there before, and was not registered then
  obtain ⟨hold, hbefore⟩ : site < p.sites.length ∧ site ∉ p.registry.map Prod.snd := by
    obtain heq | ⟨d, heq⟩ := ha.agenda
    · obtain ⟨hregistry, hlength, -⟩ := Agenda.mk.inj heq
      exact ⟨hlength ▸ hlt, hregistry ▸ hunregistered⟩
    · obtain ⟨hregistry, hlength, -⟩ := Agenda.mk.inj heq
      rw [hregistry] at hunregistered
      simp only [agenda, List.map_append, List.map_cons, List.map_nil, List.mem_append,
        List.mem_singleton, not_or] at hunregistered
      simp only [agenda] at hlength
      exact ⟨by omega, hunregistered.1⟩
  obtain ⟨s, hs, hsettles⟩ := ha.descends.settles.of_lt ht hold
  exact hsettles.finished (h site s hs hbefore)

/-- A provider stays `Waited` at an event at one site. -/
theorem changeSite (h : Waited p) (event : Site.Event) :
    Waited (p.changeSite index fun s => s.step p.config event).1 := by
  intro site t ht hunregistered
  rw [show (p.changeSite index fun s => s.step p.config event).1.registry = p.registry from
    congrArg Agenda.registry (agenda_changeSite _ _ p)] at hunregistered
  obtain ⟨-, ht⟩ | ⟨s, rfl, hs, rfl⟩ := site_changeSite ht
  · exact h site t ht hunregistered
  · exact Site.step_finished (h site s hs hunregistered) event

/-- A `Part` of a disposal that is not abrupt unregisters a site that has ended. -/
theorem part (h : Waited p) (hpart : Part abrupt clock p q) (horderly : ¬ abrupt) : Waited q := by
  cases hpart with
  | shut index => exact h.changeSite .shutDown
  | @look m hclock index hclosed => exact h.changeSite (.pollDrain m)
  | @unregister index hclosed hended =>
    intro site s hs hunregistered
    by_cases hsite : site = index
    · subst hsite
      have hended := hended.resolve_left fun habrupt => horderly habrupt.1
      rw [hasEnded, show p.sites[site]? = some s from hs] at hended
      simpa using hended
    · -- only the one site is unregistered
      refine h site s hs fun hregistered => hunregistered ?_
      obtain ⟨entry, hentry, rfl⟩ := List.mem_map.1 hregistered
      exact List.mem_map_of_mem ((List.mem_eraseP_of_neg (by simpa using hsite)).2 hentry)
  | refuse | wait | finish | lapse | ask | conclude => exact h

end Waited

/-- `Tidy p`: what an orderly disposal of the whole provider keeps to. -/
structure Tidy (p : Provider) : Prop where
  /-- A site is registered until the wait for its end is over. -/
  waited : Waited p
  /-- When the disposal of the whole provider has been polled, no acquisition is accepted. -/
  polled : p.wholeDisposal ≠ .unpolled → p.isDisposed = true
  /-- When it is over, no site is registered. -/
  finished : p.wholeDisposal = .finished → p.registry = []

namespace Tidy

/-- A new provider is `Tidy`: it has no sites, and has polled nothing. -/
theorem start (config : Config) : Tidy (ofConfig config) := by
  refine ⟨?_, fun hpolled => absurd rfl hpolled, ?_⟩
  · rintro site s ⟨⟩
  · rintro ⟨⟩

/-- A provider stays `Tidy` at an event `Outside` all disposals, which registers every site that it
makes. -/
theorem outside (h : Tidy p) (ho : p.Outside q) : Tidy q := by
  obtain heq | ⟨hopen, d, -, heq⟩ := ho.registers
  · obtain ⟨hregistry, -, hdisposed, hwhole, -⟩ := Agenda.mk.inj heq
    refine ⟨h.waited.apart ho.apart, ?_, ?_⟩
    · rw [hwhole, hdisposed]
      exact h.polled
    · rw [hwhole, hregistry]
      exact h.finished
  · obtain ⟨hregistry, -, hdisposed, hwhole, -⟩ := Agenda.mk.inj heq
    -- a provider that still makes sites has not been disposed of
    have hunpolled : p.wholeDisposal = .unpolled := by
      by_contra hpolled
      rw [h.polled hpolled] at hopen
      cases hopen
    refine ⟨h.waited.apart ho.apart, ?_, ?_⟩
    · rw [hwhole]
      exact fun hpolled => absurd hunpolled hpolled
    · rw [hwhole]
      intro hfinished
      cases hunpolled.symm.trans hfinished

/-- A provider stays `Tidy` at an event at one site. -/
theorem changeSite (h : Tidy p) (event : Site.Event) :
    Tidy (p.changeSite index fun s => s.step p.config event).1 := by
  obtain ⟨hregistry, -, hdisposed, hwhole, -⟩ := Agenda.mk.inj
    (agenda_changeSite index (fun s => s.step p.config event) p)
  refine ⟨h.waited.changeSite event, ?_, ?_⟩
  · rw [hwhole, hdisposed]
    exact h.polled
  · rw [hwhole, hregistry]
    exact h.finished

/-- A provider stays `Tidy` at a `Part` of a disposal that is not abrupt. -/
theorem part (h : Tidy p) (hpart : Part abrupt clock p q) (horderly : ¬ abrupt) : Tidy q := by
  have hwaited := h.waited.part hpart horderly
  cases hpart with
  | shut index => exact h.changeSite .shutDown
  | @look m hclock index hclosed => exact h.changeSite (.pollDrain m)
  | @unregister index hclosed hended =>
    refine ⟨hwaited, h.polled, fun hfinished => ?_⟩
    rw [unregister, h.finished hfinished]
    rfl
  | refuse => exact ⟨hwaited, fun _ => rfl, h.finished⟩
  | wait sites hdisposed => exact ⟨hwaited, fun _ => hdisposed, by rintro ⟨⟩⟩
  | finish hdisposed hregistry => exact ⟨hwaited, fun _ => hdisposed, fun _ => hregistry⟩
  | lapse habrupt => exact absurd habrupt horderly
  | ask | conclude => exact ⟨hwaited, h.polled, h.finished⟩

/-- A provider stays `Tidy` in the course of `Orderly` events. -/
theorem run (h : Tidy p) (hreachable : Reachable config p) {events : List Event}
    (horderly : Orderly p events) : Tidy (p.run events) := by
  induction events generalizing p with
  | nil => exact h
  | cons event events ih =>
    refine ih ?_ (hreachable.step event) horderly.2
    rcases step_outside_or_parts (attended_of_reachable hreachable) event with houtside | hparts
    · exact h.outside houtside
    · have hnot : ¬ ¬ event.IsOrderly p := not_not_intro horderly.1
      exact Parts.invariant (fun _ _ hp hpart => Tidy.part hp hpart hnot) h hparts

/-- Without a `disposeGrace`, a `Tidy` provider whose disposal is over is `Emptied`. -/
theorem emptied (h : Tidy p) (hgrace : config.disposeGrace = none) (hreachable : Reachable config p)
    (hfinished : p.wholeDisposal = .finished) : Emptied p := by
  have hregistry := h.finished hfinished
  refine ⟨h.polled (by rw [hfinished]; nofun), hregistry, fun site s hs => ?_⟩
  have hdrain := h.waited site s hs (by rw [hregistry]; nofun)
  have hdriven := (attended_of_reachable hreachable).site hs
  exact (Site.timeless_of_driven hgrace hdriven).finished hdrain

end Tidy

/-! ## The disposal of one destination -/

/-- `WaitsFor disposal site p`: the disposal of a destination waits for the site. -/
def WaitsFor (disposal site : Nat) (p : Provider) : Prop :=
  ∃ finished, p.singleDisposals[disposal]? = some ⟨site, finished⟩

theorem WaitsFor.part {disposal : Nat} (h : WaitsFor disposal site p)
    (hpart : Part abrupt clock p q) : WaitsFor disposal site q := by
  obtain ⟨finished, hknown⟩ := h
  -- what happens at a site leaves the list of disposals
  have hchange : ∀ (index : Nat) (change : Site → Site.Change),
      WaitsFor disposal site (p.changeSite index change).1 := by
    intro index change
    obtain ⟨-, -, -, -, hsingles⟩ := Agenda.mk.inj (agenda_changeSite index change p)
    exact ⟨finished, hsingles ▸ hknown⟩
  cases hpart with
  | shut index => exact hchange _ _
  | look hclock hclosed => exact hchange _ _
  | ask hs hclosed =>
    have hlt := (List.getElem?_eq_some_iff.1 hknown).1
    exact ⟨finished, (List.getElem?_append_left hlt).trans hknown⟩
  | @conclude index other hother hended hunregistered =>
    have hlt := (List.getElem?_eq_some_iff.1 hknown).1
    by_cases hindex : disposal = index
    · subst hindex
      obtain ⟨rfl, -⟩ := SingleDisposal.mk.inj (Option.some.inj (hknown.symm.trans hother))
      exact ⟨true, List.getElem?_set_self hlt⟩
    · exact ⟨finished, (List.getElem?_set_ne (Ne.symm hindex)).trans hknown⟩
  | unregister | refuse | wait | finish | lapse => exact ⟨finished, hknown⟩

/-- `Apart` from disposals, each `WaitsFor` the same site. -/
theorem WaitsFor.apart {disposal : Nat} (h : WaitsFor disposal site p) (ha : p.Apart q) :
    WaitsFor disposal site q := by
  obtain ⟨finished, hknown⟩ := h
  exact ⟨finished, ha.unchanged.2.2 ▸ hknown⟩

theorem WaitsFor.run {disposal : Nat} (h : WaitsFor disposal site p)
    (hreachable : Reachable config p) (events : List Event) :
    WaitsFor disposal site (p.run events) := by
  induction events generalizing p with
  | nil => exact h
  | cons event events ih =>
    refine ih ?_ (hreachable.step event)
    rcases step_outside_or_parts (attended_of_reachable hreachable) event with houtside | hparts
    · exact h.apart houtside.apart
    · exact Parts.invariant (fun _ _ hp hpart => WaitsFor.part hp hpart) h hparts

theorem waitsFor_of_disposeWhen {d : Destination} (hserves : p.siteOf? d = some site) :
    (p.disposeWhen d).1 = .single p.singleDisposals.length ∧
      WaitsFor p.singleDisposals.length site (p.step (.disposeWhen d)).1 := by
  have hsingles : (p.changeSite site Site.shutDown).1.singleDisposals = p.singleDisposals :=
    congrArg Agenda.singleDisposals (agenda_changeSite site Site.shutDown p)
  refine ⟨by rw [disposeWhen, hserves], false, ?_⟩
  rw [step, disposeWhen, hserves]
  simp [hsingles]

/-- Without a `disposeGrace`, a site is `Retired` when a disposal that `WaitsFor` it is over. -/
theorem WaitsFor.retired {disposal : Nat} (h : WaitsFor disposal site p)
    (hgrace : config.disposeGrace = none) (hattended : Attended config p)
    (hfinished : p.isDisposalFinished (.single disposal) = true) : Retired site p := by
  obtain ⟨finished, hknown⟩ := h
  obtain ⟨s, hs, -, hover⟩ := hattended.asked _ (List.mem_of_getElem? hknown)
  rw [isDisposalFinished, hknown] at hfinished
  obtain ⟨hdrain, hunregistered⟩ := hover (by simpa using hfinished)
  exact ⟨⟨s, hs, (Site.timeless_of_driven hgrace (hattended.site hs)).finished hdrain⟩,
    hunregistered⟩

/-- Whoever `Waits` at a site when its destination is disposed of is told `poolClosed`. -/
theorem answered_of_disposeWhen (h : Attended config p) (hlinked : Linked p) {d : Destination}
    (hserves : p.siteOf? d = some site) {w : Waiter} (hsite : w.site = site) (hw : w.Waits p) :
    w.Answered (.error .poolClosed) (p.step (.disposeWhen d)).1 := by
  subst hsite
  have hparts : Parts _ _ p (p.step (.disposeWhen d)).1 := step_parts h rfl
  have hafter : Attended config (p.step (.disposeWhen d)).1 :=
    Parts.invariant (fun _ _ hp hpart => Attended.part hp hpart) h hparts
  have hothers := (step_moves p (.disposeWhen d)).of_others (w := w) h.sound hlinked
    fun site act hcauses => by cases hcauses.actor?
  obtain hstays | ⟨answer, hanswered, hsent⟩ := hothers.1 hw
  · -- nobody is queued at a pool that has been shut down
    obtain ⟨-, s, hs, hqueues⟩ := hstays
    have hclosed : s.pool.closed = true := by
      obtain ⟨t, ht, hclosed, -⟩ :=
        hafter.asked _ (List.mem_of_getElem? (waitsFor_of_disposeWhen hserves).2.choose_spec)
      obtain rfl := Option.some.inj (hs.symm.trans ht)
      exact hclosed
    have hreachable := hafter.sound.site hs
    have hqueued := hqueues.isQueued
    rw [Pool.isQueued, ((Site.justified_of_reachable hreachable).closed hclosed).1] at hqueued
    cases hqueued
  · cases hsent.delivers with
    | entry hoffers | late hoffers => cases hoffers
    | shutDown => exact hanswered

/-! ## Disposals are final -/

theorem custody_provider (config : Config) (events : List Event) :
    ((Custody.start config).run events).provider = (ofConfig config).run events := by
  induction events using List.reverseRecOn with
  | nil => rfl
  | append_singleton events event ih =>
    rw [run_append, ← ih, Custody.run, List.foldl_append]
    rfl

/-- Where a provider is `Emptied`, every connection that was `received` has been closed or was taken
for good. -/
theorem Emptied.received {w : Custody} (h : Emptied w.provider) (hw : Custody.Reachable config w) :
    (w.detached ++ w.closed).Perm w.received := by
  have hheld : w.provider.held = [] := by
    refine List.flatMap_eq_nil_iff.2 fun s hs => ?_
    obtain ⟨site, hsite⟩ := List.mem_iff_getElem?.1 hs
    have hholdings := (h.ended site s hsite).holdings ((sound_of_reachable hw.provider).here hsite)
    rw [hholdings.1, List.map_nil]
  have hreceived := (Custody.kept_of_reachable hw).received
  rw [hheld] at hreceived
  exact hreceived

/-- `AllLeft config site events`: every connection that the pool of the site `WasGiven` has
left it. -/
def AllLeft (config : Config) (site : Nat) (events : List Event) : Prop :=
  ∀ s, ((ofConfig config).run events).sites[site]? = some s → ∀ number, s.WasGiven number →
    (ofConfig config).HasLeft site number events

theorem allLeft_of_ended {events : List Event}
    (hended : ∀ s, ((ofConfig config).run events).sites[site]? = some s → s.Ended) :
    AllLeft config site events := by
  intro s hs number hgiven
  have hreachable : Reachable config ((ofConfig config).run events) := Reachable.start.run events
  refine (holds_or_hasLeft hs hgiven).resolve_left fun hholds => ?_
  rw [Site.Holds, ((hended s hs).holdings ((sound_of_reachable hreachable).here hs)).1] at hholds
  cases hholds

/-- Without a `disposeGrace`, disposals are final. When an `Orderly` disposal of the whole provider
is over, every connection that the transport ever handed over has been closed or was taken for good,
and the provider is `Dissolved`, whatever happens later. When the disposal of a destination is over,
the site is `Dismantled` that served the destination when the disposal was asked for, and whoever
waited there then was told that the pool is closed. -/
theorem disposals_are_final (hgrace : config.disposeGrace = none) (events : List Event) :
    (Orderly (ofConfig config) events →
      ((ofConfig config).run events).isDisposalFinished .whole = true →
      let w := (Custody.start config).run events
      (w.detached ++ w.closed).Perm w.received ∧
      (∀ site, AllLeft config site events) ∧
      ∀ later, Dissolved (((ofConfig config).run events).run later)) ∧
    ∀ d site, ((ofConfig config).run events).siteOf? d = some site →
      (∀ w : Waiter, w.site = site → w.Waits ((ofConfig config).run events) → ∀ later,
        Unread w (.error .poolClosed) (((ofConfig config).run events).step (.disposeWhen d)).1
          later) ∧
      ∀ since, ((ofConfig config).run (events ++ .disposeWhen d :: since)).isDisposalFinished
          (((ofConfig config).run events).disposeWhen d).1 = true →
        AllLeft config site (events ++ .disposeWhen d :: since) ∧
        ∀ later, Dismantled site
          (((ofConfig config).run (events ++ .disposeWhen d :: since)).run later) := by
  have hreachable : ∀ events, Reachable config ((ofConfig config).run events) := fun events =>
    Reachable.start.run events
  refine ⟨fun horderly hfinished => ?_, fun d site hserves => ⟨?_, fun since hfinished => ?_⟩⟩
  -- a disposal of the whole provider that is over has emptied every site
  · have hstart : Tidy (ofConfig config) := ⟨nofun, fun h => absurd rfl h, nofun⟩
    have hemptied := (hstart.run (hreachable []) horderly).emptied hgrace (hreachable events)
      (by simpa [isDisposalFinished] using hfinished)
    refine ⟨?_, fun site => allLeft_of_ended fun s hs => hemptied.ended site s hs, fun later => ?_⟩
    · rw [← custody_provider] at hemptied
      exact hemptied.received (Custody.Reachable.start.run events)
    · exact (hemptied.run (hreachable events) later).dissolved ((hreachable events).run later)
  -- asking for the disposal of a destination answers whoever waits there
  · intro w hsite hw later
    exact unread_of_answered ((hreachable events).step _)
      (answered_of_disposeWhen (attended_of_reachable (hreachable events))
        (linked_of_reachable (hreachable events)) hserves hsite hw) later
  -- the disposal waits for that one site until it is over
  · obtain ⟨hdisposal, hwaits⟩ := waitsFor_of_disposeWhen hserves
    rw [hdisposal] at hfinished
    have hwaits := hwaits.run ((hreachable events).step _) since
    have hrun : (((ofConfig config).run events).step (.disposeWhen d)).1.run since =
        (ofConfig config).run (events ++ .disposeWhen d :: since) := by
      rw [run_append]
      rfl
    rw [hrun] at hwaits
    have hretired := hwaits.retired hgrace (attended_of_reachable (hreachable _)) hfinished
    refine ⟨allLeft_of_ended fun s hs => ?_, fun later => ?_⟩
    · obtain ⟨t, ht, hended⟩ := hretired.ended
      obtain rfl := Option.some.inj (hs.symm.trans ht)
      exact hended
    · exact (hretired.run (hreachable _) later).dismantled ((hreachable _).run later)

/-- The only connection is in use and somebody waits for it when everything is disposed of; it is
given back and closed before the disposal is over. -/
def crowdedEnd : List Event :=
  crowded ++ [.dispose, .pollDisposal (.atMillis 1) .whole, .release (.atMillis 2) ⟨0, 1⟩,
    .closeFinished 0 1, .pollDisposal (.atMillis 3) .whole]

/-- Where everything is disposed of, or the one destination, the connection in use is waited for,
and then nothing follows; whoever waits for a connection is told that the pool is closed. -/
theorem disposals_are_final_crowded :
    (∀ later, Dissolved (((ofConfig .oneSlot).run crowdedEnd).run later)) ∧
    Unread ⟨1, 0, 1, .ofMillis 1000⟩ (.error .poolClosed)
      (((ofConfig .oneSlot).run crowded).step (.disposeWhen (.ofAddress "db:1"))).1
      [.poll (.atMillis 2) 1] ∧
    ∀ later, Dismantled 0 (((ofConfig .oneSlot).run (crowdedDisposal ++
      [.release (.atMillis 2) ⟨0, 1⟩, .closeFinished 0 1,
        .pollDisposal (.atMillis 3) (.single 0)])).run later) := by
  have hgrace : Config.oneSlot.disposeGrace = none := rfl
  have horderly : Orderly (ofConfig .oneSlot) crowdedEnd := by
    simp only [crowdedEnd, crowded, List.cons_append, List.nil_append, Orderly, Event.IsOrderly,
      true_and, and_true]
    exact ⟨fun _ => rfl, fun _ => rfl⟩
  have hserves : ((ofConfig .oneSlot).run crowded).siteOf? (.ofAddress "db:1") = some 0 := rfl
  have hwaits : Waiter.Waits ⟨1, 0, 1, .ofMillis 1000⟩ ((ofConfig .oneSlot).run crowded) :=
    ⟨rfl, _, rfl, ⟨_, rfl, rfl⟩, rfl⟩
  have hsingle := (disposals_are_final hgrace crowded).2 _ 0 hserves
  refine ⟨((disposals_are_final hgrace crowdedEnd).1 horderly rfl).2.2,
    hsingle.1 _ rfl hwaits _, ?_⟩
  exact (hsingle.2 [.pollDisposal (.atMillis 1) (.single 0), .release (.atMillis 2) ⟨0, 1⟩,
    .closeFinished 0 1, .pollDisposal (.atMillis 3) (.single 0)] rfl).2

end ConnectionPool.Provider
