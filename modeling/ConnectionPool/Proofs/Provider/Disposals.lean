import ConnectionPool.Proofs.Provider.Run
import ConnectionPool.Proofs.Site.Wakeup
import Mathlib.Logic.Relation

/-!
# Disposals and sites

A disposal shuts sites down, looks whether they have ended, and takes those that have off the
registry. Whatever else happens to a provider concerns no disposal, and registers at most one new
site, if the provider has not been disposed of.

So every event is either outside all disposals, or a sequence of parts that each do one of a few
things under a condition. What holds of a provider because both keep it is shown for the two in
turn, and what is shown first is that only the end of closed pools is looked for: whoever waits for
it cannot miss it.

## Main definitions

* `Part`: what a disposal does, part by part.
* `Outside`: what all other events do.
* `Attended`: what reachable providers know of their disposals.

## Main results

* `step_outside_or_parts`: every event is outside all disposals, or a sequence of parts of them.
* `attended_of_reachable`: whoever waits for a site's end waits for the end of a closed pool.
* `wakes_in_time`: no disposal is left asleep when the pool that it waits for may end.
-/

namespace ConnectionPool

namespace Site

variable {config : Config} {may : Event → Prop} {s t u : Site}

/-- `Becomes config may s t`: events that `may` happen make `t` of the site `s`. -/
inductive Becomes (config : Config) (may : Event → Prop) (s : Site) : Site → Prop
  | refl : Becomes config may s s
  | step {t : Site} (event : Event) (hmay : may event) :
      Becomes config may s t → Becomes config may s (t.step config event).1

namespace Becomes

theorem trans (h : Becomes config may s t) (hrest : Becomes config may t u) :
    Becomes config may s u := by
  induction hrest with
  | refl => exact h
  | step event hmay _ ih => exact ih.step event hmay

theorem mono {others : Event → Prop} (h : Becomes config may s t)
    (hmay : ∀ event, may event → others event) : Becomes config others s t := by
  induction h with
  | refl => exact .refl
  | step event hevent _ ih => exact ih.step event (hmay event hevent)

/-- What every one of the events keeps holds after them. -/
theorem invariant {motive : Site → Prop}
    (step : ∀ t event, may event → motive t → motive (t.step config event).1) (hs : motive s)
    (h : Becomes config may s t) : motive t := by
  induction h with
  | refl => exact hs
  | step event hmay _ ih => exact step _ event hmay ih

end Becomes

theorem step_closed (hclosed : s.pool.closed = true) (event : Event) :
    (s.step config event).1.pool.closed = true := by
  rw [(step_frame config event s).closed, hclosed, Bool.true_or]

/-- A `drain` that is `finished` stays so at every `step`. -/
theorem step_finished (hfinished : s.drain = .finished) (event : Event) :
    (s.step config event).1.drain = .finished := by
  cases hlook : event.isLook with
  | true =>
    obtain ⟨m, rfl⟩ := Event.eq_pollDrain hlook
    rw [step, pollDrain, hfinished]
    exact hfinished
  | false => exact (step_keeps config hlook s).finished.2 hfinished

/-- `Settles s t`: what is over at a site stays over, and the site stays with its destination. -/
structure Settles (s t : Site) : Prop where
  /-- A site stays with its destination. -/
  destination : t.destination = s.destination
  /-- A closed pool stays closed. -/
  closed : s.pool.closed = true → t.pool.closed = true
  /-- A wait that is over stays over. -/
  finished : s.drain = .finished → t.drain = .finished

theorem step_settles (config : Config) (event : Event) (s : Site) :
    s.Settles (s.step config event).1 :=
  ⟨(step_frame config event s).destination, fun hclosed => step_closed hclosed event,
    fun hfinished => step_finished hfinished event⟩

theorem Becomes.settles (h : Becomes config may s t) : s.Settles t := by
  induction h with
  | refl => exact ⟨rfl, id, id⟩
  | @step t event _ _ ih =>
    have hstep := step_settles config event t
    exact ⟨hstep.destination.trans ih.destination, hstep.closed ∘ ih.closed,
      hstep.finished ∘ ih.finished⟩

theorem shutDown_closed (s : Site) : s.shutDown.1.pool.closed = true := by
  obtain ⟨hclosed, heq⟩ | ⟨-, heq⟩ := shutDown_cases s <;> rw [heq]
  · exact hclosed
  · rfl

end Site

namespace Provider

variable {config : Config} {allowed : Actors} {p q : Provider} {flow : Flow} {c : Change}
  {abrupt : Prop} {clock : Option Moment} {index : Nat} {s t : Site}

/-! ## Sites in the course of moves -/

/-- `MayAct allowed index event`: the event may happen at the site in the course of moves. -/
def Actors.MayAct (allowed : Actors) (index : Nat) (event : Site.Event) : Prop :=
  event.isExchange = true ∨ ∃ actor, allowed actor index event

/-- The site at an index, or one that is made there. -/
def Begins (p : Provider) (index : Nat) (s : Site) : Prop :=
  p.sites[index]? = some s ∨ p.sites.length ≤ index ∧ ∃ d, s = .fresh d

/-- `Descends may p q`: no site is removed on the way from `p` to `q`, and every site is what events
make of one that was there, or of a new one. -/
structure Descends (may : Nat → Site.Event → Prop) (p q : Provider) : Prop where
  /-- The configuration stays. -/
  config : q.config = p.config
  /-- No site is removed. -/
  length_le : p.sites.length ≤ q.sites.length
  /-- Sites are what events make of them. -/
  becomes : ∀ index t, q.sites[index]? = some t →
    ∃ s, p.Begins index s ∧ s.Becomes p.config (may index) t

namespace Descends

variable {may : Nat → Site.Event → Prop}

theorem of_eq (hconfig : q.config = p.config) (hsites : q.sites = p.sites) : Descends may p q := by
  refine ⟨hconfig, hsites ▸ Nat.le_refl _, fun index t ht => ?_⟩
  rw [hsites] at ht
  exact ⟨t, .inl ht, .refl⟩

theorem trans {r : Provider} (h : Descends may p q) (hrest : Descends may q r) :
    Descends may p r := by
  refine ⟨hrest.config.trans h.config, Nat.le_trans h.length_le hrest.length_le, ?_⟩
  intro index u hu
  obtain ⟨t, hbegins, hu⟩ := hrest.becomes index u hu
  rw [h.config] at hu
  rcases hbegins with ht | ⟨hnone, hnew⟩
  · obtain ⟨s, hbegins, ht⟩ := h.becomes index t ht
    exact ⟨s, hbegins, ht.trans hu⟩
  · exact ⟨t, .inr ⟨Nat.le_trans h.length_le hnone, hnew⟩, hu⟩

theorem mono {others : Nat → Site.Event → Prop} (h : Descends may p q)
    (hmay : ∀ index event, may index event → others index event) : Descends others p q := by
  refine ⟨h.config, h.length_le, fun index t ht => ?_⟩
  obtain ⟨s, hbegins, hbecomes⟩ := h.becomes index t ht
  exact ⟨s, hbegins, hbecomes.mono (hmay index)⟩

/-- A provider `Descends` by an event at one site. -/
theorem setSite {event : Site.Event} (hmay : may index event) (hs : p.sites[index]? = some s) :
    Descends may p (p.setSite index (s.step p.config event).1) := by
  refine ⟨rfl, by simp [Provider.setSite], fun other t ht => ?_⟩
  rw [getElem?_setSite _ hs] at ht
  by_cases hother : other = index
  · subst hother
    rw [if_pos rfl] at ht
    obtain rfl := Option.some.inj ht
    exact ⟨s, .inl hs, .step event hmay .refl⟩
  · rw [if_neg hother] at ht
    exact ⟨t, .inl ht, .refl⟩

/-- A site that was there `Becomes` what events make of it. -/
theorem site (h : Descends may p q) (hs : p.sites[index]? = some s) :
    ∃ t, q.sites[index]? = some t ∧ s.Becomes p.config (may index) t := by
  have hlt := (List.getElem?_eq_some_iff.1 hs).1
  have ht := List.getElem?_eq_getElem (Nat.lt_of_lt_of_le hlt h.length_le)
  refine ⟨_, ht, ?_⟩
  obtain ⟨begun, hbegun | ⟨hle, -⟩, hbecomes⟩ := h.becomes index _ ht
  · obtain rfl := Option.some.inj (hs.symm.trans hbegun)
    exact hbecomes
  · omega

end Descends

/-- `Settles p q`: what is over at the sites of a provider stays over. -/
def Settles (p q : Provider) : Prop :=
  ∀ (index : Nat) (s : Site), p.sites[index]? = some s →
    ∃ t, q.sites[index]? = some t ∧ s.Settles t

theorem Settles.refl (p : Provider) : p.Settles p :=
  fun _ s hs => ⟨s, hs, rfl, id, id⟩

/-- A site that is not new comes from the one that had its number. -/
theorem Settles.of_lt {index : Nat} {t : Site} (h : p.Settles q) (ht : q.sites[index]? = some t)
    (hlt : index < p.sites.length) : ∃ s, p.sites[index]? = some s ∧ s.Settles t := by
  have hs := List.getElem?_eq_getElem hlt
  obtain ⟨u, hu, hsettled⟩ := h index _ hs
  obtain rfl := Option.some.inj (ht.symm.trans hu)
  exact ⟨_, hs, hsettled⟩

theorem Descends.settles {may : Nat → Site.Event → Prop} (h : Descends may p q) : p.Settles q := by
  intro index s hs
  obtain ⟨t, ht, hbecomes⟩ := h.site hs
  exact ⟨t, ht, hbecomes.settles⟩

theorem exchange_descends (lease : SiteConnection) (conn : Connection) (p : Provider) :
    Descends allowed.MayAct p (p.exchange lease conn) := by
  obtain ⟨-, heq⟩ | ⟨s, hs, heq⟩ := exchange_cases p lease conn <;> rw [heq]
  · exact .of_eq rfl rfl
  · have hmay : allowed.MayAct lease.site (.exchange lease.connection conn) := .inl rfl
    exact .setSite hmay hs

/-- A `Move` makes of each site what allowed events make of it. -/
theorem Move.descends (hmove : Move allowed p flow c) : Descends allowed.MayAct p c.1 := by
  cases hmove with
  | books hbooks => exact .of_eq hbooks.config hbooks.sites
  | found d =>
    refine ⟨rfl, by simp, fun index t ht => ?_⟩
    rw [List.getElem?_append] at ht
    split at ht
    · exact ⟨t, .inl ht, .refl⟩
    · rename_i hle
      obtain rfl : .fresh d = t := List.mem_singleton.1 (List.mem_of_getElem? ht) |>.symm
      exact ⟨_, .inr ⟨Nat.le_of_not_lt hle, d, rfl⟩, .refl⟩
  | ask d => exact .of_eq rfl rfl
  | forget hknown hsite => exact .of_eq rfl rfl
  | site hallowed hs hcaller hexchange => exact .setSite (.inr ⟨none, hallowed⟩) hs
  | @act id index s event known next hallowed hknown hs hnext =>
    have hset : Descends allowed.MayAct p _ := .setSite (.inr ⟨some id, hallowed⟩) hs
    exact hset.trans (.of_eq (proceed_config _ _ _) (proceed_sites _ _ _))
  | swap first second =>
    exact swap_invariant p (.of_eq rfl rfl)
      (fun q lease conn hq => hq.trans (exchange_descends lease conn q)) first second

theorem Moves.descends (h : Moves allowed p flow c) : Descends allowed.MayAct p c.1 := by
  induction h with
  | nil p => exact .of_eq rfl rfl
  | cons hmove _ ih => exact hmove.descends.trans ih

/-! ## What disposals do, and what all others do -/

/-- An `Agenda`: which sites are registered, how many there are, and how far the disposals have
come. -/
structure Agenda where
  /-- Which site serves which destination. -/
  registry : List (Destination × Nat)
  /-- How many sites have been made. -/
  sites : Nat
  /-- The provider accepts no further acquisitions. -/
  isDisposed : Bool
  /-- The disposal of the whole provider. -/
  wholeDisposal : WholeDisposal
  /-- The disposals of single destinations. -/
  singleDisposals : List SingleDisposal

/-- What the disposals of a provider are about. -/
def agenda (p : Provider) : Agenda :=
  ⟨p.registry, p.sites.length, p.isDisposed, p.wholeDisposal, p.singleDisposals⟩

@[simp]
theorem agenda_changeSite (index : Nat) (change : Site → Site.Change) (p : Provider) :
    (p.changeSite index change).1.agenda = p.agenda := by
  obtain ⟨-, heq⟩ | ⟨s, -, heq⟩ := changeSite_cases index change p <;> rw [heq]
  simp [agenda, setSite]

@[simp]
theorem agenda_finishAcquisition (id : Nat) (p : Provider) :
    (p.finishAcquisition id).agenda = p.agenda := rfl

@[simp]
theorem agenda_advanceAcquisition (id : Nat) (progress : Acquisition) (p : Provider) :
    (p.advanceAcquisition id progress).agenda = p.agenda := rfl

@[simp]
theorem agenda_exchange (lease : SiteConnection) (conn : Connection) (p : Provider) :
    (p.exchange lease conn).agenda = p.agenda :=
  agenda_changeSite _ _ p

/-- A site for the destination is made and registered. -/
def Agenda.register (d : Destination) (a : Agenda) : Agenda :=
  { a with registry := a.registry ++ [(d, a.sites)], sites := a.sites + 1 }

/-- `Registers p q`: the `agenda` stays, or a site is made and registered for a destination that has
none, if the provider accepts acquisitions. -/
def Registers (p q : Provider) : Prop :=
  q.agenda = p.agenda ∨
    (p.isDisposed = false ∧ ∃ d, p.siteOf? d = none ∧ q.agenda = p.agenda.register d)

theorem agenda_siteFor (d : Destination) (p : Provider) :
    (p.siteFor d).2.1.agenda = p.agenda ∨
      (p.siteOf? d = none ∧ (p.siteFor d).2.1.agenda = p.agenda.register d) := by
  cases hserves : p.siteOf? d with
  | some site => exact .inl (by rw [siteFor, hserves])
  | none => exact .inr ⟨rfl, by simp [siteFor, hserves, agenda, Agenda.register]⟩

@[simp]
theorem agenda_enter (m : Moment) (id : Nat) (d : Destination) (site : Nat) (p : Provider) :
    (p.enter m id d site).2.1.agenda = p.agenda := by
  rw [enter]
  dsimp only
  split <;> simp [changeSiteReporting]

theorem start_registers (m : Moment) (id : Nat) (d : Destination) (p : Provider) :
    p.Registers (p.start m id d).2.1 := by
  cases hdisposed : p.isDisposed with
  | true => exact .inl (by rw [start_of_disposed hdisposed]; rfl)
  | false =>
    rw [Registers, start_of_accepting hdisposed, agenda_enter]
    exact (agenda_siteFor d p).imp_right fun heq => ⟨hdisposed, d, heq⟩

/-- The event has nothing to do with disposals. -/
def Event.isOutside : Event → Bool
  | .dispose | .disposeAtOnce | .disposeWhen _ | .pollDisposal _ _ => false
  | _ => true

/-- A `step` that `isOutside` registers at most one new site. -/
theorem step_registers {event : Event} (houtside : event.isOutside = true) (p : Provider) :
    p.Registers (p.step event).1 := by
  -- outside of disposals, the agenda changes at first polls only
  cases event with
  | poll m id =>
    rw [step, poll]
    split
    · exact .inl rfl
    · exact start_registers m id _ p
    · exact .inl rfl
    · refine .inl ?_
      unfold pollQueued
      dsimp only
      split <;> simp [changeSiteReporting]
  | opened m id conn =>
    rw [step, opened]
    split <;> exact .inl (by simp [changeSiteReporting])
  | openingFailed id failure =>
    rw [step, openingFailed]
    split <;> exact .inl (by simp [changeSiteReporting])
  | abandon m id =>
    rw [step, abandon]
    split <;> exact .inl (by simp)
  | swap first second =>
    exact .inl (swap_invariant (motive := fun q => q.agenda = p.agenda) p rfl
      (fun q lease conn hq => (agenda_exchange lease conn q).trans hq) first second)
  | acquire d | letGo => exact .inl rfl
  | release m lease | openedForQueue m site opening conn created
  | openingForQueueFailed m site opening failure | closeFinished site connection | sweep m site
  | sweepEnded site | detach lease => exact .inl (agenda_changeSite _ _ p)
  | dispose | disposeAtOnce | disposeWhen d | pollDisposal m disposal => cases houtside

/-- `Outside p q`: what an event outside all disposals does. -/
structure Outside (p q : Provider) : Prop where
  /-- At most one site is made and registered. -/
  registers : p.Registers q
  /-- Nobody looks whether a site has ended. -/
  descends : Descends (fun _ event => event.isLook = false) p q

/-- `Apart p q`: at most one site is made, which is registered, and nobody looks whether a site has
ended. -/
structure Apart (p q : Provider) : Prop where
  /-- The `agenda` stays, or a site is registered. -/
  agenda : q.agenda = p.agenda ∨ ∃ d, q.agenda = p.agenda.register d
  /-- Nobody looks whether a site has ended. -/
  descends : Descends (fun _ event => event.isLook = false) p q

/-- `Apart` from disposals, none of them comes further. -/
theorem Apart.unchanged (h : p.Apart q) :
    q.isDisposed = p.isDisposed ∧ q.wholeDisposal = p.wholeDisposal ∧
      q.singleDisposals = p.singleDisposals := by
  obtain heq | ⟨d, heq⟩ := h.agenda <;> exact (Agenda.mk.inj heq).2.2

/-- What is `Outside` all disposals registers a site only if acquisitions are accepted, and is
`Apart` from them. -/
theorem Outside.apart (h : p.Outside q) : p.Apart q := by
  refine ⟨h.registers.imp_right ?_, h.descends⟩
  rintro ⟨-, d, -, heq⟩
  exact ⟨d, heq⟩

theorem step_outside {event : Event} (houtside : event.isOutside = true) (p : Provider) :
    p.Outside (p.step event).1 := by
  refine ⟨step_registers houtside p, (step_moves p event).descends.mono ?_⟩
  rintro index act (hexchange | ⟨actor, hcauses⟩)
  · cases act <;> first | rfl | cases hexchange
  · cases hcauses <;> first | rfl | cases houtside

/-- `Part abrupt clock p q`: one part of a disposal. The end of a pool is looked for when the pool
has been shut down; a site is unregistered when it has ended, and a disposal is over when its sites
are unregistered, unless the disposal is abrupt. An abrupt disposal unregisters sites when no
further acquisitions are accepted. Looks take place at the time that `clock` shows. -/
inductive Part (abrupt : Prop) (clock : Option Moment) : Provider → Provider → Prop
  /-- A site is shut down. -/
  | shut (p : Provider) (index : Nat) : Part abrupt clock p (p.changeSite index Site.shutDown).1
  /-- A disposal looks whether a site has ended. -/
  | look {p : Provider} {m : Moment} (hclock : clock = some m) {index : Nat}
      (hclosed : ∀ s, p.sites[index]? = some s → s.pool.closed = true) :
      Part abrupt clock p (p.changeSite index (Site.pollDrain p.config m)).1
  /-- A site is no longer registered. -/
  | unregister {p : Provider} {index : Nat}
      (hclosed : ∀ s, p.sites[index]? = some s → s.pool.closed = true)
      (hended : (abrupt ∧ p.isDisposed = true) ∨ p.hasEnded index = true) :
      Part abrupt clock p (p.unregister index)
  /-- No further acquisitions are accepted. -/
  | refuse (p : Provider) : Part abrupt clock p { p with isDisposed := true }
  /-- The disposal of the whole provider waits for sites. -/
  | wait {p : Provider} (sites : List Nat) (hdisposed : p.isDisposed = true) :
      Part abrupt clock p { p with wholeDisposal := .running sites }
  /-- The disposal of the whole provider is over. -/
  | finish {p : Provider} (hdisposed : p.isDisposed = true) (hregistry : p.registry = []) :
      Part abrupt clock p { p with wholeDisposal := .finished }
  /-- The disposal of the whole provider comes too late. -/
  | lapse {p : Provider} (habrupt : abrupt) :
      Part abrupt clock p { p with wholeDisposal := .finished }
  /-- The disposal of a destination is asked for. -/
  | ask {p : Provider} {site : Nat} {s : Site} (hs : p.sites[site]? = some s)
      (hclosed : s.pool.closed = true) :
      Part abrupt clock p { p with singleDisposals := p.singleDisposals ++ [⟨site, false⟩] }
  /-- The disposal of a destination is over. -/
  | conclude {p : Provider} {index site : Nat}
      (hknown : p.singleDisposals[index]? = some ⟨site, false⟩)
      (hended : p.hasEnded site = true) (hunregistered : site ∉ p.registry.map Prod.snd) :
      Part abrupt clock p { p with singleDisposals := p.singleDisposals.set index ⟨site, true⟩ }

/-- `Parts`: one `Part` of a disposal after another. -/
abbrev Parts (abrupt : Prop) (clock : Option Moment) : Provider → Provider → Prop :=
  Relation.ReflTransGen (Part abrupt clock)

/-- What every `Part` keeps holds after `Parts`. -/
theorem Parts.invariant {motive : Provider → Prop}
    (part : ∀ p q, motive p → Part abrupt clock p q → motive q) (hp : motive p)
    (h : Parts abrupt clock p q) : motive q := by
  induction h with
  | refl => exact hp
  | tail _ hpart ih => exact part _ _ ih hpart

theorem Sound.of_subset (h : Sound config p) (hconfig : q.config = p.config)
    (hsites : q.sites = p.sites) (hregistry : q.registry ⊆ p.registry) : Sound config q := by
  refine ⟨hconfig.trans h.settings, hsites ▸ h.sites, fun d site hd => ?_⟩
  rw [hsites]
  exact h.registered d site (hregistry hd)

/-- `Attended config p`: what `Reachable` providers know of their disposals. -/
structure Attended (config : Config) (p : Provider) : Prop where
  /-- Nothing is registered but sites. -/
  sound : Sound config p
  /-- Only the end of closed pools is looked for. -/
  driven : ∀ s ∈ p.sites, Site.Driven config s
  /-- No site is registered twice. -/
  registry : (p.registry.map Prod.snd).Nodup
  /-- Before the disposal of the whole provider waits, no further acquisitions are accepted. -/
  running : ∀ sites, p.wholeDisposal = .running sites → p.isDisposed = true
  /-- The disposal of a destination waits for the end of a closed pool. When it is over, the wait
  for that end is, and the site is no longer registered. -/
  asked : ∀ single ∈ p.singleDisposals, ∃ s, p.sites[single.site]? = some s ∧
    s.pool.closed = true ∧ (single.finished = true →
      s.drain = .finished ∧ single.site ∉ p.registry.map Prod.snd)

namespace Attended

theorem site (h : Attended config p) (hs : p.sites[index]? = some s) : Site.Driven config s :=
  h.driven s (List.mem_of_getElem? hs)

/-- A site that is registered next was not registered before. -/
theorem notMem_registry (h : Attended config p) : p.sites.length ∉ p.registry.map Prod.snd := by
  intro hmem
  obtain ⟨⟨d, site⟩, hregistered, rfl⟩ := List.mem_map.1 hmem
  obtain ⟨s, hs, -⟩ := h.sound.registered d _ hregistered
  exact Nat.lt_irrefl _ (List.getElem?_eq_some_iff.1 hs).1

/-- Where the registry does not grow and nothing is said of the disposals, it is enough that the
sites are well. -/
theorem of_sites (h : Attended config p) (hsound : Sound config q)
    (hdriven : ∀ t ∈ q.sites, Site.Driven config t)
    (hsettles : p.Settles q)
    (hregistry : ∀ site, site ∈ q.registry.map Prod.snd →
      site ∈ p.registry.map Prod.snd ∨ p.sites.length ≤ site)
    (hnodup : (q.registry.map Prod.snd).Nodup)
    (hrunning : ∀ sites, q.wholeDisposal = .running sites → q.isDisposed = true)
    (hsingle : q.singleDisposals = p.singleDisposals) : Attended config q := by
  refine ⟨hsound, hdriven, hnodup, hrunning, fun single hmem => ?_⟩
  rw [hsingle] at hmem
  obtain ⟨s, hs, hclosed, hover⟩ := h.asked single hmem
  obtain ⟨t, ht, hsettles⟩ := hsettles _ s hs
  refine ⟨t, ht, hsettles.closed hclosed, fun hsingle => ?_⟩
  obtain ⟨hdrain, hunregistered⟩ := hover hsingle
  refine ⟨hsettles.finished hdrain, fun hregistered => ?_⟩
  rcases hregistry _ hregistered with hold | hnew
  · exact hunregistered hold
  · have hlt := (List.getElem?_eq_some_iff.1 hs).1
    omega

/-- A provider stays `Attended` at an event at one site, at which nobody looks for the end of an
open pool. -/
theorem setSite (h : Attended config p) (hs : p.sites[index]? = some s) (event : Site.Event)
    (hlook : event.isLook = true → s.pool.closed = true) :
    Attended config (p.setSite index (s.step p.config event).1) := by
  have hdescends : Descends (fun _ _ => True) p (p.setSite index (s.step p.config event).1) :=
    .setSite trivial hs
  refine h.of_sites (h.sound.setSite hs event) (fun t ht => ?_) hdescends.settles (fun site => .inl)
    h.registry h.running rfl
  rcases List.mem_or_eq_of_mem_set ht with hold | rfl
  · exact h.driven t hold
  · rw [h.sound.settings]
    exact (h.site hs).step event hlook

theorem changeSite (h : Attended config p) (event : Site.Event)
    (hlook : event.isLook = true → ∀ s, p.sites[index]? = some s → s.pool.closed = true) :
    Attended config (p.changeSite index fun s => s.step p.config event).1 := by
  obtain ⟨-, heq⟩ | ⟨s, hs, heq⟩ := changeSite_cases index (fun s => s.step p.config event) p <;>
    rw [heq]
  · exact h
  · exact h.setSite hs event fun hevent => hlook hevent s hs

/-- `Apart` from disposals, a provider stays `Attended`. -/
theorem apart (h : Attended config p) (hsound : Sound config q) (ho : p.Apart q) :
    Attended config q := by
  -- a wait is driven by the looks of disposals alone, and outside of them nobody looks
  have hdriven : ∀ t ∈ q.sites, Site.Driven config t := by
    intro t ht
    obtain ⟨index, hindex⟩ := List.mem_iff_getElem?.1 ht
    obtain ⟨s, hbegins, hbecomes⟩ := ho.descends.becomes index t hindex
    have hs : Site.Driven config s := by
      rcases hbegins with hs | ⟨-, d, rfl⟩
      · exact h.site hs
      · exact .fresh d
    rw [h.sound.settings] at hbecomes
    exact hbecomes.invariant
      (fun t event hlook ht => ht.step event fun hevent => by rw [hlook] at hevent; cases hevent) hs
  obtain heq | ⟨d, heq⟩ := ho.agenda
  · obtain ⟨hregistry, -, hdisposed, hwhole, hsingle⟩ := Agenda.mk.inj heq
    refine h.of_sites hsound hdriven ho.descends.settles
      (fun site hsite => .inl (hregistry ▸ hsite)) (hregistry ▸ h.registry)
      (fun sites hrunning => ?_) hsingle
    rw [hdisposed]
    exact h.running sites (hwhole.symm.trans hrunning)
  · obtain ⟨hregistry, -, hdisposed, hwhole, hsingle⟩ := Agenda.mk.inj heq
    have hkeys : q.registry.map Prod.snd = p.registry.map Prod.snd ++ [p.sites.length] := by
      rw [hregistry]
      simp [agenda]
    refine h.of_sites hsound hdriven ho.descends.settles (fun site hsite => ?_) ?_
      (fun sites hrunning => ?_) hsingle
    · rw [hkeys] at hsite
      exact (List.mem_append.1 hsite).imp_right fun hnew =>
        Nat.le_of_eq (List.mem_singleton.1 hnew).symm
    · rw [hkeys]
      exact List.nodup_append.2 ⟨h.registry, List.nodup_singleton _, fun site hsite other hother =>
        fun heq => h.notMem_registry (List.mem_singleton.1 hother ▸ heq ▸ hsite)⟩
    · rw [hdisposed]
      exact h.running sites (hwhole.symm.trans hrunning)

/-- A provider stays `Attended` at every `Part` of a disposal. -/
theorem part (h : Attended config p) (hpart : Part abrupt clock p q) : Attended config q := by
  have hsound (hconfig : q.config = p.config) (hsites : q.sites = p.sites)
      (hregistry : q.registry = p.registry) : Sound config q :=
    h.sound.of_subset hconfig hsites (hregistry ▸ List.Subset.refl _)
  cases hpart with
  | shut index => exact h.changeSite .shutDown nofun
  | @look m hclock index hclosed => exact h.changeSite (.pollDrain m) fun _ => hclosed
  -- less is registered, and nothing else changes
  | @unregister index hclosed hended =>
    have hsub : (p.unregister index).registry.Sublist p.registry := List.eraseP_sublist
    exact h.of_sites (h.sound.of_subset rfl rfl hsub.subset) h.driven (.refl p)
      (fun site hsite => .inl ((hsub.map Prod.snd).subset hsite)) (h.registry.sublist (hsub.map _))
      h.running rfl
  | refuse => exact ⟨hsound rfl rfl rfl, h.driven, h.registry, fun _ _ => rfl, h.asked⟩
  | wait sites hdisposed =>
    exact ⟨hsound rfl rfl rfl, h.driven, h.registry, fun _ _ => hdisposed, h.asked⟩
  | finish | lapse => exact ⟨hsound rfl rfl rfl, h.driven, h.registry, fun _ => nofun, h.asked⟩
  -- the new disposal is asked of a closed pool, and has not ended
  | @ask site s hs hclosed =>
    refine ⟨hsound rfl rfl rfl, h.driven, h.registry, h.running, fun single hmem => ?_⟩
    rcases List.mem_append.1 hmem with hold | hnew
    · exact h.asked single hold
    · obtain rfl := List.mem_singleton.1 hnew
      exact ⟨s, hs, hclosed, nofun⟩
  | @conclude index site hknown hended hunregistered =>
    refine ⟨hsound rfl rfl rfl, h.driven, h.registry, h.running, fun single hmem => ?_⟩
    rcases List.mem_or_eq_of_mem_set hmem with hold | rfl
    · exact h.asked single hold
    · obtain ⟨s, hs, hclosed, -⟩ := h.asked _ (List.mem_of_getElem? hknown)
      refine ⟨s, hs, hclosed, fun _ => ⟨?_, hunregistered⟩⟩
      rw [hasEnded, hs] at hended
      simpa using hended

end Attended

/-! ## Every disposal is a sequence of parts -/

/-- `Narrows p q`: on the way from `p` to `q`, no acquisitions are let in again, and no sites are
made or registered. -/
structure Narrows (p q : Provider) : Prop where
  /-- A provider that accepts no acquisitions accepts none. -/
  disposed : p.isDisposed = true → q.isDisposed = true
  /-- No site is registered. -/
  registry : q.registry.Sublist p.registry
  /-- No site is made. -/
  sites : q.sites.length = p.sites.length

namespace Narrows

theorem refl (p : Provider) : p.Narrows p := ⟨id, .refl _, rfl⟩

theorem trans {r : Provider} (h : p.Narrows q) (hrest : q.Narrows r) : p.Narrows r :=
  ⟨hrest.disposed ∘ h.disposed, hrest.registry.trans h.registry, hrest.sites.trans h.sites⟩

/-- It is enough for `Narrows` that the `agenda` is the same. -/
theorem of_agenda (h : q.agenda = p.agenda) : p.Narrows q := by
  obtain ⟨hregistry, hsites, hdisposed, -⟩ := Agenda.mk.inj h
  exact ⟨fun h => hdisposed.trans h, hregistry ▸ .refl _, hsites⟩

theorem changeSite (index : Nat) (change : Site → Site.Change) (p : Provider) :
    p.Narrows (p.changeSite index change).1 :=
  of_agenda (agenda_changeSite index change p)

end Narrows

theorem Part.narrows (h : Part abrupt clock p q) : p.Narrows q := by
  cases h with
  | shut index => exact .changeSite _ _ _
  | look hclock hclosed => exact .changeSite _ _ _
  | unregister => exact ⟨id, List.eraseP_sublist, rfl⟩
  | refuse => exact ⟨fun _ => rfl, .refl _, rfl⟩
  | wait | finish | lapse | ask | conclude => exact ⟨id, .refl _, rfl⟩

theorem Parts.narrows (h : Parts abrupt clock p q) : p.Narrows q :=
  h.invariant (motive := p.Narrows) (fun _ _ hp hpart => hp.trans hpart.narrows) (.refl p)

theorem changeSite_closed {change : Site → Site.Change}
    (h : ∀ s, (change s).1.pool.closed = true) (index : Nat) (p : Provider) :
    ∀ s, (p.changeSite index change).1.sites[index]? = some s → s.pool.closed = true := by
  intro t ht
  obtain ⟨hother, -⟩ | ⟨s, -, -, rfl⟩ := site_changeSite ht
  · exact absurd rfl hother
  · exact h s

/-- A closed pool stays closed at `changeSite` with an event. -/
theorem changeSite_stays (event : Site.Event)
    (hclosed : ∀ s, p.sites[index]? = some s → s.pool.closed = true) :
    ∀ s, (p.changeSite index fun s => s.step p.config event).1.sites[index]? = some s →
      s.pool.closed = true := by
  intro t ht
  obtain ⟨hother, -⟩ | ⟨s, -, hs, rfl⟩ := site_changeSite ht
  · exact absurd rfl hother
  · exact Site.step_closed (hclosed s hs) event

/-- `awaitEnd` of a closed pool is made of `Parts`. -/
theorem awaitEnd_parts (m : Moment) (disposal : Disposal)
    (hclosed : ∀ s, p.sites[index]? = some s → s.pool.closed = true) :
    Parts abrupt (some m) p (p.awaitEnd m disposal index).1 := by
  unfold awaitEnd
  split
  · rename_i hended
    exact .single (.unregister hclosed (.inr hended))
  · have hlook : Parts abrupt (some m) p (p.changeSite index (Site.pollDrain p.config m)).1 :=
      .single (.look rfl hclosed)
    dsimp only
    split
    · rename_i hended
      exact hlook.tail (.unregister (changeSite_stays (.pollDrain m) hclosed) (.inr hended))
    · exact hlook

theorem unregister_notMem (hnodup : (p.registry.map Prod.snd).Nodup) (index : Nat) :
    index ∉ (p.unregister index).registry.map Prod.snd := by
  rw [unregister]
  generalize p.registry = registry at hnodup ⊢
  dsimp only
  induction registry with
  | nil => nofun
  | cons entry rest ih =>
    obtain ⟨hentry, hrest⟩ := List.nodup_cons.1 hnodup
    by_cases hindex : entry.2 = index
    · subst hindex
      rw [List.eraseP_cons_of_pos (by simp)]
      exact hentry
    · rw [List.eraseP_cons_of_neg (by simpa using hindex), List.map_cons, List.mem_cons, not_or]
      exact ⟨Ne.symm hindex, ih hrest⟩

/-- `awaitEnd` that finds that a site has ended unregisters it. -/
theorem awaitEnd_unregisters (m : Moment) (disposal : Disposal)
    (hnodup : (p.registry.map Prod.snd).Nodup)
    (hended : (p.awaitEnd m disposal index).1.hasEnded index = true) :
    index ∉ (p.awaitEnd m disposal index).1.registry.map Prod.snd := by
  unfold awaitEnd at hended ⊢
  split
  · exact unregister_notMem hnodup index
  · rename_i hbefore
    rw [if_neg hbefore] at hended
    have hregistry : (p.changeSite index (Site.pollDrain p.config m)).1.registry = p.registry :=
      congrArg Agenda.registry (agenda_changeSite index _ p)
    dsimp only at hended ⊢
    split
    · refine unregister_notMem ?_ index
      rw [Change.andThen_fst, hregistry]
      exact hnodup
    · rename_i hafter
      rw [if_neg hafter] at hended
      exact absurd hended hafter

theorem awaitEnd_singleDisposals (m : Moment) (disposal : Disposal) (index : Nat) (p : Provider) :
    (p.awaitEnd m disposal index).1.singleDisposals = p.singleDisposals := by
  have hchange := congrArg Agenda.singleDisposals
    (agenda_changeSite index (Site.pollDrain p.config m) p)
  unfold awaitEnd
  dsimp only
  split
  · rfl
  · split <;> exact hchange

/-- `endSites` is made of `Parts`: each site is shut down before anyone looks whether it
has ended. -/
theorem endSites_parts (m : Moment) (indices : List Nat) (p : Provider) :
    Parts abrupt (some m) p (p.endSites m indices).2.1 := by
  induction indices generalizing p with
  | nil => exact .refl
  | cons index rest ih =>
    have hshut : Parts abrupt (some m) p (p.changeSite index Site.shutDown).1 :=
      .single (.shut p index)
    have hlooked := hshut.trans
      (awaitEnd_parts m .whole (changeSite_closed Site.shutDown_closed index p))
    exact hlooked.trans (ih _)

/-- After `disposeRound`, the disposal waits, is over because no site is registered, or goes on with
those that are. -/
theorem disposeRound_cases (m : Moment) (rounds : Nat) (indices : List Nat) (p : Provider) :
    (∃ left, (p.disposeRound m rounds indices).1 =
      { (p.endSites m indices).2.1 with wholeDisposal := .running left }) ∨
    ((p.endSites m indices).2.1.registry = [] ∧ (p.disposeRound m rounds indices).1 =
      { (p.endSites m indices).2.1 with wholeDisposal := .finished }) ∨
    ∃ fewer next, rounds = fewer + 1 ∧ (p.disposeRound m rounds indices).1 =
      ((p.endSites m indices).2.1.disposeRound m fewer next).1 := by
  rw [disposeRound.eq_def]
  dsimp only
  split
  · exact .inl ⟨_, rfl⟩
  · split
    · rename_i hnone
      exact .inr (.inl ⟨by simpa using hnone, rfl⟩)
    · cases rounds with
      | zero => exact .inl ⟨_, rfl⟩
      | succ fewer => exact .inr (.inr ⟨fewer, _, rfl, rfl⟩)

/-- `disposeRound` is made of `Parts`, those of the rounds that follow included. -/
theorem disposeRound_parts (m : Moment) (rounds : Nat) (indices : List Nat)
    (hdisposed : p.isDisposed = true) :
    Parts abrupt (some m) p (p.disposeRound m rounds indices).1 := by
  -- a round ends the sites on its list, and is over, waits, or begins again with what is left
  induction rounds generalizing indices p with
  | zero =>
    have hended : Parts abrupt (some m) p (p.endSites m indices).2.1 := endSites_parts m indices p
    have hstays := (Parts.narrows hended).disposed hdisposed
    obtain ⟨left, heq⟩ | ⟨hregistry, heq⟩ | ⟨fewer, next, hrounds, -⟩ :=
      disposeRound_cases m 0 indices p
    · exact heq ▸ hended.tail (.wait left hstays)
    · exact heq ▸ hended.tail (.finish hstays hregistry)
    · cases hrounds
  | succ rounds ih =>
    have hended : Parts abrupt (some m) p (p.endSites m indices).2.1 := endSites_parts m indices p
    have hstays := (Parts.narrows hended).disposed hdisposed
    obtain ⟨left, heq⟩ | ⟨hregistry, heq⟩ | ⟨fewer, next, hrounds, heq⟩ :=
      disposeRound_cases m (rounds + 1) indices p
    · exact heq ▸ hended.tail (.wait left hstays)
    · exact heq ▸ hended.tail (.finish hstays hregistry)
    · obtain rfl := Nat.succ.inj hrounds
      exact heq ▸ hended.trans (ih next hstays)

/-- The event may be part of an orderly end: nothing is disposed of where no task can be started,
and something keeps the provider alive when the disposal of the whole of it is first polled. -/
def Event.IsOrderly (p : Provider) : Event → Prop
  | .disposeAtOnce => False
  | .pollDisposal _ .whole => p.wholeDisposal = .unpolled → p.isAlive = true
  | _ => True

theorem abandonSites_parts (habrupt : abrupt) (indices : List Nat)
    (hdisposed : p.isDisposed = true) :
    Parts abrupt clock p (p.abandonSites indices).1 := by
  induction indices generalizing p with
  | nil => exact .refl
  | cons index rest ih =>
    have hshut : Parts abrupt clock p (p.changeSite index Site.shutDown).1 :=
      .single (.shut p index)
    have hstays := (Parts.narrows hshut).disposed hdisposed
    have hclosed := changeSite_closed Site.shutDown_closed index p
    exact (hshut.tail (.unregister hclosed (.inl ⟨habrupt, hstays⟩))).trans (ih hstays)

theorem disposeWhen_parts (hsound : Sound config p) (d : Destination) :
    Parts abrupt clock p (p.disposeWhen d).2.1 := by
  rw [disposeWhen]
  split
  · exact .refl
  · rename_i site hserves
    obtain ⟨s, hs, -⟩ := hsound.registered d site (mem_of_lookup hserves)
    have hshut : Parts abrupt clock p (p.changeSite site Site.shutDown).1 := .single (.shut p site)
    have hclosed := changeSite_closed Site.shutDown_closed site p
    obtain ⟨hnone, -⟩ | ⟨t, ht, heq⟩ := changeSite_cases site Site.shutDown p
    · rw [hs] at hnone
      cases hnone
    · have hafter : (p.changeSite site Site.shutDown).1.sites[site]? = some t.shutDown.1 := by
        rw [heq]
        exact (getElem?_setSite _ ht site).trans (if_pos rfl)
      exact hshut.tail (.ask hafter t.shutDown_closed)

theorem pollSingleDisposal_parts (h : Attended config p) (m : Moment) (index : Nat) :
    Parts abrupt (some m) p (p.pollSingleDisposal m index).1 := by
  unfold pollSingleDisposal
  split
  · exact .refl
  · exact .refl
  · rename_i site hknown
    obtain ⟨s, hs, hclosed, -⟩ := h.asked _ (List.mem_of_getElem? hknown)
    have hawaited : Parts abrupt (some m) p (p.awaitEnd m (.single index) site).1 := by
      refine awaitEnd_parts m (.single index) fun t ht => ?_
      obtain rfl := Option.some.inj (hs.symm.trans ht)
      exact hclosed
    dsimp only
    split
    · rename_i hended
      rw [← awaitEnd_singleDisposals m (.single index) site p] at hknown
      exact hawaited.tail (.conclude hknown hended (awaitEnd_unregisters m _ h.registry hended))
    · exact hawaited

theorem pollWholeDisposal_parts (h : Attended config p) (m : Moment) :
    Parts (¬ Event.IsOrderly p (.pollDisposal m .whole)) (some m) p (p.pollWholeDisposal m).1 := by
  unfold pollWholeDisposal
  split
  · exact .refl
  · rename_i hunpolled
    split
    · exact (Relation.ReflTransGen.single (.refuse p)).trans (disposeRound_parts m _ _ rfl)
    · rename_i halive
      exact .single (.lapse fun horderly => halive (horderly hunpolled))
  · rename_i sites hrunning
    exact disposeRound_parts m _ sites (h.running sites hrunning)

/-- A `step` that has to do with disposals is made of `Parts` of them. -/
theorem step_parts (h : Attended config p) {event : Event} (hinside : event.isOutside = false) :
    Parts (¬ event.IsOrderly p) event.moment? p (p.step event).1 := by
  cases event with
  | dispose => exact .single (.refuse p)
  | disposeAtOnce =>
    exact (Relation.ReflTransGen.single (.refuse p)).trans (abandonSites_parts id _ rfl)
  | disposeWhen d => exact disposeWhen_parts h.sound d
  | pollDisposal m disposal =>
    cases disposal with
    | nothing => exact .refl
    | whole => exact pollWholeDisposal_parts h m
    | single index => exact pollSingleDisposal_parts h m index
  | _ => cases hinside

/-- Every `step` is `Outside` all disposals, or made of `Parts` of them at its own time, which are
abrupt only if the event is not orderly. -/
theorem step_outside_or_parts (h : Attended config p) (event : Event) :
    p.Outside (p.step event).1 ∨ Parts (¬ event.IsOrderly p) event.moment? p (p.step event).1 := by
  cases houtside : event.isOutside with
  | true => exact .inl (step_outside houtside p)
  | false => exact .inr (step_parts h houtside)

/-- Every `Reachable` provider is `Attended`: whoever waits for a site's end waits for the end of a
closed pool. -/
theorem attended_of_reachable (h : Reachable config p) : Attended config p := by
  induction h with
  | start =>
    exact ⟨sound_of_reachable .start, by simp [ofConfig], List.nodup_nil, fun _ => nofun,
      by simp [ofConfig]⟩
  | @step p event hp ih =>
    rcases step_outside_or_parts ih event with houtside | hparts
    · exact ih.apart (sound_of_reachable (hp.step event)) houtside.apart
    · exact Parts.invariant (fun _ _ hp hpart => Attended.part hp hpart) ih hparts

/-- A provider that `isDisposed` only `Narrows`. -/
theorem step_narrows (h : Attended config p) (hdisposed : p.isDisposed = true) (event : Event) :
    p.Narrows (p.step event).1 := by
  rcases step_outside_or_parts h event with houtside | hparts
  · obtain heq | ⟨hopen, -⟩ := houtside.registers
    · exact .of_agenda heq
    · rw [hdisposed] at hopen
      cases hopen
  · exact Parts.narrows hparts

/-! ## No disposal is left asleep -/

/-- The pool of the only connection is disposed of while the connection is in use. -/
def crowdedDisposal : List Event :=
  crowded ++ [.disposeWhen (.ofAddress "db:1"), .pollDisposal (.atMillis 1) (.single 0)]

end Provider

end ConnectionPool
