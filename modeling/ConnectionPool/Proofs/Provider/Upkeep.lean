import ConnectionPool.Proofs.Provider.Abandonment
import ConnectionPool.Proofs.Provider.Separation
import ConnectionPool.Proofs.Site.Staleness

/-!
# Open pools in the course of events

A pool that nothing keeps alive is never kept alive again, as long as only those who hold the
provider ask it for anything, and only pools that are alive are swept. A new pool is made together
with its sweeps. What is known not to be stale stays known not to be.

## Main definitions

* `Permitted`: an event that whoever is there can bring about.
* `Upkept`: what an event makes of the open pools that are kept alive.

## Main results

* `isSiteAlive_before`: a pool that is kept alive was kept alive before.
* `startSweep_of_new`: a new pool is swept.
* `step_upkept`: every permitted event.
-/

namespace ConnectionPool

namespace Site

variable {config : Config} {s : Site}

/-- The event is brought about by nobody but those who hold something of the site. -/
def Event.isOfHolder : Event → Bool
  | .release _ _ | .detach _ | .exchange _ _ | .openedForQueue _ _ _ _
  | .openingForQueueFailed _ _ _ | .closeFinished _ => true
  | _ => false

/-- At a site that is not `isHeld`, nobody can do what `isOfHolder`. -/
theorem isHeld_step_of_isOfHolder (h : s.isHeld = false) {event : Event}
    (hholder : event.isOfHolder = true) : (s.step config event).1.isHeld = false := by
  obtain ⟨⟨hleases, -, hopenings, hclosings, -⟩, -⟩ := nothing_out_of_not_isHeld h
  have hlease : ∀ lease, s.lease? lease = none := fun lease => by rw [lease?, hleases]; rfl
  have hopening : ∀ opening purpose, s.isOpening opening purpose = false := by
    intro opening purpose
    rw [isOpening, hopenings]
    rfl
  -- nothing of the site is out, so whoever names something of it finds nothing
  cases event with
  | release m lease => rwa [step, release, hlease]
  | detach lease => rwa [step, detach, hlease]
  | exchange lease conn =>
    have hsame : s.exchange lease conn = s := by
      rw [exchange, hleases, List.map_nil, ← hleases]
    rwa [step, hsame]
  | openedForQueue opening conn m created =>
    obtain ⟨-, heq⟩ | ⟨hunder, -⟩ := openedForQueue_cases config opening conn m created s
    · rwa [step, heq]
    · cases (hopening opening .queue).symm.trans hunder
  | openingForQueueFailed opening failure m =>
    obtain ⟨-, heq⟩ | ⟨hunder, -⟩ := openingForQueueFailed_cases config opening failure m s
    · rwa [step, heq]
    · cases (hopening opening .queue).symm.trans hunder
  | closeFinished connection =>
    obtain ⟨-, heq⟩ | ⟨e, hfound, -⟩ := closeFinished_cases connection s
    · rwa [step, heq]
    · rw [hclosings] at hfound
      cases hfound
  | _ => cases hholder

end Site

namespace Provider

variable {config : Config} {p q : Provider} {event : Event} {index : Nat} {s t : Site}
  {now : Instant}

/-! ## Who can do what -/

/-- Only whoever holds the provider can bring the event about. -/
def Event.needsHolder : Event → Bool
  | .acquire _ | .disposeWhen _ | .disposeAtOnce => true
  | _ => false

/-- `Permitted p event`: the event can be brought about by whoever is there. -/
structure Permitted (p : Provider) (event : Event) : Prop where
  /-- What is asked of the provider is asked by somebody who holds it. -/
  holder : event.needsHolder = true → p.isHeld = true
  /-- A pool that is swept is kept alive. -/
  alive : ∀ m site, event = .sweep m site → p.isSiteAlive site = true

/-! ## What is no longer alive -/

/-- A provider that is not `isAlive` has nothing that keeps it alive. -/
theorem not_isAlive_iff : p.isAlive = false ↔
    p.isHeld = false ∧ p.acquisitions = [] ∧
      (∀ single ∈ p.singleDisposals, single.finished = true) ∧
      ∀ sites, p.wholeDisposal ≠ .running sites := by
  unfold isAlive
  cases hwhole : p.wholeDisposal <;> simp [and_assoc]

/-- An open pool that is not `isSiteAlive` still serves its destination, and nothing of it
is out. -/
theorem not_isSiteAlive_iff (h : Reachable config p) (hs : p.sites[index]? = some s)
    (hopen : s.pool.closed = false) :
    p.isSiteAlive index = false ↔ s.isHeld = false ∧ p.isAlive = false := by
  have hregistered : p.isRegistered index = true := by
    have hmem : index ∈ p.registry.map Prod.snd := by
      by_contra hleft
      cases hopen.symm.trans ((succession_of_reachable h).left index s hs hleft).1
    obtain ⟨entry, hentry, rfl⟩ := List.mem_map.1 hmem
    exact List.any_eq_true.2 ⟨entry, hentry, beq_self_eq_true _⟩
  rw [isSiteAlive, hs, hregistered]
  simp

/-- `Deserted index p`: nothing keeps the provider alive, and nothing is out of the site. -/
def Deserted (index : Nat) (p : Provider) : Prop :=
  p.isAlive = false ∧ ∃ s, p.sites[index]? = some s ∧ s.isHeld = false

/-- A site stays `Deserted` after `changeSite`, unless it is that site which is changed. -/
theorem Deserted.changeSite (h : p.Deserted index) {other : Nat} {change : Site → Site.Change}
    (hkept : other = index → ∀ s, s.isHeld = false → (change s).1.isHeld = false) :
    (p.changeSite other change).1.Deserted index := by
  obtain ⟨halive, s, hs, hheld⟩ := h
  refine ⟨?_, ?_⟩
  · rw [changeSite_fst_eq]
    exact halive
  · obtain ⟨-, heq⟩ | ⟨u, hu, heq⟩ := changeSite_cases other change p <;> rw [heq]
    · exact ⟨s, hs, hheld⟩
    · rw [getElem?_setSite _ hu]
      by_cases hother : index = other
      · subst hother
        obtain rfl := Option.some.inj (hs.symm.trans hu)
        rw [if_pos rfl]
        exact ⟨_, rfl, hkept rfl s hheld⟩
      · rw [if_neg hother]
        exact ⟨s, hs, hheld⟩

/-- What only those can do who hold something of a site leaves it `Deserted`. -/
theorem Deserted.act (h : p.Deserted index) (other : Nat) (event : Site.Event)
    (hholder : event.isOfHolder = true) :
    (p.changeSite other fun s => s.step p.config event).1.Deserted index :=
  h.changeSite fun _ _ hs => Site.isHeld_step_of_isOfHolder hs hholder

/-- A `Deserted` site stays so. -/
theorem Deserted.step (h : p.Deserted index) (hdead : p.isSiteAlive index = false)
    (hpermitted : p.Permitted event) : (p.step event).1.Deserted index := by
  obtain ⟨hholder, hacquisitions, hsingles, hwhole⟩ := not_isAlive_iff.1 h.1
  have hlookup : ∀ id, p.acquisitions.lookup id = none := fun id => by
    rw [hacquisitions]
    rfl
  have hnobody : event.needsHolder ≠ true := fun hneeds => by
    cases (hpermitted.holder hneeds).symm.trans hholder
  -- there is nobody who could ask for anything new, and no acquisition or disposal
  -- that is under way
  cases event with
  | acquire d => exact absurd rfl hnobody
  | disposeWhen d => exact absurd rfl hnobody
  | disposeAtOnce => exact absurd rfl hnobody
  | poll m id => rwa [Provider.step, poll, hlookup]
  | opened m id conn => rwa [Provider.step, opened, hlookup]
  | openingFailed id failure => rwa [Provider.step, openingFailed, hlookup]
  | abandon m id =>
    have hsame : p.finishAcquisition id = p := by
      rw [finishAcquisition, hacquisitions, List.eraseP_nil, ← hacquisitions]
    rw [Provider.step, abandon, hlookup]
    dsimp only
    rwa [hsame]
  | release m lease => exact h.act lease.site (.release m lease.connection) rfl
  | detach lease => exact h.act lease.site (.detach lease.connection) rfl
  | swap first second =>
    exact swap_invariant (motive := Deserted index) p h
      (fun q lease conn hq => hq.act lease.site (.exchange lease.connection conn) rfl) first second
  | openedForQueue m site opening conn created =>
    exact h.act site (.openedForQueue opening conn m created) rfl
  | openingForQueueFailed m site opening failure =>
    exact h.act site (.openingForQueueFailed opening failure m) rfl
  | closeFinished site connection => exact h.act site (.closeFinished connection) rfl
  | sweep m site =>
    refine h.changeSite fun heq => ?_
    subst heq
    cases (hpermitted.alive m site rfl).symm.trans hdead
  | sweepEnded site => exact h.changeSite fun _ s hs => hs
  | dispose => exact h
  | pollDisposal m disposal =>
    cases disposal with
    | nothing => exact h
    | whole =>
      rw [Provider.step, pollDisposal, pollWholeDisposal]
      cases hpolled : p.wholeDisposal with
      | finished => exact h
      | running sites => exact absurd hpolled (hwhole sites)
      | unpolled =>
        dsimp only
        rw [h.1, if_neg Bool.false_ne_true]
        refine ⟨?_, h.2⟩
        exact not_isAlive_iff.2 ⟨hholder, hacquisitions, hsingles, fun _ hsites => by cases hsites⟩
    | single index =>
      rw [Provider.step, pollDisposal, pollSingleDisposal]
      split
      · exact h
      · exact h
      · rename_i site hknown
        cases hsingles _ (List.mem_of_getElem? hknown)
  | letGo =>
    exact ⟨not_isAlive_iff.2 ⟨rfl, hacquisitions, hsingles, hwhole⟩, h.2⟩

/-- An open pool that `isSiteAlive` was so before, if it was there. -/
theorem isSiteAlive_before (h : Reachable config p) (hpermitted : p.Permitted event)
    (hs : p.sites[index]? = some s) (hopen : s.pool.closed = false)
    (ht : (p.step event).1.sites[index]? = some t) (hopen' : t.pool.closed = false)
    (halive : (p.step event).1.isSiteAlive index = true) : p.isSiteAlive index = true := by
  by_contra hnot
  have hdead : p.isSiteAlive index = false := by simpa using hnot
  obtain ⟨hheld, hprovider⟩ := (not_isSiteAlive_iff h hs hopen).1 hdead
  have hdeserted : p.Deserted index := ⟨hprovider, s, hs, hheld⟩
  obtain ⟨hprovider', u, hu, hheld'⟩ := hdeserted.step hdead hpermitted
  obtain rfl := Option.some.inj (ht.symm.trans hu)
  cases halive.symm.trans ((not_isSiteAlive_iff (h.step event) ht hopen').2 ⟨hheld', hprovider'⟩)

/-! ## What stays -/

/-- `Stays p q`: whoever holds the provider goes on to, and no site is made. -/
structure Stays (p q : Provider) : Prop where
  /-- Whoever holds the provider goes on to. -/
  held : q.isHeld = p.isHeld
  /-- No site is made. -/
  sites : q.sites.length = p.sites.length

theorem Stays.refl (p : Provider) : p.Stays p := ⟨rfl, rfl⟩

theorem Stays.trans {r : Provider} (h : p.Stays q) (hrest : q.Stays r) : p.Stays r :=
  ⟨hrest.held.trans h.held, hrest.sites.trans h.sites⟩

theorem Stays.changeSite (index : Nat) (change : Site → Site.Change) (p : Provider) :
    p.Stays (p.changeSite index change).1 := by
  refine ⟨?_, (Narrows.changeSite index change p).sites⟩
  rw [changeSite_fst_eq]

theorem Stays.proceed (h : p.Stays q) (id : Nat) (next : Option Acquisition) :
    p.Stays (q.proceed id next) := by
  cases next <;> exact ⟨h.held, h.sites⟩

theorem Parts.stays {abrupt : Prop} {clock : Option Moment} (h : Parts abrupt clock p q) :
    p.Stays q := by
  refine ⟨?_, (Parts.narrows h).sites⟩
  refine h.invariant (motive := fun q => q.isHeld = p.isHeld) (fun q r hq hpart => ?_) rfl
  cases hpart with
  | shut index => exact (Stays.changeSite index _ q).held.trans hq
  | look => exact (Stays.changeSite _ _ q).held.trans hq
  | unregister | refuse | wait | finish | lapse | ask | conclude => exact hq

/-- Only a `poll` makes sites, and only who lets the provider go ceases to hold it. -/
theorem step_stays (h : Reachable config p) (hpoll : ∀ m id, event ≠ .poll m id)
    (hletGo : event ≠ .letGo) : p.Stays (p.step event).1 := by
  -- sites are made at first polls only
  cases event with
  | poll m id => exact absurd rfl (hpoll m id)
  | letGo => exact absurd rfl hletGo
  | acquire d => exact ⟨rfl, rfl⟩
  | opened m id conn =>
    rw [step, opened]
    split
    · exact (Stays.changeSite _ _ p).proceed id none
    · exact .refl p
  | openingFailed id failure =>
    rw [step, openingFailed]
    split
    · exact (Stays.changeSite _ _ p).proceed id none
    · exact .refl p
  | abandon m id =>
    rw [step, abandon]
    refine Stays.proceed ?_ id none
    split
    · exact .refl p
    · exact .refl p
    · exact .changeSite _ _ p
    · exact .changeSite _ _ p
  | swap first second =>
    exact swap_invariant p (.refl p)
      (fun q lease conn hq => hq.trans (.changeSite _ _ q)) first second
  | release m lease | detach lease | openedForQueue m site opening conn created
  | openingForQueueFailed m site opening failure | closeFinished site connection | sweep m site
  | sweepEnded site => exact .changeSite _ _ p
  | dispose | disposeAtOnce | disposeWhen d | pollDisposal m disposal =>
    exact Parts.stays (step_parts (attended_of_reachable h) rfl)

/-! ## New pools -/

/-- After the site for the destination is there, `start` makes no further one. -/
theorem start_stays (haccepting : p.isDisposed = false) (m : Moment) (id : Nat) (d : Destination) :
    (p.siteFor d).2.1.Stays (p.start m id d).2.1 := by
  rw [start_eq haccepting]
  exact (Stays.changeSite _ _ _).proceed id _

/-- Whoever holds the provider goes on to. -/
theorem poll_isHeld (m : Moment) (id : Nat) (p : Provider) :
    (p.poll m id).2.1.isHeld = p.isHeld := by
  unfold poll
  split
  · rfl
  · rename_i d _
    cases hdisposed : p.isDisposed with
    | true =>
      rw [start, hdisposed]
      rfl
    | false =>
      refine (start_stays hdisposed m id d).held.trans ?_
      obtain ⟨site, -, heq⟩ | ⟨-, heq⟩ := siteFor_eq d p <;> rw [heq]
      rfl
  · rfl
  · rw [pollQueued]
    dsimp only
    split <;> exact (Stays.changeSite _ _ p).held

/-- `isHeld` stays the same at every event but `letGo`. -/
theorem isHeld_step (h : Reachable config p) (hletGo : event ≠ .letGo) :
    (p.step event).1.isHeld = p.isHeld := by
  by_cases hpoll : ∃ m id, event = .poll m id
  · obtain ⟨m, id, rfl⟩ := hpoll
    exact poll_isHeld m id p
  · exact (step_stays h (fun m id heq => hpoll ⟨m, id, heq⟩) hletGo).held

/-- A pool that `start` makes is swept from then on, if there are sweeps. -/
theorem startSweep_of_start (hsweeps : p.config.sweepInterval.isSome = true) {m : Moment} {id : Nat}
    {d : Destination} (hnew : p.sites.length ≤ index)
    (hthere : index < (p.start m id d).2.1.sites.length) :
    .startSweep index ∈ (p.start m id d).2.2 := by
  cases hdisposed : p.isDisposed with
  | true =>
    rw [start, hdisposed] at hthere
    exact absurd hthere (Nat.not_lt.2 hnew)
  | false =>
    rw [(start_stays hdisposed m id d).sites] at hthere
    -- only where no site serves the destination does the number of sites grow, and then by one
    obtain ⟨site, -, heq⟩ | ⟨-, heq⟩ := siteFor_eq d p
    · rw [heq] at hthere
      exact absurd hthere (Nat.not_lt.2 hnew)
    · have hlast : (p.siteFor d).2.1.sites.length = p.sites.length + 1 := by
        rw [heq]
        exact List.length_append
      obtain rfl : index = p.sites.length := by omega
      rw [start_eq hdisposed]
      refine List.mem_append_left _ ?_
      rw [heq, if_pos hsweeps]
      exact List.mem_append_left _ (List.mem_singleton.2 rfl)

/-- A pool that is made is swept from then on, if there are sweeps. -/
theorem startSweep_of_new (h : Reachable config p) (hsweeps : config.sweepInterval.isSome = true)
    (hnew : p.sites.length ≤ index) (ht : (p.step event).1.sites[index]? = some t) :
    .startSweep index ∈ (p.step event).2 := by
  have hthere := (List.getElem?_eq_some_iff.1 ht).1
  rw [← (sound_of_reachable h).settings] at hsweeps
  -- a new site is made at a first poll, and at no other event
  by_cases hpoll : ∃ m id, event = .poll m id
  · obtain ⟨m, id, rfl⟩ := hpoll
    rw [step, poll] at hthere ⊢
    split at hthere
    · exact absurd hthere (Nat.not_lt.2 hnew)
    · exact startSweep_of_start hsweeps hnew hthere
    · exact absurd hthere (Nat.not_lt.2 hnew)
    · rename_i site request deadline _
      have hlength : (p.pollQueued m id site request deadline).2.1.sites.length =
          p.sites.length := by
        rw [pollQueued]
        dsimp only
        split <;> exact (Stays.changeSite _ _ p).sites
      omega
  · have hlength : (p.step event).1.sites.length = p.sites.length := by
      by_cases hletGo : event = .letGo
      · rw [hletGo]
        rfl
      · exact (step_stays h (fun m id heq => hpoll ⟨m, id, heq⟩) hletGo).sites
    omega

/-! ## What events make of open pools -/

/-- `Upkept config now isNew p q`: the open pools that are kept alive were there before, and so, or
they are new. What is not known to be stale at a time until `now` is not known to be so. -/
def Upkept (config : Config) (now : Instant) (isNew : Nat → Prop) (p q : Provider) : Prop :=
  ∀ index t, q.sites[index]? = some t → t.pool.closed = false → q.isSiteAlive index = true →
    (∃ s, p.sites[index]? = some s ∧ s.pool.closed = false ∧ p.isSiteAlive index = true ∧
      ∀ since ≤ now, s.FreshAt config since → t.FreshAt config since) ∨
    (isNew index ∧ ∀ since ≤ now, t.FreshAt config since)

theorem Upkept.refl {isNew : Nat → Prop} (p : Provider) : Upkept config now isNew p p :=
  fun _ t ht hopen halive => .inl ⟨t, ht, hopen, halive, fun _ _ hfresh => hfresh⟩

theorem Upkept.trans {r : Provider} {first rest isNew : Nat → Prop}
    (h : Upkept config now first p q) (hrest : Upkept config now rest q r)
    (hfirst : ∀ index, first index → isNew index) (hnew : ∀ index, rest index → isNew index) :
    Upkept config now isNew p r := by
  intro index u hu hopen halive
  obtain ⟨t, ht, hopen, halive, hstays⟩ | ⟨hrest, hfresh⟩ := hrest index u hu hopen halive
  · obtain ⟨s, hs, hopen, halive, hfresh⟩ | ⟨hfirst', hfresh⟩ := h index t ht hopen halive
    · exact .inl ⟨s, hs, hopen, halive, fun since hsince hs =>
        hstays since hsince (hfresh since hsince hs)⟩
    · exact .inr ⟨hfirst _ hfirst', fun since hsince => hstays since hsince (hfresh since hsince)⟩
  · exact .inr ⟨hnew _ hrest, hfresh⟩

/-- What an event `Causes` at a site happens at the time of the event. -/
theorem Event.Causes.looks_subset {actor : Option Nat} {act : Site.Event}
    (h : event.Causes actor index act) : act.looks ⊆ event.looks := by
  cases h <;> first | exact List.Subset.refl _ | exact List.nil_subset _

/-- Every event that is `Permitted` leaves the open pools that are kept alive `Upkept`. -/
theorem step_upkept (h : Reachable config p) (hsweeps : config.sweepInterval.isSome = true)
    (hpermitted : p.Permitted event) (hnow : ∀ look ∈ event.looks, look = now) :
    Upkept config now (fun index => .startSweep index ∈ (p.step event).2) p (p.step event).1 := by
  intro index t ht hopen halive
  obtain ⟨s, hbegins, hbecomes⟩ := (step_moves p event).descends.becomes index t ht
  rw [(sound_of_reachable h).settings] at hbecomes
  have hstays : ∀ since ≤ now, s.FreshAt config since → t.FreshAt config since := by
    intro since hsince hs
    refine hbecomes.invariant (motive := Site.FreshAt config since) (fun u act hmay hu => ?_) hs
    refine hu.step fun look hlook => ?_
    -- an exchange looks at no clock, and all else that is caused looks at the event's own
    obtain hexchange | ⟨actor, hcauses⟩ := hmay
    · obtain ⟨lease, conn, rfl⟩ : ∃ lease conn, act = .exchange lease conn := by
        cases act <;> simp [Site.Event.isExchange] at hexchange ⊢
      cases hlook
    · rwa [hnow look (hcauses.looks_subset hlook)]
  obtain hs | ⟨hnew, d, rfl⟩ := hbegins
  · have hopen' : s.pool.closed = false := by
      by_contra hclosed
      cases hopen.symm.trans (hbecomes.settles.closed (by simpa using hclosed))
    exact .inl ⟨s, hs, hopen', isSiteAlive_before h hpermitted hs hopen' ht hopen halive, hstays⟩
  · exact .inr ⟨startSweep_of_new h hsweeps hnew ht, fun since hsince =>
      hstays since hsince (Site.freshAt_of_idle_nil rfl)⟩

end Provider

end ConnectionPool
