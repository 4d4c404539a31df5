import ConnectionPool.Proofs.Provider.Run
import ConnectionPool.Proofs.Site.Requests

/-!
# Acquisitions and sites

A provider knows its unfinished acquisitions, and each site knows the openings and the requests that
are under way. The two agree: the openings that a site makes for callers are those that unfinished
acquisitions wait for, one each, and its requests under way are those of unfinished acquisitions,
one each, with the same deadlines.

* `linked_of_reachable`: acquisitions and sites agree in every reachable provider.
-/

namespace ConnectionPool

namespace Acquisition

/-- The request that an acquisition waits for at a site, if it is `queued` there. -/
def requestAt (site : Nat) : Acquisition → Option Nat
  | .queued known request _ => if known = site then some request else none
  | .fresh _ | .opening _ _ _ => none

/-- The opening that an acquisition waits for at a site, if it is `opening` there. -/
def openingAt (site : Nat) : Acquisition → Option Nat
  | .opening _ known number => if known = site then some number else none
  | .fresh _ | .queued _ _ _ => none

variable {a : Acquisition} {site : Nat}

theorem requestAt_eq_none (h : a.site? ≠ some site) : a.requestAt site = none := by
  cases a with
  | fresh d => rfl
  | opening d known number => rfl
  | queued known request deadline =>
    rw [requestAt, if_neg]
    rintro rfl
    exact h rfl

theorem openingAt_eq_none (h : a.site? ≠ some site) : a.openingAt site = none := by
  cases a with
  | fresh d => rfl
  | queued known request deadline => rfl
  | opening d known number =>
    rw [openingAt, if_neg]
    rintro rfl
    exact h rfl

theorem site?_ofTicket (d : Destination) (site : Nat) (ticket : Except PoolError Site.Ticket) :
    ∀ a, ofTicket d site ticket = some a → a.site? = some site := by
  rintro a ha
  rcases ticket with error | ⟨lease⟩ | ⟨number⟩ | ⟨request, deadline⟩ <;> cases ha <;> rfl

end Acquisition

namespace Provider

variable {config : Config} {allowed : Actors} {p : Provider}

/-- What a site lists, and nothing where there is no such site. -/
def listAt (list : Site → List Nat) (site : Nat) (p : Provider) : List Nat :=
  (p.sites[site]?.map list).getD []

/-- `Agrees awaited list p`: what acquisitions wait for at each site is what the site lists. -/
def Agrees (awaited : Nat → Acquisition → Option Nat) (list : Site → List Nat) (p : Provider) :
    Prop :=
  ∀ site, (p.acquisitions.filterMap fun known => awaited site known.2).Perm (p.listAt list site)

/-- `Linked p`: acquisitions and sites agree. -/
structure Linked (p : Provider) : Prop where
  /-- Acquisitions are numbered. -/
  numbers : Numbered p.nextAcquisition (p.acquisitions.map Prod.fst)
  /-- Each request under way belongs to one acquisition. -/
  requests : Agrees Acquisition.requestAt Site.requests p
  /-- Each opening for a caller belongs to one acquisition. -/
  openings : Agrees Acquisition.openingAt Site.callerOpenings p
  /-- A queued request and its acquisition have the same deadline. -/
  deadlines : ∀ id site request deadline, (id, .queued site request deadline) ∈ p.acquisitions →
    ∀ s, p.sites[site]? = some s → ∀ r ∈ s.pool.pending, r.id = request → r.deadline = deadline

/-! ## What an act of a caller does to what is under way -/

namespace Proceeds

variable {site : Nat} {s : Site} {known : Acquisition} {event : Site.Event}
  {next : Option Acquisition}

/-- An acquisition that `Proceeds` at a site stays there. -/
theorem site? (h : Proceeds config site s known event next) :
    (∀ other, other ≠ site → known.site? ≠ some other) ∧
      ∀ a, next = some a → a.site? = some site := by
  cases h with
  | begin m d => exact ⟨by simp [Acquisition.site?], Acquisition.site?_ofTicket d site _⟩
  | _ =>
    refine ⟨?_, by simp⟩
    rintro other hother hsite
    exact hother (Option.some.inj hsite).symm

/-- An acquisition that `Proceeds` takes its own request along. -/
theorem requests (h : Proceeds config site s known event next) {others : List Nat}
    (hrequests : ((known.requestAt site).toList ++ others).Perm s.requests) :
    ((next.bind (·.requestAt site)).toList ++ others).Perm
      (s.step config event).1.requests := by
  have hown : ∀ {request : Nat} {deadline : Instant},
      ((Acquisition.queued site request deadline).requestAt site).toList = [request] := by
    intro request deadline
    rw [Acquisition.requestAt, if_pos rfl]
    rfl
  -- a first poll may bring a request, reading and giving up take one away, and the rest leave them
  -- alone
  cases h with
  | begin m d =>
    obtain ⟨hinbox, ⟨hticket, -, -, hpending, -⟩ | ⟨hticket, -, -, hpending, -⟩ |
      ⟨hticket, -, -, hpending, -⟩⟩ := Site.acquire_tickets config m s
    · rw [hticket, Site.step, Site.requests, hpending, hinbox]
      exact hrequests
    · rw [hticket, Site.step, Site.requests, hpending, hinbox, List.map_append]
      rw [Acquisition.ofTicket, Option.bind_some, hown]
      have hnew := hrequests.cons s.pool.nextRequest
      refine hnew.trans ?_
      rw [Site.requests, ← List.cons_append]
      exact (List.perm_append_singleton _ _).symm.append_right _
    · rw [Site.step, Site.requests, hpending, hinbox]
      obtain ⟨lease, hticket⟩ | ⟨error, hticket⟩ := hticket <;> rw [hticket] <;> exact hrequests
  | learn m request deadline houtcome =>
    rw [hown] at hrequests
    have hothers := (List.cons_perm_iff_perm_erase.1 hrequests).2
    obtain ⟨hnone, -⟩ | ⟨-, hperm⟩ := Site.poll_requests config m request s
    · exact absurd hnone houtcome
    · exact hothers.trans hperm.symm
  | cancel m request deadline =>
    rw [hown] at hrequests
    have hothers := (List.cons_perm_iff_perm_erase.1 hrequests).2
    exact hothers.trans (Site.cancel_requests config m request s).symm
  | opened m d opening conn => exact hrequests.trans (Site.step_requests config _ rfl s).symm
  | failed d opening failure => exact hrequests.trans (Site.step_requests config _ rfl s).symm
  | abandon d opening => exact hrequests.trans (Site.step_requests config _ rfl s).symm

/-- An acquisition that `Proceeds` takes its own opening along. -/
theorem openings (h : Proceeds config site s known event next)
    (hnumbers : (s.openings.map (·.id)).Nodup) {others : List Nat}
    (hopenings : ((known.openingAt site).toList ++ others).Perm s.callerOpenings) :
    ((next.bind (·.openingAt site)).toList ++ others).Perm
      (s.step config event).1.callerOpenings := by
  have hown : ∀ {d : Destination} {number : Nat},
      ((Acquisition.opening d site number).openingAt site).toList = [number] := by
    intro d number
    rw [Acquisition.openingAt, if_pos rfl]
    rfl
  -- an opening that ends is the one that the acquisition waited for
  have hended : ∀ {d : Destination} {number : Nat},
      (((Acquisition.opening d site number).openingAt site).toList ++ others).Perm
          s.callerOpenings →
        event.ends = some ⟨number, .caller⟩ → event.isAcquire = false →
          others.Perm (s.step config event).1.callerOpenings := by
    intro d number hperm hends hevent
    rw [hown] at hperm
    have hstep := Site.step_openings config event hevent hnumbers
    rw [hends] at hstep
    exact ((List.cons_perm_iff_perm_erase.1 hperm).2).trans hstep.callerOpenings_erase.symm
  cases h with
  | begin m d =>
    obtain ⟨-, ⟨hticket, hlisted, -⟩ | ⟨hticket, hlisted, -⟩ | ⟨hticket, hlisted, -⟩⟩ :=
      Site.acquire_tickets config m s
    · rw [hticket, Site.step, Site.callerOpenings, hlisted, List.filter_append, List.map_append]
      rw [Acquisition.ofTicket, Option.bind_some, hown]
      exact (hopenings.cons s.nextOpening).trans (List.perm_append_singleton _ _).symm
    · rw [hticket, Site.step, Site.callerOpenings, hlisted]
      exact hopenings
    · rw [Site.step, Site.callerOpenings, hlisted]
      obtain ⟨lease, hticket⟩ | ⟨error, hticket⟩ := hticket <;> rw [hticket] <;> exact hopenings
  | learn m request deadline houtcome =>
    have hstep := Site.step_openings config (.poll m request) rfl hnumbers
    exact hopenings.trans (hstep.callerOpenings (by simp [Site.Event.ends])).symm
  | cancel m request deadline =>
    have hstep := Site.step_openings config (.cancel m request) rfl hnumbers
    exact hopenings.trans (hstep.callerOpenings (by simp [Site.Event.ends])).symm
  | opened m d opening conn => exact hended hopenings rfl rfl
  | failed d opening failure => exact hended hopenings rfl rfl
  | abandon d opening => exact hended hopenings rfl rfl

end Proceeds

/-- `proceed` changes what the provider knows of that acquisition alone. -/
theorem proceed_acquisitions {id : Nat} {known : Acquisition} (next : Option Acquisition)
    (hids : (p.acquisitions.map Prod.fst).Nodup)
    (hknown : p.acquisitions.lookup id = some known) :
    p.acquisitions.Perm ((id, known) :: p.acquisitions.eraseP (·.1 == id)) ∧
      (p.proceed id next).acquisitions.Perm
        (next.toList.map (id, ·) ++ p.acquisitions.eraseP (·.1 == id)) := by
  refine ⟨perm_cons_eraseP_of_lookup hknown, ?_⟩
  cases next with
  | none => exact .refl _
  | some progress =>
    have hmap := perm_map_of_mem (fun _ => (id, progress)) hids (mem_of_lookup hknown)
    have hadvance : (p.advanceAcquisition id progress).acquisitions =
        p.acquisitions.map fun x => if x.1 == id then (id, progress) else x := by
      refine List.map_congr_left ?_
      rintro ⟨other, found⟩ -
      by_cases hother : other = id <;> simp [hother]
    rw [proceed, hadvance]
    exact hmap

/-! ## Moves keep the agreement -/

namespace Agrees

variable {awaited : Nat → Acquisition → Option Nat} {list : Site → List Nat} {q : Provider}

/-- Where `Agrees` holds, what an acquisition waits for is listed at its site. -/
theorem exists_mem (h : Agrees awaited list p) {id site number : Nat} {known : Acquisition}
    (hmem : (id, known) ∈ p.acquisitions) (hawait : awaited site known = some number) :
    ∃ s, p.sites[site]? = some s ∧ number ∈ list s := by
  have hlisted := (h site).subset (List.mem_filterMap.2 ⟨_, hmem, hawait⟩)
  rw [listAt] at hlisted
  cases hs : p.sites[site]? with
  | none =>
    rw [hs] at hlisted
    cases hlisted
  | some s =>
    rw [hs] at hlisted
    exact ⟨s, rfl, hlisted⟩

theorem of_eq (h : Agrees awaited list p) (hsites : q.sites = p.sites)
    (hacquisitions : q.acquisitions = p.acquisitions) : Agrees awaited list q := by
  intro site
  rw [hacquisitions, listAt, hsites]
  exact h site

theorem found (h : Agrees awaited list p) {d : Destination} (hfresh : list (.fresh d) = [])
    (hsites : q.sites = p.sites ++ [.fresh d])
    (hacquisitions : q.acquisitions = p.acquisitions) : Agrees awaited list q := by
  intro site
  have hlist : q.listAt list site = p.listAt list site := by
    rw [listAt, listAt, hsites]
    -- the new site is the last one, and lists nothing
    by_cases hlt : site < p.sites.length
    · rw [List.getElem?_append_left hlt]
    · have hnone : p.sites[site]? = none := List.getElem?_eq_none (by omega)
      rw [hnone, List.getElem?_append_right (by omega)]
      cases site - p.sites.length with
      | zero => simp [hfresh]
      | succ n => simp
  rw [hacquisitions, hlist]
  exact h site

theorem ask (h : Agrees awaited list p) {d : Destination}
    (hfresh : ∀ site, awaited site (.fresh d) = none) :
    Agrees awaited list (p.acquire d).2 := by
  intro site
  have hlist : (p.acquire d).2.listAt list site = p.listAt list site := rfl
  rw [hlist]
  simpa [acquire, List.filterMap_append, hfresh] using h site

theorem setSite (h : Agrees awaited list p) {site : Nat} {s t : Site}
    (hs : p.sites[site]? = some s) (hlist : (list t).Perm (list s)) :
    Agrees awaited list (p.setSite site t) := by
  intro other
  have hbefore := h other
  rw [listAt] at hbefore
  rw [listAt, getElem?_setSite t hs]
  by_cases hother : other = site
  · rw [hother, hs] at hbefore
    rw [if_pos hother, hother]
    exact hbefore.trans hlist.symm
  · rw [if_neg hother]
    exact hbefore

theorem forget (h : Agrees awaited list p)
    (hawaited : ∀ a site, Acquisition.site? a ≠ some site → awaited site a = none)
    {id : Nat} {known : Acquisition} (hknown : p.acquisitions.lookup id = some known)
    (hsite : ∀ site, known.site? = some site → p.sites[site]? = none) :
    Agrees awaited list (p.finishAcquisition id) := by
  intro site
  have hbefore := h site
  have hperm := (perm_cons_eraseP_of_lookup hknown).filterMap fun known => awaited site known.2
  rw [List.filterMap_cons] at hperm
  cases hawait : awaited site known with
  | none =>
    rw [hawait] at hperm
    exact hperm.symm.trans hbefore
  | some number =>
    -- the acquisition waits at a site that does not exist, where nothing is listed
    have hcome : known.site? = some site := by
      by_contra hne
      rw [hawaited known site hne] at hawait
      cases hawait
    rw [listAt, hsite site hcome] at hbefore
    rw [hawait] at hperm
    exact absurd (hperm.symm.trans hbefore).eq_nil (List.cons_ne_nil _ _)

theorem act (h : Agrees awaited list p)
    (hawaited : ∀ a site, Acquisition.site? a ≠ some site → awaited site a = none)
    (hids : (p.acquisitions.map Prod.fst).Nodup) {id site : Nat} {known : Acquisition}
    {event : Site.Event} {next : Option Acquisition} {s t : Site}
    (hknown : p.acquisitions.lookup id = some known) (hs : p.sites[site]? = some s)
    (hnext : Proceeds config site s known event next)
    (hlist : ∀ others, ((awaited site known).toList ++ others).Perm (list s) →
      ((next.bind (awaited site)).toList ++ others).Perm (list t)) :
    Agrees awaited list ((p.setSite site t).proceed id next) := by
  intro other
  obtain ⟨hbefore, hafter⟩ := proceed_acquisitions (p := p.setSite site t) next hids hknown
  have hcome := hnext.site?
  have hagrees := (hbefore.filterMap fun known => awaited other known.2).symm.trans (h other)
  refine (hafter.filterMap _).trans ?_
  rw [listAt, proceed_sites, getElem?_setSite t hs, List.filterMap_append]
  -- the acquisition is listed first, before those that it leaves alone
  have hcons : ∀ others, ((id, known) :: others).filterMap (fun known => awaited other known.2) =
      (awaited other known).toList ++ others.filterMap fun known => awaited other known.2 := by
    intro others
    rw [List.filterMap_cons]
    cases awaited other known <;> rfl
  have hgone : (next.toList.map (id, ·)).filterMap (fun known => awaited other known.2) =
      (next.bind (awaited other)).toList := by
    cases next with
    | none => rfl
    | some progress => cases hawait : awaited other progress <;> simp [hawait]
  rw [hcons] at hagrees
  rw [hgone]
  -- at its own site the acquisition takes along what it waits for; at others it waits for nothing
  by_cases hother : other = site
  · subst hother
    rw [listAt, hs] at hagrees
    rw [if_pos rfl]
    exact hlist _ hagrees
  · rw [hawaited known other (hcome.1 other hother)] at hagrees
    have hnone : next.bind (awaited other) = none := by
      cases next with
      | none => rfl
      | some progress =>
        refine hawaited progress other ?_
        rw [hcome.2 progress rfl]
        intro heq
        exact hother (Option.some.inj heq).symm
    rw [if_neg hother, hnone]
    exact hagrees

end Agrees

/-! ### Deadlines -/

/-- `NoneQueued p q`: on the way from `p` to `q`, no request is queued. -/
def NoneQueued (p q : Provider) : Prop :=
  ∀ (site : Nat) (t : Site), q.sites[site]? = some t → t.pool.pending = [] ∨
    ∃ s, p.sites[site]? = some s ∧ t.pool.pending.Sublist s.pool.pending

namespace NoneQueued

theorem of_eq {q : Provider} (hsites : q.sites = p.sites) : NoneQueued p q := by
  intro site t ht
  rw [hsites] at ht
  exact .inr ⟨t, ht, .refl _⟩

theorem found {q : Provider} {d : Destination} (hsites : q.sites = p.sites ++ [.fresh d]) :
    NoneQueued p q := by
  intro site t ht
  rw [hsites] at ht
  by_cases hlt : site < p.sites.length
  · rw [List.getElem?_append_left hlt] at ht
    exact .inr ⟨t, ht, .refl _⟩
  · rw [List.getElem?_append_right (by omega)] at ht
    have hmem := List.mem_of_getElem? ht
    rw [List.mem_singleton] at hmem
    rw [hmem]
    exact .inl rfl

theorem setSite {site : Nat} {s t : Site} (hs : p.sites[site]? = some s)
    (hsub : t.pool.pending.Sublist s.pool.pending) : NoneQueued p (p.setSite site t) := by
  intro other u hu
  rw [getElem?_setSite t hs] at hu
  by_cases hother : other = site
  · rw [if_pos hother] at hu
    obtain rfl := Option.some.inj hu
    exact .inr ⟨s, hother ▸ hs, hsub⟩
  · rw [if_neg hother] at hu
    exact .inr ⟨u, hu, .refl _⟩

end NoneQueued

namespace Linked

/-- A provider that has just been made is `Linked`. -/
theorem start (config : Config) : Linked (.ofConfig config) := by
  refine ⟨.nil 0, ?_, ?_, ?_⟩
  · intro site
    simp [ofConfig, listAt]
  · intro site
    simp [ofConfig, listAt]
  · simp [ofConfig]

/-- Deadlines still agree where nobody is queued. -/
theorem deadlines_of_noneQueued (h : Linked p) {q : Provider} (hqueues : NoneQueued p q)
    (hacquisitions : ∀ id site request deadline,
      (id, .queued site request deadline) ∈ q.acquisitions →
        (id, .queued site request deadline) ∈ p.acquisitions) :
    ∀ id site request deadline, (id, .queued site request deadline) ∈ q.acquisitions →
      ∀ s, q.sites[site]? = some s → ∀ r ∈ s.pool.pending, r.id = request →
        r.deadline = deadline := by
  intro id site request deadline hmem t ht r hr
  obtain hnil | ⟨s, hs, hsub⟩ := hqueues site t ht
  · rw [hnil] at hr
    cases hr
  · exact h.deadlines id site request deadline (hacquisitions _ _ _ _ hmem) s hs r
      (hsub.subset hr)

/-- A request that an acquisition waits for is among the `requests` at its site. -/
theorem mem_requests (h : Linked p) {id site request : Nat} {deadline : Instant}
    (hmem : (id, .queued site request deadline) ∈ p.acquisitions) {s : Site}
    (hs : p.sites[site]? = some s) : request ∈ s.requests := by
  obtain ⟨t, ht, hrequest⟩ := h.requests.exists_mem hmem (if_pos rfl)
  obtain rfl := Option.some.inj (hs.symm.trans ht)
  exact hrequest

/-- `exchange` leaves the provider `Linked`. -/
theorem exchange (h : Linked p) (lease : SiteConnection) (conn : Connection) :
    Linked (p.exchange lease conn) := by
  obtain ⟨-, heq⟩ | ⟨s, hs, heq⟩ := exchange_cases p lease conn <;> rw [heq]
  · exact h
  · exact ⟨h.numbers, h.requests.setSite hs (.refl _), h.openings.setSite hs (.refl _),
      h.deadlines_of_noneQueued (.setSite hs (.refl _)) fun _ _ _ _ hmem => hmem⟩

/-- `acquire` gives a request and the acquisition that it is queued for the same deadline, and it is
not confused with requests queued before. -/
theorem deadlines_of_acquire (h : Linked p) {id site : Nat} {m : Moment} {d : Destination}
    {s : Site} (hreachable : Site.Reachable config s) (hs : p.sites[site]? = some s)
    {q : Provider} (hsites : q.sites = (p.setSite site (s.acquire p.config m).2.1).sites)
    (hacquisitions : q.acquisitions.Perm
      ((Acquisition.ofTicket d site (s.acquire p.config m).1).toList.map (id, ·) ++
        p.acquisitions.eraseP (·.1 == id))) :
    ∀ id site request deadline, (id, .queued site request deadline) ∈ q.acquisitions →
      ∀ t, q.sites[site]? = some t → ∀ r ∈ t.pool.pending, r.id = request →
        r.deadline = deadline := by
  have hold : ∀ x ∈ p.acquisitions.eraseP (·.1 == id), x ∈ p.acquisitions :=
    fun x => List.mem_of_mem_eraseP
  have hnoneQueued : (s.acquire p.config m).2.1.pool.pending = s.pool.pending →
      NoneQueued p q := by
    intro hpending other t ht
    rw [hsites] at ht
    exact NoneQueued.setSite hs (by rw [hpending]) other t ht
  -- only a ticket for the queue brings a request and an acquisition that waits for it
  obtain ⟨-, ⟨hticket, -, -, hpending, -⟩ | ⟨hticket, -, -, hpending, -⟩ |
    ⟨hticket, -, -, hpending, -⟩⟩ := Site.acquire_tickets p.config m s
  · refine h.deadlines_of_noneQueued (hnoneQueued hpending) fun _ _ _ _ hmem => ?_
    have hmem := hacquisitions.subset hmem
    rw [hticket] at hmem
    exact hold _ (by simpa [Acquisition.ofTicket] using hmem)
  · intro id' site' request deadline hmem t ht r hr hid
    have hmem := hacquisitions.subset hmem
    rw [hticket, List.mem_append] at hmem
    -- numbers tell the new request from those queued before
    have hfresh : ∀ r ∈ s.pool.pending, r.id ≠ s.pool.nextRequest := by
      intro r hr heq
      have hlt := (Site.requests_numbered hreachable).lt r.id
        (List.mem_append_left _ (List.mem_map_of_mem hr))
      exact Nat.ne_of_lt hlt heq
    rw [hsites, getElem?_setSite _ hs] at ht
    by_cases hsite : site' = site
    · subst hsite
      rw [if_pos rfl] at ht
      obtain rfl := Option.some.inj ht
      rw [hpending, List.mem_append, List.mem_singleton] at hr
      obtain hnew | hmem := hmem
      · simp only [Acquisition.ofTicket, Option.toList, List.map_cons, List.map_nil,
          List.mem_singleton, Prod.mk.injEq, Acquisition.queued.injEq] at hnew
        obtain ⟨-, -, rfl, rfl⟩ := hnew
        obtain hr | rfl := hr
        · exact absurd hid (hfresh r hr)
        · rfl
      · obtain hr | rfl := hr
        · exact h.deadlines id' site' request deadline (hold _ hmem) s hs r hr hid
        · have hlt := (Site.requests_numbered hreachable).lt request
            (h.mem_requests (hold _ hmem) hs)
          exact absurd hid.symm (Nat.ne_of_lt hlt)
    · rw [if_neg hsite] at ht
      obtain hnew | hmem := hmem
      · simp only [Acquisition.ofTicket, Option.toList, List.map_cons, List.map_nil,
          List.mem_singleton, Prod.mk.injEq, Acquisition.queued.injEq] at hnew
        exact absurd hnew.2.1 hsite
      · exact h.deadlines id' site' request deadline (hold _ hmem) t ht r hr hid
  · refine h.deadlines_of_noneQueued (hnoneQueued hpending) fun _ _ _ _ hmem => ?_
    have hmem := hacquisitions.subset hmem
    obtain ⟨lease, hticket⟩ | ⟨error, hticket⟩ := hticket <;> rw [hticket] at hmem <;>
      exact hold _ (by simpa [Acquisition.ofTicket] using hmem)

/-- An act by which a caller `Proceeds` leaves the provider `Linked`. -/
theorem act (h : Linked p) (hsound : Sound config p) {id site : Nat} {known : Acquisition}
    {event : Site.Event} {next : Option Acquisition} {s : Site}
    (hknown : p.acquisitions.lookup id = some known) (hs : p.sites[site]? = some s)
    (hnext : Proceeds p.config site s known event next) :
    Linked ((p.setSite site (s.step p.config event).1).proceed id next) := by
  have hreachable := hsound.site hs
  have hopenings := (Site.openings_numbered hreachable).nodup
  obtain ⟨hbefore, hafter⟩ := proceed_acquisitions (p := p.setSite site (s.step p.config event).1)
    next h.numbers.nodup hknown
  refine ⟨?_,
    h.requests.act (fun a site => Acquisition.requestAt_eq_none) h.numbers.nodup hknown hs hnext
      fun others => hnext.requests,
    h.openings.act (fun a site => Acquisition.openingAt_eq_none) h.numbers.nodup hknown hs hnext
      fun others => hnext.openings hopenings, ?_⟩
  · rw [proceed_nextAcquisition]
    refine h.numbers.of_subperm ?_
    have hids := hbefore.map Prod.fst
    refine (hafter.map Prod.fst).subperm.trans (List.Subperm.trans ?_ hids.symm.subperm)
    -- an acquisition keeps its number as long as it is unfinished
    cases next with
    | none => exact (List.sublist_cons_self _ _).subperm
    | some progress => exact .refl _
  -- acquisitions aside, an act ends the acquisition, so no deadline is new
  · cases hacquire : event.isAcquire with
    | false =>
      have hpending := Site.step_pending p.config event hacquire s
      have hover : next = none := by
        cases hnext <;> first | rfl | cases hacquire
      subst hover
      exact h.deadlines_of_noneQueued (.setSite hs hpending) fun _ _ _ _ =>
        List.mem_of_mem_eraseP
    | true =>
      obtain ⟨m, d, rfl, rfl, rfl⟩ : ∃ m d, event = .acquire m ∧ known = .fresh d ∧
          next = Acquisition.ofTicket d site (s.acquire p.config m).1 := by
        cases hnext with
        | begin m d => exact ⟨m, d, rfl, rfl, rfl⟩
        | _ => cases hacquire
      exact h.deadlines_of_acquire hreachable hs (proceed_sites _ _ _) hafter

/-- Every `Move` leaves the provider `Linked`. -/
theorem move (h : Linked p) (hsound : Sound config p) {flow : Flow} {c : Change}
    (hmove : Move allowed p flow c) : Linked c.1 := by
  cases hmove with
  | @books q effects hbooks =>
    obtain ⟨-, hsites, hacquisitions, hnext, -⟩ := hbooks
    refine ⟨?_, h.requests.of_eq hsites hacquisitions, h.openings.of_eq hsites hacquisitions,
      h.deadlines_of_noneQueued (.of_eq hsites) (by simp [hacquisitions])⟩
    show Numbered q.nextAcquisition (q.acquisitions.map Prod.fst)
    rw [hnext, hacquisitions]
    exact h.numbers
  | found d =>
    exact ⟨h.numbers, h.requests.found rfl rfl rfl, h.openings.found rfl rfl rfl,
      h.deadlines_of_noneQueued (.found rfl) fun _ _ _ _ hmem => hmem⟩
  | ask d =>
    refine ⟨?_, h.requests.ask fun site => rfl, h.openings.ask fun site => rfl, ?_⟩
    · simpa [acquire] using h.numbers.append_next
    · intro id site request deadline hmem
      rcases List.mem_append.1 hmem with hmem | hnew
      · exact h.deadlines id site request deadline hmem
      · simp at hnew
  | forget hknown hsite =>
    refine ⟨?_, h.requests.forget (fun a site => Acquisition.requestAt_eq_none) hknown hsite,
      h.openings.forget (fun a site => Acquisition.openingAt_eq_none) hknown hsite,
      h.deadlines_of_noneQueued (.of_eq rfl) fun _ _ _ _ => List.mem_of_mem_eraseP⟩
    exact h.numbers.of_subperm (List.eraseP_sublist.map Prod.fst).subperm
  | @site index s event hallowed hs hcaller hexchange =>
    have hnumbers := (Site.openings_numbered (hsound.site hs)).nodup
    -- what is no act of a caller ends no opening of one and reads no answer
    have hquiet : event.isAcquire = false ∧ event.isOfWaiter = false ∧
        ∀ id, event.ends ≠ some ⟨id, .caller⟩ := by
      cases event <;> simp [Site.Event.isOfCaller, Site.Event.isAcquire, Site.Event.isOfWaiter,
        Site.Event.ends] at hcaller ⊢
    obtain ⟨hacquire, hwaiter, hends⟩ := hquiet
    have hopenings := Site.step_openings p.config event hacquire hnumbers
    have hserves := Site.step_serves p.config event hwaiter s
    exact ⟨h.numbers, h.requests.setSite hs hserves.requests,
      h.openings.setSite hs (hopenings.callerOpenings hends),
      h.deadlines_of_noneQueued (.setSite hs hserves.sublist) fun _ _ _ _ hmem => hmem⟩
  | act hallowed hknown hs hnext => exact h.act hsound hknown hs hnext
  | swap first second =>
    exact swap_invariant p h (fun p lease conn hp => Linked.exchange hp lease conn) first second

end Linked

/-- Every `Reachable` provider is `Linked`. -/
theorem linked_of_reachable (h : Reachable config p) : Linked p := by
  have hboth : Sound config p ∧ Linked p :=
    h.invariant (motive := fun p => Sound config p ∧ Linked p)
      ⟨⟨rfl, by simp [ofConfig], by simp [ofConfig]⟩, .start config⟩
      fun allowed p flow c hp hmove => ⟨hp.1.move hmove, hp.2.move hp.1 hmove⟩
  exact hboth.2

/-- An acquisition that is `opening` has an opening at its site. -/
theorem isOpening_of_lookup (h : Linked p) {id site opening : Nat} {d : Destination}
    (hknown : p.acquisitions.lookup id = some (.opening d site opening)) :
    ∃ s, p.sites[site]? = some s ∧ s.isOpening opening .caller = true := by
  obtain ⟨s, hs, hlisted⟩ := h.openings.exists_mem (mem_of_lookup hknown) (if_pos rfl)
  obtain ⟨⟨number, purpose⟩, ho, hid⟩ := List.mem_map.1 hlisted
  obtain ⟨hmem, hpurpose⟩ := List.mem_filter.1 ho
  simp only [beq_iff_eq] at hid hpurpose
  subst hid hpurpose
  exact ⟨s, hs, Site.isOpening_iff.2 hmem⟩

end Provider

end ConnectionPool
