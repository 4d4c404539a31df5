import ConnectionPool.Proofs.Provider.Separation

/-!
# What a step can reach

A step reaches no further than the destination that it concerns: nothing else of the provider
changes, and all that its surroundings are asked for is for that destination. A step that concerns
no destination does nothing, or tells the provider that nobody holds it any more.

A change is built from parts, each of which is confined to the destination; `Confined` is closed
under putting parts together.

## Main definitions

* `Effect.destination?`: the destination that something is asked for.
* `Confined`: a change reaches one destination only.

## Main results

* `step_confined`: a step is confined to the destination that it concerns.
* `step_of_subject_none`: a step that concerns none is not seen by anybody.
-/

namespace ConnectionPool.Provider

variable {asked : List Destination} {p : Provider} {d k : Destination}

/-- The destination that something is asked for, if it is for one. -/
def Effect.destination? (p : Provider) : Effect → Option Destination
  | .site index _ | .startSweep index | .watchDrain index _ => p.destinations[index]?
  | .note (.disposingPool d) => some d
  | .startDisposal (.single index) | .wakeDisposal (.single index) => p.disposedOf[index]?.join
  | .note _ | .startDisposal _ | .wakeDisposal _ => none

/-- `Confined asked d p c`: a change of the provider that reaches the destination `d` only. -/
structure Confined (asked : List Destination) (d : Destination) (p : Provider) (c : Change) :
    Prop where
  /-- Everything stays in its place. -/
  placed : Placed asked c.1
  /-- Sites are only added. -/
  destinations : p.destinations <+: c.1.destinations
  /-- Disposals are only added. -/
  disposedOf : p.disposedOf <+: c.1.disposedOf
  /-- The change is not seen from other destinations. -/
  unseen : ∀ k, d ≠ k → c.1.only k asked = p.only k asked
  /-- What is asked for is for the destination. -/
  effects : ∀ effect ∈ c.2, effect.destination? c.1 = some d

/-- What something is asked for is known for good. -/
theorem Effect.destination?_of_grown {q : Provider} {effect : Effect}
    (hdestinations : p.destinations <+: q.destinations) (hdisposed : p.disposedOf <+: q.disposedOf)
    (h : effect.destination? p = some d) : effect.destination? q = some d := by
  have hsite : ∀ {index : Nat}, p.destinations[index]? = some d → q.destinations[index]? = some d :=
    getElem?_of_grown hdestinations
  have hdisposal : ∀ {index : Nat}, p.disposedOf[index]?.join = some d →
      q.disposedOf[index]?.join = some d := fun hindex =>
    Option.join_eq_some_iff.2 (getElem?_of_grown hdisposed (Option.join_eq_some_iff.1 hindex))
  cases effect with
  | site index effect => exact hsite h
  | startSweep index => exact hsite h
  | watchDrain index disposal => exact hsite h
  | note event => cases event <;> exact h
  | startDisposal disposal =>
    cases disposal with
    | single index => exact hdisposal h
    | nothing => exact h
    | whole => exact h
  | wakeDisposal disposal =>
    cases disposal with
    | single index => exact hdisposal h
    | nothing => exact h
    | whole => exact h

namespace Confined

/-- Where nothing changes, the change is `Confined` to any destination. -/
theorem nil (h : Placed asked p) (d : Destination) : Confined asked d p (p, []) :=
  ⟨h, List.prefix_refl _, List.prefix_refl _, fun _ _ => rfl, by simp⟩

/-- A `Confined` change may follow another. -/
theorem trans {c e : Change} (h : Confined asked d p c) (hnext : Confined asked d c.1 e) :
    Confined asked d p (e.1, c.2 ++ e.2) := by
  refine ⟨hnext.placed, h.destinations.trans hnext.destinations,
    h.disposedOf.trans hnext.disposedOf, fun k hk => (hnext.unseen k hk).trans (h.unseen k hk),
    fun effect heffect => ?_⟩
  rcases List.mem_append.1 heffect with hfirst | hrest
  · exact Effect.destination?_of_grown hnext.destinations hnext.disposedOf (h.effects effect hfirst)
  · exact hnext.effects effect hrest

/-- A `Confined` change that asks for nothing may follow another. -/
theorem quietly {c : Change} {q : Provider} (h : Confined asked d p c)
    (hnext : Confined asked d c.1 (q, [])) : Confined asked d p (q, c.2) := by
  have hboth := h.trans hnext
  rwa [List.append_nil] at hboth

/-- What leaves all `destinations` and disposals is `Confined` if it is not seen and asks for
nothing elsewhere. -/
theorem of_eq {c : Change} (hplaced : Placed asked c.1)
    (hdestinations : c.1.destinations = p.destinations)
    (hdisposed : c.1.disposedOf = p.disposedOf)
    (hunseen : ∀ k, d ≠ k → c.1.only k asked = p.only k asked)
    (heffects : ∀ effect ∈ c.2, effect.destination? p = some d) : Confined asked d p c := by
  have hkept : p.destinations <+: c.1.destinations := hdestinations ▸ List.prefix_refl _
  have hkept' : p.disposedOf <+: c.1.disposedOf := hdisposed ▸ List.prefix_refl _
  exact ⟨hplaced, hkept, hkept', hunseen, fun effect heffect =>
    Effect.destination?_of_grown hkept hkept' (heffects effect heffect)⟩

/-- `changeSite` is `Confined` to the destination of the site. -/
theorem changeSite (h : Placed asked p) {index : Nat} (hsite : p.destinations[index]? = some d)
    {change : Site → Site.Change} (hchange : ∀ s, (change s).1.destination = s.destination) :
    Confined asked d p (p.changeSite index change) := by
  have hdestinations := destinations_changeSite hchange index p
  refine .of_eq (h.changeSite hchange index) hdestinations
    (disposedOf_eq hdestinations (singleDisposals_changeSite index change p))
    (fun k hk => only_changeSite_of_ne asked ?_ hchange) fun effect heffect => ?_
  · rw [hsite]
    simpa using hk
  · obtain ⟨-, heq⟩ | ⟨s, -, heq⟩ := changeSite_cases index change p <;> rw [heq] at heffect
    · cases heffect
    · obtain ⟨asked, -, rfl⟩ := List.mem_map.1 heffect
      exact hsite

/-- `exchange` is `Confined` to the destination of its site. -/
theorem exchange (h : Placed asked p) {lease : SiteConnection}
    (hsite : p.destinations[lease.site]? = some d) (conn : Connection) :
    Confined asked d p (p.exchange lease conn, []) := by
  have hchanged : Confined asked d p
      (p.changeSite lease.site fun s => (s.exchange lease.connection conn, [])) :=
    .changeSite h hsite fun s => rfl
  exact ⟨hchanged.placed, hchanged.destinations, hchanged.disposedOf, hchanged.unseen, by simp⟩

/-- `proceed` is `Confined` to the destination of the acquisition. -/
theorem proceed (h : Placed asked p) {id : Nat} (hid : asked[id]? = some d)
    (next : Option Acquisition) (hnext : ∀ a, next = some a → a.IsFor p.destinations d) :
    Confined asked d p (p.proceed id next, []) := by
  refine .of_eq (h.proceed fun a ha => ⟨d, hid, hnext a ha⟩) (destinations_proceed p id next)
    (disposedOf_eq (destinations_proceed p id next) ?_)
    (fun k hk => only_proceed_of_ne p (by simpa [hid] using hk) next) (by simp)
  cases next <;> rfl

/-- `finishAcquisition` is `Confined` to the destination of the acquisition. -/
theorem finish (h : Placed asked p) {id : Nat} (hid : asked[id]? = some d) :
    Confined asked d p (p.finishAcquisition id, []) :=
  .proceed h hid none (by simp)

/-- `siteFor` is `Confined` to its destination. -/
theorem siteFor (h : Placed asked p) (d : Destination) :
    Confined asked d p (p.siteFor d).2 := by
  have hunseen := fun k (hk : d ≠ k) => only_siteFor_of_ne h hk
  have hsite := (siteFor_destination h d).1
  obtain ⟨site, -, heq⟩ | ⟨-, heq⟩ := siteFor_eq d p <;> rw [heq] at hunseen hsite ⊢
  · exact .nil h d
  -- a new site comes last, so that nobody else's site changes its number
  · have hgrown : p.destinations <+: (p.found d).destinations := by
      rw [destinations_found]
      exact List.prefix_append _ _
    have hdisposed : (p.found d).disposedOf = p.disposedOf := by
      refine List.map_congr_left fun disposal hmem => ?_
      rw [destinations_found]
      exact List.getElem?_append_left (h.disposals disposal hmem)
    refine ⟨h.found d, hgrown, hdisposed ▸ List.prefix_refl _, hunseen, fun effect heffect => ?_⟩
    dsimp only at heffect
    split at heffect <;> simp at heffect
    · obtain rfl | rfl := heffect <;> exact hsite
    · subst heffect
      exact hsite

/-- Asking for something is confined to what it is asked for. -/
theorem ask (h : Placed asked p) (effect : Effect) (heffect : effect.destination? p = some d) :
    Confined asked d p (p, [effect]) :=
  .of_eq h rfl rfl (fun _ _ => rfl) (by simpa using heffect)

/-- `unregister` is `Confined` to the destination of the site. -/
theorem unregister (h : Placed asked p) {site : Nat} (hsite : p.destinations[site]? = some d) :
    Confined asked d p (p.unregister site, []) :=
  .of_eq (h.unregister site) rfl rfl
    (fun k hk => only_unregister_of_ne h (by simpa [hsite] using hk)) (by simp)

/-- `awaitEnd` is `Confined` to the destination of the site. -/
theorem awaitEnd (h : Placed asked p) {site : Nat} (hsite : p.destinations[site]? = some d)
    (m : Moment) (disposal : Disposal) : Confined asked d p (p.awaitEnd m disposal site) := by
  have hchange : ∀ s : Site, (s.pollDrain p.config m).1.destination = s.destination :=
    pollDrain_destination p.config m
  have hsite' := (destinations_changeSite hchange site p).symm ▸ hsite
  have hwatch := Confined.ask h (.watchDrain site disposal) hsite
  have hpolled := hwatch.trans (.changeSite h hsite hchange)
  unfold Provider.awaitEnd
  split
  · exact .unregister h hsite
  · dsimp only
    split
    · exact hpolled.quietly (.unregister hpolled.placed hsite')
    · exact hpolled

/-- The end of a disposal is `Confined` to its destination. -/
theorem finishDisposal (h : Placed asked p) {index site : Nat}
    (hdisposal : p.singleDisposals[index]? = some ⟨site, false⟩)
    (hsite : p.destinations[site]? = some d) :
    Confined asked d p ({ p with singleDisposals := p.singleDisposals.set index ⟨site, true⟩ },
      [.wakeDisposal (.single index)]) := by
  have hplaced : Placed asked
      { p with singleDisposals := p.singleDisposals.set index ⟨site, true⟩ } := by
    refine ⟨h.numbered, h.known, h.registered, fun disposal hmem => ?_, h.accepting⟩
    rcases List.mem_or_eq_of_mem_set hmem with hold | rfl
    · exact h.disposals disposal hold
    · exact (List.getElem?_eq_some_iff.1 hsite).1
  refine .of_eq hplaced rfl (map_set_of_eq hdisposal rfl) (fun k hk => ?_) ?_
  · have hseen := finish_only asked k hdisposal
    rwa [if_neg (by simpa [hsite] using hk)] at hseen
  · simp [Effect.destination?, Provider.disposedOf, hdisposal, hsite]

/-- A new disposal is `Confined` to its destination. -/
theorem startDisposal (h : Placed asked p) {site : Nat}
    (hsite : p.destinations[site]? = some d) :
    Confined asked d p ({ p with singleDisposals := p.singleDisposals ++ [⟨site, false⟩] },
      [.startDisposal (.single p.singleDisposals.length)]) := by
  have hplaced : Placed asked
      { p with singleDisposals := p.singleDisposals ++ [⟨site, false⟩] } := by
    refine ⟨h.numbered, h.known, h.registered, fun disposal hmem => ?_, h.accepting⟩
    rcases List.mem_append.1 hmem with hold | hnew
    · exact h.disposals disposal hold
    · obtain rfl := List.mem_singleton.1 hnew
      exact (List.getElem?_eq_some_iff.1 hsite).1
  have hgrown : p.disposedOf <+: Provider.disposedOf
      { p with singleDisposals := p.singleDisposals ++ [⟨site, false⟩] } := by
    unfold Provider.disposedOf
    rw [List.map_append]
    exact List.prefix_append _ _
  refine ⟨hplaced, List.prefix_refl _, hgrown, fun k hk => ?_, ?_⟩
  · have hseen := dispose_only (p := p) asked k site
    rwa [if_neg (by simpa [hsite] using hk)] at hseen
  · simpa [Effect.destination?, Provider.disposedOf, Provider.destinations] using hsite

end Confined

/-! ## Steps are confined -/

section Steps

variable {id : Nat} {m : Moment}

/-- An act at the site of an acquisition, after which the acquisition is over, is `Confined` to its
destination. -/
theorem changeSite_finish_confined (h : Placed asked p) (hid : asked[id]? = some d) {site : Nat}
    (hsite : p.destinations[site]? = some d) {change : Site → Site.Change}
    (hchange : ∀ s, (change s).1.destination = s.destination) :
    Confined asked d p ((p.changeSite site change).1.finishAcquisition id,
      (p.changeSite site change).2) :=
  have hchanged := Confined.changeSite h hsite hchange
  hchanged.quietly (.finish hchanged.placed hid)

/-- `start` is `Confined` to its destination. -/
theorem start_confined (h : Placed asked p) (hid : asked[id]? = some d) (m : Moment) :
    Confined asked d p (p.start m id d).2 := by
  have hfound := Confined.siteFor h d
  obtain ⟨hsite, -⟩ := siteFor_destination h d
  have hacquired := Confined.changeSite hfound.placed hsite
    (destination_step p.config (.acquire m))
  have hsite' := getElem?_of_grown hacquired.destinations hsite
  rw [start_eq h.accepting]
  exact (hfound.trans hacquired).quietly
    (.proceed hacquired.placed hid _ fun a ha => isFor_ofTicket hsite' ha)

/-- `poll` is `Confined` to the destination of its acquisition. -/
theorem poll_confined (h : Placed asked p) (hid : asked[id]? = some d) (m : Moment) :
    Confined asked d p (p.poll m id).2 := by
  unfold poll
  cases hknown : p.acquisitions.lookup id with
  | none => exact .nil h d
  | some a =>
    have hfor := h.isFor hid hknown
    cases a with
    | fresh wanted =>
      obtain rfl : wanted = d := hfor
      exact start_confined h hid m
    | opening wanted site number => exact .nil h d
    | queued site request deadline =>
      have hpolled := Confined.changeSite h hfor (destination_step p.config (.poll m request))
      have hfinished := changeSite_finish_confined h hid hfor
        (destination_step p.config (.poll m request))
      dsimp only [pollQueued]
      split
      · exact hpolled
      · exact hfinished

/-- `disposeWhen` is `Confined` to its destination. -/
theorem disposeWhen_confined (h : Placed asked p) (d : Destination) :
    Confined asked d p (p.disposeWhen d).2 := by
  unfold disposeWhen
  split
  · exact .nil h d
  · rename_i site hserves
    have hsite := h.registered d site (mem_of_lookup hserves)
    have hnoted := Confined.ask h (.note (.disposingPool d)) rfl
    have hshut := hnoted.trans (.changeSite h hsite shutDown_destination)
    have hstarted := Confined.startDisposal hshut.placed
      (getElem?_of_grown hshut.destinations hsite)
    have hlength : (p.changeSite site Site.shutDown).1.singleDisposals.length =
        p.singleDisposals.length := by rw [singleDisposals_changeSite]
    dsimp only at hstarted ⊢
    rw [← hlength]
    exact hshut.trans hstarted

/-- `pollSingleDisposal` is `Confined` to the destination of its disposal. -/
theorem pollSingleDisposal_confined (h : Placed asked p) {index : Nat}
    (hindex : p.disposedOf[index]? = some (some d)) (m : Moment) :
    Confined asked d p (p.pollSingleDisposal m index) := by
  unfold pollSingleDisposal
  split
  · exact .nil h d
  · exact .nil h d
  · rename_i site hknown
    have hsite : p.destinations[site]? = some d := by simpa [disposedOf, hknown] using hindex
    have hawaited := Confined.awaitEnd h hsite m (.single index)
    have hdisposals := (awaitEnd_keeps m (.single index) site p).2
    dsimp only
    split
    · exact hawaited.trans (.finishDisposal hawaited.placed (by rwa [hdisposals])
        (getElem?_of_grown hawaited.destinations hsite))
    · exact hawaited

/-- A `step` that asks for nothing new is `Confined` to the destination that is its `subject`. -/
theorem step_confined (h : Placed asked p) {e : Event} (hseparate : e.isSeparate = true)
    (hasks : e.asks = []) (hd : p.subject asked e = some d) : Confined asked d p (p.step e) := by
  -- whatever an event names, an acquisition, a lease, an opening, a site or a disposal, leads to
  -- one site, and that is a site of the destination
  cases e with
  | acquire wanted => cases hasks
  | poll m id => exact poll_confined h hd m
  | opened m id conn =>
    rw [step, opened]
    split
    · rename_i wanted site number hknown
      have hfor := h.isFor hd hknown
      exact changeSite_finish_confined h hd hfor.2
        (destination_step p.config (.opened number conn m))
    · exact .nil h d
  | openingFailed id failure =>
    rw [step, openingFailed]
    split
    · rename_i wanted site number hknown
      have hfor := h.isFor hd hknown
      exact changeSite_finish_confined h hd hfor.2
        (destination_step p.config (.openingFailed number failure))
    · exact .nil h d
  | abandon m id =>
    rw [step, abandon]
    cases hknown : p.acquisitions.lookup id with
    | none => exact .finish h hd
    | some a =>
      have hfor := h.isFor hd hknown
      cases a with
      | fresh wanted => exact .finish h hd
      | opening wanted site number =>
        exact changeSite_finish_confined h hd hfor.2 (destination_step p.config (.abandon number))
      | queued site request deadline =>
        exact changeSite_finish_confined h hd hfor (destination_step p.config (.cancel m request))
  | release m lease =>
    exact .changeSite h hd (destination_step p.config (.release m lease.connection))
  | detach lease => exact .changeSite h hd (destination_step p.config (.detach lease.connection))
  | swap first second =>
    have hsame : first.site = second.site := beq_iff_eq.1 hseparate
    obtain heq | ⟨one, other, -, -, heq⟩ := swap_cases p first second <;> rw [step, heq]
    · exact .nil h d
    · have hfirst : Confined asked d p (p.exchange first other.conn, []) :=
        .exchange h hd other.conn
      have hd' : p.destinations[second.site]? = some d := by
        rw [← hsame]
        exact hd
      exact hfirst.quietly
        (.exchange hfirst.placed (getElem?_of_grown hfirst.destinations hd') one.conn)
  | openedForQueue m site number conn created =>
    exact .changeSite h hd (destination_step p.config (.openedForQueue number conn m created))
  | openingForQueueFailed m site number failure =>
    exact .changeSite h hd (destination_step p.config (.openingForQueueFailed number failure m))
  | closeFinished site connection =>
    exact .changeSite h hd (destination_step p.config (.closeFinished connection))
  | sweep m site => exact .changeSite h hd (destination_step p.config (.sweep m))
  | sweepEnded site => exact .changeSite h hd fun s => rfl
  | dispose => cases hd
  | disposeAtOnce => cases hd
  | disposeWhen wanted =>
    obtain rfl : wanted = d := Option.some.inj hd
    exact disposeWhen_confined h wanted
  | pollDisposal m disposal =>
    cases disposal with
    | nothing => cases hd
    | whole => cases hd
    | single index => exact pollSingleDisposal_confined h (Option.join_eq_some_iff.1 hd) m
  | letGo => cases hd

/-- A `step` without a `subject` does nothing, or lets the provider go. -/
theorem step_of_subject_none (h : Placed asked p) {e : Event} (hseparate : e.isSeparate = true)
    (hnone : p.subject asked e = none) : p.step e = (p, []) ∨ e = .letGo := by
  -- who has no destination is not known to the provider
  have hlookup : ∀ {id : Nat}, asked[id]? = none → p.acquisitions.lookup id = none := by
    intro id hid
    cases hknown : p.acquisitions.lookup id with
    | none => rfl
    | some a =>
      obtain ⟨d, hd, -⟩ := h.known id a (mem_of_lookup hknown)
      cases hid.symm.trans hd
  have hsites : ∀ {index : Nat}, p.destinations[index]? = none → p.sites[index]? = none :=
    fun hindex => by simpa [destinations] using hindex
  have hchange : ∀ {index : Nat} (change : Site → Site.Change), p.destinations[index]? = none →
      p.changeSite index change = (p, []) :=
    fun change hindex => by rw [changeSite, hsites hindex]
  cases e with
  | acquire d => cases hnone
  | poll m id =>
    rw [step, poll, hlookup hnone]
    exact .inl rfl
  | opened m id conn =>
    rw [step, opened, hlookup hnone]
    exact .inl rfl
  | openingFailed id failure =>
    rw [step, openingFailed, hlookup hnone]
    exact .inl rfl
  | abandon m id =>
    have hid := hlookup hnone
    rw [step, abandon, hid, finishAcquisition, eraseP_of_lookup_none hid]
    exact .inl rfl
  | release m lease => exact .inl (hchange _ hnone)
  | detach lease => exact .inl (hchange _ hnone)
  | swap first second =>
    have hlease : p.lease? first = none := by
      rw [lease?, hsites hnone]
      rfl
    rw [step, swap, hlease]
    exact .inl rfl
  | openedForQueue m site number conn created => exact .inl (hchange _ hnone)
  | openingForQueueFailed m site number failure => exact .inl (hchange _ hnone)
  | closeFinished site connection => exact .inl (hchange _ hnone)
  | sweep m site => exact .inl (hchange _ hnone)
  | sweepEnded site => exact .inl (hchange _ hnone)
  | dispose => cases hseparate
  | disposeAtOnce => cases hseparate
  | disposeWhen d => cases hnone
  | pollDisposal m disposal =>
    cases disposal with
    | nothing => exact .inl rfl
    | whole => cases hseparate
    | single index =>
      cases hknown : p.singleDisposals[index]? with
      | none =>
        rw [step, pollDisposal, pollSingleDisposal, hknown]
        exact .inl rfl
      | some disposal =>
        -- the site of a disposal has a destination
        have hlt := h.disposals disposal (List.mem_of_getElem? hknown)
        simp [subject, disposedOf, hknown] at hnone
        omega
  | letGo => exact .inr rfl

end Steps

end ConnectionPool.Provider
