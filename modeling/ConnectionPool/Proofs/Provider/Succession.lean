import ConnectionPool.Proofs.Provider.Retirement

/-!
# One open pool for each destination

A destination may have had many pools, of which the last may be open. A pool takes the place of
another only when the wait for the end of the other is over, so where no grace period is set they
never share the slots of their destination: the bound on connections holds for all of them together.

## Main definitions

* `Succession`: what the sites of a destination know of one another.
* `GraceOver`: the grace period of a site was over in the course of events.
* `SingleOpen`: what holds of the sites of a provider after events.

## Main results

* `succession_of_reachable`: a site that is no longer registered is closed, and the wait for its end
  is over unless the provider was disposed of.
* `heeds_of_run`: the wait for a site's end is over only if nothing is left of it or its grace
  period is over.
* `at_most_one_open`: both, for every run, with the bound for all sites of a destination.
-/

namespace ConnectionPool

namespace Site

variable {config : Config} {s : Site} {m : Moment} {ends : Instant → Prop} {past : Prop}

/-- `Heeds ends past s`: what the wait for the end of a pool may rely on. A grace period that it
knows of ends at one of the instants for which `ends` holds, and when it takes the grace period to
be over, `past` holds. -/
structure Heeds (ends : Instant → Prop) (past : Prop) (s : Site) : Prop where
  /-- The grace period runs until then. -/
  running : ∀ instant graceOver changed,
    s.drain = .waiting (some instant) graceOver changed → ends instant
  /-- The grace period is over. -/
  elapsed : ∀ graceEnd changed, s.drain = .waiting graceEnd true changed → past
  /-- The wait is over. -/
  finished : s.drain = .finished → s.Ended ∨ past

namespace Heeds

theorem of_unobserved (h : s.drain = .unobserved) : s.Heeds ends past := by
  refine ⟨fun _ _ _ hw => ?_, fun _ _ hw => ?_, fun hf => ?_⟩
  · cases h.symm.trans hw
  · cases h.symm.trans hw
  · cases h.symm.trans hf

theorem mono {later : Instant → Prop} {passed : Prop} (h : s.Heeds ends past)
    (hends : ∀ instant, ends instant → later instant) (hpast : past → passed) :
    s.Heeds later passed :=
  ⟨fun instant graceOver changed hw => hends instant (h.running instant graceOver changed hw),
    fun graceEnd changed hw => hpast (h.elapsed graceEnd changed hw),
    fun hf => (h.finished hf).imp_right hpast⟩

/-- A `step` that is not a look leaves what the wait `Heeds`. -/
theorem step (h : s.Heeds ends past) (hreachable : Reachable config s) {event : Event}
    (hlook : event.isLook = false) : (s.step config event).1.Heeds ends past := by
  have hkeeps := step_keeps config hlook s
  refine ⟨fun instant graceOver changed hw => ?_, fun graceEnd changed hw => ?_, fun hf => ?_⟩
  · obtain ⟨before, hbefore⟩ := hkeeps.waiting hw
    exact h.running instant graceOver before hbefore
  · obtain ⟨before, hbefore⟩ := hkeeps.waiting hw
    exact h.elapsed graceEnd before hbefore
  · refine (h.finished (hkeeps.finished.1 hf)).imp_left fun hended => ?_
    exact (hended.step hreachable event).1

/-- What a wait knows that `Looks` at the pool: until when the grace period runs, and whether it is
over. -/
theorem looks (h : s.Heeds ends past) {graceEnd : Option Instant} {graceOver : Bool}
    (hlooks : Looks config m s graceEnd graceOver)
    (hfirst : s.drain = .unobserved →
      ∀ grace, config.disposeGrace = some grace → ends (m.now.deadline grace))
    (hdue : ∀ instant, ends instant → instant ≤ m.now → past) :
    (∀ instant, graceEnd = some instant → ends instant) ∧
      (graceOverAt m graceEnd graceOver = true → past) := by
  have hrunning : ∀ instant, graceEnd = some instant → ends instant := by
    intro instant hknown
    cases hlooks with
    | first hdrain =>
      obtain ⟨grace, hgrace, rfl⟩ := Option.map_eq_some_iff.1 hknown
      exact hfirst hdrain grace hgrace
    | again hdrain hreason => exact h.running instant graceOver _ (hknown ▸ hdrain)
  refine ⟨hrunning, fun hover => ?_⟩
  cases graceOver with
  | true =>
    cases hlooks with
    | again hdrain hreason => exact h.elapsed graceEnd _ hdrain
  | false =>
    -- the timer has fired
    rw [graceOverAt, Bool.false_or] at hover
    obtain ⟨instant, hknown, hfired⟩ := (Option.any_eq_true _ _).1 hover
    exact hdue instant (hrunning instant hknown) (Moment.le_now_of_hasFired hfired)

/-- `pollDrain` at a closed pool starts the grace period if it is the first look, and finds it over
when its time has come. -/
theorem pollDrain (h : s.Heeds ends past) (hclosed : s.pool.closed = true) (halert : s.Alert)
    (hfirst : s.drain = .unobserved →
      ∀ grace, config.disposeGrace = some grace → ends (m.now.deadline grace))
    (hdue : ∀ instant, ends instant → instant ≤ m.now → past) :
    (s.pollDrain config m).1.Heeds ends past := by
  obtain ⟨-, heq⟩ | ⟨graceEnd, graceOver, hlooks⟩ := pollDrain_cases config m s
  · rw [heq]
    exact h
  · obtain ⟨hrunning, hpast⟩ := h.looks hlooks hfirst hdue
    rw [hlooks.pollDrain]
    -- the wait is over because nothing is left or because the grace period is, or it goes on
    obtain ⟨hend, heq⟩ | ⟨-, heq⟩ := look_cases m (halert.looks hlooks) s <;> rw [heq]
    · refine ⟨fun _ _ _ => nofun, fun _ _ => nofun, fun _ => ?_⟩
      obtain ⟨hallocated, hclosing⟩ | ⟨hover, -⟩ := mayEnd_iff.1 hend
      · exact .inl ⟨hclosed, hallocated, hclosing⟩
      · exact .inr (hpast hover)
    · refine ⟨fun instant known changed hw => ?_, fun known changed hw => ?_, nofun⟩
      · obtain ⟨hknown, -, -⟩ := Drain.waiting.inj hw
        split at hknown
        · cases hknown
        · exact hrunning instant hknown
      · obtain ⟨-, hover, -⟩ := Drain.waiting.inj hw
        exact hpast hover

end Heeds

end Site

namespace Provider

variable {config : Config} {p q : Provider} {abrupt : Prop} {clock : Option Moment} {index : Nat}
  {s t : Site}

/-! ## What the sites of a destination know of one another -/

/-- `LeftBehind p s`: the pool is closed, and the wait for its end is over unless the provider was
disposed of. -/
def LeftBehind (p : Provider) (s : Site) : Prop :=
  s.pool.closed = true ∧ (s.drain = .finished ∨ p.isDisposed = true)

/-- `Succession p`: what the sites of a destination know of one another. -/
structure Succession (p : Provider) : Prop where
  /-- No destination is registered twice. -/
  keys : (p.registry.map Prod.fst).Nodup
  /-- A site that is not registered is `LeftBehind`. -/
  left : ∀ (site : Nat) (s : Site), p.sites[site]? = some s → site ∉ p.registry.map Prod.snd →
    p.LeftBehind s
  /-- A site takes the place of another only when the wait for the end of the other is over. -/
  after : ∀ (first second : Nat) (s t : Site), first < second → p.sites[first]? = some s →
    p.sites[second]? = some t → s.destination = t.destination → s.drain = .finished

theorem LeftBehind.settles (h : p.LeftBehind s) (hsettles : s.Settles t)
    (hdisposed : p.isDisposed = true → q.isDisposed = true) : q.LeftBehind t :=
  ⟨hsettles.closed h.1, h.2.imp hsettles.finished hdisposed⟩

theorem changeSite_settles (event : Site.Event) (index : Nat) (p : Provider) :
    p.Settles (p.changeSite index fun s => s.step p.config event).1 := by
  obtain ⟨-, heq⟩ | ⟨s, hs, heq⟩ := changeSite_cases index (fun s => s.step p.config event) p <;>
    rw [heq]
  · exact .refl p
  · have hdescends : Descends (fun _ _ => True) p (p.setSite index (s.step p.config event).1) :=
      .setSite trivial hs
    exact hdescends.settles

/-- What is over at a site stays over in a `Part` of a disposal. -/
theorem Part.settles (h : Part abrupt clock p q) : p.Settles q := by
  cases h with
  | shut index => exact changeSite_settles .shutDown index p
  | @look m hclock index hclosed => exact changeSite_settles (.pollDrain m) index p
  | unregister | refuse | wait | finish | lapse | ask | conclude => exact .refl p

namespace Succession

/-- Where a provider `Narrows`, it is enough for `Succession` that sites are left behind when they
are unregistered. -/
theorem of_narrows (h : Succession p) (hnarrows : p.Narrows q) (hsettles : p.Settles q)
    (hleft : ∀ site t, q.sites[site]? = some t → site ∉ q.registry.map Prod.snd →
      site ∈ p.registry.map Prod.snd → q.LeftBehind t) : Succession q := by
  have hback : ∀ {site : Nat} {t : Site}, q.sites[site]? = some t →
      ∃ s, p.sites[site]? = some s ∧ s.Settles t := by
    intro site t ht
    have hlt := (List.getElem?_eq_some_iff.1 ht).1
    rw [hnarrows.sites] at hlt
    exact hsettles.of_lt ht hlt
  refine ⟨h.keys.sublist (hnarrows.registry.map _), fun site t ht hunregistered => ?_,
    fun first second s t hlt hs ht hsame => ?_⟩
  · by_cases hbefore : site ∈ p.registry.map Prod.snd
    · exact hleft site t ht hunregistered hbefore
    · obtain ⟨s, hs, hsettled⟩ := hback ht
      exact (h.left site s hs hbefore).settles hsettled hnarrows.disposed
  · obtain ⟨u, hu, hfirst⟩ := hback hs
    obtain ⟨v, hv, hsecond⟩ := hback ht
    rw [hfirst.destination, hsecond.destination] at hsame
    exact hfirst.finished (h.after first second u v hlt hu hv hsame)

/-- `Succession` is kept by a `Part` of a disposal. -/
theorem part (h : Succession p) (hpart : Part abrupt clock p q) : Succession q := by
  refine h.of_narrows hpart.narrows hpart.settles fun site t ht hunregistered hbefore => ?_
  have hsame : q.registry = p.registry → q.LeftBehind t := by
    intro heq
    rw [heq] at hunregistered
    exact absurd hbefore hunregistered
  cases hpart with
  | @unregister index hclosed hended =>
    -- only the one site is unregistered
    obtain rfl : site = index := by
      by_contra hne
      obtain ⟨entry, hentry, rfl⟩ := List.mem_map.1 hbefore
      exact hunregistered
        (List.mem_map_of_mem ((List.mem_eraseP_of_neg (by simpa using hne)).2 hentry))
    refine ⟨hclosed t ht, hended.symm.imp (fun hover => ?_) And.right⟩
    rw [hasEnded, show p.sites[site]? = some t from ht] at hover
    simpa using hover
  | shut index => exact hsame (congrArg Agenda.registry (agenda_changeSite index _ p))
  | look hclock hclosed => exact hsame (congrArg Agenda.registry (agenda_changeSite _ _ p))
  | refuse | wait | finish | lapse | ask | conclude => exact hsame rfl

/-- `Succession` is kept when a new site is registered for a destination whose other sites have been
left behind. -/
theorem register (h : Succession p) (hsound : Sound config p) (hsound' : Sound config q)
    (hsettles : p.Settles q) (hopen : p.isDisposed = false) {d : Destination}
    (hfree : p.siteOf? d = none) (heq : q.agenda = p.agenda.register d) : Succession q := by
  obtain ⟨hregistry, hlength, -⟩ := Agenda.mk.inj heq
  simp only [agenda] at hregistry hlength
  have hkey : d ∉ p.registry.map Prod.fst := notMem_keys_of_lookup hfree
  refine ⟨?_, fun site t ht hunregistered => ?_, fun first second s t hlt hs ht hsame => ?_⟩
  · rw [hregistry, List.map_append]
    exact List.nodup_append.2 ⟨h.keys, List.nodup_singleton _, fun one hone other hother => by
      rintro rfl
      exact hkey ((List.mem_singleton.1 hother : one = d) ▸ hone)⟩
  · have hlt := (List.getElem?_eq_some_iff.1 ht).1
    rw [hregistry, List.map_append, List.mem_append, not_or] at hunregistered
    have hne : site ≠ p.sites.length := fun heq => hunregistered.2 (heq ▸ List.mem_singleton_self _)
    obtain ⟨s, hs, hsettled⟩ := hsettles.of_lt ht (by omega)
    refine (h.left site s hs hunregistered.1).settles hsettled fun hdisposed => ?_
    cases hopen.symm.trans hdisposed
  · have hlt' := (List.getElem?_eq_some_iff.1 ht).1
    obtain ⟨u, hu, hfirst⟩ := hsettles.of_lt hs (by omega)
    by_cases hnew : second < p.sites.length
    · obtain ⟨v, hv, hsecond⟩ := hsettles.of_lt ht hnew
      rw [hfirst.destination, hsecond.destination] at hsame
      exact hfirst.finished (h.after first second u v hlt hu hv hsame)
    · -- the other site was not registered when the new one was made
      obtain rfl : second = p.sites.length := by omega
      obtain ⟨v, hv, hdestination⟩ := hsound'.registered d p.sites.length (by
        rw [hregistry]
        exact List.mem_append_right _ (List.mem_singleton_self _))
      obtain rfl := Option.some.inj (ht.symm.trans hv)
      have hunregistered : first ∉ p.registry.map Prod.snd := by
        intro hmem
        obtain ⟨⟨other, site⟩, hentry, rfl⟩ := List.mem_map.1 hmem
        obtain ⟨w, hw, hother⟩ := hsound.registered other site hentry
        obtain rfl := Option.some.inj (hu.symm.trans hw)
        rw [hfirst.destination, hother, hdestination] at hsame
        exact hkey (List.mem_map.2 ⟨_, hentry, hsame⟩)
      refine hfirst.finished ((h.left first u hu hunregistered).2.resolve_right fun hdisposed => ?_)
      cases hopen.symm.trans hdisposed

end Succession

theorem succession_of_reachable (h : Reachable config p) : Succession p := by
  induction h with
  | start => exact ⟨List.nodup_nil, fun _ _ => nofun, fun _ _ _ _ _ => nofun⟩
  | @step p event hp ih =>
    rcases step_outside_or_parts (attended_of_reachable hp) event with houtside | hparts
    · have hsettles := houtside.descends.settles
      obtain heq | ⟨hopen, d, hfree, heq⟩ := houtside.registers
      · have hnarrows := Narrows.of_agenda heq
        refine ih.of_narrows hnarrows hsettles fun site t ht hunregistered hbefore => ?_
        rw [show (p.step event).1.registry = p.registry from congrArg Agenda.registry heq]
          at hunregistered
        exact absurd hbefore hunregistered
      · exact ih.register (sound_of_reachable hp) (sound_of_reachable (hp.step event)) hsettles
          hopen hfree heq
    · exact Parts.invariant (fun _ _ hp hpart => Succession.part hp hpart) ih hparts

/-! ## When the wait for a site's end is over -/

/-- Nobody has looked for the end of the pool of a site. -/
def Unwatched (site : Nat) (p : Provider) : Prop :=
  ∀ s, p.sites[site]? = some s → s.drain = .unobserved

/-- `GraceEnds config site events instant`: the grace period of a site ends at the instant. It began
in the course of the events, when a disposal looked for the end of the pool for the first time. -/
def GraceEnds (config : Config) (site : Nat) (events : List Event) (instant : Instant) : Prop :=
  ∃ before m disposal after grace, events = before ++ .pollDisposal m disposal :: after ∧
    Unwatched site ((ofConfig config).run before) ∧
    ¬ Unwatched site ((ofConfig config).run (before ++ [.pollDisposal m disposal])) ∧
    config.disposeGrace = some grace ∧ instant = m.now.deadline grace

/-- `GraceOver config site events`: the grace period of a site was over when a disposal was polled
in the course of the events. -/
def GraceOver (config : Config) (site : Nat) (events : List Event) : Prop :=
  ∃ before m disposal after instant, events = before ++ .pollDisposal m disposal :: after ∧
    GraceEnds config site (before ++ [.pollDisposal m disposal]) instant ∧ instant ≤ m.now

theorem GraceEnds.append {site : Nat} {events : List Event} {instant : Instant}
    (h : GraceEnds config site events instant) (later : List Event) :
    GraceEnds config site (events ++ later) instant := by
  obtain ⟨before, m, disposal, after, grace, rfl, hends⟩ := h
  exact ⟨before, m, disposal, after ++ later, grace, by simp, hends⟩

theorem GraceOver.append {site : Nat} {events : List Event} (h : GraceOver config site events)
    (later : List Event) : GraceOver config site (events ++ later) := by
  obtain ⟨before, m, disposal, after, instant, rfl, hover⟩ := h
  exact ⟨before, m, disposal, after ++ later, instant, by simp, hover⟩

/-- `Outside` all disposals, a wait learns nothing of the grace period. -/
theorem Outside.heeds {site : Nat} {ends : Instant → Prop} {past : Prop} (ho : p.Outside q)
    (hsound : Sound config p) (hbefore : ∀ s, p.sites[site]? = some s → s.Heeds ends past)
    (ht : q.sites[site]? = some t) : t.Heeds ends past := by
  obtain ⟨s, hbegins, hbecomes⟩ := ho.descends.becomes site t ht
  rw [hsound.settings] at hbecomes
  have hs : Site.Reachable config s ∧ s.Heeds ends past := by
    rcases hbegins with hs | ⟨-, d, rfl⟩
    · exact ⟨hsound.site hs, hbefore s hs⟩
    · exact ⟨.fresh d, .of_unobserved rfl⟩
  have hstays := hbecomes.invariant
    (motive := fun u => Site.Reachable config u ∧ u.Heeds ends past)
    (fun u act hlook ⟨hreachable, hu⟩ => ⟨hreachable.step act, hu.step hreachable hlook⟩) hs
  exact hstays.2

/-- What the waits have learnt of the grace period in the course of `Parts` of a disposal. -/
theorem Parts.heeds {site : Nat} {ends : Instant → Prop} {past : Prop} (h : Attended config p)
    (hparts : Parts abrupt clock p q)
    (hbefore : ∀ s, p.sites[site]? = some s → s.Heeds ends past)
    (hfirst : Unwatched site p → ∀ m grace, clock = some m → config.disposeGrace = some grace →
      ends (m.now.deadline grace))
    (hdue : ∀ m instant, clock = some m → ends instant → instant ≤ m.now → past) :
    ∀ t, q.sites[site]? = some t → t.Heeds ends past := by
  -- nobody has looked at a site in the course of the parts if it is as yet unobserved
  have hstays := Parts.invariant (motive := fun r => Attended config r ∧
    ∀ u, r.sites[site]? = some u → (u.drain = .unobserved → Unwatched site p) ∧ u.Heeds ends past)
    ?_ ⟨h, fun u hu => ⟨fun hdrain s hs => ?_, hbefore u hu⟩⟩ hparts
  · exact fun t ht => (hstays.2 t ht).2
  · rintro r r' ⟨hattended, hr⟩ hpart
    have hchange : ∀ {index : Nat} {act : Site.Event} {t : Site},
        (r.changeSite index fun s => s.step r.config act).1.sites[site]? = some t →
        (∀ u, r.sites[index]? = some u → site = index →
          ((u.step config act).1.drain = .unobserved → u.drain = .unobserved) ∧
            (u.step config act).1.Heeds ends past) →
        (t.drain = .unobserved → Unwatched site p) ∧ t.Heeds ends past := by
      intro index act t ht hact
      obtain ⟨-, ht⟩ | ⟨u, rfl, hu, rfl⟩ := site_changeSite ht
      · exact hr t ht
      · rw [hattended.sound.settings]
        obtain ⟨hdrain, hheeds⟩ := hact u hu rfl
        exact ⟨(hr u hu).1 ∘ hdrain, hheeds⟩
    refine ⟨hattended.part hpart, fun t ht => ?_⟩
    cases hpart with
    | shut index =>
      have hshut :
          (r.changeSite index fun s => s.step r.config .shutDown).1.sites[site]? = some t := ht
      refine hchange hshut fun u hu heq => ⟨(Site.step_keeps config rfl u).unobserved.1, ?_⟩
      subst heq
      exact (hr u hu).2.step (hattended.sound.site hu) rfl
    | @look m hclock index hclosed =>
      have hlook : (r.changeSite index fun s => s.step r.config (.pollDrain m)).1.sites[site]? =
        some t := ht
      refine hchange hlook fun u hu heq => ?_
      subst heq
      obtain ⟨hunwatched, hheeds⟩ := hr u hu
      have halert := Site.alert_of_driven (hattended.site hu)
      refine ⟨halert.pollDrain_ne_unobserved m, hheeds.pollDrain (hclosed u hu) halert ?_ ?_⟩
      · exact fun hdrain grace hgrace => hfirst (hunwatched hdrain) m grace hclock hgrace
      · exact fun instant hends hle => hdue m instant hclock hends hle
    | unregister | refuse | wait | finish | lapse | ask | conclude => exact hr t ht
  · obtain rfl := Option.some.inj (hu.symm.trans hs)
    exact hdrain

/-- The wait for a site's end is over only if the site has `Ended`, or its `GraceOver` holds. -/
theorem heeds_of_run {site : Nat} (events : List Event)
    (ht : ((ofConfig config).run events).sites[site]? = some t) :
    t.Heeds (GraceEnds config site events) (GraceOver config site events) := by
  -- on the events, from the end: what the wait knows it knew before the last event, or learns at it
  induction events using List.reverseRecOn generalizing t with
  | nil => cases ht
  | append_singleton events event ih =>
    have hattended : Attended config ((ofConfig config).run events) :=
      attended_of_reachable (Reachable.start.run events)
    by_cases hdrain : t.drain = .unobserved
    · exact .of_unobserved hdrain
    have hwatched : ¬ Unwatched site ((ofConfig config).run (events ++ [event])) :=
      fun hunwatched => hdrain (hunwatched t ht)
    have hbefore : ∀ s, ((ofConfig config).run events).sites[site]? = some s →
        s.Heeds (GraceEnds config site (events ++ [event]))
          (GraceOver config site (events ++ [event])) :=
      fun s hs => (ih hs).mono (fun _ hends => hends.append [event]) (·.append [event])
    rw [run_append] at ht
    cases houtside : event.isOutside with
    | true => exact (step_outside houtside _).heeds hattended.sound hbefore ht
    | false =>
      rcases step_outside_or_parts hattended event with ho | hparts
      · exact ho.heeds hattended.sound hbefore ht
      · -- of the events of disposals, only polls look at the clock
        have hpoll : ∀ m, event.moment? = some m →
            ∃ disposal, event = .pollDisposal m disposal := by
          intro m hclock
          cases event with
          | pollDisposal n disposal =>
            obtain rfl := Option.some.inj hclock
            exact ⟨disposal, rfl⟩
          | dispose | disposeAtOnce | disposeWhen => cases hclock
          | _ => cases houtside
        refine Parts.heeds hattended hparts hbefore (fun hunwatched m grace hclock hgrace => ?_)
          (fun m instant hclock hends hle => ?_) t ht
        · obtain ⟨disposal, rfl⟩ := hpoll m hclock
          exact ⟨events, m, disposal, [], grace, rfl, hunwatched, hwatched, hgrace, rfl⟩
        · obtain ⟨disposal, rfl⟩ := hpoll m hclock
          exact ⟨events, m, disposal, [], instant, rfl, hends, hle⟩

/-! ## One open pool -/

/-- `siteOf?` finds a site by its destination, or not at all. -/
theorem Succession.siteOf?_iff (h : Succession p) (hsound : Sound config p) {site : Nat}
    (hs : p.sites[site]? = some s) :
    p.siteOf? s.destination = some site ↔ site ∈ p.registry.map Prod.snd := by
  refine ⟨fun hserves => List.mem_map.2 ⟨_, mem_of_lookup hserves, rfl⟩, fun hmem => ?_⟩
  obtain ⟨⟨d, other⟩, hentry, rfl⟩ := List.mem_map.1 hmem
  obtain ⟨t, ht, rfl⟩ := hsound.registered d other hentry
  obtain rfl := Option.some.inj (hs.symm.trans ht)
  exact lookup_of_mem h.keys hentry

/-- `awaitEnd` leaves the other sites registered. -/
theorem mem_registry_awaitEnd (m : Moment) (disposal : Disposal) {site : Nat}
    {entry : Destination × Nat} (hentry : entry ∈ p.registry) (hne : entry.2 ≠ site) :
    entry ∈ (p.awaitEnd m disposal site).1.registry := by
  have hkept : ∀ q : Provider, q.registry = p.registry → entry ∈ (q.unregister site).registry := by
    intro q hq
    rw [unregister, hq]
    exact (List.mem_eraseP_of_neg (by simpa using hne)).2 hentry
  have hlooked : (p.changeSite site (Site.pollDrain p.config m)).1.registry = p.registry :=
    congrArg Agenda.registry (agenda_changeSite site _ p)
  unfold awaitEnd
  dsimp only
  split
  · exact hkept p rfl
  · split
    · exact hkept _ hlooked
    · rw [Change.andThen_fst, hlooked]
      exact hentry

/-- `pollDisposal` of one destination leaves all sites registered but its own. -/
theorem mem_registry_pollDisposal (m : Moment) {index : Nat} {single : SingleDisposal}
    (hknown : p.singleDisposals[index]? = some single) {entry : Destination × Nat}
    (hentry : entry ∈ p.registry) (hne : entry.2 ≠ single.site) :
    entry ∈ (p.step (.pollDisposal m (.single index))).1.registry := by
  show entry ∈ (p.pollSingleDisposal m index).1.registry
  unfold pollSingleDisposal
  split
  · exact hentry
  · exact hentry
  · rename_i site hunfinished
    obtain rfl := Option.some.inj (hknown.symm.trans hunfinished)
    have hawaited := mem_registry_awaitEnd m (.single index) hentry hne
    dsimp only
    split <;> exact hawaited

/-- Without a `disposeGrace`, all sites of a destination but the last have `Ended`. -/
theorem pairwise_ended (h : Reachable config p) (hgrace : config.disposeGrace = none) :
    p.sites.Pairwise fun s t => s.destination = t.destination → s.Ended := by
  rw [List.pairwise_iff_getElem]
  intro first second hfirst hsecond hlt hsame
  have hs := List.getElem?_eq_getElem hfirst
  have hdrain := (succession_of_reachable h).after first second _ _ hlt hs
    (List.getElem?_eq_getElem hsecond) hsame
  have hdriven := (attended_of_reachable h).site hs
  exact (Site.timeless_of_driven hgrace hdriven).finished hdrain

/-- `SingleOpen config events p`: what holds of the sites of a provider after events. -/
structure SingleOpen (config : Config) (events : List Event) (p : Provider) : Prop where
  /-- A site that does not serve its destination is closed. -/
  closed : ∀ site s, p.sites[site]? = some s → p.siteOf? s.destination ≠ some site →
    s.pool.closed = true
  /-- No two sites of a destination are open. -/
  unique : ∀ (site other : Nat) (s t : Site), p.sites[site]? = some s → p.sites[other]? = some t →
    s.destination = t.destination → s.pool.closed = false → t.pool.closed = false → site = other
  /-- A site serves its destination until its pool has been shut down, and then until nothing is
  left of the pool, or its grace period is over, or the provider is disposed of. -/
  leaves : ∀ event d site, p.siteOf? d = some site → (p.step event).1.siteOf? d ≠ some site →
    ∃ s, (p.step event).1.sites[site]? = some s ∧ s.pool.closed = true ∧
      ((s.pool.allocated = 0 ∧ s.pool.closing = 0) ∨ GraceOver config site (events ++ [event]) ∨
        (p.step event).1.isDisposed = true)
  /-- The disposal of a destination ends with the site for which it was asked, and leaves one that
  serves the destination since. -/
  spares : ∀ m index single d site, p.singleDisposals[index]? = some single →
    p.siteOf? d = some site → site ≠ single.site →
      (p.step (.pollDisposal m (.single index))).1.siteOf? d = some site
  /-- While the whole provider is being disposed of, no site is made. -/
  whole : ∀ sites event, p.wholeDisposal = .running sites →
    (p.step event).1.sites.length = p.sites.length
  /-- Without a grace period, all sites of a destination together keep to the bound. -/
  slots : config.disposeGrace = none → ∀ max, config.maxConnections.get = some max → ∀ d,
    ((p.sites.filter (·.destination == d)).map (·.pool.allocated)).sum ≤ max

/-- After any events a provider is `SingleOpen`: at most one pool of a destination is open, whatever
acquisitions and disposals there are. -/
theorem at_most_one_open (config : Config) (events : List Event) :
    SingleOpen config events ((ofConfig config).run events) := by
  have h : Reachable config ((ofConfig config).run events) := Reachable.start.run events
  generalize hp : (ofConfig config).run events = p at h
  have hsound := sound_of_reachable h
  have hsuccession := succession_of_reachable h
  have hclosed : ∀ site s, p.sites[site]? = some s → p.siteOf? s.destination ≠ some site →
      s.pool.closed = true := fun site s hs hother =>
    (hsuccession.left site s hs (hother ∘ (hsuccession.siteOf?_iff hsound hs).2)).1
  refine ⟨hclosed, fun site other s t hs ht hsame hopen hopen' => ?_,
    fun event d site hserves hleft => ?_, fun m index single d site hknown hserves hne => ?_,
    fun sites event hrunning => ?_, fun hgrace max hmax d => ?_⟩
  · have hserves : p.siteOf? s.destination = some site := by
      by_contra hother
      cases hopen.symm.trans (hclosed site s hs hother)
    have hserves' : p.siteOf? t.destination = some other := by
      by_contra hother
      cases hopen'.symm.trans (hclosed other t ht hother)
    rw [← hsame] at hserves'
    exact Option.some.inj (hserves.symm.trans hserves')
  · -- the wait for its end was over when the site left, and it ends for a reason
    obtain ⟨s, hs, rfl⟩ := hsound.registered d site (mem_of_lookup hserves)
    obtain ⟨t, ht, hsettles⟩ := (step_moves p event).descends.settles site s hs
    have hafter := h.step event
    have hsuccession' := succession_of_reachable hafter
    rw [← hsettles.destination] at hleft
    obtain ⟨hshut, hover⟩ := hsuccession'.left site t ht
      (hleft ∘ (hsuccession'.siteOf?_iff (sound_of_reachable hafter) ht).2)
    refine ⟨t, ht, hshut, ?_⟩
    obtain hfinished | hdisposed := hover
    · have hrun : ((ofConfig config).run (events ++ [event])).sites[site]? = some t := by
        rw [run_append, hp]
        exact ht
      obtain hended | hgrace := (heeds_of_run (events ++ [event]) hrun).finished hfinished
      · exact .inl ⟨hended.allocated, hended.closing⟩
      · exact .inr (.inl hgrace)
    · exact .inr (.inr hdisposed)
  · have hsuccession' := succession_of_reachable (h.step (.pollDisposal m (.single index)))
    exact lookup_of_mem hsuccession'.keys
      (mem_registry_pollDisposal m hknown (mem_of_lookup hserves) hne)
  · have hdisposed := (attended_of_reachable h).running sites hrunning
    exact (step_narrows (attended_of_reachable h) hdisposed event).sites
  · -- all sites of the destination but the last have no slot taken
    have hpairs := (pairwise_ended h hgrace).filter (·.destination == d)
    refine sum_map_le_of_pairwise (hpairs.imp_of_mem fun {s t} hs ht hended => ?_) fun s hs => ?_
    · have hs := (List.mem_filter.1 hs).2
      have ht := (List.mem_filter.1 ht).2
      rw [beq_iff_eq] at hs ht
      exact (hended (hs.trans ht.symm)).allocated
    · have hreachable := hsound.sites s (List.mem_of_mem_filter hs)
      exact (Site.justified_of_reachable hreachable).slots max hmax

/-- The pool of the only connection is disposed of and followed by another, after which the disposal
is polled again. -/
def succeeded : List Event :=
  crowdedDisposal ++ [.release (.atMillis 2) ⟨0, 1⟩, .closeFinished 0 1,
    .pollDisposal (.atMillis 3) (.single 0), .acquire (.ofAddress "db:1"), .poll (.atMillis 4) 2,
    .pollDisposal (.atMillis 5) (.single 0)]

/-- The second pool of the destination is open and registered, and the first is closed. -/
theorem at_most_one_open_succeeded :
    ((ofConfig .oneSlot).run succeeded).sites.map (·.pool.closed) = [true, false] ∧
    ((ofConfig .oneSlot).run succeeded).siteOf? (.ofAddress "db:1") = some 1 ∧
    SingleOpen .oneSlot succeeded ((ofConfig .oneSlot).run succeeded) :=
  ⟨rfl, rfl, at_most_one_open .oneSlot succeeded⟩

end Provider

end ConnectionPool
