import ConnectionPool.Proofs.Provider.Confinement
import ConnectionPool.Proofs.Provider.Departures

/-!
# Destinations do not interfere

Those who use one destination of a provider cannot tell whether others are used as well. The steps
of a run that concern the destination are themselves a run, of a provider that is used with this
destination alone: with the same outcomes, the same pools and the same counters after every step.
The steps in between are not seen.

What the transport answers is part of the steps. Its answers for a destination may depend on all
that went before at this destination, and on nothing else; it is a predicate on what a destination
sees.

Swaps of connections between pools and the disposal of the whole provider are no part of the runs.

## Main definitions

* `Record`, `records`: what is seen of a step, and of a run.
* `seen`: what is seen of a run from one destination.
* `alone`: the run that it is there.
* `Independent`: what a run is to one destination.

## Main results

* `run_seenFrom`: what a destination sees is a run of its own.
* `destinations_do_not_interfere`: whole runs, destination by destination.
-/

namespace ConnectionPool.Provider

variable {config : Config} {asked : List Destination} {p : Provider} {d k : Destination}

/-- A `Record`: a step, what it gives to whoever takes it, and what it asks of its surroundings. -/
structure Record where
  /-- The step. -/
  event : Event
  /-- What it gives. -/
  outcome : Outcome
  /-- What it asks for, in order. -/
  effects : List Effect

/-- The record under other numbers. -/
def Record.renumber (n : Names) (r : Record) : Record :=
  ⟨r.event.renumber n, r.outcome.renumber n, r.effects.map (Effect.renumber n)⟩

/-- The record of a step. -/
def recordOf (p : Provider) (e : Event) : Record := ⟨e, p.outcome e, (p.step e).2⟩

/-- The records of a run. -/
def records (p : Provider) : List Event → List Record
  | [] => []
  | e :: events => p.recordOf e :: records (p.step e).1 events

/-- What a destination sees of a run that starts in the middle: the records of the steps of which it
is the `subject`. -/
def seenFrom (k : Destination) : List Destination → Provider → List Event → List Record
  | _, _, [] => []
  | asked, p, e :: events =>
    (if p.subject asked e = some k then [(p.recordOf e).renumber (p.names k asked)] else []) ++
      seenFrom k (asked ++ e.asks) (p.step e).1 events

/-- What a destination sees of a run: the steps of which it is the `subject`, under the numbers that
are used where there is no other destination. -/
def seen (config : Config) (k : Destination) (events : List Event) : List Record :=
  seenFrom k [] (ofConfig config) events

/-- The steps of which a destination is the `subject`, as they are `seen` from it. -/
def alone (config : Config) (k : Destination) (events : List Event) : List Event :=
  (seen config k events).map (·.event)

/-! ## Runs -/

/-- Before anything happens, everything is `Placed`. -/
theorem placed_ofConfig (config : Config) : Placed [] (ofConfig config) :=
  ⟨rfl, by simp [ofConfig], by simp [ofConfig], by simp [ofConfig], rfl⟩

/-- A `step` keeps everything `Placed`. -/
theorem Placed.step (h : Placed asked p) {e : Event} (hseparate : e.isSeparate = true) :
    Placed (asked ++ e.asks) (p.step e).1 := by
  by_cases hasks : e.asks = []
  · rw [hasks, List.append_nil]
    cases hd : p.subject asked e with
    | some d => exact (step_confined h hseparate hasks hd).placed
    | none =>
      obtain heq | rfl := step_of_subject_none h hseparate hd
      · rw [heq]
        exact h
      · exact ⟨h.numbered, h.known, h.registered, h.disposals, h.accepting⟩
  · cases e with
    | acquire d => exact h.acquire d
    | _ => exact absurd rfl hasks

/-- A `step` of which the destination is not the `subject` is not seen there. -/
theorem step_of_subject_ne (h : Placed asked p) {e : Event} (hseparate : e.isSeparate = true)
    (hk : p.subject asked e ≠ some k) :
    (p.step e).1.only k (asked ++ e.asks) = p.only k asked := by
  by_cases hasks : e.asks = []
  · rw [hasks, List.append_nil]
    cases hd : p.subject asked e with
    | some d =>
      rw [hd] at hk
      exact (step_confined h hseparate hasks hd).unseen k fun heq => hk (congrArg some heq)
    | none =>
      obtain heq | rfl := step_of_subject_none h hseparate hd
      · rw [heq]
      · rfl
  · cases e with
    | acquire d =>
      have hseen := acquire_only h k d
      rwa [if_neg fun heq => hk (congrArg some heq)] at hseen
    | _ => exact absurd rfl hasks

/-- What is `seenFrom` a destination is a run of what it sees of the provider. -/
theorem run_seenFrom (k : Destination) (h : Placed asked p) {events : List Event}
    (hseparate : ∀ e ∈ events, e.isSeparate = true) :
    (p.only k asked).records ((seenFrom k asked p events).map (·.event)) =
        seenFrom k asked p events ∧
      (p.only k asked).run ((seenFrom k asked p events).map (·.event)) =
        (p.run events).only k (asked ++ events.flatMap Event.asks) ∧
      Placed (asked ++ events.flatMap Event.asks) (p.run events) := by
  induction events generalizing asked p with
  | nil =>
    rw [List.flatMap_nil, List.append_nil]
    exact ⟨rfl, rfl, h⟩
  | cons e events ih =>
    obtain ⟨he, hrest⟩ := List.forall_mem_cons.1 hseparate
    obtain ⟨hrecords, hrun, hplaced⟩ := ih (h.step he) hrest
    rw [List.append_assoc] at hrun hplaced
    by_cases hk : p.subject asked e = some k
    · obtain ⟨houtcome, hstep⟩ := step_of_subject h he hk
      -- what comes next starts at what is seen of the provider after the step
      have hnext : ((p.only k asked).step (e.renumber (p.names k asked))).1 =
          (p.step e).1.only k (asked ++ e.asks) := congrArg Prod.fst hstep
      have hseen : seenFrom k asked p (e :: events) =
          (p.recordOf e).renumber (p.names k asked) ::
            seenFrom k (asked ++ e.asks) (p.step e).1 events := by
        rw [seenFrom, if_pos hk]
        rfl
      rw [hseen]
      refine ⟨?_, ?_, hplaced⟩
      · rw [List.map_cons, records]
        dsimp only [Record.renumber, recordOf]
        rw [hnext, hrecords, houtcome, hstep]
        rfl
      · rw [List.map_cons]
        show ((p.only k asked).step (e.renumber (p.names k asked))).1.run _ = _
        rw [hnext, hrun]
        rfl
    · have hunseen := step_of_subject_ne h he hk
      have hseen : seenFrom k asked p (e :: events) =
          seenFrom k (asked ++ e.asks) (p.step e).1 events := by
        rw [seenFrom, if_neg hk]
        rfl
      rw [hunseen] at hrecords hrun
      rw [hseen]
      exact ⟨hrecords, hrun, hplaced⟩

/-- What is `seenFrom` a destination of a longer run is what is seen of its parts. -/
theorem seenFrom_append (k : Destination) (events later : List Event) (asked : List Destination)
    (p : Provider) :
    seenFrom k asked p (events ++ later) = seenFrom k asked p events ++
      seenFrom k (asked ++ events.flatMap Event.asks) (p.run events) later := by
  induction events generalizing asked p with
  | nil => simp [seenFrom, run]
  | cons e events ih =>
    rw [List.cons_append, seenFrom, ih, seenFrom, List.append_assoc, List.flatMap_cons,
      List.append_assoc]
    rfl

/-- What a destination has seen at some time is what it has seen of what had happened by then. -/
theorem exists_prefix_of_seenFrom {events : List Event} {r : List Record}
    (hr : r <+: seenFrom k asked p events) :
    ∃ before, before <+: events ∧ seenFrom k asked p before = r := by
  induction events generalizing asked p r with
  | nil => exact ⟨[], List.prefix_refl _, (List.prefix_nil.1 hr).symm⟩
  | cons e events ih =>
    -- an event that concerns the destination is seen, and makes the first of the records
    by_cases hk : p.subject asked e = some k
    · cases r with
      | nil => exact ⟨[], List.nil_prefix, rfl⟩
      | cons record r =>
        rw [seenFrom, if_pos hk, List.singleton_append, List.cons_prefix_cons] at hr
        obtain ⟨rfl, hrest⟩ := hr
        obtain ⟨before, hbefore, hseen⟩ := ih hrest
        refine ⟨e :: before, List.cons_prefix_cons.2 ⟨rfl, hbefore⟩, ?_⟩
        rw [seenFrom, if_pos hk, hseen]
        rfl
    · rw [seenFrom, if_neg hk, List.nil_append] at hr
      obtain ⟨before, hbefore, hseen⟩ := ih hr
      refine ⟨e :: before, List.cons_prefix_cons.2 ⟨rfl, hbefore⟩, ?_⟩
      rw [seenFrom, if_neg hk, hseen]
      rfl

/-- `status?` of the destination is seen. -/
theorem only_status (h : Placed asked p) (k : Destination) :
    (p.only k asked).status? k = p.status? k := by
  have hserves := only_siteOf? k asked p
  unfold status?
  rw [hserves]
  cases hsite : p.siteOf? k with
  | none => rfl
  | some site =>
    have hregistered := h.registered k site (mem_of_lookup hsite)
    show ((p.only k asked).sites[rank k p.destinations site]?.bind _) = _
    rw [only_sites asked hregistered]
    rfl

/-- A `step` only adds sites. -/
theorem destinations_step (h : Placed asked p) {e : Event} (hseparate : e.isSeparate = true) :
    p.destinations <+: (p.step e).1.destinations := by
  by_cases hasks : e.asks = []
  · cases hd : p.subject asked e with
    | some d => exact (step_confined h hseparate hasks hd).destinations
    | none =>
      obtain heq | rfl := step_of_subject_none h hseparate hd
      · exact ⟨[], by rw [List.append_nil, heq]⟩
      · exact List.prefix_refl _
  · cases e with
    | acquire d => exact List.prefix_refl _
    | _ => exact absurd rfl hasks

/-- A `run` only adds sites. -/
theorem destinations_run (h : Placed asked p) {events : List Event}
    (hseparate : ∀ e ∈ events, e.isSeparate = true) :
    p.destinations <+: (p.run events).destinations := by
  induction events generalizing asked p with
  | nil => exact List.prefix_refl _
  | cons e events ih =>
    obtain ⟨he, hrest⟩ := List.forall_mem_cons.1 hseparate
    exact (destinations_step h he).trans (ih (h.step he) hrest)

/-! ## Who meets whom -/

/-- The site that an acquisition has come to with a poll. -/
def siteOfPoll? (m : Moment) (id : Nat) (p : Provider) : Option Nat :=
  match p.poll m id with
  | (.finished result, _) => result.toOption.map (·.site)
  | (.waiting site _ _, _) => some site
  | (.connecting _, change) => (change.1.acquisitions.lookup id).bind Acquisition.site?

/-- A first poll that comes to a site comes to the one that `siteFor` finds or makes. -/
theorem siteOfPoll?_of_fresh (h : Placed asked p) {m : Moment} {id site : Nat}
    (hknown : p.acquisitions.lookup id = some (.fresh d)) (hsite : p.siteOfPoll? m id = some site) :
    site = (p.siteFor d).1 := by
  have hstart : p.poll m id = p.start m id d := by rw [poll, hknown]
  rw [siteOfPoll?, hstart, start_eq h.accepting] at hsite
  dsimp only at hsite
  generalize hanswered : (p.siteFor d).2.1.changeSiteReporting (p.siteFor d).1 (.error .poolClosed)
    (Site.acquire p.config m) = answered at hsite
  have hkept : answered.2.1.acquisitions.lookup id = some (.fresh d) := by
    have hacquisitions : answered.2.1.acquisitions = (p.siteFor d).2.1.acquisitions := by
      rw [← hanswered, changeSiteReporting, changeSite_fst_eq]
    rw [hacquisitions]
    obtain ⟨site, -, heq⟩ | ⟨-, heq⟩ := siteFor_eq d p <;> rw [heq] <;> exact hknown
  -- the site that is asked is the one that the acquisition is told of, whatever the ticket
  cases hticket : answered.1 with
  | error error =>
    rw [hticket] at hsite
    cases hsite
  | ok ticket =>
    rw [hticket] at hsite
    cases ticket with
    | lease number => exact (Option.some.inj hsite).symm
    | request number deadline => exact (Option.some.inj hsite).symm
    | opening number =>
      have hnext := lookup_advance (.opening d (p.siteFor d).1 number) hkept
      simp only [Progress.ofTicket, Acquisition.ofTicket, proceed, hnext] at hsite
      exact (Option.some.inj hsite).symm

/-- After a first poll, the site for the destination is there. -/
theorem destinations_poll_of_fresh (h : Placed asked p) (m : Moment) {id : Nat}
    (hknown : p.acquisitions.lookup id = some (.fresh d)) :
    (p.poll m id).2.1.destinations[(p.siteFor d).1]? = some d := by
  have hsite := (siteFor_destination h d).1
  have hstart : p.poll m id = p.start m id d := by rw [poll, hknown]
  rw [hstart, start_eq h.accepting]
  dsimp only
  have hkept : ((p.siteFor d).2.1.changeSiteReporting (p.siteFor d).1 (.error .poolClosed)
      (Site.acquire p.config m)).2.1.destinations = (p.siteFor d).2.1.destinations :=
    destinations_changeSite (destination_step p.config (.acquire m)) (p.siteFor d).1 _
  rw [destinations_proceed, hkept]
  exact hsite

/-- Whoever comes to a site by `siteFor` comes there for its destination. -/
theorem eq_of_siteFor (h : Placed asked p) {wanted : Destination} {site : Nat}
    (hsite : p.destinations[site]? = some d) (hfor : (p.siteFor wanted).1 = site) : wanted = d := by
  subst hfor
  obtain ⟨other, hserves, heq⟩ | ⟨-, heq⟩ := siteFor_eq wanted p <;> rw [heq] at hsite
  · exact Option.some.inj ((h.registered wanted other (mem_of_lookup hserves)).symm.trans hsite)
  · have hlength : p.sites.length = p.destinations.length := by simp [destinations]
    dsimp only at hsite
    rw [hlength, List.getElem?_eq_none (Nat.le_refl _)] at hsite
    cases hsite

/-- `siteFor` comes to the site that serves the destination. -/
theorem siteFor_of_serves {site : Nat} (hserves : p.siteOf? d = some site) :
    (p.siteFor d).1 = site := by
  rw [siteFor, hserves]

/-- Destinations are the same if address and fingerprint are. -/
theorem destination_eq_iff {first second : Destination} :
    first = second ↔ first.address = second.address ∧ first.fingerprint = second.fingerprint := by
  cases first
  cases second
  exact Destination.mk.injEq _ _ _ _ ▸ Iff.rfl

/-! ## Independence -/

/-- The step may happen to a provider of which only the destination `k` is used. -/
def Event.isOf (k : Destination) : Event → Bool
  | .acquire d | .disposeWhen d => d == k
  | .dispose | .disposeAtOnce | .letGo | .pollDisposal _ .whole => false
  | _ => true

/-- A step of which the destination is the `subject` may happen where only that one is used. -/
theorem isOf_renumber {e : Event} (n : Names) (hseparate : e.isSeparate = true)
    (hk : p.subject asked e = some k) : (e.renumber n).isOf k = true := by
  cases e with
  | acquire d => exact beq_iff_eq.2 (Option.some.inj hk)
  | disposeWhen d => exact beq_iff_eq.2 (Option.some.inj hk)
  | dispose => cases hk
  | disposeAtOnce => cases hk
  | letGo => cases hk
  | pollDisposal m disposal => cases disposal <;> first | rfl | cases hk
  | _ => rfl

/-- Nothing but the destination is used in what is `seenFrom` it. -/
theorem isOf_of_mem_seenFrom {events : List Event} (hseparate : ∀ e ∈ events, e.isSeparate = true)
    {r : Record} (hr : r ∈ seenFrom k asked p events) : r.event.isOf k = true := by
  induction events generalizing asked p with
  | nil => cases hr
  | cons e events ih =>
    obtain ⟨he, hrest⟩ := List.forall_mem_cons.1 hseparate
    rcases List.mem_append.1 hr with hown | hlater
    · by_cases hk : p.subject asked e = some k
      · rw [if_pos hk, List.mem_singleton] at hown
        subst hown
        exact isOf_renumber _ he hk
      · rw [if_neg hk] at hown
        cases hown
    · exact ih hrest hlater

/-- One more step adds its record to what is `seen` of a run, if the destination is
its `subject`. -/
theorem seen_concat (config : Config) (k : Destination) (events : List Event) (e : Event) :
    seen config k (events ++ [e]) = seen config k events ++
      if ((ofConfig config).run events).subject (events.flatMap Event.asks) e = some k then
        [(((ofConfig config).run events).recordOf e).renumber
          (((ofConfig config).run events).names k (events.flatMap Event.asks))]
      else [] := by
  rw [seen, seenFrom_append, List.nil_append, seenFrom, seenFrom, List.append_nil]
  rfl

/-- A step of which the destination is not the `subject` asks for nothing there. -/
theorem effects_of_subject_ne (h : Placed asked p) {e : Event} (hseparate : e.isSeparate = true)
    (hk : p.subject asked e ≠ some k) {effect : Effect} (heffect : effect ∈ (p.step e).2) :
    effect.destination? (p.step e).1 ≠ some k := by
  by_cases hasks : e.asks = []
  · cases hd : p.subject asked e with
    | some d =>
      rw [(step_confined h hseparate hasks hd).effects effect heffect, ← hd]
      exact hk
    | none =>
      obtain heq | rfl := step_of_subject_none h hseparate hd
      · rw [heq] at heffect
        cases heffect
      · cases heffect
  · cases e with
    | acquire d => cases heffect
    | _ => exact absurd rfl hasks

/-- `Independent config events`: in the run, the destinations of a provider do not interfere. -/
structure Independent (config : Config) (events : List Event) : Prop where
  /-- In the steps that are `alone`, no other destination is used. -/
  alone : ∀ k, ∀ e ∈ alone config k events, e.isOf k = true
  /-- After every step, the steps of which the destination is the `subject` are a run in which they
  have the same outcomes and ask for the same, and lead to the same pools and the same counters. -/
  same : ∀ k before, before <+: events →
    (ofConfig config).records (Provider.alone config k before) = seen config k before ∧
      ((ofConfig config).run (Provider.alone config k before)).sites =
        ((ofConfig config).run before).sites.filter (·.destination = k) ∧
      ((ofConfig config).run (Provider.alone config k before)).status? k =
        ((ofConfig config).run before).status? k
  /-- A step of which the destination is the `subject` is seen. -/
  own : ∀ k before e, before ++ [e] <+: events →
    ((ofConfig config).run before).subject (before.flatMap Event.asks) e = some k →
      seen config k (before ++ [e]) = seen config k before ++
        [(((ofConfig config).run before).recordOf e).renumber
          (((ofConfig config).run before).names k (before.flatMap Event.asks))]
  /-- A step of which the destination is not the `subject` is not seen, changes no pool and no
  counter of the destination, and asks for nothing there. -/
  unseen : ∀ k before e, before ++ [e] <+: events →
    ((ofConfig config).run before).subject (before.flatMap Event.asks) e ≠ some k →
      seen config k (before ++ [e]) = seen config k before ∧
        (((ofConfig config).run (before ++ [e])).sites.filter (·.destination = k)) =
          ((ofConfig config).run before).sites.filter (·.destination = k) ∧
        ((ofConfig config).run (before ++ [e])).status? k =
          ((ofConfig config).run before).status? k ∧
        ∀ effect ∈ (((ofConfig config).run before).step e).2,
          effect.destination? (((ofConfig config).run before).step e).1 ≠ some k
  /-- Whatever a transport may answer in the run, it may answer where the destination is used alone,
  if what it may answer at a destination depends on what has happened there. -/
  answers : ∀ possible : Destination → List Record → Prop,
    (∀ k before, before <+: events → possible k (seen config k before)) →
      ∀ k before, before <+: Provider.alone config k events →
        possible k ((ofConfig config).records before)
  /-- Two acquisitions meet in one pool only if their addresses and fingerprints agree, and do so
  then if the pool of the first still serves its destination. -/
  meet : ∀ first rest m m' id id' d d' site site',
    first ++ .poll m id :: (rest ++ [.poll m' id']) <+: events →
    ((ofConfig config).run first).acquisitions.lookup id = some (.fresh d) →
    ((ofConfig config).run first).siteOfPoll? m id = some site →
    ((ofConfig config).run (first ++ .poll m id :: rest)).acquisitions.lookup id' =
      some (.fresh d') →
    ((ofConfig config).run (first ++ .poll m id :: rest)).siteOfPoll? m' id' = some site' →
      (site' = site → d'.address = d.address ∧ d'.fingerprint = d.fingerprint) ∧
      (((ofConfig config).run (first ++ .poll m id :: rest)).siteOf? d = some site →
        d'.address = d.address ∧ d'.fingerprint = d.fingerprint → site' = site)

/-- Destinations are `Independent` in any run without swaps between pools and without disposals of
the whole provider. -/
theorem destinations_do_not_interfere (config : Config) {events : List Event}
    (hseparate : ∀ e ∈ events, e.isSeparate = true) : Independent config events := by
  have hstart := placed_ofConfig config
  have hbefore : ∀ {before : List Event}, before <+: events → ∀ e ∈ before, e.isSeparate = true :=
    fun hbegins e he => hseparate e (hbegins.subset he)
  have hplaced : ∀ {before : List Event}, before <+: events →
      Placed (before.flatMap Event.asks) ((ofConfig config).run before) :=
    fun hbegins => (run_seenFrom default hstart (hbefore hbegins)).2.2
  have hfirst : ∀ {before : List Event} {e : Event}, before ++ [e] <+: events → before <+: events :=
    fun hbegins => (List.prefix_append _ _).trans hbegins
  have hlast : ∀ {before : List Event} {e : Event}, before ++ [e] <+: events →
      e.isSeparate = true := fun hbegins => hbefore hbegins _ (by simp)
  refine ⟨fun k e he => ?_, fun k before hbegins => ?_, fun k before e hbegins hk => ?_,
    fun k before e hbegins hk => ?_, fun possible hpossible k before hbegins => ?_, ?_⟩
  · obtain ⟨r, hr, rfl⟩ := List.mem_map.1 he
    exact isOf_of_mem_seenFrom hseparate hr
  · obtain ⟨hrecords, hrun, hplaced⟩ := run_seenFrom k hstart (hbefore hbegins)
    refine ⟨hrecords, congrArg Provider.sites hrun, ?_⟩
    rw [← only_status hplaced k, ← hrun]
    rfl
  · rw [seen_concat, if_pos hk]
  · have hunseen := step_of_subject_ne (hplaced (hfirst hbegins)) (hlast hbegins) hk
    have hafter := (hplaced (hfirst hbegins)).step (hlast hbegins)
    rw [seen_concat, if_neg hk, List.append_nil, run_append]
    refine ⟨rfl, congrArg Provider.sites hunseen, ?_, fun effect heffect =>
      effects_of_subject_ne (hplaced (hfirst hbegins)) (hlast hbegins) hk heffect⟩
    have hstatus := congrArg (status? k) hunseen
    rwa [only_status hafter, only_status (hplaced (hfirst hbegins))] at hstatus
  · obtain ⟨before', hbegins', rfl⟩ : ∃ before', before' <+: events ∧
        Provider.alone config k before' = before := by
      obtain ⟨r, hr, rfl⟩ := List.prefix_map_iff.1 hbegins
      obtain ⟨before', hbegins', hseen⟩ := exists_prefix_of_seenFrom hr
      exact ⟨before', hbegins', congrArg _ hseen⟩
    obtain ⟨hrecords, -, -⟩ := run_seenFrom k hstart (hbefore hbegins')
    have hrecords' : (ofConfig config).records (Provider.alone config k before') =
      seen config k before' := hrecords
    rw [hrecords']
    exact hpossible k before' hbegins'
  · intro first rest m m' id id' d d' site site' hbegins hknown hsite hknown' hsite'
    have hassoc : first ++ .poll m id :: (rest ++ [.poll m' id']) =
        (first ++ .poll m id :: rest) ++ [.poll m' id'] := by simp
    rw [hassoc] at hbegins
    have hlater := hfirst hbegins
    have hpolled := hplaced ((List.prefix_append _ _).trans hlater)
    have hmid := hplaced hlater
    have hseparate' := hbefore hlater
    obtain rfl := siteOfPoll?_of_fresh hpolled hknown hsite
    obtain rfl := siteOfPoll?_of_fresh hmid hknown' hsite'
    -- the first pool is there for good, whether or not it still serves its destination
    have hgrown : (((ofConfig config).run first).step (.poll m id)).1.destinations <+:
        ((ofConfig config).run (first ++ .poll m id :: rest)).destinations := by
      rw [run_append]
      exact destinations_run (hpolled.step rfl) fun e he => hseparate' e (by simp [he])
    have hthere := getElem?_of_grown hgrown (destinations_poll_of_fresh hpolled m hknown)
    refine ⟨fun heq => destination_eq_iff.1 (eq_of_siteFor hmid hthere heq),
      fun hserves hagree => ?_⟩
    obtain rfl := destination_eq_iff.2 hagree
    exact siteFor_of_serves hserves

/-- Two callers use one address with different settings. The transport refuses the first; the second
gets a connection, asks again and has to wait. -/
def twoDestinations : List Event :=
  [.acquire (.ofAddress "db:1"), .acquire ⟨"db:1", 7⟩, .poll (.atMillis 0) 1, .poll (.atMillis 0) 0,
    .opened (.atMillis 1) 1 ⟨1, "db:1"⟩, .openingFailed 0 (.refused "db:1"),
    .acquire ⟨"db:1", 7⟩, .poll (.atMillis 1) 2]

/-- Where the second of them is alone, it is the first to be numbered. -/
theorem destinations_do_not_interfere_twoDestinations :
    (∀ e ∈ twoDestinations, e.isSeparate = true) ∧
      alone .oneSlot ⟨"db:1", 7⟩ twoDestinations =
        [.acquire ⟨"db:1", 7⟩, .poll (.atMillis 0) 0, .opened (.atMillis 1) 0 ⟨1, "db:1"⟩,
          .acquire ⟨"db:1", 7⟩, .poll (.atMillis 1) 1] ∧
      Independent .oneSlot twoDestinations :=
  ⟨by decide, rfl, destinations_do_not_interfere .oneSlot (by decide)⟩

end ConnectionPool.Provider
