import Mathlib.Logic.Function.Basic
import ConnectionPool.Proofs.Provider.Disposals
import ConnectionPool.Proofs.Provider.Resolution

/-!
# A provider on which several threads work

Most of what happens to a provider takes place in one step, and `Provider.step` makes one step of
each event. Two things do not. `Provider.start`, the first poll of an acquisition, looks at
`isDisposed`, finds its site by `siteFor`, looks at `isDisposed` again, and then either begins there
by `enter` or shuts the site down by `turnAway`. A disposal shuts sites down, looks at them and
takes them off the registry one after another. What other threads do may come between
any two of these.

A `Threaded` provider keeps how far the first polls under way have come. Disposals keep nothing of
their own: a thread may do any part of one whenever its condition holds, which is more than any
disposal does.

## Main definitions

* `Entrance`: how far a first poll has come.
* `Disposes`: a part of a disposal, with what it asks for.
* `Threaded.Step`, `Threaded.Run`: one step of some thread, and what steps lead to.

## Main results

* `Threaded.run_start`: the steps of a first poll that nobody interrupts are `Provider.start`.
* `Threaded.Entering.step`: whoever polls for the first time is known as such until
  its poll is over.
* `Threaded.Step.moves`: every step is a sequence of moves.
-/

namespace ConnectionPool.Provider

variable {config : Config} {p q : Provider} {c : Change}
  {abrupt : Prop} {clock : Option Moment} {event : Event} {id other : Nat} {known : Acquisition}
  {d : Destination}

/-! ## What others do to an acquisition -/

theorem lookup_proceed_of_ne (hne : id ≠ other) (next : Option Acquisition) (p : Provider) :
    (p.proceed other next).acquisitions.lookup id = p.acquisitions.lookup id := by
  cases next with
  | none => exact lookup_eraseP_of_ne _ hne
  | some progress => exact lookup_map_update_of_ne _ hne progress

theorem lookup_finishAcquisition_of_ne (hne : id ≠ other) (p : Provider) :
    (p.finishAcquisition other).acquisitions.lookup id = p.acquisitions.lookup id :=
  lookup_eraseP_of_ne _ hne

/-- `siteFor` concerns no acquisition. -/
@[simp]
theorem acquisitions_siteFor (d : Destination) (p : Provider) :
    (p.siteFor d).2.1.acquisitions = p.acquisitions :=
  (siteFor_moves (fun _ _ _ => False) d p).2.2

theorem lookup_enter_of_ne (hne : id ≠ other) (m : Moment) (d : Destination) (site : Nat)
    (p : Provider) :
    (p.enter m other d site).2.1.acquisitions.lookup id = p.acquisitions.lookup id := by
  rw [enter_eq]
  dsimp only
  rw [lookup_proceed_of_ne hne, changeSiteReporting, acquisitions_changeSite]

theorem lookup_turnAway_of_ne (hne : id ≠ other) (site : Nat) (p : Provider) :
    (p.turnAway other site).2.1.acquisitions.lookup id = p.acquisitions.lookup id := by
  rw [turnAway]
  dsimp only
  rw [lookup_finishAcquisition_of_ne hne, acquisitions_changeSite]

theorem lookup_start_of_ne (hne : id ≠ other) (m : Moment) (d : Destination) (p : Provider) :
    (p.start m other d).2.1.acquisitions.lookup id = p.acquisitions.lookup id := by
  cases hdisposed : p.isDisposed with
  | true =>
    rw [start_of_disposed hdisposed]
    exact lookup_finishAcquisition_of_ne hne p
  | false =>
    rw [start_of_accepting hdisposed]
    dsimp only
    rw [lookup_enter_of_ne hne, acquisitions_siteFor]

theorem lookup_pollQueued_of_ne (hne : id ≠ other) (m : Moment) (site request : Nat)
    (deadline : Instant) (p : Provider) :
    (p.pollQueued m other site request deadline).2.1.acquisitions.lookup id =
      p.acquisitions.lookup id := by
  rw [pollQueued]
  dsimp only
  split
  · rw [changeSiteReporting, acquisitions_changeSite]
  · rw [lookup_finishAcquisition_of_ne hne, changeSiteReporting, acquisitions_changeSite]

/-- A `Part` of a disposal concerns no acquisition. -/
theorem Part.acquisitions (h : Part abrupt clock p q) : q.acquisitions = p.acquisitions := by
  cases h with
  | shut index => exact acquisitions_changeSite _ _ _
  | look hclock hclosed => exact acquisitions_changeSite _ _ _
  | unregister | refuse | wait | finish | lapse | ask | conclude => rfl

theorem Parts.acquisitions (h : Parts abrupt clock p q) : q.acquisitions = p.acquisitions :=
  Parts.invariant (motive := fun q => q.acquisitions = p.acquisitions)
    (fun _ _ hp hpart => hpart.acquisitions.trans hp) rfl h

/-- A `step` of which an acquisition is not the `actor?` leaves it as it is. -/
theorem lookup_step_of_others (hattended : Attended config p) (hothers : event.actor? ≠ some id)
    (hknown : p.acquisitions.lookup id = some known) :
    (p.step event).1.acquisitions.lookup id = some known := by
  rw [← hknown]
  cases hinside : event.isOutside with
  | false => rw [(step_parts hattended hinside).acquisitions]
  | true =>
    -- the actor's own entry may change, and a new one comes at the end
    cases event with
    | acquire d =>
      rw [step, acquire]
      dsimp only
      rw [List.lookup_append, hknown]
      rfl
    | poll m other =>
      have hne : id ≠ other := fun heq => hothers (congrArg some heq.symm)
      rw [step, poll]
      split
      · rfl
      · exact lookup_start_of_ne hne m _ p
      · rfl
      · exact lookup_pollQueued_of_ne hne m _ _ _ p
    | opened m other conn =>
      have hne : id ≠ other := fun heq => hothers (congrArg some heq.symm)
      rw [step, opened]
      split
      · dsimp only
        rw [lookup_finishAcquisition_of_ne hne, changeSiteReporting, acquisitions_changeSite]
      · rfl
    | openingFailed other failure =>
      have hne : id ≠ other := fun heq => hothers (congrArg some heq.symm)
      rw [step, openingFailed]
      split
      · dsimp only
        rw [lookup_finishAcquisition_of_ne hne, changeSiteReporting, acquisitions_changeSite]
      · rfl
    | abandon m other =>
      have hne : id ≠ other := fun heq => hothers (congrArg some heq.symm)
      rw [step, abandon]
      dsimp only
      rw [lookup_finishAcquisition_of_ne hne]
      split <;> first | rfl | rw [acquisitions_changeSite]
    | swap first second =>
      exact swap_invariant
        (motive := fun q => q.acquisitions.lookup id = p.acquisitions.lookup id) p rfl
        (fun q lease conn hq => by rw [exchange_acquisitions, hq]) first second
    | detach lease => rw [step, detach, changeSiteReporting, acquisitions_changeSite]
    | release m lease => rw [step, release, acquisitions_changeSite]
    | openedForQueue m site opening conn created =>
      rw [step, openedForQueue, acquisitions_changeSite]
    | openingForQueueFailed m site opening failure =>
      rw [step, openingForQueueFailed, acquisitions_changeSite]
    | closeFinished site connection => rw [step, closeFinished, acquisitions_changeSite]
    | sweep m site => rw [step, sweep, acquisitions_changeSite]
    | sweepEnded site => rw [step, sweepEnded, acquisitions_changeSite]
    | letGo => rfl
    | dispose | disposeAtOnce | disposeWhen d | pollDisposal m disposal => cases hinside

/-- Where a provider `isDisposed`, no `step` makes an acquisition begin at a site. -/
theorem step_moves_of_disposed (hdisposed : p.isDisposed = true) (event : Event) :
    ∃ allowed : Actors, Moves allowed p (p.flow event) (p.step event) ∧
      ∀ actor site act, allowed actor site act → act.isAcquire = false := by
  by_cases hpoll : ∃ m id, event = .poll m id
  · obtain ⟨m, id, rfl⟩ := hpoll
    refine ⟨fun _ _ act => act.isAcquire = false, ?_, fun _ _ _ => fun hact => hact⟩
    show Moves _ p .none (p.poll m id).2
    rw [poll]
    cases hknown : p.acquisitions.lookup id with
    | none => exact .nil p
    | some known =>
      cases known with
      | fresh d =>
        show Moves _ p .none (p.start m id d).2
        rw [start_of_disposed hdisposed]
        exact .single (.forget hknown (by simp [Acquisition.site?]))
      | opening d site opening => exact .nil p
      | queued site request deadline => exact pollQueued_moves rfl hknown
  · -- an acquisition begins at a site only when it is polled
    refine ⟨event.Causes, step_moves p event, fun actor site act hcauses => ?_⟩
    cases hcauses <;> first | rfl | exact absurd ⟨_, _, rfl⟩ hpoll

/-! ## Parts of disposals -/

/-- `Disposes p c`: a `Part` of a disposal that is not abrupt, with what it asks for. -/
inductive Disposes (p : Provider) : Change → Prop
  /-- A site is shut down. -/
  | shut (index : Nat) : Disposes p (p.changeSite index Site.shutDown)
  /-- A disposal looks whether a site has ended that was shut down. -/
  | look {index : Nat} (m : Moment)
      (hclosed : ∀ s, p.sites[index]? = some s → s.pool.closed = true) :
      Disposes p (p.changeSite index (Site.pollDrain p.config m))
  /-- No site changes. -/
  | books {q : Provider} {effects : List Effect} (hpart : Part False .none p q)
      (hbooks : Rebooks p q) (hquiet : callsOf effects = []) : Disposes p (q, effects)

theorem Disposes.part (h : Disposes p c) : ∃ clock, Part False clock p c.1 := by
  cases h with
  | shut index => exact ⟨.none, .shut p index⟩
  | look m hclosed => exact ⟨some m, .look rfl hclosed⟩
  | books hpart => exact ⟨.none, hpart⟩

/-- What `Disposes` is a sequence of moves of nobody who waits, at which no acquisition begins. -/
theorem Disposes.moves (h : Disposes p c) :
    Moves (fun actor _ act => actor = .none ∧ act.isAcquire = false) p .none c := by
  cases h with
  | shut index => exact shutDown_moves ⟨rfl, rfl⟩ p
  | look m hclosed => exact pollDrain_moves ⟨rfl, rfl⟩ p
  | books hpart hbooks hquiet => exact .single (.books hbooks hquiet)

/-! ## Steps -/

/-- An `Entrance`: how far the first poll of an acquisition has come. -/
inductive Entrance where
  /-- Acquisitions were accepted at the first look. -/
  | admitted (destination : Destination)
  /-- It has found its site. -/
  | found (destination : Destination) (site : Nat)
  /-- Acquisitions were accepted at the second look as well. -/
  | cleared (destination : Destination) (site : Nat)
deriving DecidableEq

/-- What the acquisition is for. -/
def Entrance.destination : Entrance → Destination
  | .admitted d | .found d _ | .cleared d _ => d

/-- `Threaded`: a provider on which several threads work. -/
structure Threaded where
  /-- The provider. -/
  provider : Provider
  /-- The first polls that are under way, by the numbers of their acquisitions. -/
  entrances : Nat → Option Entrance

namespace Threaded

/-- An `Act`: what a thread does in one step. -/
inductive Act where
  /-- An `Event` that takes place in one step. -/
  | operate (event : Event)
  /-- A `Part` of a disposal. -/
  | dispose
  /-- Whoever polls for the first time looks whether acquisitions are accepted. -/
  | look (id : Nat)
  /-- It finds its site. -/
  | find (id : Nat)
  /-- It looks again whether acquisitions are accepted. -/
  | lookAgain (id : Nat)
  /-- It begins at its site. -/
  | enter (m : Moment) (id : Nat)

/-- A provider on which nobody works yet. -/
def start (config : Config) : Threaded := ⟨.ofConfig config, fun _ => none⟩

/-- A first poll has come to `entrance`, or is over, and the provider is `p`. -/
def goOn (id : Nat) (entrance : Option Entrance) (p : Provider) (t : Threaded) : Threaded :=
  ⟨p, Function.update t.entrances id entrance⟩

/-- The `Flow` of a step: what goes in and out of the pools' hands. -/
def flow (t : Threaded) : Act → Flow
  | .operate event => t.provider.flow event
  | _ => .none

/-- `Step t act effects u`: one step of some thread, what it asks for, and what comes of it. The
future of an acquisition is polled by one thread at a time, and so nobody else acts for it while its
first poll is under way. -/
inductive Step (t : Threaded) : Act → List Effect → Threaded → Prop
  /-- Something takes place in one step. -/
  | operates {event : Event} (horderly : event.IsOrderly t.provider)
      (hothers : ∀ id, event.actor? = some id → t.entrances id = none) :
      Step t (.operate event) (t.provider.step event).2 ⟨(t.provider.step event).1, t.entrances⟩
  /-- A part of a disposal takes place. -/
  | disposes {c : Change} (hpart : t.provider.Disposes c) : Step t .dispose c.2 ⟨c.1, t.entrances⟩
  /-- An acquisition is refused at its first look. -/
  | refused {id : Nat} {d : Destination}
      (hknown : t.provider.acquisitions.lookup id = some (.fresh d))
      (hentrance : t.entrances id = none) (hdisposed : t.provider.isDisposed = true) :
      Step t (.look id) [] ⟨t.provider.finishAcquisition id, t.entrances⟩
  /-- An acquisition is let in at its first look. -/
  | admitted {id : Nat} {d : Destination}
      (hknown : t.provider.acquisitions.lookup id = some (.fresh d))
      (hentrance : t.entrances id = none) (haccepting : t.provider.isDisposed = false) :
      Step t (.look id) [] (t.goOn id (some (.admitted d)) t.provider)
  /-- An acquisition finds its site, which is made if there is none. -/
  | finds {id : Nat} {d : Destination} (hentrance : t.entrances id = some (.admitted d)) :
      Step t (.find id) (t.provider.siteFor d).2.2
        (t.goOn id (some (.found d (t.provider.siteFor d).1)) (t.provider.siteFor d).2.1)
  /-- An acquisition is let in at its second look. -/
  | cleared {id site : Nat} {d : Destination} (hentrance : t.entrances id = some (.found d site))
      (haccepting : t.provider.isDisposed = false) :
      Step t (.lookAgain id) [] (t.goOn id (some (.cleared d site)) t.provider)
  /-- An acquisition is refused at its second look, and shuts its site down. -/
  | turnedAway {id site : Nat} {d : Destination} (hentrance : t.entrances id = some (.found d site))
      (hdisposed : t.provider.isDisposed = true) :
      Step t (.lookAgain id) (t.provider.turnAway id site).2.2
        (t.goOn id none (t.provider.turnAway id site).2.1)
  /-- An acquisition begins at its site. -/
  | enters {id site : Nat} {d : Destination} (m : Moment)
      (hentrance : t.entrances id = some (.cleared d site)) :
      Step t (.enter m id) (t.provider.enter m id d site).2.2
        (t.goOn id none (t.provider.enter m id d site).2.1)

/-- `Run t flow effects u`: steps of any threads, in any order, lead from `t` to `u`. -/
inductive Run : Threaded → Flow → List Effect → Threaded → Prop
  | nil (t : Threaded) : Run t .none [] t
  | step {t u v : Threaded} {flow : Flow} {effects more : List Effect} {act : Act} :
      Run t flow effects u → Step u act more v →
        Run t (flow.append (u.flow act)) (effects ++ more) v

variable {t u v : Threaded} {act : Act} {effects : List Effect}

/-- One `Run` after another. -/
theorem Run.trans {first rest : Flow} {more : List Effect} (h : Run t first effects u)
    (hrest : Run u rest more v) : Run t (first.append rest) (effects ++ more) v := by
  induction hrest with
  | nil => simpa using h
  | step _ hstep ih =>
    have hrun := ih.step hstep
    rw [Flow.append_assoc, List.append_assoc] at hrun
    exact hrun

/-- The steps of a first poll that nobody interrupts are `Provider.start`. -/
theorem run_start (hknown : t.provider.acquisitions.lookup id = some (.fresh d))
    (hentrance : t.entrances id = none) (m : Moment) :
    Run t .none (t.provider.start m id d).2.2 ⟨(t.provider.start m id d).2.1, t.entrances⟩ := by
  have hnone : Run t .none [] t := .nil t
  cases hdisposed : t.provider.isDisposed with
  | true =>
    rw [start_of_disposed hdisposed]
    exact hnone.step (.refused hknown hentrance hdisposed)
  | false =>
    rw [start_of_accepting hdisposed]
    have hadmitted := hnone.step (.admitted hknown hentrance hdisposed)
    have hfound := hadmitted.step (.finds (Function.update_self _ _ _))
    have hcleared := hfound.step
      (.cleared (Function.update_self _ _ _) (by simpa [goOn] using hdisposed))
    have hentered := hcleared.step (.enters m (Function.update_self _ _ _))
    have hback : Function.update t.entrances id none = t.entrances := by
      rw [← hentrance, Function.update_eq_self]
    simpa [goOn, Function.update_idem, hback, flow, Flow.append, Flow.none] using hentered

/-! ## First polls under way -/

/-- `MayEnter t site`: somebody may begin at the site who was let in at both looks. -/
def MayEnter (t : Threaded) (site : Nat) : Prop :=
  ∃ id d, t.entrances id = some (.cleared d site)

/-- Whoever polls for the first time is known as such: its acquisition is `fresh`. -/
def Entering (t : Threaded) : Prop :=
  ∀ id entrance, t.entrances id = some entrance →
    t.provider.acquisitions.lookup id = some (.fresh entrance.destination)

namespace Entering

/-- `goOn` moves one first poll, and others stay where they are. -/
theorem goOn (h : t.Entering) {entrance : Option Entrance}
    (hstays : ∀ e, entrance = some e → p.acquisitions.lookup id = some (.fresh e.destination))
    (hothers : ∀ other, other ≠ id →
      p.acquisitions.lookup other = t.provider.acquisitions.lookup other) :
    (t.goOn id entrance p).Entering := by
  intro other e he
  rw [Threaded.goOn] at he ⊢
  by_cases hother : other = id
  · subst hother
    exact hstays e (by simpa using he)
  · rw [hothers other hother]
    exact h other e (by simpa [hother] using he)

/-- Whoever polls for the first time is `Entering` until its poll is over. -/
theorem step (h : t.Entering) (hattended : Attended config t.provider)
    (hstep : Step t act effects u) : u.Entering := by
  cases hstep with
  -- an operation is of somebody else, so that whoever is entering is still known as before
  | operates horderly hothers =>
    intro id entrance hentrance
    refine lookup_step_of_others hattended (fun hactor => ?_) (h id entrance hentrance)
    rw [hothers id hactor] at hentrance
    cases hentrance
  | disposes hpart =>
    obtain ⟨clock, hpart⟩ := hpart.part
    intro id entrance hentrance
    rw [hpart.acquisitions]
    exact h id entrance hentrance
  | refused hknown hstarts hdisposed =>
    intro other entrance hentrance
    rw [lookup_finishAcquisition_of_ne]
    · exact h other entrance hentrance
    · rintro rfl
      cases hstarts.symm.trans hentrance
  -- the poll goes on to its next phase, or is over
  | admitted hknown hstarts haccepting =>
    refine h.goOn (fun e he => ?_) fun _ _ => rfl
    obtain rfl := Option.some.inj he
    exact hknown
  | finds hentrance =>
    refine h.goOn (fun e he => ?_) fun other _ => by rw [acquisitions_siteFor]
    obtain rfl := Option.some.inj he
    rw [acquisitions_siteFor]
    exact h _ (.admitted _) hentrance
  | cleared hentrance haccepting =>
    refine h.goOn (fun e he => ?_) fun _ _ => rfl
    obtain rfl := Option.some.inj he
    exact h _ (.found _ _) hentrance
  | turnedAway hentrance hdisposed =>
    exact h.goOn nofun fun other hother => lookup_turnAway_of_ne hother _ _
  | enters m hentrance =>
    exact h.goOn nofun fun other hother => lookup_enter_of_ne hother m _ _ _

end Entering

/-- How a first poll has come where it is after a `Step`: it was there, or it goes on. -/
theorem Step.entrance_cases (h : Step t act effects u) {entrance : Entrance}
    (hentrance : u.entrances id = some entrance) :
    t.entrances id = some entrance ∨
      (∃ d, entrance = .admitted d ∧ t.provider.isDisposed = false) ∨
      (∃ d, entrance = .found d (t.provider.siteFor d).1 ∧ t.entrances id = some (.admitted d) ∧
        u.provider = (t.provider.siteFor d).2.1) ∨
      ∃ d site, entrance = .cleared d site ∧ t.entrances id = some (.found d site) ∧
        t.provider.isDisposed = false := by
  -- whoever does not act stays where it is
  have hgoOn {other : Nat} {next : Option Entrance} {p : Provider}
      (hentrance : (t.goOn other next p).entrances id = some entrance) :
      t.entrances id = some entrance ∨ id = other ∧ next = some entrance := by
    rw [goOn] at hentrance
    by_cases hother : id = other
    · subst hother
      exact .inr ⟨rfl, by simpa using hentrance⟩
    · exact .inl (by simpa [hother] using hentrance)
  cases h with
  | operates | disposes | refused => exact .inl hentrance
  | admitted hknown hstarts haccepting =>
    obtain hstays | ⟨-, hnext⟩ := hgoOn hentrance
    · exact .inl hstays
    · exact .inr (.inl ⟨_, (Option.some.inj hnext).symm, haccepting⟩)
  | finds hbefore =>
    obtain hstays | ⟨rfl, hnext⟩ := hgoOn hentrance
    · exact .inl hstays
    · exact .inr (.inr (.inl ⟨_, (Option.some.inj hnext).symm, hbefore, rfl⟩))
  | cleared hbefore haccepting =>
    obtain hstays | ⟨rfl, hnext⟩ := hgoOn hentrance
    · exact .inl hstays
    · exact .inr (.inr (.inr ⟨_, _, (Option.some.inj hnext).symm, hbefore, haccepting⟩))
  | turnedAway | enters =>
    obtain hstays | ⟨-, hnext⟩ := hgoOn hentrance
    · exact .inl hstays
    · cases hnext

/-- Where the provider `isDisposed`, nobody else `MayEnter`. -/
theorem Step.mayEnter (h : Step t act effects u) (hdisposed : t.provider.isDisposed = true)
    {site : Nat} (hsite : u.MayEnter site) : t.MayEnter site := by
  obtain ⟨id, d, hentrance⟩ := hsite
  obtain hstays | ⟨_, heq, -⟩ | ⟨_, heq, -⟩ | ⟨_, _, -, -, haccepting⟩ := h.entrance_cases hentrance
  · exact ⟨id, d, hstays⟩
  · cases heq
  · cases heq
  · cases hdisposed.symm.trans haccepting

/-- Every `Step` is `Apart` from disposals, or made of `Parts` of them, at which no first poll goes
on. -/
theorem Step.apart_or_parts (h : Step t act effects u) (hattended : Attended config t.provider)
    (hentering : t.Entering) :
    t.provider.Apart u.provider ∨
      ∃ clock, Parts False clock t.provider u.provider ∧ u.entrances = t.entrances := by
  -- a step that leaves the agenda, or registers a site, is apart if nobody looks in its moves
  have hapart {allowed : Actors} {flow : Flow} {effects : List Effect} {q : Provider}
      (hagenda : q.agenda = t.provider.agenda ∨ ∃ d, q.agenda = t.provider.agenda.register d)
      (hmoves : Moves allowed t.provider flow (q, effects))
      (hallowed : ∀ actor site act, allowed actor site act → act.isLook = false) :
      t.provider.Apart q := by
    refine ⟨hagenda, hmoves.descends.mono ?_⟩
    rintro index act (hexchange | ⟨actor, hact⟩)
    · cases act <;> first | rfl | cases hexchange
    · exact hallowed _ _ _ hact
  cases h with
  | operates horderly hothers =>
    rename_i event
    refine (step_outside_or_parts hattended event).imp Outside.apart fun hparts => ?_
    rw [show (¬ event.IsOrderly t.provider) = False from by simpa using horderly] at hparts
    exact ⟨_, hparts, rfl⟩
  | disposes hpart =>
    obtain ⟨clock, hpart⟩ := hpart.part
    exact .inr ⟨clock, .single hpart, rfl⟩
  | refused hknown hstarts hdisposed =>
    have hmove : Move (fun _ _ _ => False) t.provider .none _ :=
      .forget hknown (by simp [Acquisition.site?])
    exact .inl (hapart (.inl rfl) (.single hmove) fun _ _ _ hact => hact.elim)
  | admitted | cleared => exact .inl ⟨.inl rfl, .of_eq rfl rfl⟩
  | finds hentrance =>
    rename_i id d
    have hagenda : (t.provider.siteFor d).2.1.agenda = t.provider.agenda ∨
        ∃ d', (t.provider.siteFor d).2.1.agenda = t.provider.agenda.register d' :=
      (agenda_siteFor d t.provider).imp_right fun heq => ⟨d, heq.2⟩
    have hmoves := (siteFor_moves (fun _ _ _ => False) d t.provider).1
    exact .inl (hapart hagenda hmoves fun _ _ _ hact => hact.elim)
  | turnedAway hentrance hdisposed =>
    rename_i id site d
    have hagenda : (t.provider.turnAway id site).2.1.agenda = t.provider.agenda :=
      agenda_changeSite site Site.shutDown t.provider
    have hmoves : Moves (fun _ _ act => act.isLook = false) t.provider .none
        (t.provider.turnAway id site).2 := turnAway_moves rfl (hentering id _ hentrance)
    exact .inl (hapart (.inl hagenda) hmoves fun _ _ _ hact => hact)
  | enters m hentrance =>
    rename_i id site d
    have hmoves : Moves (fun _ _ act => act.isLook = false) t.provider .none
        (t.provider.enter m id d site).2 := enter_moves rfl (hentering id _ hentrance)
    exact .inl (hapart (.inl (agenda_enter m id d site _)) hmoves fun _ _ _ hact => hact)

/-- Every `Step` is a sequence of `Moves`. Where the provider `isDisposed`, only those begin who
were let in before. -/
theorem Step.moves (h : Step t act effects u) (hentering : t.Entering) :
    ∃ allowed : Actors, Moves allowed t.provider (t.flow act) (u.provider, effects) ∧
      (t.provider.isDisposed = true → ∀ actor site act, allowed actor site act →
        act.isAcquire = true → t.MayEnter site) := by
  cases h with
  | operates horderly hothers =>
    rename_i event
    -- a poll that runs from beginning to end reads the flag before it begins at a pool
    cases hdisposed : t.provider.isDisposed with
    | true =>
      obtain ⟨allowed, hmoves, hallowed⟩ := step_moves_of_disposed hdisposed event
      refine ⟨allowed, hmoves, fun _ actor site act hact hacquire => ?_⟩
      cases (hallowed actor site act hact).symm.trans hacquire
    | false => exact ⟨event.Causes, step_moves _ event, nofun⟩
  | disposes hpart =>
    refine ⟨_, hpart.moves, fun _ actor site act hact hacquire => ?_⟩
    cases hact.2.symm.trans hacquire
  | refused hknown hstarts hdisposed =>
    exact ⟨fun _ _ _ => False, .single (.forget hknown (by simp [Acquisition.site?])), nofun⟩
  | admitted | cleared => exact ⟨fun _ _ _ => False, .nil _, nofun⟩
  | finds hentrance => exact ⟨fun _ _ _ => False, (siteFor_moves _ _ _).1, nofun⟩
  | turnedAway hentrance hdisposed =>
    rename_i id site d
    have hallowed : Moves (fun _ _ act => act.isAcquire = false) t.provider .none
        (t.provider.turnAway id site).2 := turnAway_moves rfl (hentering id _ hentrance)
    refine ⟨_, hallowed, fun _ actor site act hact hacquire => ?_⟩
    cases hact.symm.trans hacquire
  -- the one step that may begin at a pool when the provider is disposed of
  | enters m hentrance =>
    rename_i id site d
    have hallowed : Moves (fun _ other _ => other = site) t.provider .none
        (t.provider.enter m id d site).2 := enter_moves rfl (hentering id _ hentrance)
    refine ⟨_, hallowed, fun _ actor other act hact _ => ?_⟩
    obtain rfl := hact
    exact ⟨id, d, hentrance⟩

end Threaded

end ConnectionPool.Provider
