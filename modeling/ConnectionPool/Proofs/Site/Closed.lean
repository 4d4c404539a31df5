import ConnectionPool.Proofs.Site.Demand
import ConnectionPool.Proofs.Site.Queue

/-!
# Pools that have been shut down

A pool that has been shut down only winds down. No connection goes to a caller any more but those
that were sent before, every connection that comes back or arrives is closed, and no slot is used
again. `Unwinds` lists all that can happen to such a pool, and `closed_step` says that the list is
complete; what is true of closed pools is then read off the list.

## Main definitions

* `Unwinds`: what an event makes of a closed pool.
* `Pool.remaining`: how many changes a closed pool has before it at most.
* `Ended`: nothing is out, and nothing is being closed.

## Main results

* `closed_step`: the list is complete.
* `Unwinds.rests_or_winds`: an event leaves the books of a closed pool alone, or it brings the pool
  nearer to its end and tells whoever waits for that.
* `Unwinds.hands`, `Unwinds.inbox`: nobody gets a connection that was not sent to them before.
* `Ended.step`: a pool that has ended stays so, and asks nothing of the transport.
-/

namespace ConnectionPool

/-- How many changes of its counters a closed pool has before it at most: a slot is given up, and
the connection in it is closed. -/
def Pool.remaining (p : Pool) : Nat := 2 * p.allocated + p.closing

namespace Site

variable {config : Config} {s t : Site} {event : Event} {c : Change}

/-- The event is a look at the pool by somebody who waits for its end. -/
def Event.isLook : Event → Bool
  | .pollDrain _ => true
  | _ => false

theorem Event.eq_pollDrain (h : event.isLook = true) : ∃ m, event = .pollDrain m := by
  cases event with
  | pollDrain m => exact ⟨m, rfl⟩
  | _ => cases h

/-- `Unwinds s event c`: what `event` may make of a site `s` whose pool has been shut down. -/
inductive Unwinds (s : Site) : Event → Change → Prop
  /-- There is nothing to do. -/
  | nothing (event : Event) : Unwinds s event (s, [])
  /-- A connection is read that was sent before. -/
  | reads {m : Moment} {request : Nat} {e : Entry} (hsent : s.inbox.lookup request = some (.ok e)) :
      Unwinds s (.poll m request) (lend e { s with inbox := s.inbox.eraseP (·.1 == request) }, [])
  /-- An error is read or thrown away. -/
  | drops {event : Event} {request : Nat} (hsent : ∀ e, s.inbox.lookup request ≠ some (.ok e)) :
      Unwinds s event ({ s with inbox := s.inbox.eraseP (·.1 == request) }, [])
  /-- Another connection is put into a caller's hands. -/
  | exchanges (lease : Nat) (conn : Connection) :
      Unwinds s (.exchange lease conn) (s.exchange lease conn, [])
  /-- A connection that has just been opened is closed. -/
  | arrives {event : Event} {opening : Nat} {purpose : Purpose} {conn : Connection} {now : Instant}
      (hopening : s.isOpening opening purpose = true) (harrives : s.arrivals event = [conn]) :
      Unwinds s event ((startClosing [(s.pool.enlist conn now).1]
        (endOpening opening
          { s with pool := (s.pool.enlist conn now).2.giveUp 1 })).andThen announce)
  /-- A connection that could not be opened, or is no longer wanted, leaves its slot. -/
  | fails {event : Event} {opening : Nat} {purpose : Purpose} (notes : List PoolEvent)
      (hopening : s.isOpening opening purpose = true) :
      Unwinds s event
        (Change.andThen (endOpening opening { s with pool := s.pool.freeSlot }, notes.map .note)
          announce)
  /-- A connection that a caller gives back is closed. -/
  | returns {m : Moment} {lease : Nat} {e : Entry} (notes : List PoolEvent)
      (hlease : s.lease? lease = some e) :
      Unwinds s (.release m lease)
        ((Change.andThen ({ s.unlend lease with pool := s.pool.takeBack.giveUp 1 },
          notes.map .note) (startClosing [e])).andThen announce)
  /-- A connection that was sent to a request that is given up is closed. -/
  | recalls {m : Moment} {request : Nat} {e : Entry} (notes : List PoolEvent)
      (hsent : s.inbox.lookup request = some (.ok e)) :
      Unwinds s (.cancel m request)
        ((Change.andThen ({ s with
          inbox := s.inbox.eraseP (·.1 == request), pool := s.pool.takeBack.giveUp 1 },
          notes.map .note) (startClosing [e])).andThen announce)
  /-- A caller takes a connection out of the pool for good. -/
  | detaches {lease : Nat} {e : Entry} (hlease : s.lease? lease = some e) :
      Unwinds s (.detach lease)
        (announce { s.unlend lease with pool := s.pool.takeBack.freeSlot })
  /-- A connection has been closed. -/
  | closes {connection : Nat} {e : Entry}
      (hclosing : s.closings.find? (·.info.id == connection) = some e) :
      Unwinds s (.closeFinished connection)
        (announce { s with
          closings := s.closings.eraseP (·.info.id == connection),
          pool := { s.pool with closing := s.pool.closing - 1 } })

/-! ## The list is complete -/

/-- `slotFreed` of a closed pool uses no slot again. -/
theorem slotFreed_of_closed (config : Config) (h : s.pool.closed = true) :
    slotFreed config s = announce s := by
  have hdue : s.pool.openingsDue config = 0 := if_pos h
  rw [slotFreed, hdue, Pool.reserve_of_openingsDue_zero hdue]
  exact Prod.ext rfl (List.append_nil _)

theorem andThen_slotFreed_of_closed (config : Config) (h : c.1.pool.closed = true) :
    c.andThen (slotFreed config) = c.andThen announce := by
  rw [Change.andThen, slotFreed_of_closed config h]
  rfl

/-- `takeIn` of a closed pool closes the connection. -/
theorem takeIn_of_closed (config : Config) (m : Moment) (e : Entry) (h : s.pool.closed = true) :
    takeIn config m e s =
      (Change.andThen ({ s with pool := s.pool.takeBack.giveUp 1 },
        [.note (.closingReleased e.info.id .poolClosed)]) (startClosing [e])).andThen announce := by
  have hreason : s.pool.takeBack.closeReason? config m e = some .poolClosed := if_pos h
  obtain ⟨reason, hclose, heq⟩ | ⟨hnone, -⟩ := takeIn_cases config m e s
  · obtain rfl := Option.some.inj (hreason.symm.trans hclose)
    rw [heq]
    exact andThen_slotFreed_of_closed config h
  · cases hreason.symm.trans hnone

/-- `abandon` at a closed pool gives the slot up for good. -/
theorem abandon_of_closed (config : Config) {opening : Nat} (h : s.pool.closed = true)
    (hopening : s.isOpening opening .caller = true) :
    s.abandon config opening =
      announce (endOpening opening { s with pool := s.pool.freeSlot }) := by
  rw [abandon, if_pos hopening]
  exact slotFreed_of_closed config h

/-- Nothing happens to a pool that has been shut down but what `Unwinds` lists, besides that
somebody looks whether it has ended. -/
theorem closed_step (hclosed : s.pool.closed = true) (hjustified : s.pool.Justified config 0)
    (hlook : event.isLook = false) : Unwinds s event (s.step config event) := by
  obtain ⟨hpending, -⟩ := hjustified.closed hclosed
  -- each operation has a branch for a closed pool, where there is no queue and nothing idle
  cases event with
  | acquire m =>
    rw [step, acquire, if_pos hclosed]
    exact .nothing _
  | opened opening conn m =>
    obtain ⟨-, heq⟩ | ⟨hopening, ⟨-, heq⟩ | ⟨hopen, -⟩⟩ := opened_cases opening conn m s
    · rw [step, heq]
      exact .nothing _
    · rw [step, heq]
      exact .arrives hopening (if_pos hopening)
    · cases hclosed.symm.trans hopen
  | openingFailed opening failure =>
    rw [step, openingFailed]
    split
    · rename_i hopening
      have hfails : Unwinds s (.openingFailed opening failure) _ :=
        .fails [.openingFailed failure] hopening
      rw [Change.andThen, abandon_of_closed config hclosed hopening]
      exact hfails
    · exact .nothing _
  | abandon opening =>
    cases hopening : s.isOpening opening .caller with
    | true =>
      rw [step, abandon_of_closed config hclosed hopening]
      exact .fails [] hopening
    | false =>
      rw [step, abandon, hopening]
      exact .nothing _
  | openedForQueue opening conn m created =>
    obtain ⟨-, heq⟩ | ⟨hopening, ⟨-, heq⟩ | ⟨hopen, -⟩⟩ :=
      openedForQueue_cases config opening conn m created s
    · rw [step, heq]
      exact .nothing _
    · rw [step, heq]
      exact .arrives hopening (if_pos hopening)
    · cases hclosed.symm.trans hopen
  | openingForQueueFailed opening failure m =>
    obtain ⟨-, heq⟩ | ⟨hopening, heq⟩ := openingForQueueFailed_cases config opening failure m s
    · rw [step, heq]
      exact .nothing _
    · -- nobody is queued who could be told
      have htold (effects : List Effect) :
          Change.andThen (endOpening opening { s with pool := s.pool.freeSlot }, effects)
            (failOldest config m.now (.connectionCreation failure)) =
              (endOpening opening { s with pool := s.pool.freeSlot }, effects) := by
        simp [Change.andThen, failOldest, Pool.failOldest, deliverTimeouts, deliver, endOpening,
          Pool.freeSlot, hpending]
      have hfails : Unwinds s (.openingForQueueFailed opening failure m) _ :=
        .fails [.openingForQueueFailed failure] hopening
      rw [← andThen_slotFreed_of_closed config hclosed] at hfails
      rw [step, heq, htold]
      exact hfails
  | poll m request =>
    obtain ⟨e, hsent, heq⟩ | ⟨error, hsent, heq⟩ | ⟨-, ⟨-, heq⟩ | ⟨r, hqueued, -⟩⟩ :=
      poll_cases config m request s
    · rw [step, heq]
      exact .reads hsent
    · rw [step, heq]
      exact .drops fun e he => by cases hsent.symm.trans he
    · rw [step, heq]
      exact .nothing _
    · rw [hpending] at hqueued
      cases hqueued
  | cancel m request =>
    -- what was sent to the request is all that there can be
    obtain ⟨hqueued, -⟩ | ⟨-, ⟨e, hsent, heq⟩ | ⟨hsent, heq⟩⟩ := cancel_cases config m request s
    · rw [Pool.isQueued, hpending] at hqueued
      cases hqueued
    · have htaken := takeIn_of_closed config m e
        (s := { s with inbox := s.inbox.eraseP (·.1 == request) }) hclosed
      rw [step, heq, htaken]
      exact .recalls [.closingReleased e.info.id .poolClosed] hsent
    · rw [step, heq]
      exact .drops hsent
  | release m lease =>
    obtain ⟨-, heq⟩ | ⟨e, hlease, heq⟩ := release_cases config m lease s
    · rw [step, heq]
      exact .nothing _
    · have htaken := takeIn_of_closed config m e (s := s.unlend lease) hclosed
      rw [step, heq, Change.andThen, htaken]
      exact .returns [.returning lease, .closingReleased e.info.id .poolClosed] hlease
  | detach lease =>
    obtain ⟨-, heq⟩ | ⟨e, hlease, heq⟩ := detach_cases config lease s
    · rw [step, heq]
      exact .nothing _
    · have hfreed := slotFreed_of_closed config
        (s := { s.unlend lease with pool := s.pool.takeBack.freeSlot }) hclosed
      rw [step, heq, hfreed]
      exact .detaches hlease
  | exchange lease conn => exact .exchanges lease conn
  | sweep m =>
    rw [step, sweep, if_pos hclosed]
    exact .nothing _
  | closeFinished connection =>
    obtain ⟨-, heq⟩ | ⟨e, hclosing, heq⟩ := closeFinished_cases connection s
    · rw [step, heq]
      exact .nothing _
    · rw [step, heq]
      exact .closes hclosing
  | shutDown =>
    rw [step, shutDown, if_pos hclosed]
    exact .nothing _
  | pollDrain m => cases hlook

/-! ## What is true of the list -/

/-- `Rests s c`: the books stay as they are, and so does the wait for the pool's end. -/
structure Rests (s : Site) (c : Change) : Prop where
  /-- The books stay. -/
  pool : c.1.pool = s.pool
  /-- The wait stays. -/
  drain : c.1.drain = s.drain
  /-- Nothing is asked for. -/
  quiet : c.2 = []

/-- `Winds s c`: the pool comes nearer to its end, by `Pool.remaining`, and whoever waits for that
is told. -/
structure Winds (s : Site) (c : Change) : Prop where
  /-- The wait learns that the pool has changed. -/
  told : c.1.drain = s.drain.told true
  /-- If it was asleep, it is woken. -/
  woken : ∀ graceEnd graceOver, s.drain = .waiting graceEnd graceOver false → .wakeDrain ∈ c.2
  /-- Fewer changes are left. -/
  less : c.1.pool.remaining < s.pool.remaining

theorem winds_of_announce (hdrain : c.1.drain = s.drain) (hclosed : c.1.pool.closed = true)
    (hless : c.1.pool.remaining < s.pool.remaining) : Winds s (c.andThen announce) := by
  refine ⟨?_, fun graceEnd graceOver hasleep => ?_, ?_⟩
  · rw [Change.andThen_fst, announce_fst, hclosed, hdrain]
  · have hannounced : (announce c.1).2 = [.wakeDrain] := by
      rw [← hdrain] at hasleep
      simp [announce, hasleep, hclosed]
    rw [Change.andThen_snd, hannounced]
    exact List.mem_append_right _ List.mem_cons_self
  · rw [Change.andThen_fst, announce_fst]
    exact hless

/-- What `Unwinds` leaves the books of a closed pool alone (`Rests`), or brings the pool nearer to
its end (`Winds`). -/
theorem Unwinds.rests_or_winds (h : s.Unwinds event c) (hclosed : s.pool.closed = true)
    (hbalance : s.Balance 0) : Rests s c ∨ Winds s c := by
  -- whatever is taken up has a slot, which is given up
  have hslot : 1 ≤ s.pool.inUse → 1 ≤ s.pool.allocated := fun h => Nat.le_trans h hbalance.inUse_le
  have hremaining : s.pool.remaining = 2 * s.pool.allocated + s.pool.closing := rfl
  cases h with
  | nothing => exact .inl ⟨rfl, rfl, rfl⟩
  | reads hsent => exact .inl ⟨rfl, rfl, rfl⟩
  | drops hsent => exact .inl ⟨rfl, rfl, rfl⟩
  | exchanges lease conn => exact .inl ⟨rfl, rfl, rfl⟩
  | arrives hopening harrives =>
    have hpos := (hbalance.covers_opening hopening).allocated
    refine .inr (winds_of_announce rfl hclosed ?_)
    show 2 * (s.pool.allocated - 1) + (s.pool.closing + 1) < _
    dsimp only at hpos
    omega
  | fails notes hopening =>
    have hpos := (hbalance.covers_opening hopening).allocated
    refine .inr (winds_of_announce rfl hclosed ?_)
    show 2 * (s.pool.allocated - 1) + s.pool.closing < _
    dsimp only at hpos
    omega
  | returns notes hlease =>
    have hpos := hslot (hbalance.one_le_inUse_of_lease hlease)
    refine .inr (winds_of_announce rfl hclosed ?_)
    show 2 * (s.pool.allocated - 1) + (s.pool.closing + 1) < _
    omega
  | recalls notes hsent =>
    have hpos := hslot (hbalance.one_le_inUse_of_lookup hsent)
    refine .inr (winds_of_announce rfl hclosed ?_)
    show 2 * (s.pool.allocated - 1) + (s.pool.closing + 1) < _
    omega
  | detaches hlease =>
    have hpos := hslot (hbalance.one_le_inUse_of_lease hlease)
    refine .inr (winds_of_announce (c := (_, [])) rfl hclosed ?_)
    show 2 * (s.pool.allocated - 1) + s.pool.closing < _
    omega
  | closes hclosing =>
    have hpos := List.length_pos_of_mem (List.mem_of_find?_eq_some hclosing)
    have hcount := hbalance.closing
    refine .inr (winds_of_announce (c := (_, [])) rfl hclosed ?_)
    show 2 * s.pool.allocated + (s.pool.closing - 1) < _
    omega

/-- The numbers of the connections that are with callers or on their way to one. -/
def hands (s : Site) : List Nat := (s.leases ++ entriesOf s.inbox).map (·.info.id)

/-- A closed pool sends nothing. -/
theorem Unwinds.inbox (h : s.Unwinds event c) : c.1.inbox.Sublist s.inbox := by
  cases h with
  | nothing | exchanges => exact .refl _
  | reads | drops => exact List.eraseP_sublist
  | recalls => simpa using List.eraseP_sublist
  | arrives | fails | returns | detaches | closes => simp [endOpening, unlend]

theorem hands_subset (hleases : t.leases.Sublist s.leases) (hinbox : t.inbox.Sublist s.inbox) :
    t.hands ⊆ s.hands := by
  have hentries : (entriesOf t.inbox).Sublist (entriesOf s.inbox) := hinbox.filterMap _
  exact ((hleases.append hentries).map _).subset

/-- From a closed pool, nobody gets a connection that was not among the `hands` before. -/
theorem Unwinds.hands (h : s.Unwinds event c) : c.1.hands ⊆ s.hands := by
  have hinbox := h.inbox
  cases h with
  | nothing => exact fun _ => id
  | @reads m request e hsent =>
    -- the connection goes from the inbox into the hands of its caller
    have hnumbers := ((entriesOf_of_lookup_ok hsent).map (·.info.id)).symm
    show ((s.leases ++ [e.acquired]) ++ _).map _ ⊆ (s.leases ++ entriesOf s.inbox).map _
    simp only [List.map_append, List.append_assoc]
    exact (hnumbers.append_left _).subset
  | drops => exact hands_subset (.refl _) hinbox
  | exchanges lease conn =>
    have hkept : ∀ e : Entry, (if e.info.id = lease then { e with conn } else e).info.id =
        e.info.id := by
      intro e
      split <;> rfl
    simp [Site.hands, exchange, Function.comp_def, hkept]
  | returns | detaches =>
    refine hands_subset ?_ hinbox
    simpa [unlend] using List.eraseP_sublist
  | arrives | fails | recalls | closes =>
    refine hands_subset ?_ hinbox
    simp [endOpening]

/-- A closed pool closes what comes back to it from the `hands`, and what arrives. -/
theorem Unwinds.closesOf (h : s.Unwinds event c) :
    ∀ e ∈ Site.closesOf c.2, e.info.id ∈ s.hands ∨ e.info.id = s.pool.nextConnection := by
  intro closing hmem
  -- what a closed pool closes has just arrived, or comes out of somebody's hands
  cases h with
  | nothing | reads | drops | exchanges => cases hmem
  | arrives =>
    rw [Change.andThen_snd, closesOf_append, closesOf_announce, closesOf_startClosing,
      List.append_nil] at hmem
    rw [List.mem_singleton.1 hmem]
    exact .inr rfl
  | fails notes =>
    rw [Change.andThen_snd, closesOf_append, closesOf_announce, closesOf_notes] at hmem
    cases hmem
  | @returns m lease e notes hlease =>
    simp only [Change.andThen_snd, closesOf_append, closesOf_announce, closesOf_startClosing,
      closesOf_notes, List.append_nil, List.nil_append] at hmem
    have hheld : e ∈ s.leases ++ entriesOf s.inbox :=
      List.mem_append_left _ (List.mem_of_find?_eq_some hlease)
    rw [List.mem_singleton.1 hmem]
    exact .inl (List.mem_map.2 ⟨e, hheld, rfl⟩)
  | @recalls m request e notes hsent =>
    simp only [Change.andThen_snd, closesOf_append, closesOf_announce, closesOf_startClosing,
      closesOf_notes, List.append_nil, List.nil_append] at hmem
    have hheld : e ∈ s.leases ++ entriesOf s.inbox :=
      List.mem_append_right _ ((entriesOf_of_lookup_ok hsent).symm.subset List.mem_cons_self)
    rw [List.mem_singleton.1 hmem]
    exact .inl (List.mem_map.2 ⟨e, hheld, rfl⟩)
  | detaches | closes =>
    rw [closesOf_announce] at hmem
    cases hmem

/-- `Confined s c`: what a closed pool keeps to at every event. -/
structure Confined (s : Site) (c : Change) : Prop where
  /-- It stays closed. -/
  closed : c.1.pool.closed = true
  /-- Nothing is sent. -/
  inbox : c.1.inbox.Sublist s.inbox
  /-- Nobody gets what was not with a caller or on its way to one. -/
  hands : c.1.hands ⊆ s.hands
  /-- What is closed was among the `hands`, or has just arrived. -/
  closesOf : ∀ e ∈ Site.closesOf c.2, e.info.id ∈ s.hands ∨ e.info.id = s.pool.nextConnection

theorem confined_of_closed (h : Reachable config s) (hclosed : s.pool.closed = true)
    (event : Event) : Confined s (s.step config event) := by
  have hstays : (s.step config event).1.pool.closed = true := by
    rw [(step_frame config event s).closed, hclosed, Bool.true_or]
  cases hlook : event.isLook with
  | true =>
    obtain ⟨m, rfl⟩ := Event.eq_pollDrain hlook
    obtain ⟨drain, heq⟩ := pollDrain_fst config m s
    refine ⟨hstays, ?_, ?_, ?_⟩ <;> rw [step]
    · rw [heq]
    · rw [heq]
      exact fun _ => id
    · rw [closesOf_pollDrain]
      exact List.forall_mem_nil _
  | false =>
    have hunwinds : Unwinds s event (s.step config event) :=
      closed_step hclosed (justified_of_reachable h) hlook
    exact ⟨hstays, hunwinds.inbox, hunwinds.hands, hunwinds.closesOf⟩

/-! ## Pools that have ended -/

/-- `Ended s`: the pool has been shut down, no slot is taken and nothing is being closed. -/
structure Ended (s : Site) : Prop where
  /-- The pool has been shut down. -/
  closed : s.pool.closed = true
  /-- No slot is taken. -/
  allocated : s.pool.allocated = 0
  /-- Nothing is being closed. -/
  closing : s.pool.closing = 0

theorem lookWithoutGrace_quiet (graceOver : Bool) (s : Site) :
    ∀ effect ∈ (lookWithoutGrace graceOver s).2, effect.isCall = false := by
  unfold lookWithoutGrace
  split <;> simp [endDrain, Effect.isCall]

theorem endGrace_quiet (s : Site) : ∀ effect ∈ (endGrace s).2, effect.isCall = false := by
  rw [endGrace, Change.andThen_snd, List.forall_mem_append]
  exact ⟨by simp [Effect.isCall], lookWithoutGrace_quiet true s⟩

theorem look_quiet (m : Moment) (graceOver : Bool) (graceEnd : Option Instant) (s : Site) :
    ∀ effect ∈ (look m graceOver graceEnd s).2, effect.isCall = false := by
  unfold look
  split
  · exact lookWithoutGrace_quiet graceOver s
  · split
    · simp [endDrain, Effect.isCall]
    · split
      · exact endGrace_quiet s
      · simp [Effect.isCall]

/-- `pollDrain` asks nothing of the transport. -/
theorem pollDrain_quiet (config : Config) (m : Moment) (s : Site) :
    ∀ effect ∈ (pollDrain config m s).2, effect.isCall = false := by
  unfold pollDrain
  split
  · exact fun _ => nofun
  · exact look_quiet m false _ s
  · exact look_quiet m _ _ s
  · split
    · split
      · exact endGrace_quiet s
      · exact fun _ => nofun
    · exact fun _ => nofun

namespace Ended

/-- Nothing is left of a pool that has `Ended`. -/
theorem holdings (hs : s.Ended) (h : Reachable config s) : s.holdings = [] ∧ s.openings = [] := by
  have hidle := ((justified_of_reachable h).closed hs.closed).2
  obtain ⟨hallocated, hinUse, hclosing⟩ := balance_of_reachable h
  rw [hs.allocated] at hallocated
  rw [hs.closing] at hclosing
  have hopenings : s.openings = [] := List.eq_nil_of_length_eq_zero (by omega)
  have hleases : s.leases = [] := List.eq_nil_of_length_eq_zero (by omega)
  have hsent : entriesOf s.inbox = [] := List.eq_nil_of_length_eq_zero (by omega)
  have hclosings : s.closings = [] := List.eq_nil_of_length_eq_zero hclosing.symm
  refine ⟨?_, hopenings⟩
  rw [Site.holdings, hidle, hleases, hsent, hclosings]
  rfl

/-- A pool that has `Ended` stays so, whatever happens, and asks nothing of the transport. -/
theorem step (hs : s.Ended) (h : Reachable config s) (event : Event) :
    (s.step config event).1.Ended ∧ ∀ effect ∈ (s.step config event).2, effect.isCall = false := by
  by_cases hlook : event.isLook = true
  · obtain ⟨m, rfl⟩ := Event.eq_pollDrain hlook
    obtain ⟨drain, heq⟩ := pollDrain_fst config m s
    refine ⟨?_, pollDrain_quiet config m s⟩
    rw [Site.step, heq]
    exact ⟨hs.closed, hs.allocated, hs.closing⟩
  · rw [Bool.not_eq_true] at hlook
    have hunwinds : Unwinds s event (s.step config event) :=
      closed_step hs.closed (justified_of_reachable h) hlook
    rcases hunwinds.rests_or_winds hs.closed (balance_of_reachable h) with hrests | hwinds
    · rw [hrests.quiet]
      refine ⟨⟨?_, ?_, ?_⟩, List.forall_mem_nil _⟩ <;> rw [hrests.pool]
      exacts [hs.closed, hs.allocated, hs.closing]
    · -- no change of the counters is left
      have hless := hwinds.less
      rw [Pool.remaining, Pool.remaining, hs.allocated, hs.closing] at hless
      exact absurd hless (Nat.not_lt_zero _)

theorem run (hs : s.Ended) (h : Reachable config s) (events : List Event) :
    (s.run config events).Ended := by
  induction events generalizing s with
  | nil => exact hs
  | cons event events ih => exact ih (hs.step h event).1 (h.step event)

/-- Nobody gets a connection by `poll` from a pool that has `Ended`. -/
theorem poll_ne_ok (hs : s.Ended) (h : Reachable config s) (m : Moment) (request : Nat)
    (connection : Nat) : (s.poll config m request).1 ≠ some (.ok connection) := by
  obtain ⟨hholdings, -⟩ := hs.holdings h
  obtain ⟨e, hsent, -⟩ | ⟨error, -, heq⟩ | ⟨-, ⟨-, heq⟩ | ⟨r, -, ⟨-, heq⟩ | ⟨-, heq⟩⟩⟩ :=
    poll_cases config m request s
  · have hentry := (entriesOf_of_lookup_ok hsent).symm.subset List.mem_cons_self
    have hnone : entriesOf s.inbox = [] := by
      simp only [Site.holdings, List.append_eq_nil_iff, List.map_eq_nil_iff] at hholdings
      exact hholdings.1.2
    rw [hnone] at hentry
    cases hentry
  all_goals
    rw [heq]
    simp

end Ended

end Site

end ConnectionPool
