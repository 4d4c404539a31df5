import ConnectionPool.Proofs.Site.Cases
import ConnectionPool.Proofs.Site.Run

/-!
# The counters of a pool

A pool counts the slots taken, the connections in use and the connections being closed, while the
site lists what is idle, lent, delivered, being opened and being closed. `Balance` says that the
counters are right. A change takes things apart and puts them together again, and in between a slot
may belong to a connection that is nowhere; `Balance` therefore counts the slots `inTransit`, and
each part of a change moves that number by what it takes up or puts down.

* `takeIn_balance`, `acquire_balance`: the two changes that move connections about.
* `balance_of_reachable`: between two changes every counter is right and nothing is in transit.
-/

namespace ConnectionPool

namespace Site

/-- The connections among deliveries. -/
def entriesOf (deliveries : List (Nat × Delivery)) : List Entry :=
  deliveries.filterMap fun delivery => delivery.2.toOption

/-- `Balance inTransit s`: the counters of the pool agree with what the site lists, except for
`inTransit` slots whose connection is on its way from one place to another. -/
structure Balance (inTransit : Nat) (s : Site) : Prop where
  /-- A slot belongs to an idle connection, to one in use or to one being opened. -/
  allocated : s.pool.allocated =
    s.pool.idle.length + s.pool.inUse + s.openings.length + inTransit
  /-- A connection in use is with a caller or on its way to one. -/
  inUse : s.pool.inUse = s.leases.length + (entriesOf s.inbox).length
  /-- A connection being closed is listed. -/
  closing : s.pool.closing = s.closings.length

variable {config : Config} {inTransit : Nat} {s : Site}

/-- `entriesOf` two lists of deliveries is found part by part. -/
theorem entriesOf_append (first second : List (Nat × Delivery)) :
    entriesOf (first ++ second) = entriesOf first ++ entriesOf second :=
  List.filterMap_append

/-- Only the recipient is sent a connection. -/
theorem entriesOf_deliveries_ok (timeout : Duration) (e : Entry) (service : Pool.Service) :
    entriesOf (service.deliveries timeout (.ok e)) = service.recipient.toList.map fun _ => e := by
  unfold entriesOf Pool.Service.deliveries
  rw [List.filterMap_append, List.filterMap_map, List.filterMap_map]
  simp [Function.comp_def, Except.toOption]

/-- With an error, nobody is sent a connection. -/
theorem entriesOf_deliveries_error (timeout : Duration) (error : PoolError)
    (service : Pool.Service) : entriesOf (service.deliveries timeout (.error error)) = [] := by
  unfold entriesOf Pool.Service.deliveries
  rw [List.filterMap_append, List.filterMap_map, List.filterMap_map]
  simp [Function.comp_def, Except.toOption]

/-- A connection that is taken out of an inbox was sent to it. -/
theorem entriesOf_of_lookup_ok {inbox : List (Nat × Delivery)} {request : Nat} {e : Entry}
    (h : inbox.lookup request = some (.ok e)) :
    (entriesOf inbox).Perm (e :: entriesOf (inbox.eraseP (·.1 == request))) :=
  (perm_cons_eraseP_of_lookup h).filterMap _

/-- Where no connection is taken out of an inbox, all stay sent. -/
theorem entriesOf_of_lookup_ne_ok {inbox : List (Nat × Delivery)} {request : Nat}
    (h : ∀ e, inbox.lookup request ≠ some (.ok e)) :
    (entriesOf (inbox.eraseP (·.1 == request))).Perm (entriesOf inbox) := by
  cases hlookup : inbox.lookup request with
  | none => rw [eraseP_of_lookup_none hlookup]
  | some delivery =>
    cases delivery with
    | ok e => exact absurd hlookup (h e)
    | error error =>
      exact ((perm_cons_eraseP_of_lookup hlookup).filterMap fun d => d.2.toOption).symm

@[simp]
theorem length_queueOpenings (first count : Nat) : (queueOpenings first count).length = count := by
  simp [queueOpenings]

namespace Balance

/-- `announce` changes no counter. -/
theorem announce (h : s.Balance inTransit) : (announce s).1.Balance inTransit := by
  rw [announce_fst]
  exact ⟨h.allocated, h.inUse, h.closing⟩

/-- `slotFreed` takes slots for the openings that it begins. -/
theorem slotFreed (h : s.Balance inTransit) : (slotFreed config s).1.Balance inTransit := by
  rw [slotFreed_fst]
  -- each slot reserved is a new opening
  refine ⟨?_, h.inUse, h.closing⟩
  have := h.allocated
  simp only [Pool.reserve, List.length_append, length_queueOpenings]
  omega

/-- `handOff` parks a connection in transit, or sends it to a request. -/
theorem handOff (h : s.Balance 1) (now : Instant) (e : Entry) :
    (handOff config now e s).1.Balance 0 := by
  have hallocated := h.allocated
  have hinUse := h.inUse
  rw [handOff_fst]
  obtain ⟨-, heq⟩ | ⟨late, r, rest, -, -, -, heq⟩ := Pool.handOff_cases now e s.pool
  -- nobody in time waits, and the connection is parked
  · refine ⟨?_, ?_, by rw [heq]; exact h.closing⟩
    · simp only [heq, List.length_append, List.length_singleton]
      omega
    · rw [entriesOf_append, entriesOf_deliveries_ok, heq]
      simpa using hinUse
  -- the connection is sent, so it is in use and in the inbox
  · refine ⟨?_, ?_, by rw [heq]; exact h.closing⟩
    · simp only [heq]
      omega
    · rw [entriesOf_append, entriesOf_deliveries_ok, heq]
      simp only [Option.toList, List.map_cons, List.map_nil, List.length_append,
        List.length_singleton]
      omega

/-- `failOldest` changes no counter. -/
theorem failOldest (h : s.Balance inTransit) (now : Instant) (error : PoolError) :
    (failOldest config now error s).1.Balance inTransit := by
  rw [failOldest_fst]
  have hpool := Pool.failOldest_pool now s.pool
  refine ⟨by rw [hpool]; exact h.allocated, ?_, by rw [hpool]; exact h.closing⟩
  rw [entriesOf_append, entriesOf_deliveries_error, List.append_nil, hpool]
  exact h.inUse

/-- A connection in transit is given up. -/
theorem giveUp (h : s.Balance 1) (e : Entry) :
    (startClosing [e] { s with pool := s.pool.giveUp 1 }).1.Balance 0 := by
  have hallocated := h.allocated
  have hclosing := h.closing
  rw [startClosing_fst]
  refine ⟨?_, h.inUse, ?_⟩
  · simp only [Pool.giveUp]
    omega
  · simp only [Pool.giveUp, List.length_append, List.length_map, List.length_singleton]
    omega

/-- `freeSlot` gives a slot in transit back. -/
theorem freeSlot (h : s.Balance 1) : Balance 0 { s with pool := s.pool.freeSlot } := by
  have hallocated := h.allocated
  refine ⟨?_, h.inUse, h.closing⟩
  simp only [Pool.freeSlot]
  omega

/-- A connection that is `unlend`ed is in transit. -/
theorem unlend (h : s.Balance 0) {lease : Nat} {e : Entry} (hlease : s.lease? lease = some e) :
    Balance 1 { s.unlend lease with pool := s.pool.takeBack } := by
  have hallocated := h.allocated
  have hinUse := h.inUse
  have hlength := (perm_cons_eraseP_of_find? hlease).length_eq
  rw [List.length_cons] at hlength
  refine ⟨?_, ?_, h.closing⟩
  · simp only [Site.unlend, Pool.takeBack]
    omega
  · change s.pool.inUse - 1 =
      (s.leases.eraseP (·.info.id == lease)).length + (entriesOf s.inbox).length
    omega

/-- A connection taken out of an inbox is in transit. -/
theorem unsend (h : s.Balance 0) {request : Nat} {e : Entry}
    (hinbox : s.inbox.lookup request = some (.ok e)) :
    Balance 1 { s with
      inbox := s.inbox.eraseP (·.1 == request), pool := s.pool.takeBack } := by
  have hallocated := h.allocated
  have hinUse := h.inUse
  have hlength := (entriesOf_of_lookup_ok hinbox).length_eq
  rw [List.length_cons] at hlength
  refine ⟨?_, ?_, h.closing⟩
  · simp only [Pool.takeBack]
    omega
  · simp only [Pool.takeBack]
    omega

/-- An inbox from which no connection is taken changes no counter. -/
theorem discard (h : s.Balance 0) {request : Nat}
    (hinbox : ∀ e, s.inbox.lookup request ≠ some (.ok e)) :
    Balance 0 { s with inbox := s.inbox.eraseP (·.1 == request) } := by
  refine ⟨h.allocated, ?_, h.closing⟩
  rw [(entriesOf_of_lookup_ne_ok hinbox).length_eq]
  exact h.inUse

/-- Idle connections that are given up are being closed. -/
theorem giveUpIdle (h : s.Balance inTransit) (kept stale : List Entry) (found : Nat)
    (hidle : s.pool.idle.length = kept.length + found + stale.length) :
    (startClosing stale
      { s with pool := Pool.giveUp stale.length { s.pool with idle := kept } }).1.Balance
      (inTransit + found) := by
  have hallocated := h.allocated
  have hclosing := h.closing
  rw [startClosing_fst]
  refine ⟨?_, h.inUse, ?_⟩
  · simp only [Pool.giveUp]
    omega
  · simp only [Pool.giveUp, List.length_append, List.length_map]
    omega

/-- `beginOpening` with a slot that was just taken keeps the `Balance`. -/
theorem beginOpening (h : s.Balance inTransit) (purpose : Purpose) :
    (beginOpening purpose
      { s with pool := { s.pool with allocated := s.pool.allocated + 1 } }).Balance inTransit := by
  have hallocated := h.allocated
  refine ⟨?_, h.inUse, h.closing⟩
  simp only [Site.beginOpening, List.length_append, List.length_singleton]
  omega

/-- `lend` puts a connection in transit into the hands of a caller. -/
theorem lend (h : s.Balance 1) (e : Entry) :
    Balance 0 (lend e { s with pool := { s.pool with inUse := s.pool.inUse + 1 } }) := by
  have hallocated := h.allocated
  have hinUse := h.inUse
  refine ⟨?_, ?_, h.closing⟩
  · simp only [Site.lend]
    omega
  · simp only [Site.lend, List.length_append, List.length_singleton]
    omega

/-- `endOpening` leaves the slot in transit. -/
theorem endOpening (h : s.Balance 0) {opening : Nat} {purpose : Purpose}
    (hopening : s.isOpening opening purpose = true) : (endOpening opening s).Balance 1 := by
  have hallocated := h.allocated
  have hmem : ⟨opening, purpose⟩ ∈ s.openings := by simpa [isOpening] using hopening
  have hlength := List.length_eraseP_of_mem (p := fun o : Opening => o.id == opening) hmem (by simp)
  have hpos := List.length_pos_of_mem hmem
  refine ⟨?_, h.inUse, h.closing⟩
  simp only [Site.endOpening]
  omega

/-- `enlist` gives a connection a number, and counts nothing. -/
theorem enlist (h : s.Balance inTransit) (conn : Connection) (now : Instant) :
    Balance inTransit { s with pool := (s.pool.enlist conn now).2 } :=
  ⟨h.allocated, h.inUse, h.closing⟩

end Balance

/-- `takeIn` puts a connection in transit away. -/
theorem takeIn_balance {m : Moment} {e : Entry}
    (h : Balance 1 { s with pool := s.pool.takeBack }) : (takeIn config m e s).1.Balance 0 := by
  obtain ⟨reason, -, heq⟩ | ⟨-, heq⟩ := takeIn_cases config m e s
  · rw [heq, Change.andThen_fst, Change.andThen_fst]
    exact (h.giveUp e).slotFreed
  · rw [heq, Change.andThen_fst]
    exact (h.handOff m.now e).announce

/-- `abandon` keeps the `Balance`. -/
theorem abandon_balance (h : s.Balance 0) (opening : Nat) :
    (s.abandon config opening).1.Balance 0 := by
  obtain ⟨-, heq⟩ | ⟨hopening, heq⟩ := abandon_cases config opening s
  · rw [heq]; exact h
  · rw [heq]
    exact (h.endOpening hopening).freeSlot.slotFreed

/-- `acquire` keeps the `Balance`: what is chosen, kept and stale makes up what was idle. -/
theorem acquire_balance (h : s.Balance 0) (m : Moment) : (s.acquire config m).2.1.Balance 0 := by
  have hlength := Pool.length_select (·.isReusable config m) s.pool.idle
  -- the search puts in transit what it finds
  have hsearched : ∀ found : Option Entry,
      (Pool.select (·.isReusable config m) s.pool.idle).chosen = found →
        (s.searched config m).1.Balance (0 + found.toList.length) := by
    rintro found rfl
    exact h.giveUpIdle _ _ _ hlength
  obtain ⟨-, heq⟩ | ⟨-, ⟨e, hchosen, heq⟩ | ⟨hchosen, hnone⟩⟩ := acquire_cases config m s
  · rw [heq]; exact h
  · rw [heq, Change.andThen_fst]
    exact (hsearched _ hchosen).lend e
  · have hbalance := hsearched none hchosen
    obtain ⟨-, heq⟩ | ⟨-, -, -, heq⟩ | ⟨error, -, heq⟩ := hnone
    · rw [heq, Change.andThen_fst]
      exact hbalance.beginOpening .caller
    · rw [heq, Change.andThen_fst]
      exact ⟨hbalance.allocated, hbalance.inUse, hbalance.closing⟩
    · rw [heq]
      exact hbalance

/-- Every `step` keeps the `Balance`. -/
theorem step_balance (h : s.Balance 0) (event : Event) : (s.step config event).1.Balance 0 := by
  -- each change takes something up, which puts a slot in transit, and puts it down again
  cases event with
  | acquire m => exact acquire_balance h m
  | opened opening conn m =>
    obtain ⟨-, heq⟩ | ⟨hopening, ⟨-, heq⟩ | ⟨-, heq⟩⟩ := opened_cases opening conn m s
    · rw [step, heq]; exact h
    · rw [step, heq, Change.andThen_fst]
      have hended := (h.enlist conn m.now).endOpening hopening
      exact (hended.giveUp _).announce
    · rw [step, heq]
      have hended := (h.enlist conn m.now).endOpening hopening
      exact hended.lend _
  | openingFailed opening failure =>
    simpa only [step, openingFailed_snd_fst] using abandon_balance h opening
  | abandon opening => exact abandon_balance h opening
  | openedForQueue opening conn m created =>
    obtain ⟨-, heq⟩ | ⟨hopening, ⟨-, heq⟩ | ⟨-, heq⟩⟩ :=
      openedForQueue_cases config opening conn m created s
    · rw [step, heq]; exact h
    · rw [step, heq, Change.andThen_fst]
      have hended := (h.enlist conn created).endOpening hopening
      exact (hended.giveUp _).announce
    · rw [step, heq, Change.andThen_fst, Change.andThen_fst]
      have hended := (h.enlist conn created).endOpening hopening
      exact (hended.handOff m.now _).announce
  | openingForQueueFailed opening failure m =>
    obtain ⟨-, heq⟩ | ⟨hopening, heq⟩ := openingForQueueFailed_cases config opening failure m s
    · rw [step, heq]; exact h
    · rw [step, heq, Change.andThen_fst, Change.andThen_fst]
      exact ((h.endOpening hopening).freeSlot.failOldest m.now _).slotFreed
  | poll m request =>
    obtain ⟨e, hinbox, heq⟩ | ⟨error, hinbox, heq⟩ | ⟨-, ⟨-, heq⟩ | ⟨r, -, ⟨-, heq⟩ | ⟨-, heq⟩⟩⟩ :=
      poll_cases config m request s
    -- the connection goes from the inbox to the leases, and stays in use
    · have hinUse := h.inUse
      have hlength := (entriesOf_of_lookup_ok hinbox).length_eq
      rw [List.length_cons] at hlength
      rw [step, heq]
      refine ⟨h.allocated, ?_, h.closing⟩
      simp only [lend, List.length_append, List.length_singleton]
      omega
    · rw [step, heq]
      exact h.discard fun e => by simp [hinbox]
    · rw [step, heq]; exact h
    · rw [step, heq]
      exact ⟨h.allocated, h.inUse, h.closing⟩
    · rw [step, heq]; exact h
  | cancel m request =>
    obtain ⟨-, heq⟩ | ⟨-, ⟨e, hinbox, heq⟩ | ⟨hinbox, heq⟩⟩ := cancel_cases config m request s
    · rw [step, heq]
      exact ⟨h.allocated, h.inUse, h.closing⟩
    · rw [step, heq]
      exact takeIn_balance (h.unsend hinbox)
    · rw [step, heq]
      exact h.discard hinbox
  | release m lease =>
    obtain ⟨-, heq⟩ | ⟨e, hlease, heq⟩ := release_cases config m lease s
    · rw [step, heq]; exact h
    · rw [step, heq, Change.andThen_fst]
      exact takeIn_balance (h.unlend hlease)
  | detach lease =>
    obtain ⟨-, heq⟩ | ⟨e, hlease, heq⟩ := detach_cases config lease s
    · rw [step, heq]; exact h
    · rw [step, heq]
      exact (h.unlend hlease).freeSlot.slotFreed
  | exchange lease conn =>
    refine ⟨h.allocated, ?_, h.closing⟩
    simpa [step, exchange] using h.inUse
  | sweep m =>
    obtain ⟨-, heq⟩ | ⟨-, notes, -, heq⟩ := sweep_cases config m s
    · rw [step, heq]; exact h
    -- what is swept was idle, and the slots due to the queue are taken again
    · have hswept := h.giveUpIdle _ _ 0 (Pool.length_unusable config m s.pool)
      have hallocated := hswept.allocated
      rw [step, heq]
      simp only [Change.andThen_fst, openForQueue_fst]
      refine ⟨?_, hswept.inUse, hswept.closing⟩
      simp only [startClosing_fst] at hallocated
      simp only [startClosing_fst, Pool.reserve, Pool.sweep, List.length_append,
        length_queueOpenings]
      omega
  | closeFinished connection =>
    obtain ⟨-, heq⟩ | ⟨e, hfind, heq⟩ := closeFinished_cases connection s
    · rw [step, heq]; exact h
    · rw [step, heq]
      refine Balance.announce ⟨h.allocated, h.inUse, ?_⟩
      have hclosing := h.closing
      have hlength := (perm_cons_eraseP_of_find? hfind).length_eq
      rw [List.length_cons] at hlength
      dsimp only
      omega
  | shutDown =>
    obtain ⟨-, heq⟩ | ⟨-, heq⟩ := shutDown_cases s
    · rw [step, heq]; exact h
    -- requests are sent errors, so no connection enters an inbox
    · have hclosed := h.giveUpIdle [] s.pool.idle 0 (by simp)
      rw [step, heq]
      refine ⟨hclosed.allocated, ?_, hclosed.closing⟩
      simpa [Pool.shutDown, Pool.giveUp, entriesOf_append, entriesOf, Function.comp_def,
        Except.toOption] using h.inUse
  | pollDrain m =>
    obtain ⟨drain, heq⟩ := pollDrain_fst config m s
    rw [step, heq]
    exact ⟨h.allocated, h.inUse, h.closing⟩

/-- Every `Reachable` site has `Balance 0`: its counters are right. -/
theorem balance_of_reachable (h : Reachable config s) : s.Balance 0 :=
  h.invariant (motive := Balance 0) (fun _ => ⟨rfl, rfl, rfl⟩)
    fun _ event hs => step_balance hs event

end Site

end ConnectionPool
