import ConnectionPool.Proofs.Site.Holdings

/-!
# What events take from the counters

The counters of a pool are natural numbers, and the books subtract from them without looking. For
each event, `Site.demand` is what it subtracts from each counter; `demand_le` says that this much is
always there, and `step_exact` that the counters after the event are then those that exact
arithmetic gives: what was there, less the demand, plus what the event adds.
-/

namespace ConnectionPool

/-- A `Demand`: amounts taken from the three counters of a pool. -/
structure Demand where
  /-- Slots given up. -/
  allocated : Nat
  /-- Connections that come out of use. -/
  inUse : Nat
  /-- Closes that end. -/
  closing : Nat

/-- Nothing is taken. -/
def Demand.none : Demand := ⟨0, 0, 0⟩

namespace Site

variable {config : Config} {s : Site}

/-- What `takeIn` takes from the counters: the connection comes out of use, and if there is a reason
to close it, its slot is given up. -/
def takeInDemand (config : Config) (m : Moment) (e : Entry) (s : Site) : Demand where
  allocated := if (s.pool.closeReason? config m e).isSome then 1 else 0
  inUse := 1
  closing := 0

/-- What an `Event` takes from the counters. -/
def demand (config : Config) (s : Site) : Event → Demand
  | .acquire m =>
    if s.pool.closed then .none
    else ⟨(Pool.select (·.isReusable config m) s.pool.idle).stale.length, 0, 0⟩
  | .opened opening _ _ =>
    if s.isOpening opening .caller && s.pool.closed then ⟨1, 0, 0⟩ else .none
  | .openingFailed opening _ | .abandon opening =>
    if s.isOpening opening .caller then ⟨1, 0, 0⟩ else .none
  | .openedForQueue opening _ _ _ =>
    if s.isOpening opening .queue && s.pool.closed then ⟨1, 0, 0⟩ else .none
  | .openingForQueueFailed opening _ _ =>
    if s.isOpening opening .queue then ⟨1, 0, 0⟩ else .none
  | .poll _ _ | .exchange _ _ | .pollDrain _ => .none
  | .cancel m request =>
    match s.pool.isQueued request, s.inbox.lookup request with
    | false, some (.ok e) => s.takeInDemand config m e
    | _, _ => .none
  | .release m lease =>
    match s.lease? lease with
    | some e => s.takeInDemand config m e
    | none => .none
  | .detach lease => if (s.lease? lease).isSome then ⟨1, 1, 0⟩ else .none
  | .sweep m => if s.pool.closed then .none else ⟨(s.pool.unusable config m).length, 0, 0⟩
  | .closeFinished connection =>
    if (s.closings.find? (·.info.id == connection)).isSome then ⟨0, 0, 1⟩ else .none
  | .shutDown => if s.pool.closed then .none else ⟨s.pool.idle.length, 0, 0⟩

/-- `Covers p d`: the counters of the pool are no less than what `d` takes from them. -/
structure Covers (p : Pool) (d : Demand) : Prop where
  /-- The slots are taken. -/
  allocated : d.allocated ≤ p.allocated
  /-- The connections are in use. -/
  inUse : d.inUse ≤ p.inUse
  /-- The closes are under way. -/
  closing : d.closing ≤ p.closing

namespace Balance

theorem covers_none (p : Pool) : Covers p .none := ⟨Nat.zero_le _, Nat.zero_le _, Nat.zero_le _⟩

/-- A demand that is made under a condition need only be covered under it. -/
theorem covers_ite {c : Bool} {d : Demand} {p : Pool} (h : c = true → Covers p d) :
    Covers p (if c then d else .none) := by
  by_cases hc : c = true
  · rw [if_pos hc]
    exact h hc
  · rw [if_neg hc]
    exact covers_none p

theorem inUse_le (h : s.Balance 0) : s.pool.inUse ≤ s.pool.allocated := by
  have := h.allocated
  omega

theorem covers_opening (h : s.Balance 0) {opening : Nat} {purpose : Purpose}
    (hopening : s.isOpening opening purpose = true) : Covers s.pool ⟨1, 0, 0⟩ := by
  have hmem : ⟨opening, purpose⟩ ∈ s.openings := by simpa [isOpening] using hopening
  have hpos := List.length_pos_of_mem hmem
  have hallocated := h.allocated
  exact ⟨show 1 ≤ s.pool.allocated by omega, Nat.zero_le _, Nat.zero_le _⟩

theorem covers_takeIn (h : s.Balance 0) (hinUse : 1 ≤ s.pool.inUse) (m : Moment) (e : Entry) :
    Covers s.pool (s.takeInDemand config m e) := by
  have hle := h.inUse_le
  refine ⟨?_, hinUse, Nat.zero_le _⟩
  show (if (s.pool.closeReason? config m e).isSome then 1 else 0) ≤ s.pool.allocated
  split <;> omega

theorem one_le_inUse_of_lease (h : s.Balance 0) {lease : Nat} {e : Entry}
    (hlease : s.lease? lease = some e) : 1 ≤ s.pool.inUse := by
  have hpos := List.length_pos_of_mem (List.mem_of_find?_eq_some hlease)
  have hinUse := h.inUse
  omega

theorem one_le_inUse_of_lookup (h : s.Balance 0) {request : Nat} {e : Entry}
    (hinbox : s.inbox.lookup request = some (.ok e)) : 1 ≤ s.pool.inUse := by
  have hlength := (entriesOf_of_lookup_ok hinbox).length_eq
  rw [List.length_cons] at hlength
  have hinUse := h.inUse
  omega

/-- Whatever an event takes from a counter is there: the pool `Covers` its `demand`. -/
theorem demand_le (h : s.Balance 0) (config : Config) (event : Event) :
    Covers s.pool (s.demand config event) := by
  have hallocated := h.allocated
  cases event with
  | acquire m =>
    -- what the search passes over was idle
    have hlength := Pool.length_select (·.isReusable config m) s.pool.idle
    rw [demand]
    split
    · exact covers_none _
    · exact ⟨by dsimp only; omega, Nat.zero_le _, Nat.zero_le _⟩
  | opened opening conn m =>
    exact covers_ite fun hclosed => h.covers_opening (Bool.and_eq_true_iff.1 hclosed).1
  | openingFailed opening failure => exact covers_ite h.covers_opening
  | abandon opening => exact covers_ite h.covers_opening
  | openedForQueue opening conn m created =>
    exact covers_ite fun hclosed => h.covers_opening (Bool.and_eq_true_iff.1 hclosed).1
  | openingForQueueFailed opening failure m => exact covers_ite h.covers_opening
  | poll m request => exact covers_none _
  | exchange lease conn => exact covers_none _
  | pollDrain m => exact covers_none _
  | cancel m request =>
    rw [demand]
    split
    next e _ hinbox => exact h.covers_takeIn (h.one_le_inUse_of_lookup hinbox) m e
    next => exact covers_none _
  | release m lease =>
    rw [demand]
    split
    next e hlease => exact h.covers_takeIn (h.one_le_inUse_of_lease hlease) m e
    next => exact covers_none _
  | detach lease =>
    refine covers_ite fun hsome => ?_
    obtain ⟨e, hlease⟩ := Option.isSome_iff_exists.1 hsome
    have hinUse := h.one_le_inUse_of_lease hlease
    exact ⟨Nat.le_trans hinUse h.inUse_le, hinUse, Nat.zero_le _⟩
  | sweep m =>
    -- what is swept was idle, and idle connections have slots
    have hlength := Pool.length_unusable config m s.pool
    rw [demand]
    split
    · exact covers_none _
    · exact ⟨by dsimp only; omega, Nat.zero_le _, Nat.zero_le _⟩
  | closeFinished connection =>
    refine covers_ite fun hsome => ?_
    obtain ⟨e, hfind⟩ := Option.isSome_iff_exists.1 hsome
    have hpos := List.length_pos_of_mem (List.mem_of_find?_eq_some hfind)
    have hclosing := h.closing
    exact ⟨Nat.zero_le _, Nat.zero_le _, show 1 ≤ s.pool.closing by omega⟩
  | shutDown =>
    rw [demand]
    split
    · exact covers_none _
    · exact ⟨by dsimp only; omega, Nat.zero_le _, Nat.zero_le _⟩

end Balance

/-- `Exact d s c`: the change takes `d` from the counters, adds the slots of the openings that it
begins, at most one connection to those in use, and the closes that it asks for. -/
def Exact (d : Demand) (s : Site) (c : Change) : Prop :=
  ∃ handed ≤ 1,
    c.1.pool.allocated + d.allocated = s.pool.allocated + (c.1.nextOpening - s.nextOpening) ∧
    c.1.pool.inUse + d.inUse = s.pool.inUse + handed ∧
    c.1.pool.closing + d.closing = s.pool.closing + (closesOf c.2).length

theorem Exact.refl (s : Site) : Exact .none s (s, []) :=
  ⟨0, Nat.zero_le 1, by simp [Demand.none], rfl, rfl⟩

/-- `handOff` puts the connection in use again, or parks it. -/
theorem handOff_counters (now : Instant) (e : Entry) (p : Pool) :
    ∃ handed ≤ 1, (p.handOff now e).pool.allocated = p.allocated ∧
      (p.handOff now e).pool.inUse = p.inUse + handed ∧
      (p.handOff now e).pool.closing = p.closing := by
  obtain ⟨-, heq⟩ | ⟨late, r, rest, -, -, -, heq⟩ := Pool.handOff_cases now e p <;> rw [heq]
  · exact ⟨0, Nat.zero_le 1, rfl, rfl, rfl⟩
  · exact ⟨1, Nat.le_refl 1, rfl, rfl, rfl⟩

/-- `takeIn` takes its `takeInDemand`. -/
theorem takeIn_exact (m : Moment) (e : Entry) (hinUse : 1 ≤ s.pool.inUse)
    (hallocated : 1 ≤ s.pool.allocated) :
    Exact (s.takeInDemand config m e) s (takeIn config m e s) := by
  have hreason : s.pool.takeBack.closeReason? config m e = s.pool.closeReason? config m e := rfl
  obtain ⟨reason, hsome, heq⟩ | ⟨hnone, heq⟩ := takeIn_cases config m e s
  -- the connection is closed: it comes out of use and gives up its slot
  · have hdemand : s.takeInDemand config m e = ⟨1, 1, 0⟩ := by
      rw [takeInDemand, ← hreason, hsome]
      rfl
    rw [hdemand, heq]
    refine ⟨0, Nat.zero_le 1, ?_, ?_, ?_⟩
    · simp only [Change.andThen_fst, slotFreed_fst, startClosing_fst, Pool.reserve, Pool.giveUp,
        Pool.takeBack]
      omega
    · simp only [Change.andThen_fst, slotFreed_fst, startClosing_fst, Pool.reserve, Pool.giveUp,
        Pool.takeBack]
      omega
    · simp [Pool.reserve, Pool.giveUp, Pool.takeBack]
  -- the connection is handed off, and keeps its slot
  · have hdemand : s.takeInDemand config m e = ⟨0, 1, 0⟩ := by
      rw [takeInDemand, ← hreason, hnone]
      rfl
    obtain ⟨handed, hhanded, hslots, hused, hcloses⟩ := handOff_counters m.now e s.pool.takeBack
    rw [hdemand, heq]
    refine ⟨handed, hhanded, ?_, ?_, ?_⟩
    · rw [Change.andThen_fst, announce_fst, handOff_fst, hslots]
      simp [Pool.takeBack]
    · rw [Change.andThen_fst, announce_fst, handOff_fst, hused]
      simp only [Pool.takeBack]
      omega
    · rw [Change.andThen_fst, announce_fst, handOff_fst, hcloses]
      simp [Pool.takeBack]

/-- `abandon` takes one slot. -/
theorem abandon_exact (config : Config) (h : s.Balance 0) (opening : Nat) :
    Exact (if s.isOpening opening .caller then ⟨1, 0, 0⟩ else .none) s
      (s.abandon config opening) := by
  obtain ⟨hopening, heq⟩ | ⟨hopening, heq⟩ := abandon_cases config opening s <;>
    rw [heq, hopening]
  · exact Exact.refl s
  · have hslot := (h.covers_opening hopening).allocated
    refine ⟨0, Nat.zero_le 1, ?_, ?_, ?_⟩
    · simp only [if_pos, slotFreed_fst, endOpening, Pool.reserve, Pool.freeSlot] at hslot ⊢
      omega
    · simp [endOpening, Pool.reserve, Pool.freeSlot]
    · simp [endOpening, Pool.reserve, Pool.freeSlot]

/-- `acquire` gives up what was stale, and hands over what was chosen. -/
theorem acquire_exact (h : s.Balance 0) (m : Moment) :
    Exact (s.demand config (.acquire m)) s (s.step config (.acquire m)) := by
  have hallocated := h.allocated
  have hlength := Pool.length_select (·.isReusable config m) s.pool.idle
  obtain ⟨hclosed, heq⟩ | ⟨hclosed, hopen⟩ := acquire_cases config m s
  · rw [demand, step, heq, hclosed]
    exact Exact.refl s
  · have hdemand : s.demand config (.acquire m) =
        ⟨(Pool.select (·.isReusable config m) s.pool.idle).stale.length, 0, 0⟩ := by
      rw [demand, hclosed]
      rfl
    rw [hdemand, step]
    -- handed over, being opened, queued or refused
    obtain ⟨e, -, heq⟩ | ⟨-, ⟨-, heq⟩ | ⟨-, -, -, heq⟩ | ⟨error, -, heq⟩⟩ := hopen <;> rw [heq]
    · refine ⟨1, Nat.le_refl 1, ?_, ?_, ?_⟩ <;>
        simp [searched, Pool.searched, Pool.giveUp, lend]
      omega
    · refine ⟨0, Nat.zero_le 1, ?_, ?_, ?_⟩ <;>
        simp [searched, Pool.searched, Pool.giveUp, beginOpening]
      omega
    · refine ⟨0, Nat.zero_le 1, ?_, ?_, ?_⟩ <;>
        simp [searched, Pool.searched, Pool.giveUp]
      omega
    · refine ⟨0, Nat.zero_le 1, ?_, ?_, ?_⟩ <;>
        simp [searched, Pool.searched, Pool.giveUp]
      omega

/-- `openingFailed` gives up the slot of the opening. -/
theorem openingFailed_exact (h : s.Balance 0) (opening : Nat) (failure : ConnectFailure) :
    Exact (s.demand config (.openingFailed opening failure)) s
      (s.step config (.openingFailed opening failure)) := by
  have hexact := abandon_exact config h opening
  have hcloses := (abandon_closings config opening s).2
  obtain ⟨handed, hhanded, hallocated, hinUse, hclosing⟩ := hexact
  refine ⟨handed, hhanded, ?_⟩
  rw [demand, step, openingFailed_snd_fst]
  refine ⟨hallocated, hinUse, ?_⟩
  have hquiet : closesOf (s.openingFailed config opening failure).2.2 = [] := by
    rw [openingFailed]
    split <;> simp [hcloses]
  rw [hcloses] at hclosing
  rw [hquiet]
  exact hclosing

/-- `openedForQueue` hands the connection over, unless the pool was shut down. -/
theorem openedForQueue_exact (h : s.Balance 0) (opening : Nat) (conn : Connection) (m : Moment)
    (created : Instant) :
    Exact (s.demand config (.openedForQueue opening conn m created)) s
      (s.step config (.openedForQueue opening conn m created)) := by
  obtain ⟨hopening, heq⟩ | ⟨hopening, ⟨hclosed, heq⟩ | ⟨hclosed, heq⟩⟩ :=
    openedForQueue_cases config opening conn m created s
  · rw [demand, step, heq, hopening]
    exact Exact.refl s
  -- the pool was shut down, and the connection is closed
  · have hslot := (h.covers_opening hopening).allocated
    rw [demand, step, heq, hopening, hclosed]
    refine ⟨0, Nat.zero_le 1, ?_, ?_, ?_⟩ <;> simp [endOpening, Pool.enlist, Pool.giveUp] at hslot ⊢
    omega
  · rw [demand, step, heq, hopening, hclosed]
    obtain ⟨handed, hhanded, hslots, hused, hcloses⟩ := handOff_counters m.now
      (s.pool.enlist conn created).1 (s.pool.enlist conn created).2
    refine ⟨handed, hhanded, ?_, ?_, ?_⟩
    · rw [Change.andThen_fst, announce_fst, Change.andThen_fst, handOff_fst, endOpening, hslots]
      simp [Pool.enlist, Demand.none]
    · rw [Change.andThen_fst, announce_fst, Change.andThen_fst, handOff_fst, endOpening, hused]
      simp [Pool.enlist, Demand.none]
    · rw [Change.andThen_fst, announce_fst, Change.andThen_fst, handOff_fst, endOpening, hcloses]
      simp [Pool.enlist, Demand.none]

/-- `openingForQueueFailed` gives up the slot of the opening, which may be used again. -/
theorem openingForQueueFailed_exact (h : s.Balance 0) (opening : Nat) (failure : ConnectFailure)
    (m : Moment) :
    Exact (s.demand config (.openingForQueueFailed opening failure m)) s
      (s.step config (.openingForQueueFailed opening failure m)) := by
  obtain ⟨hopening, heq⟩ | ⟨hopening, heq⟩ := openingForQueueFailed_cases config opening failure m s
  · rw [demand, step, heq, hopening]
    exact Exact.refl s
  -- one slot is free again, whoever is told
  · have hslot := (h.covers_opening hopening).allocated
    have hpool := Pool.failOldest_pool m.now s.pool.freeSlot
    rw [demand, step, heq, hopening]
    refine ⟨0, Nat.zero_le 1, ?_, ?_, ?_⟩
    · rw [Change.andThen_fst, slotFreed_fst, Change.andThen_fst, failOldest_fst]
      simp only [endOpening, Pool.reserve]
      rw [hpool]
      simp only [if_pos, Pool.freeSlot] at hslot ⊢
      omega
    · rw [Change.andThen_fst, slotFreed_fst, Change.andThen_fst, failOldest_fst]
      simp only [endOpening, Pool.reserve]
      rw [hpool]
      rfl
    · rw [Change.andThen_fst, slotFreed_fst, Change.andThen_fst, failOldest_fst]
      simp only [endOpening, Pool.reserve]
      rw [hpool]
      simp [Pool.freeSlot]

/-- `cancel` gives back what was sent to the request. -/
theorem cancel_exact (h : s.Balance 0) (m : Moment) (request : Nat) :
    Exact (s.demand config (.cancel m request)) s (s.step config (.cancel m request)) := by
  obtain ⟨hqueued, heq⟩ | ⟨hqueued, ⟨e, hinbox, heq⟩ | ⟨hinbox, heq⟩⟩ :=
    cancel_cases config m request s
  -- a request in the queue holds no connection
  · rw [demand, step, heq, hqueued]
    exact ⟨0, Nat.zero_le 1, by simp [Demand.none, Pool.dequeue], rfl, rfl⟩
  · rw [demand, step, heq, hqueued, hinbox]
    have hinUse := h.one_le_inUse_of_lookup hinbox
    exact takeIn_exact (s := { s with inbox := s.inbox.eraseP (·.1 == request) }) m e hinUse
      (Nat.le_trans hinUse h.inUse_le)
  -- an error that was sent is dropped
  · have hdemand : s.demand config (.cancel m request) = .none := by
      rw [demand]
      split
      next e _ hlookup => exact absurd hlookup (hinbox e)
      next => rfl
    rw [hdemand, step, heq]
    exact ⟨0, Nat.zero_le 1, by simp [Demand.none], rfl, rfl⟩

/-- Every `step` takes exactly the `demand` of its event. -/
theorem step_exact (h : s.Balance 0) (event : Event) :
    Exact (s.demand config event) s (s.step config event) := by
  have hallocated := h.allocated
  -- the demand of an event and what it does branch on the same conditions
  cases event with
  | acquire m => exact acquire_exact h m
  | opened opening conn m =>
    obtain ⟨hopening, heq⟩ | ⟨hopening, ⟨hclosed, heq⟩ | ⟨hclosed, heq⟩⟩ :=
      opened_cases opening conn m s
    · rw [demand, step, heq, hopening]
      exact Exact.refl s
    · have hslot := (h.covers_opening hopening).allocated
      rw [demand, step, heq, hopening, hclosed]
      refine ⟨0, Nat.zero_le 1, ?_, ?_, ?_⟩ <;>
        simp [endOpening, Pool.enlist, Pool.giveUp] at hslot ⊢
      omega
    · rw [demand, step, heq, hopening, hclosed]
      refine ⟨1, Nat.le_refl 1, ?_, ?_, ?_⟩ <;>
        simp [endOpening, Pool.enlist, lend, Demand.none]
  | openingFailed opening failure => exact openingFailed_exact h opening failure
  | abandon opening => exact abandon_exact config h opening
  | openedForQueue opening conn m created => exact openedForQueue_exact h opening conn m created
  | openingForQueueFailed opening failure m =>
    exact openingForQueueFailed_exact h opening failure m
  | poll m request =>
    obtain ⟨e, -, heq⟩ | ⟨error, -, heq⟩ | ⟨-, ⟨-, heq⟩ | ⟨r, -, ⟨-, heq⟩ | ⟨-, heq⟩⟩⟩ :=
      poll_cases config m request s <;> rw [step, heq] <;>
      exact ⟨0, Nat.zero_le 1, by simp [demand, Demand.none, lend, Pool.dequeue], rfl, rfl⟩
  | exchange lease conn => exact Exact.refl s
  | pollDrain m =>
    obtain ⟨drain, heq⟩ := pollDrain_fst config m s
    have hcloses := closesOf_pollDrain config m s
    refine ⟨0, Nat.zero_le 1, ?_⟩
    rw [step, heq, hcloses]
    exact ⟨by simp [demand, Demand.none], rfl, rfl⟩
  | cancel m request => exact cancel_exact h m request
  | release m lease =>
    obtain ⟨hlease, heq⟩ | ⟨e, hlease, heq⟩ := release_cases config m lease s
    · rw [demand, step, heq, hlease]
      exact Exact.refl s
    · rw [demand, step, heq, hlease]
      have hinUse := h.one_le_inUse_of_lease hlease
      exact takeIn_exact (s := s.unlend lease) m e hinUse (Nat.le_trans hinUse h.inUse_le)
  | detach lease =>
    obtain ⟨hlease, heq⟩ | ⟨e, hlease, heq⟩ := detach_cases config lease s
    · rw [demand, step, heq, hlease]
      exact Exact.refl s
    · have hinUse := h.one_le_inUse_of_lease hlease
      have hle := h.inUse_le
      rw [demand, step, heq, hlease]
      refine ⟨0, Nat.zero_le 1, ?_, ?_, ?_⟩ <;>
        simp [unlend, Pool.reserve, Pool.freeSlot, Pool.takeBack]
      · omega
      · omega
  | sweep m =>
    obtain ⟨hclosed, heq⟩ | ⟨hclosed, notes, hnotes, heq⟩ := sweep_cases config m s
    · rw [demand, step, heq, hclosed]
      exact Exact.refl s
    · have hlength := Pool.length_unusable config m s.pool
      have hquiet : closesOf notes = [] := by
        rcases hnotes with rfl | rfl <;> rfl
      rw [demand, step, heq, hclosed]
      refine ⟨0, Nat.zero_le 1, ?_, ?_, ?_⟩ <;>
        simp [Pool.reserve, Pool.sweep, Pool.giveUp, hquiet]
      omega
  | closeFinished connection =>
    obtain ⟨hfind, heq⟩ | ⟨e, hfind, heq⟩ := closeFinished_cases connection s
    · rw [demand, step, heq, hfind]
      exact Exact.refl s
    · have hclosing := (h.demand_le config (.closeFinished connection)).closing
      rw [demand, hfind] at hclosing
      rw [demand, step, heq, hfind]
      refine ⟨0, Nat.zero_le 1, ?_, ?_, ?_⟩ <;> simp at hclosing ⊢
      omega
  | shutDown =>
    obtain ⟨hclosed, heq⟩ | ⟨hclosed, heq⟩ := shutDown_cases s
    · rw [demand, step, heq, hclosed]
      exact Exact.refl s
    · rw [demand, step, heq, hclosed]
      refine ⟨0, Nat.zero_le 1, ?_, ?_, ?_⟩ <;> simp [Pool.shutDown, Pool.giveUp]
      omega

end Site

end ConnectionPool
