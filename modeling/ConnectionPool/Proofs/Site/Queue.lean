import ConnectionPool.Proofs.Site.Cases
import ConnectionPool.Proofs.Site.Run

/-!
# Why a request waits

A request is queued only where nothing else can be done for it, and every change that makes
something else possible acts on the queue at once. The books of a pool say so: as long as the queue
is not empty, the pool is open and may let callers wait, no connection is idle, and every slot is
taken.

Between giving a slot up and taking it again for the queue, one slot is free. `Pool.Justified`
therefore counts the slots that are free for the moment, and `Justified.reserve` takes them.

* `justified_of_reachable`: no request waits beside an idle connection or a free slot.
-/

namespace ConnectionPool

namespace Limit

variable {limit : Limit} {max current : Nat}

/-- The bound that `get` finds is positive. -/
theorem pos_of_get (h : limit.get = some max) : 0 < max := by
  cases limit with
  | unbounded => cases h
  | bounded bound positive =>
    obtain rfl : bound = max := Option.some.inj h
    exact positive

/-- `admits` allows what stays below the bound. -/
theorem admits_of_get (h : limit.get = some max) :
    limit.admits current = decide (current < max) := by
  cases limit with
  | unbounded => cases h
  | bounded bound positive =>
    obtain rfl : bound = max := Option.some.inj h
    rfl

/-- What is not admitted has reached the bound that `get` finds. -/
theorem get_of_not_admits (h : limit.admits current = false) :
    ∃ max, limit.get = some max ∧ max ≤ current := by
  cases limit with
  | unbounded => cases h
  | bounded bound positive => exact ⟨bound, rfl, by simpa [admits] using h⟩

/-- A limit with a bound is not `isUnbounded`. -/
theorem not_isUnbounded_of_get (h : limit.get = some max) : limit.isUnbounded = false := by
  cases limit with
  | unbounded => cases h
  | bounded bound positive => rfl

/-- `room` is for as many as are wanted and fit below the bound. -/
theorem room_of_get (h : limit.get = some max) (wanted : Nat) :
    limit.room current wanted = min wanted (max - current) := by
  cases limit with
  | unbounded => cases h
  | bounded bound positive =>
    obtain rfl : bound = max := Option.some.inj h
    rfl

end Limit

namespace Pool

/-- `Justified config free p`: the queue is justified but for `free` slots that were just given up.
Requests wait only while every other slot is taken and no connection is idle, and the bounds are
kept. -/
structure Justified (config : Config) (free : Nat) (p : Pool) : Prop where
  /-- The bound on connections is kept. -/
  slots : ∀ max, config.maxConnections.get = some max → p.allocated + free ≤ max
  /-- The bound on the queue is kept. -/
  queue : ∀ max, config.maxPending.get = some max → p.pending.length ≤ max
  /-- Requests wait only for a slot. -/
  waiting : p.pending ≠ [] → p.closed = false ∧ config.neverWaits = false ∧ p.idle = [] ∧
    config.maxConnections.get = some (p.allocated + free)
  /-- A pool that was shut down keeps nothing. -/
  closed : p.closed = true → p.pending = [] ∧ p.idle = []

/-- If `select` finds no connection usable, it keeps none. -/
theorem kept_eq_nil_of_chosen_none {usable : Entry → Bool} {idle : List Entry}
    (h : (select usable idle).chosen = none) : (select usable idle).kept = [] := by
  unfold select at h ⊢
  cases hrest : idle.reverse.dropWhile (!usable ·) with
  | nil => rfl
  | cons e older => simp [hrest] at h

/-- Where nobody waits, `openingsDue` is zero. -/
theorem openingsDue_of_pending_nil {config : Config} {p : Pool} (hp : p.pending = []) :
    p.openingsDue config = 0 := by
  have hroom := Limit.room_le config.maxConnections p.allocated p.pending.length
  rw [hp, List.length_nil] at hroom
  rw [openingsDue, hp, List.length_nil]
  split <;> omega

/-- Where `openingsDue` is zero, `reserve` takes no slot for the queue. -/
theorem reserve_of_openingsDue_zero {config : Config} {p : Pool} (h : p.openingsDue config = 0) :
    p.reserve config = p := by
  rw [reserve, h, Nat.add_zero]

namespace Justified

variable {config : Config} {free : Nat} {p q : Pool}

/-- Only four fields of the books matter for `Justified`. -/
theorem congr (h : p.Justified config free) (hidle : q.idle = p.idle)
    (hpending : q.pending = p.pending) (hallocated : q.allocated = p.allocated)
    (hclosed : q.closed = p.closed) : q.Justified config free := by
  refine ⟨?_, ?_, ?_, ?_⟩
  · rw [hallocated]; exact h.slots
  · rw [hpending]; exact h.queue
  · rw [hpending, hclosed, hidle, hallocated]; exact h.waiting
  · rw [hpending, hclosed, hidle]; exact h.closed

/-- Requests may leave the queue, from any place in it. -/
theorem of_sublist (h : p.Justified config free) (hsub : q.pending.Sublist p.pending)
    (hidle : q.idle = p.idle) (hallocated : q.allocated = p.allocated)
    (hclosed : q.closed = p.closed) : q.Justified config free := by
  -- a queue that is not empty was not empty before
  have hne : q.pending ≠ [] → p.pending ≠ [] := by
    rintro hq hp
    rw [hp] at hsub
    exact hq (List.eq_nil_of_sublist_nil hsub)
  refine ⟨?_, fun max hmax => Nat.le_trans hsub.length_le (h.queue max hmax), ?_, ?_⟩
  · rw [hallocated]; exact h.slots
  · rw [hclosed, hidle, hallocated]; exact fun hq => h.waiting (hne hq)
  · rw [hclosed, hidle]
    intro hc
    refine ⟨?_, (h.closed hc).2⟩
    by_contra hq
    exact hne hq (h.closed hc).1

/-- `freeSlot` leaves a slot that is free for the moment. -/
theorem freeSlot (h : p.Justified config 0) : p.freeSlot.Justified config 1 := by
  refine ⟨fun max hmax => ?_, h.queue, fun hp => ?_, h.closed⟩
  -- the bound is positive, so a slot was taken before
  · have hslots := h.slots max hmax
    have hpos := Limit.pos_of_get hmax
    simp only [Pool.freeSlot]
    omega
  · obtain ⟨hopen, hwaits, hidle, hmax⟩ := h.waiting hp
    have hpos := Limit.pos_of_get hmax
    refine ⟨hopen, hwaits, hidle, ?_⟩
    rw [hmax]
    simp only [Pool.freeSlot, Option.some.injEq]
    omega

/-- Where requests wait, `openingsDue` is exactly the number of free slots. -/
theorem openingsDue_eq (h : p.Justified config free) (hfree : free ≤ 1) (hp : p.pending ≠ []) :
    p.openingsDue config = free := by
  obtain ⟨hopen, -, -, hmax⟩ := h.waiting hp
  have hlen := List.length_pos_iff.2 hp
  rw [openingsDue, hopen, if_neg Bool.false_ne_true, Limit.room_of_get hmax]
  omega

/-- `reserve` takes free slots for the queue, and none beyond the bound. -/
theorem reserve (h : p.Justified config free) (hfree : free ≤ 1) :
    (p.reserve config).Justified config 0 := by
  refine ⟨fun max hmax => ?_, h.queue, fun hp => ?_, h.closed⟩
  · have hslots := h.slots max hmax
    by_cases hp : p.pending = []
    · simp only [Pool.reserve, openingsDue_of_pending_nil hp]; omega
    · simp only [Pool.reserve, h.openingsDue_eq hfree hp]; omega
  · have hwaiting := h.waiting hp
    simpa only [Pool.reserve, h.openingsDue_eq hfree hp, Nat.add_zero] using hwaiting

/-- Idle connections may be given up: none is idle while requests wait. -/
theorem giveUpIdle (h : p.Justified config 0) {kept : List Entry} {count : Nat}
    (hkept : p.idle = [] → kept = [] ∧ count = 0) :
    (Pool.giveUp count { p with idle := kept }).Justified config 0 := by
  refine ⟨fun max hmax => ?_, h.queue, fun hp => ?_, fun hc => ?_⟩
  · have := h.slots max hmax
    simp only [Pool.giveUp]
    omega
  -- where requests wait nothing is idle, so nothing is given up
  · obtain ⟨hopen, hwaits, hidle, hmax⟩ := h.waiting hp
    obtain ⟨hk, hcount⟩ := hkept hidle
    exact ⟨hopen, hwaits, hk, by simpa [Pool.giveUp, hcount] using hmax⟩
  · obtain ⟨hp, hidle⟩ := h.closed hc
    exact ⟨hp, (hkept hidle).1⟩

/-- A closed pool has no queue, so slots may be given up. -/
theorem giveUp (h : p.Justified config 0) (hclosed : p.closed = true) (count : Nat) :
    (p.giveUp count).Justified config 0 := by
  refine ⟨fun max hmax => ?_, h.queue, fun hp => absurd (h.closed hclosed).1 hp, h.closed⟩
  have := h.slots max hmax
  simp only [Pool.giveUp]
  omega

/-- `decideWithoutIdle` queues an acquisition only when no connection is idle and no slot
is free. -/
theorem decideWithoutIdle (h : p.Justified config 0) (hidle : p.idle = [])
    (hopen : p.closed = false) (now : Instant) :
    (p.decideWithoutIdle config now).2.Justified config 0 := by
  unfold Pool.decideWithoutIdle
  cases hadmits : config.maxConnections.admits p.allocated with
  | true =>
    -- a free slot means that nobody waits
    have hp : p.pending = [] := by
      by_contra hp
      obtain ⟨-, -, -, hmax⟩ := h.waiting hp
      rw [Limit.admits_of_get hmax] at hadmits
      simp at hadmits
    rw [if_pos rfl]
    refine ⟨fun max hmax => ?_, h.queue, fun hne => absurd hp hne, h.closed⟩
    rw [Limit.admits_of_get hmax] at hadmits
    exact of_decide_eq_true hadmits
  | false =>
    rw [if_neg Bool.false_ne_true]
    cases hwaits : config.neverWaits with
    | true => exact h
    | false =>
      rw [if_neg Bool.false_ne_true]
      cases hroom : config.maxPending.admits p.pending.length with
      | false => exact h
      | true =>
        -- what is not admitted has reached the bound, and the bound is kept, so every slot is taken
        obtain ⟨max, hmax, hfull⟩ := Limit.get_of_not_admits hadmits
        refine ⟨h.slots, fun bound hbound => ?_, fun _ => ⟨hopen, hwaits, hidle, ?_⟩, fun hc => ?_⟩
        · rw [Limit.admits_of_get hbound] at hroom
          have hlength : p.pending.length + 1 ≤ bound := of_decide_eq_true hroom
          simpa using hlength
        · rw [hmax]
          exact congrArg some (Nat.le_antisymm hfull (h.slots max hmax))
        · rw [hopen] at hc
          exact absurd hc Bool.false_ne_true

/-- Looking through the idle connections leaves the queue `Justified`. -/
theorem search (h : p.Justified config 0) (usable : Entry → Bool) :
    (Pool.giveUp (select usable p.idle).stale.length
      { p with idle := (select usable p.idle).kept }).Justified config 0 :=
  h.giveUpIdle fun hidle => by rw [hidle]; exact ⟨rfl, rfl⟩

/-- `decide` leaves the queue `Justified`. -/
theorem decide (h : p.Justified config 0) (hopen : p.closed = false) (m : Moment) :
    (p.decide config m).pool.Justified config 0 := by
  have hsearch := h.search (·.isReusable config m)
  cases hchosen : (select (·.isReusable config m) p.idle).chosen with
  | some e =>
    simp only [Pool.decide, hchosen]
    exact hsearch.congr rfl rfl rfl rfl
  | none =>
    simp only [Pool.decide, hchosen]
    exact hsearch.decideWithoutIdle (kept_eq_nil_of_chosen_none hchosen) hopen m.now

/-- `handOff` leaves the queue `Justified`: the connection is parked only where nobody in time
waits, and then nobody waits any more. -/
theorem handOff (h : p.Justified config free) (hopen : p.closed = false) (now : Instant)
    (e : Entry) : (p.handOff now e).pool.Justified config free := by
  obtain ⟨-, heq⟩ | ⟨late, r, rest, hpending, -, -, heq⟩ := handOff_cases now e p
  -- all who waited were late, so the queue is empty now
  · rw [heq]
    refine ⟨h.slots, fun max _ => Nat.zero_le max, fun hne => absurd rfl hne, fun hc => ?_⟩
    rw [hopen] at hc
    exact absurd hc Bool.false_ne_true
  -- the late requests and the recipient leave the queue
  · rw [heq]
    refine h.of_sublist ?_ rfl rfl rfl
    rw [hpending]
    exact (List.sublist_cons_self r rest).trans (List.sublist_append_right late _)

/-- `failOldest` leaves the queue `Justified`. -/
theorem failOldest (h : p.Justified config free) (now : Instant) :
    (p.failOldest now).pool.Justified config free := by
  obtain ⟨-, heq⟩ | ⟨late, r, rest, hpending, -, -, heq⟩ := failOldest_cases now p
  · rw [heq]
    exact h.of_sublist (List.nil_sublist _) rfl rfl rfl
  · rw [heq]
    refine h.of_sublist ?_ rfl rfl rfl
    rw [hpending]
    exact (List.sublist_cons_self r rest).trans (List.sublist_append_right late _)

/-- `dequeue` leaves the queue `Justified`. -/
theorem dequeue (h : p.Justified config free) (id : Nat) :
    (p.dequeue id).Justified config free :=
  h.of_sublist List.eraseP_sublist rfl rfl rfl

/-- `sweep` leaves the queue `Justified`. -/
theorem sweep (h : p.Justified config 0) (m : Moment) : (p.sweep config m).Justified config 0 :=
  h.giveUpIdle fun hidle => by rw [unusable, hidle]; exact ⟨rfl, rfl⟩

/-- `shutDown` empties the queue. -/
theorem shutDown (h : p.Justified config 0) : p.shutDown.Justified config 0 := by
  refine ⟨fun max hmax => ?_, fun max _ => Nat.zero_le max, fun hne => absurd rfl hne,
    fun _ => ⟨rfl, rfl⟩⟩
  have := h.slots max hmax
  simp only [Pool.shutDown, Pool.giveUp]
  omega

end Justified

end Pool

namespace Site

open Pool

variable {config : Config} {s : Site}

/-- `takeIn` leaves the queue `Justified`. -/
theorem takeIn_justified (h : s.pool.Justified config 0) (m : Moment) (e : Entry) :
    (takeIn config m e s).1.pool.Justified config 0 := by
  have hback : s.pool.takeBack.Justified config 0 := h.congr rfl rfl rfl rfl
  obtain ⟨reason, -, heq⟩ | ⟨hreason, heq⟩ := takeIn_cases config m e s
  -- a closed connection leaves a slot, which the queue takes at once
  · have hfree : (s.pool.takeBack.giveUp 1).Justified config 1 :=
      hback.freeSlot.congr rfl rfl rfl rfl
    simpa [heq] using hfree.reserve (Nat.le_refl 1)
  · have hopen := (closeReason?_eq_none_iff.1 hreason).1
    simpa [heq] using hback.handOff hopen m.now e

/-- `abandon` leaves the queue `Justified`. -/
theorem abandon_justified (h : s.pool.Justified config 0) (opening : Nat) :
    (s.abandon config opening).1.pool.Justified config 0 := by
  obtain ⟨-, heq⟩ | ⟨-, heq⟩ := abandon_cases config opening s
  · rw [heq]; exact h
  · simpa [heq, endOpening] using h.freeSlot.reserve (Nat.le_refl 1)

/-- Every `step` leaves the queue `Justified`. -/
theorem step_justified (h : s.pool.Justified config 0) (event : Event) :
    (s.step config event).1.pool.Justified config 0 := by
  -- where requests wait, the slots that an event frees are reserved again
  cases event with
  | acquire m =>
    cases hclosed : s.pool.closed with
    | true => simpa [step, acquire, hclosed] using h
    | false =>
      rw [step, acquire_pool config m hclosed]
      exact h.decide hclosed m
  | opened opening conn m =>
    -- numbering a connection does not touch the queue
    have hended : (s.pool.enlist conn m.now).2.Justified config 0 := h.congr rfl rfl rfl rfl
    obtain ⟨-, heq⟩ | ⟨-, ⟨hclosed, heq⟩ | ⟨-, heq⟩⟩ := opened_cases opening conn m s
    · simpa [step, heq] using h
    · simpa [step, heq, endOpening] using hended.giveUp hclosed 1
    · simp only [step, heq]
      exact h.congr rfl rfl rfl rfl
  | openingFailed opening failure =>
    simpa only [step, openingFailed_snd_fst] using abandon_justified h opening
  | abandon opening => exact abandon_justified h opening
  | openedForQueue opening conn m created =>
    have hended : (s.pool.enlist conn created).2.Justified config 0 := h.congr rfl rfl rfl rfl
    obtain ⟨-, heq⟩ | ⟨-, ⟨hclosed, heq⟩ | ⟨hopen, heq⟩⟩ :=
      openedForQueue_cases config opening conn m created s
    · simpa [step, heq] using h
    · simpa [step, heq, endOpening] using hended.giveUp hclosed 1
    · simpa [step, heq, endOpening] using hended.handOff hopen m.now _
  | openingForQueueFailed opening failure m =>
    obtain ⟨-, heq⟩ | ⟨-, heq⟩ := openingForQueueFailed_cases config opening failure m s
    · simpa [step, heq] using h
    · simpa [step, heq, endOpening] using
        (h.freeSlot.failOldest m.now).reserve (Nat.le_refl 1)
  | poll m request =>
    obtain ⟨e, -, heq⟩ | ⟨error, -, heq⟩ | ⟨-, ⟨-, heq⟩ | ⟨r, -, ⟨-, heq⟩ | ⟨-, heq⟩⟩⟩ :=
      poll_cases config m request s
    · simpa [step, heq, lend] using h
    · simpa [step, heq] using h
    · simpa [step, heq] using h
    · simpa [step, heq] using h.dequeue request
    · simpa [step, heq] using h
  | cancel m request =>
    obtain ⟨-, heq⟩ | ⟨-, ⟨e, -, heq⟩ | ⟨-, heq⟩⟩ := cancel_cases config m request s
    · simpa [step, heq] using h.dequeue request
    · rw [step, heq]
      refine takeIn_justified ?_ m e
      exact h
    · simpa [step, heq] using h
  | release m lease =>
    obtain ⟨-, heq⟩ | ⟨e, -, heq⟩ := release_cases config m lease s
    · simpa [step, heq] using h
    · rw [step, heq, Change.andThen_fst]
      refine takeIn_justified ?_ m e
      exact h
  | detach lease =>
    obtain ⟨-, heq⟩ | ⟨e, -, heq⟩ := detach_cases config lease s
    · simpa [step, heq] using h
    · have hback : s.pool.takeBack.Justified config 0 := h.congr rfl rfl rfl rfl
      simpa [step, heq] using hback.freeSlot.reserve (Nat.le_refl 1)
  | exchange lease conn => exact h
  | sweep m =>
    obtain ⟨-, heq⟩ | ⟨-, notes, -, heq⟩ := sweep_cases config m s
    · simpa [step, heq] using h
    · simpa [step, heq] using (h.sweep m).reserve (Nat.zero_le 1)
  | closeFinished connection =>
    obtain ⟨-, heq⟩ | ⟨e, -, heq⟩ := closeFinished_cases connection s
    · simpa [step, heq] using h
    · simp only [step, heq, announce_fst]
      exact h.congr rfl rfl rfl rfl
  | shutDown =>
    obtain ⟨-, heq⟩ | ⟨-, heq⟩ := shutDown_cases s
    · simpa [step, heq] using h
    · simpa [step, heq] using h.shutDown
  | pollDrain m =>
    obtain ⟨drain, heq⟩ := pollDrain_fst config m s
    simpa [step, heq] using h

/-- In every `Reachable` site the queue is `Justified`. -/
theorem justified_of_reachable (h : Reachable config s) : s.pool.Justified config 0 := by
  refine h.invariant (motive := fun s => s.pool.Justified config 0) (fun destination => ?_)
    fun s event hs => step_justified hs event
  -- a new pool is empty
  refine ⟨fun max _ => Nat.zero_le max, fun max _ => Nat.zero_le max, fun hne => absurd rfl hne,
    fun _ => ⟨rfl, rfl⟩⟩

end Site

end ConnectionPool
