import ConnectionPool.Proofs.Site.Queue
import ConnectionPool.Proofs.Site.Waiting

/-!
# Refusals

An open pool turns an acquisition away for one of two reasons: every slot is taken and callers do
not wait, or every slot is taken and the queue is full. The answer is found only after the search
for an idle connection, and what the search passes over gives its slot up. It may seem that an
acquisition could lose connections to the pool and then be refused all the same.

That does not happen in a reachable site. The bound on connections is kept, so as soon as one slot
is given up the bound is not reached any more, and the acquisition gets the slot. A refusal
therefore means that the search had nothing to look at.

## Main definitions

* `PoolError.isRefusal`: the two reasons.
* `Site.ExactRefusals`: when each of them is given, and that nothing else happens then.

## Main results

* `acquire_error_iff`: what an open pool answers with an error, as one equivalence.
* `refusals_are_exact`: in every reachable site refusals are exact.
-/

namespace ConnectionPool

/-- `Config.oneSlot` with room for one acquisition in the queue. -/
def Config.oneSlotOneWaiter : Config := { Config.oneSlot with maxPending := .bounded 1 Nat.one_pos }

/-- `poolExhausted` and `tooManyPending` turn an acquisition away for want of a slot or of a place
in the queue. -/
def PoolError.isRefusal : PoolError → Bool
  | .poolExhausted _ | .tooManyPending _ => true
  | _ => false

namespace Pool

variable {config : Config} {p : Pool}

/-- `IsFull config p`: every slot is taken and none of them by an idle connection. -/
def IsFull (config : Config) (p : Pool) : Prop :=
  p.idle = [] ∧ config.maxConnections.get = some p.allocated

/-- Where nothing is idle, a search leaves the books as they are. -/
theorem searched_of_idle_nil (config : Config) (m : Moment) (hidle : p.idle = []) :
    p.searched config m = p := by
  obtain ⟨idle, _, _, _, _, _, _, _⟩ := p
  subst hidle
  rfl

/-- `select` chooses nothing and leaves no slot free only if the pool `IsFull` before: whatever is
stale leaves its slot free. -/
theorem Justified.isFull_iff (h : p.Justified config 0) (m : Moment) :
    ((select (·.isReusable config m) p.idle).chosen = none ∧
      config.maxConnections.admits (p.searched config m).allocated = false) ↔ p.IsFull config := by
  constructor
  · rintro ⟨hchosen, hadmits⟩
    obtain ⟨max, hmax, hreached⟩ := Limit.get_of_not_admits hadmits
    have hreached : max ≤ p.allocated - (select (·.isReusable config m) p.idle).stale.length :=
      hreached
    have hkept := h.slots max hmax
    have hpositive := Limit.pos_of_get hmax
    have hlength := length_select (·.isReusable config m) p.idle
    rw [kept_eq_nil_of_chosen_none hchosen, hchosen, Option.toList_none, List.length_nil] at hlength
    refine ⟨List.eq_nil_of_length_eq_zero (by omega), ?_⟩
    rw [hmax, Option.some.injEq]
    omega
  · rintro ⟨hidle, hmax⟩
    refine ⟨by rw [hidle]; rfl, ?_⟩
    rw [searched_of_idle_nil config m hidle, Limit.admits_of_get hmax]
    exact decide_eq_false (Nat.lt_irrefl _)

/-- The queue does not admit anybody exactly when its bound is reached. -/
theorem Justified.not_admits_pending_iff (h : p.Justified config 0) :
    config.maxPending.admits p.pending.length = false ↔
      config.maxPending.get = some p.pending.length := by
  constructor
  · intro hadmits
    obtain ⟨max, hmax, hreached⟩ := Limit.get_of_not_admits hadmits
    rw [hmax, Nat.le_antisymm hreached (h.queue max hmax)]
  · intro hmax
    rw [Limit.admits_of_get hmax]
    exact decide_eq_false (Nat.lt_irrefl _)

end Pool

namespace Site

variable {config : Config} {s : Site}

/-- Where nothing is idle, a search changes nothing and closes nothing. -/
theorem searched_of_idle_nil (config : Config) (m : Moment) (hidle : s.pool.idle = []) :
    s.searched config m = (s, []) := by
  have hpool := Pool.searched_of_idle_nil config m hidle
  unfold searched
  rw [hpool, hidle]
  simp [Pool.select, startClosing]

/-- At an open pool `acquire` answers with an error only if the pool `IsFull` and either callers do
not wait or the queue is full as well. -/
theorem acquire_error_iff (h : Reachable config s) (hopen : s.pool.closed = false) (m : Moment)
    (error : PoolError) :
    (s.acquire config m).1 = .error error ↔
      s.pool.IsFull config ∧
        ((config.neverWaits = true ∧ error = .poolExhausted s.pool.allocated) ∨
        (config.neverWaits = false ∧ config.maxPending.get = some s.pool.pending.length ∧
          error = .tooManyPending s.pool.pending.length)) := by
  have hjustified := justified_of_reachable h
  have hfull := hjustified.isFull_iff m
  have hqueue := hjustified.not_admits_pending_iff
  obtain ⟨hclosed, -⟩ | ⟨-, ⟨e, hchosen, heq⟩ | ⟨hchosen, hnone⟩⟩ := acquire_cases config m s
  · rw [hopen] at hclosed
    cases hclosed
  -- a connection is found, so the pool is not full
  · rw [heq, ← hfull, hchosen]
    simp
  · obtain ⟨hadmits, heq⟩ | ⟨-, hwaits, hroom, heq⟩ | ⟨answer, ⟨hadmits, hreason⟩, heq⟩ := hnone
    -- a slot is free, so the pool is not full
    · rw [heq, ← hfull, hadmits]
      simp
    -- callers wait and the queue has room, so neither reason holds
    · rw [heq, hwaits, ← hqueue, hroom]
      simp
    -- the search found nothing and no slot is free, so the reason decides
    · have hreached := hfull.1 ⟨hchosen, hadmits⟩
      rw [heq, Except.error.injEq]
      obtain ⟨hwaits, rfl⟩ | ⟨hwaits, hroom, rfl⟩ := hreason
      · simp [hreached, hreached.2, hwaits, eq_comm]
      · have hmax := hqueue.1 hroom
        simp [hreached, hmax, hwaits, eq_comm]

/-- At a pool that `IsFull`, `acquire` answers with an error without changing anything. -/
theorem acquire_of_isFull {m : Moment} {error : PoolError} (hfull : s.pool.IsFull config)
    (herror : (s.acquire config m).1 = .error error) : (s.acquire config m).2 = (s, []) := by
  have hsearched := searched_of_idle_nil config m hfull.1
  obtain ⟨-, heq⟩ | ⟨-, ⟨e, -, heq⟩ | ⟨-, ⟨-, heq⟩ | ⟨-, -, -, heq⟩ | ⟨answer, -, heq⟩⟩⟩ :=
    acquire_cases config m s
  · rw [heq]
  · rw [heq] at herror
    cases herror
  · rw [heq] at herror
    cases herror
  · rw [heq] at herror
    cases herror
  · rw [heq, hsearched]

/-- Nobody who waits in the queue is ever sent an error that `isRefusal`. -/
theorem not_isRefusal_of_sent {request : Nat} {error : PoolError} (h : Reachable config s)
    (hmem : (request, .error error) ∈ s.inbox) : error.isRefusal = false := by
  revert request
  refine h.invariant (motive := fun s => ∀ {request : Nat},
    (request, .error error) ∈ s.inbox → error.isRefusal = false) (fun destination => ?_) ?_
  · intro request hmem
    cases hmem
  · intro s event hs request hmem
    rcases mem_inbox_of_step config event s hmem with hold | ⟨r, -, hanswers⟩
    · exact hs hold
    · cases hanswers <;> rfl

/-- `ExactRefusals config s`: an open pool turns acquisitions away exactly when it must, says which
bound is reached, and does nothing else then. -/
structure ExactRefusals (config : Config) (s : Site) : Prop where
  /-- `acquire` says `poolExhausted` exactly when callers do not wait, the connections are bounded,
  nothing is idle and every slot is taken; the bound is the one that is configured. -/
  exhausted : ∀ m max, (s.acquire config m).1 = .error (.poolExhausted max) ↔
    config.neverWaits = true ∧ config.maxConnections.get = some max ∧ s.pool.idle = [] ∧
      s.pool.allocated = max
  /-- `acquire` says `tooManyPending` exactly when callers wait, the queue is bounded, nothing is
  idle, every slot is taken and the queue is full; the bound is the one that is configured. -/
  tooMany : ∀ m max, (s.acquire config m).1 = .error (.tooManyPending max) ↔
    config.neverWaits = false ∧ config.maxPending.get = some max ∧ s.pool.idle = [] ∧
      config.maxConnections.get = some s.pool.allocated ∧ s.pool.pending.length = max
  /-- There is no third reason. -/
  only : ∀ m error, (s.acquire config m).1 = .error error → error.isRefusal = true
  /-- An acquisition that is refused leaves the whole site as it was, and neither closes nor opens a
  connection, nor does anything else. -/
  traceless : ∀ m error, (s.acquire config m).1 = .error error → (s.acquire config m).2 = (s, [])
  /-- Refusals are given at once: a `poll` for an acquisition that was queued tells none. -/
  atOnce : ∀ m request error, (s.poll config m request).1 = some (.error error) →
    error.isRefusal = false

/-- Every `Reachable` site whose pool is open has `ExactRefusals`. -/
theorem refusals_are_exact (h : Reachable config s) (hopen : s.pool.closed = false) :
    ExactRefusals config s := by
  refine ⟨fun m max => ?_, fun m max => ?_, fun m error herror => ?_, fun m error herror => ?_,
    fun m request error herror => ?_⟩
  -- the two errors differ, so that each answer leaves one of the two ways to a refusal
  · rw [acquire_error_iff h hopen]
    constructor
    · rintro ⟨⟨hidle, hmax⟩, ⟨hwaits, hbound⟩ | ⟨-, -, hbound⟩⟩
      · cases hbound
        exact ⟨hwaits, hmax, hidle, rfl⟩
      · cases hbound
    · rintro ⟨hwaits, hmax, hidle, rfl⟩
      exact ⟨⟨hidle, hmax⟩, .inl ⟨hwaits, rfl⟩⟩
  · rw [acquire_error_iff h hopen]
    constructor
    · rintro ⟨⟨hidle, hmax⟩, ⟨-, hbound⟩ | ⟨hwaits, hqueue, hbound⟩⟩
      · cases hbound
      · cases hbound
        exact ⟨hwaits, hqueue, hidle, hmax, rfl⟩
    · rintro ⟨hwaits, hqueue, hidle, hmax, rfl⟩
      exact ⟨⟨hidle, hmax⟩, .inr ⟨hwaits, hqueue, rfl⟩⟩
  · obtain ⟨-, ⟨-, rfl⟩ | ⟨-, -, rfl⟩⟩ := (acquire_error_iff h hopen m error).1 herror
    · rfl
    · rfl
  · exact acquire_of_isFull ((acquire_error_iff h hopen m error).1 herror).1 herror
  -- a poll passes on what was sent, finds nobody waiting, or tells that the time is up
  · obtain ⟨e, -, heq⟩ | ⟨sent, hinbox, heq⟩ | ⟨-, ⟨-, heq⟩ | ⟨r, -, ⟨-, heq⟩ | ⟨-, heq⟩⟩⟩ :=
      poll_cases config m request s
    · rw [heq] at herror
      cases herror
    · rw [heq] at herror
      cases herror
      exact not_isRefusal_of_sent h (mem_of_lookup hinbox)
    · rw [heq] at herror
      cases herror
      rfl
    · rw [heq] at herror
      cases herror
      rfl
    · rw [heq] at herror
      cases herror

/-- A third acquisition finds the only slot taken and the only place in the queue as well. -/
theorem refusals_are_exact_crowded :
    ((fresh (.ofAddress "db:1")).run .oneSlotOneWaiter crowded).pool.closed = false ∧
      (((fresh (.ofAddress "db:1")).run .oneSlotOneWaiter crowded).acquire
        .oneSlotOneWaiter (.atMillis 0)).1 = .error (.tooManyPending 1) ∧
      ExactRefusals .oneSlotOneWaiter
        ((fresh (.ofAddress "db:1")).run .oneSlotOneWaiter crowded) :=
  ⟨by decide, by decide, refusals_are_exact ((Reachable.fresh _).run crowded) (by decide)⟩

end Site

end ConnectionPool
