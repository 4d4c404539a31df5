import ConnectionPool.Proofs.Site.Closed

/-!
# Pools that hold nothing

A pool holds nothing before its first acquisition, and again when it has ended. As long as no
acquisition begins there it comes by nothing, whether it has been shut down or not, because every
other event acts on something that the pool holds, opens or is asked for.

## Main definitions

* `Bare`: nothing is held, opened or asked for.

## Main results

* `bare_fresh`, `Ended.bare`: pools that have just been made, and pools that have ended.
* `Bare.step`: a bare pool stays bare, and nothing is asked of the transport.
-/

namespace ConnectionPool.Site

variable {config : Config} {s : Site} {event : Event} {m : Moment}

/-- `Bare s`: the pool holds no connection, opens none and has no queue. -/
structure Bare (s : Site) : Prop where
  /-- No connection is idle. -/
  idle : s.pool.idle = []
  /-- No caller holds a connection. -/
  leases : s.leases = []
  /-- No connection was sent that has not been read. -/
  sent : entriesOf s.inbox = []
  /-- No connection is being closed. -/
  closings : s.closings = []
  /-- No connection is being opened. -/
  openings : s.openings = []
  /-- Nobody is queued. -/
  pending : s.pool.pending = []

/-- A pool that has just been made is `Bare`. -/
theorem bare_fresh (destination : Destination) : (fresh destination).Bare :=
  ⟨rfl, rfl, rfl, rfl, rfl, rfl⟩

/-- A pool that has `Ended` is `Bare`. -/
theorem Ended.bare (hs : s.Ended) (h : Reachable config s) : s.Bare := by
  obtain ⟨hpending, hidle⟩ := (justified_of_reachable h).closed hs.closed
  obtain ⟨hholdings, hopenings⟩ := hs.holdings h
  simp only [Site.holdings, List.append_eq_nil_iff, List.map_eq_nil_iff] at hholdings
  obtain ⟨⟨⟨-, hleases⟩, hsent⟩, hclosings⟩ := hholdings
  exact ⟨hidle, hleases, hsent, hclosings, hopenings, hpending⟩

namespace Bare

/-- The books of a `Bare` pool say that nothing is left. -/
theorem counters (hb : s.Bare) (h : Reachable config s) :
    s.pool.allocated = 0 ∧ s.pool.closing = 0 ∧ s.holdings = [] := by
  obtain ⟨hallocated, hinUse, hclosing⟩ := balance_of_reachable h
  rw [hb.leases, hb.sent] at hinUse
  rw [hb.idle, hb.openings, hinUse] at hallocated
  rw [hb.closings] at hclosing
  refine ⟨hallocated, hclosing, ?_⟩
  rw [Site.holdings, hb.idle, hb.leases, hb.sent, hb.closings]
  rfl

/-- A `Bare` pool that was shut down has `Ended`. -/
theorem ended (hb : s.Bare) (h : Reachable config s) (hclosed : s.pool.closed = true) : s.Ended :=
  ⟨hclosed, (hb.counters h).1, (hb.counters h).2.1⟩

theorem isOpening_eq_false (hb : s.Bare) (opening : Nat) (purpose : Purpose) :
    s.isOpening opening purpose = false := by
  rw [isOpening, hb.openings]
  rfl

/-- No connection was sent to anybody by a `Bare` pool. -/
theorem lookup_ne_ok (hb : s.Bare) (request : Nat) (e : Entry) :
    s.inbox.lookup request ≠ some (.ok e) := by
  intro hsent
  have hentry := (entriesOf_of_lookup_ok hsent).symm.subset List.mem_cons_self
  rw [hb.sent] at hentry
  cases hentry

/-- Reading an error leaves nothing behind. -/
theorem read (hb : s.Bare) (request : Nat) :
    Bare { s with inbox := s.inbox.eraseP (·.1 == request) } := by
  refine ⟨hb.idle, hb.leases, ?_, hb.closings, hb.openings, hb.pending⟩
  have hsub : (entriesOf (s.inbox.eraseP (·.1 == request))).Sublist (entriesOf s.inbox) :=
    List.eraseP_sublist.filterMap _
  rw [hb.sent, List.sublist_nil] at hsub
  exact hsub

/-- A `Bare` pool stays so as long as no acquisition begins there, unless it was shut down before,
and nothing is asked of the transport. -/
theorem step (hb : s.Bare) (h : Reachable config s) (event : Event)
    (hevent : event.isAcquire = true → s.pool.closed = true) :
    (s.step config event).1.Bare ∧ ∀ effect ∈ (s.step config event).2, effect.isCall = false := by
  cases hclosed : s.pool.closed with
  | true =>
    obtain ⟨hended, hquiet⟩ := (hb.ended h hclosed).step h event
    exact ⟨hended.bare (h.step event), hquiet⟩
  | false =>
    have hsame : s.Bare ∧ ∀ effect ∈ ([] : List Effect), effect.isCall = false :=
      ⟨hb, List.forall_mem_nil _⟩
    -- there is nothing that an event could act upon
    cases event with
    | acquire m =>
      rw [hclosed] at hevent
      cases hevent rfl
    | opened opening conn m =>
      rw [Site.step, opened, if_neg (by simp [hb.isOpening_eq_false])]
      exact hsame
    | openingFailed opening failure =>
      rw [Site.step, openingFailed, if_neg (by simp [hb.isOpening_eq_false])]
      exact hsame
    | abandon opening =>
      rw [Site.step, abandon, if_neg (by simp [hb.isOpening_eq_false])]
      exact hsame
    | openedForQueue opening conn m created =>
      rw [Site.step, openedForQueue, if_neg (by simp [hb.isOpening_eq_false])]
      exact hsame
    | openingForQueueFailed opening failure m =>
      rw [Site.step, openingForQueueFailed, if_neg (by simp [hb.isOpening_eq_false])]
      exact hsame
    | poll m request =>
      rw [Site.step]
      obtain ⟨e, hsent, -⟩ | ⟨error, -, heq⟩ | ⟨-, ⟨-, heq⟩ | ⟨r, hfound, -⟩⟩ :=
        poll_cases config m request s
      · exact absurd hsent (hb.lookup_ne_ok request e)
      · rw [heq]
        exact ⟨hb.read request, List.forall_mem_nil _⟩
      · rw [heq]
        exact hsame
      · rw [hb.pending] at hfound
        cases hfound
    | cancel m request =>
      rw [Site.step]
      obtain ⟨hqueued, -⟩ | ⟨-, ⟨e, hsent, -⟩ | ⟨-, heq⟩⟩ := cancel_cases config m request s
      · rw [Pool.isQueued, hb.pending] at hqueued
        cases hqueued
      · exact absurd hsent (hb.lookup_ne_ok request e)
      · rw [heq]
        exact ⟨hb.read request, List.forall_mem_nil _⟩
    | release m lease =>
      rw [Site.step, release, lease?, hb.leases]
      exact hsame
    | detach lease =>
      rw [Site.step, detach, lease?, hb.leases]
      exact hsame
    | exchange lease conn =>
      refine ⟨⟨hb.idle, ?_, hb.sent, hb.closings, hb.openings, hb.pending⟩, List.forall_mem_nil _⟩
      rw [Site.step, exchange, hb.leases]
      rfl
    | sweep m =>
      have hdue : (s.pool.sweep config m).openingsDue config = 0 :=
        Pool.openingsDue_of_pending_nil hb.pending
      have hunusable : s.pool.unusable config m = [] := by
        rw [Pool.unusable, hb.idle]
        rfl
      obtain ⟨hyes, -⟩ | ⟨-, notes, hnotes, heq⟩ := sweep_cases config m s
      · cases hclosed.symm.trans hyes
      · rw [Site.step, heq, hdue, hunusable]
        refine ⟨⟨?_, hb.leases, hb.sent, ?_, hb.openings, hb.pending⟩, ?_⟩
        · simp [startClosing, openForQueue, Pool.reserve, Pool.sweep, Pool.giveUp, hb.idle]
        · simpa [startClosing, openForQueue] using hb.closings
        · rcases hnotes with rfl | rfl <;> simp [startClosing, openForQueue, Effect.isCall]
    | closeFinished connection =>
      rw [Site.step, closeFinished, hb.closings]
      exact hsame
    | shutDown =>
      obtain ⟨hyes, -⟩ | ⟨-, heq⟩ := shutDown_cases s
      · cases hclosed.symm.trans hyes
      · rw [Site.step, heq, hb.pending, hb.idle]
        refine ⟨⟨rfl, hb.leases, ?_, ?_, hb.openings, rfl⟩, ?_⟩
        · simpa [deliver, startClosing] using hb.sent
        · simpa [deliver, startClosing] using hb.closings
        · simp [deliver, startClosing, Effect.isCall]
    | pollDrain m =>
      obtain ⟨drain, heq⟩ := pollDrain_fst config m s
      refine ⟨?_, pollDrain_quiet config m s⟩
      rw [Site.step, heq]
      exact ⟨hb.idle, hb.leases, hb.sent, hb.closings, hb.openings, hb.pending⟩

/-- Nobody gets a connection by `poll` from a `Bare` pool. -/
theorem poll_ne_ok (hb : s.Bare) (m : Moment) (request connection : Nat) :
    (s.poll config m request).1 ≠ some (.ok connection) := by
  obtain ⟨e, hsent, -⟩ | ⟨error, -, heq⟩ | ⟨-, ⟨-, heq⟩ | ⟨r, -, ⟨-, heq⟩ | ⟨-, heq⟩⟩⟩ :=
    poll_cases config m request s
  · exact absurd hsent (hb.lookup_ne_ok request e)
  all_goals
    rw [heq]
    simp

end Bare

end ConnectionPool.Site
