import ConnectionPool.Proofs.Site.Claims

/-!
# What a sweep removes

A sweep keeps the idle connections that are usable, in order, and closes the others. The slots of
those others become free, but no connection is opened in them: where somebody waits nothing is idle,
so that nothing was removed, and where nothing waits there is nobody to open a connection for.
Whoever looks again at the same instant finds nothing more to remove.

## Main definitions

* `Sweeps`: what a sweep of an open pool does.

## Main results

* `sweep_of_open`: the outcome of a sweep, as one equation.
* `sweep_removes_unusable`: what a sweep of any pool does.
-/

namespace ConnectionPool

/-- Whether a connection `isReusable` depends on the time and on whether it is healthy. -/
theorem Entry.isReusable_congr {config : Config} {m n : Moment} {e : Entry} (hnow : n.now = m.now)
    (hhealth : n.healthy e.conn = m.healthy e.conn) :
    e.isReusable config n = e.isReusable config m := by
  rw [isReusable, isReusable, hnow, hhealth]

namespace Pool

variable {config : Config} {m : Moment} {p : Pool}

/-- Where everything idle is usable, `select` finds nothing stale. -/
theorem stale_of_all_usable {usable : Entry → Bool} {idle : List Entry}
    (h : ∀ e ∈ idle, usable e = true) : (select usable idle).stale = [] := by
  obtain ⟨before, e, after, hidle, -, hafter, hselect⟩ | ⟨hnone, hselect⟩ :=
    select_cases usable idle <;> rw [hselect]
  · refine List.reverse_eq_nil_iff.2 (List.eq_nil_iff_forall_not_mem.2 fun x hx => ?_)
    cases (hafter x hx).symm.trans (h x (by rw [hidle]; simp [hx]))
  · refine List.reverse_eq_nil_iff.2 (List.eq_nil_iff_forall_not_mem.2 fun x hx => ?_)
    cases (hnone x hx).symm.trans (h x hx)

/-- The slots that a `sweep` frees are not taken for the queue. -/
theorem Justified.openingsDue_sweep (h : p.Justified config 0) (m : Moment) :
    (p.sweep config m).openingsDue config = 0 := by
  by_cases hpending : (p.sweep config m).pending = []
  · exact openingsDue_of_pending_nil hpending
  · exact (h.sweep m).openingsDue_eq (Nat.zero_le 1) hpending

end Pool

namespace Site

variable {config : Config} {s : Site} {m : Moment}

/-- A `sweep` of an open pool removes the idle connections that are `unusable`, closes them and does
nothing else. -/
theorem sweep_of_open (h : Reachable config s) (hopen : s.pool.closed = false) (m : Moment) :
    ∃ notes : List PoolEvent, s.sweep config m =
      ((s.pool.unusable config m).length,
        Change.andThen ({ s with pool := s.pool.sweep config m }, notes.map .note)
          (startClosing (s.pool.unusable config m))) := by
  have hdue := (justified_of_reachable h).openingsDue_sweep m
  have hreserve := Pool.reserve_of_openingsDue_zero hdue
  obtain ⟨hclosed, -⟩ | ⟨-, notes, hnotes, heq⟩ := sweep_cases config m s
  · cases hopen.symm.trans hclosed
  · rw [heq, hdue, hreserve]
    -- a sweep is noted only if it removed something
    rcases hnotes with rfl | rfl
    · exact ⟨[], by simp [openForQueue, Change.andThen]⟩
    · exact ⟨[.evicted (s.pool.unusable config m).length], by simp [openForQueue, Change.andThen]⟩

/-- `acquire` asks to close what `select` finds stale. -/
theorem closesOf_acquire (hopen : s.pool.closed = false) :
    closesOf (s.acquire config m).2.2 =
      (Pool.select (·.isReusable config m) s.pool.idle).stale.map Entry.retired := by
  have hsearched : closesOf (s.searched config m).2 =
      (Pool.select (·.isReusable config m) s.pool.idle).stale.map Entry.retired := by
    rw [searched, closesOf_startClosing]
  obtain ⟨hclosed, -⟩ | ⟨-, ⟨e, -, heq⟩ | ⟨-, ⟨-, heq⟩ | ⟨-, -, -, heq⟩ | ⟨error, -, heq⟩⟩⟩ :=
    acquire_cases config m s
  · cases hopen.symm.trans hclosed
  all_goals
    rw [heq]
    simp [hsearched]

/-- `sweep` asks to close what is `unusable`. -/
theorem closesOf_sweep (hopen : s.pool.closed = false) :
    closesOf (s.sweep config m).2.2 = (s.pool.unusable config m).map Entry.retired := by
  obtain ⟨hclosed, -⟩ | ⟨-, notes, hnotes, heq⟩ := sweep_cases config m s
  · cases hopen.symm.trans hclosed
  · have hquiet : closesOf notes = [] := by
      rcases hnotes with rfl | rfl <;> rfl
    rw [heq]
    simp [hquiet]

/-- `Sweeps config m s`: what a `sweep` of an open pool does at `m`. -/
structure Sweeps (config : Config) (m : Moment) (s : Site) : Prop where
  /-- It tells how many connections it removes. -/
  count : (s.sweep config m).1 = (s.pool.unusable config m).length
  /-- Their slots are taken. -/
  covered : (s.pool.unusable config m).length ≤ s.pool.allocated
  /-- What `isReusable` stays, in order. The others give their slots up and are being closed.
  Nothing else changes. -/
  site : (s.sweep config m).2.1 =
    { s with
      pool := { s.pool with
        idle := s.pool.idle.filter (·.isReusable config m),
        allocated := s.pool.allocated - (s.pool.unusable config m).length,
        closing := s.pool.closing + (s.pool.unusable config m).length },
      closings := s.closings ++ (s.pool.unusable config m).map Entry.retired }
  /-- The transport is asked to close what is removed, marked as closed, and nothing else. -/
  closes : closesOf (s.sweep config m).2.2 = (s.pool.unusable config m).map Entry.retired ∧
    ∀ e ∈ closesOf (s.sweep config m).2.2, e.info.state = .closed
  /-- Each connection is closed once. -/
  once : ((s.sweep config m).2.1.closings.map (·.info.id)).Nodup
  /-- No connection is opened for the queue. -/
  unopened : ∀ opening, .openForQueue opening ∉ (s.sweep config m).2.2
  /-- At the same instant, as long as the health of what is idle does not change, another sweep
  finds nothing to do, and an acquisition gives nothing up. -/
  again : ∀ n : Moment, n.now = m.now →
    (∀ e ∈ (s.sweep config m).2.1.pool.idle, n.healthy e.conn = m.healthy e.conn) →
    (s.sweep config m).2.1.sweep config n = (0, (s.sweep config m).2.1, []) ∧
    closesOf ((s.sweep config m).2.1.acquire config n).2.2 = [] ∧
    ((s.sweep config m).2.1.acquire config n).2.1.closings = (s.sweep config m).2.1.closings ∧
    ((s.sweep config m).2.1.acquire config n).2.1.pool.closing =
      (s.sweep config m).2.1.pool.closing

/-- Where everything idle `isReusable`, a `sweep` does nothing. -/
theorem sweep_of_all_usable (h : Reachable config s)
    (husable : ∀ e ∈ s.pool.idle, e.isReusable config m = true) :
    s.sweep config m = (0, s, []) := by
  have hnone : s.pool.unusable config m = [] :=
    List.filter_eq_nil_iff.2 fun e he => by simp [husable e he]
  have hkept : s.pool.sweep config m = s.pool := by
    rw [Pool.sweep, hnone, List.filter_eq_self.2 husable]
    rfl
  have hdue := (justified_of_reachable h).openingsDue_sweep m
  rw [hkept] at hdue
  cases hclosed : s.pool.closed with
  | true => rw [sweep, if_pos hclosed]
  | false =>
    simp [sweep, hclosed, hnone, hkept, hdue, Pool.reserve_of_openingsDue_zero hdue, startClosing,
      openForQueue, Change.andThen]

/-- Where everything idle `isReusable`, `acquire` gives nothing up. -/
theorem acquire_of_all_usable (h : Reachable config s) (hopen : s.pool.closed = false)
    (husable : ∀ e ∈ s.pool.idle, e.isReusable config m = true) :
    closesOf (s.acquire config m).2.2 = [] ∧
      (s.acquire config m).2.1.closings = s.closings ∧
      (s.acquire config m).2.1.pool.closing = s.pool.closing := by
  have hcloses : closesOf (s.acquire config m).2.2 = [] := by
    rw [closesOf_acquire hopen, Pool.stale_of_all_usable husable, List.map_nil]
  have hclosings : (s.acquire config m).2.1.closings = s.closings := by
    have hstep := step_closings config (.acquire m) rfl s
    rwa [step, hcloses, List.append_nil] at hstep
  refine ⟨hcloses, hclosings, ?_⟩
  -- the counter is the number of those that are listed
  rw [(balance_of_reachable h).closing, ← hclosings]
  exact (balance_of_reachable (h.step (.acquire m))).closing

/-- A `sweep` of an open pool does what `Sweeps` says, and a sweep of a pool that has been shut down
does nothing. -/
theorem sweep_removes_unusable (h : Reachable config s) (m : Moment) :
    (s.pool.closed = false → Sweeps config m s) ∧
    (s.pool.closed = true → s.sweep config m = (0, s, [])) := by
  refine ⟨fun hopen => ?_, fun hclosed => by rw [sweep, if_pos hclosed]⟩
  obtain ⟨notes, heq⟩ := sweep_of_open h hopen m
  have hallocated := (balance_of_reachable h).allocated
  have hlength := Pool.length_unusable config m s.pool
  refine ⟨by rw [heq], by omega, by rw [heq]; rfl, ⟨by simp [heq], ?_⟩,
    closings_numbered (h.step (.sweep m)), fun opening => ?_, fun n hnow hhealth => ?_⟩
  · rw [heq]
    simp [Entry.retired, Metadata.markClosed]
  · rw [heq]
    simp [startClosing]
  -- what was kept is still usable, so the swept site has nothing to give up
  · have husable : ∀ e ∈ (s.sweep config m).2.1.pool.idle, e.isReusable config n = true := by
      intro e he
      rw [Entry.isReusable_congr hnow (hhealth e he)]
      rw [heq] at he
      exact (List.mem_filter.1 he).2
    have hswept : Reachable config (s.sweep config m).2.1 := h.step (.sweep m)
    refine ⟨sweep_of_all_usable hswept husable, acquire_of_all_usable hswept ?_ husable⟩
    rw [heq]
    exact hopen

/-- A connection that has failed is removed from between two others. -/
theorem sweep_removes_unusable_parkedThree :
    Reachable threeSlots ((fresh (.ofAddress "db:1")).run threeSlots parkedThree) ∧
      ((fresh (.ofAddress "db:1")).run threeSlots parkedThree).pool.closed = false ∧
      ((fresh (.ofAddress "db:1")).run threeSlots parkedThree).pool.idle.map
        (fun e => (e.info.id, e.isReusable threeSlots (atMillisWithout 2 500))) =
        [(1, true), (2, false), (3, true)] ∧
      (((fresh (.ofAddress "db:1")).run threeSlots parkedThree).sweep threeSlots
        (atMillisWithout 2 500)).2.1.pool.idle.map (·.info.id) = [1, 3] ∧
      Sweeps threeSlots (atMillisWithout 2 500)
        ((fresh (.ofAddress "db:1")).run threeSlots parkedThree) := by
  have h : Reachable threeSlots ((fresh (.ofAddress "db:1")).run threeSlots parkedThree) :=
    (Reachable.fresh _).run parkedThree
  exact ⟨h, rfl, by decide, by decide, (sweep_removes_unusable h _).1 rfl⟩

end Site

end ConnectionPool
