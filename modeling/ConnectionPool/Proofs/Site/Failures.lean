import ConnectionPool.Proofs.Site.Cancellation
import ConnectionPool.Proofs.Site.Order

/-!
# When a connection cannot be opened

An opening that fails leaves a slot. Where nobody waits the slot is free, and where somebody does it
is taken at once for the queue, by exactly one opening. If the opening was for a caller, that caller
gets the error and nobody in the queue notices. If it was for the queue, the error goes to the
oldest request in time and to no other.

## Main definitions

* `Pool.Turn`: a queue at an instant, as those who are late, whoever is served, and those who stay.
* `failureTold`: what is sent when an opening for the queue fails.

## Main results

* `openingFailed_of_pending_nil`, `openingFailed_of_pending_ne_nil`: the failure of an opening for a
  caller.
* `openingForQueueFailed_of_rest_nil`, `openingForQueueFailed_of_rest_ne_nil`: the failure of an
  opening for the queue, by whether anybody is left in the queue.
-/

namespace ConnectionPool

namespace Pool

/-- `Turn now queue late oldest rest`: a queue at an instant has at its front those who are late,
then the oldest request in time, and then those behind it. -/
structure Turn (now : Instant) (queue late : List Request) (oldest : Option Request)
    (rest : List Request) : Prop where
  /-- They stand in this order, and there is nobody else. -/
  order : queue = late ++ oldest.toList ++ rest
  /-- Those at the front are late. -/
  isLate : ∀ q ∈ late, q.isLate now = true
  /-- The request right behind them is in time. -/
  inTime : ∀ r, oldest = some r → r.isLate now = false
  /-- Where there is none, all are late. -/
  nobody : oldest = none → rest = []

/-- `failOldest` makes those who are late and the oldest request in time leave the queue. -/
theorem failOldest_turn (now : Instant) (p : Pool) :
    ∃ late oldest rest, Turn now p.pending late oldest rest ∧
      p.failOldest now = ⟨late, oldest, { p with pending := rest }⟩ := by
  obtain ⟨hlate, heq⟩ | ⟨late, r, rest, hpending, hlate, hr, heq⟩ := failOldest_cases now p
  · exact ⟨p.pending, none, [], ⟨by simp, hlate, nofun, fun _ => rfl⟩, heq⟩
  · refine ⟨late, some r, rest, ⟨by simp [hpending], hlate, fun q hq => ?_, nofun⟩, heq⟩
    rw [← Option.some.inj hq, hr]

end Pool

namespace Site

variable {config : Config} {s : Site} {opening : Nat} {failure : ConnectFailure} {m : Moment}
  {late rest : List Request} {oldest : Option Request}

/-! ## Openings for callers -/

theorem openingFailed_of_isOpening (hopening : s.isOpening opening .caller = true) :
    s.openingFailed config opening failure =
      (.connectionCreation failure, (s.abandon config opening).1,
        .note (.openingFailed failure) :: (s.abandon config opening).2) := by
  rw [openingFailed, if_pos hopening]
  rfl

/-- `openingFailed` gives the slot back where nobody waits. -/
theorem openingFailed_of_pending_nil (hopening : s.isOpening opening .caller = true)
    (hpending : s.pool.pending = []) :
    s.openingFailed config opening failure =
      (.connectionCreation failure,
        { s.endOpening opening with
          pool := { s.pool with allocated := s.pool.allocated - 1 },
          drain := s.drain.told s.pool.closed },
        .note (.openingFailed failure) :: s.notice) := by
  rw [openingFailed_of_isOpening hopening, abandon_of_pending_nil hopening hpending]

/-- `openingFailed` begins an opening for the queue in the slot where somebody waits. -/
theorem openingFailed_of_pending_ne_nil (h : Reachable config s)
    (hopening : s.isOpening opening .caller = true) (hpending : s.pool.pending ≠ []) :
    s.openingFailed config opening failure =
      (.connectionCreation failure, (s.endOpening opening).beginOpening .queue,
        [.note (.openingFailed failure), .openForQueue s.nextOpening]) := by
  rw [openingFailed_of_isOpening hopening, abandon_of_pending_ne_nil h hopening hpending]

/-! ## Openings for the queue -/

/-- What is sent by `failOldest` when an opening for the queue fails: those who are late learn that
their time is up, and the oldest request in time gets the error. -/
def failureTold (config : Config) (failure : ConnectFailure) (late : List Request)
    (oldest : Option Request) : List (Nat × Delivery) :=
  sentAs (late.map (·, timeUp config) ++
    oldest.toList.map (·, .error (.connectionCreation failure)))

theorem timeUp_mem_failureTold {r : Request} (hr : r ∈ late) :
    (r.id, timeUp config) ∈ failureTold config failure late oldest :=
  List.mem_map.2 ⟨(r, timeUp config), List.mem_append_left _ (List.mem_map_of_mem hr), rfl⟩

theorem error_mem_failureTold {r : Request} (hr : oldest = some r) :
    (r.id, .error (.connectionCreation failure)) ∈ failureTold config failure late oldest := by
  rw [hr]
  exact List.mem_map.2 ⟨(r, _), List.mem_append_right _ (List.mem_singleton_self _), rfl⟩

/-- `failOldest` sends the error to the oldest request in time, and nothing else changes but the
queue. -/
theorem failOldest_of_turn (config : Config) (now : Instant) (failure : ConnectFailure) (s : Site)
    (hturn : s.pool.failOldest now = ⟨late, oldest, { s.pool with pending := rest }⟩) :
    failOldest config now (.connectionCreation failure) s =
      ({ s with
          pool := { s.pool with pending := rest },
          inbox := s.inbox ++ failureTold config failure late oldest },
        (failureTold config failure late oldest).map fun sent => .wake sent.1) := by
  rw [failOldest, hturn]
  cases oldest with
  | none =>
    simp [deliverTimeouts, deliver, failureTold, sentAs, timeUp, Function.comp_def]
  | some r =>
    simp [deliverTimeouts, deliver, failureTold, sentAs, timeUp, Function.comp_def,
      Change.andThen]

/-- `openingForQueueFailed` before its slot is used again. -/
theorem openingForQueueFailed_of_turn (hopening : s.isOpening opening .queue = true)
    (hturn : s.pool.freeSlot.failOldest m.now =
      ⟨late, oldest, { s.pool.freeSlot with pending := rest }⟩) :
    s.openingForQueueFailed config opening failure m =
      Change.andThen
        ({ s.endOpening opening with
            pool := { s.pool.freeSlot with pending := rest },
            inbox := s.inbox ++ failureTold config failure late oldest },
          .note (.openingForQueueFailed failure) ::
            (failureTold config failure late oldest).map fun sent => .wake sent.1)
        (slotFreed config) := by
  obtain ⟨hnot, -⟩ | ⟨-, heq⟩ := openingForQueueFailed_cases config opening failure m s
  · rw [hopening] at hnot
    cases hnot
  · have htold := failOldest_of_turn config m.now failure
      (endOpening opening { s with pool := s.pool.freeSlot }) hturn
    rw [heq]
    -- the failure is noted before anybody is told of it
    exact congrArg (fun told : Change =>
      Change.andThen (told.1, .note (.openingForQueueFailed failure) :: told.2)
        (slotFreed config)) htold

/-- `openingForQueueFailed` makes those who are served leave the queue, and tells them. -/
theorem openingForQueueFailed_told (config : Config) (failure : ConnectFailure)
    (hopening : s.isOpening opening .queue = true)
    (hturn : s.pool.freeSlot.failOldest m.now =
      ⟨late, oldest, { s.pool.freeSlot with pending := rest }⟩) :
    (s.openingForQueueFailed config opening failure m).1.pool.pending = rest ∧
      (s.openingForQueueFailed config opening failure m).1.inbox =
        s.inbox ++ failureTold config failure late oldest := by
  rw [openingForQueueFailed_of_turn hopening hturn, Change.andThen_fst, slotFreed_fst]
  exact ⟨rfl, rfl⟩

/-- `openingForQueueFailed` gives the slot back where nobody is left in the queue. -/
theorem openingForQueueFailed_of_rest_nil (hopening : s.isOpening opening .queue = true)
    (hturn : s.pool.freeSlot.failOldest m.now =
      ⟨late, oldest, { s.pool.freeSlot with pending := [] }⟩) :
    s.openingForQueueFailed config opening failure m =
      ({ s.endOpening opening with
          pool := { s.pool with pending := [], allocated := s.pool.allocated - 1 },
          inbox := s.inbox ++ failureTold config failure late oldest,
          drain := s.drain.told s.pool.closed },
        .note (.openingForQueueFailed failure) ::
          ((failureTold config failure late oldest).map fun sent => .wake sent.1) ++ s.notice) := by
  rw [openingForQueueFailed_of_turn hopening hturn, Change.andThen,
    slotFreed_of_pending_nil config (by rfl)]
  rfl

/-- `openingForQueueFailed` tells nobody where nobody waits. -/
theorem openingForQueueFailed_of_pending_nil (hopening : s.isOpening opening .queue = true)
    (hpending : s.pool.pending = []) :
    s.openingForQueueFailed config opening failure m =
      ({ s.endOpening opening with
          pool := { s.pool with allocated := s.pool.allocated - 1 },
          drain := s.drain.told s.pool.closed },
        .note (.openingForQueueFailed failure) :: s.notice) := by
  have hnobody : s.pool.freeSlot.failOldest m.now =
      ⟨[], none, { s.pool.freeSlot with pending := [] }⟩ := by
    simp [Pool.failOldest, Pool.freeSlot, hpending]
  rw [openingForQueueFailed_of_rest_nil hopening hnobody]
  simp [failureTold, sentAs, endOpening, hpending]

/-- `openingForQueueFailed` begins another opening for the queue in the slot where somebody is left
in it. -/
theorem openingForQueueFailed_of_rest_ne_nil (h : Reachable config s)
    (hopening : s.isOpening opening .queue = true)
    (hturn : s.pool.freeSlot.failOldest m.now =
      ⟨late, oldest, { s.pool.freeSlot with pending := rest }⟩)
    (hpending : s.pool.pending ≠ []) (hrest : rest ≠ []) :
    s.openingForQueueFailed config opening failure m =
      (beginOpening .queue { s.endOpening opening with
          pool := { s.pool with pending := rest },
          inbox := s.inbox ++ failureTold config failure late oldest },
        .note (.openingForQueueFailed failure) ::
          ((failureTold config failure late oldest).map fun sent => .wake sent.1) ++
          [.openForQueue s.nextOpening]) := by
  have hjustified := justified_of_reachable h
  -- with one slot given back, the rest of the queue is waiting for that slot
  have hfailed : Pool.Justified config 1 { s.pool.freeSlot with pending := rest } := by
    have hserved := hjustified.freeSlot.failOldest m.now
    rw [hturn] at hserved
    exact hserved
  rw [openingForQueueFailed_of_turn hopening hturn, Change.andThen,
    slotFreed_of_pending_ne_nil (by exact hfailed) (by exact hrest)]
  dsimp only
  rw [freeSlot_retaken hjustified hpending]
  rfl

end Site

end ConnectionPool
