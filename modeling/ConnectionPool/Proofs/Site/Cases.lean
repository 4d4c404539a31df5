import ConnectionPool.Proofs.Site.Parts

/-!
# What each change does

One lemma for each change of a site that says all it can do, with the conditions under which it
does it. Proofs about sites split a change into its cases by these lemmas, and see its parts through
the lemmas about them.
-/

namespace ConnectionPool

/-- `closeReason?` of a connection given back to an open pool is `none` only if it is healthy and
young enough. -/
theorem Pool.closeReason?_eq_none_iff {config : Config} {m : Moment} {e : Entry} {p : Pool} :
    p.closeReason? config m e = none ↔
      p.closed = false ∧ m.healthy e.conn = true ∧
        e.info.isExpired config.maxLifeTime m.now = false := by
  unfold Pool.closeReason?
  cases p.closed <;> cases m.healthy e.conn <;> cases e.info.isExpired config.maxLifeTime m.now <;>
    simp

namespace Pool

/-- The books after `select` has searched for an idle connection, before `decide` acts upon the
outcome. -/
def searched (config : Config) (m : Moment) (p : Pool) : Pool :=
  giveUp (select (·.isReusable config m) p.idle).stale.length
    { p with idle := (select (·.isReusable config m) p.idle).kept }

/-- The request that is queued at `now`. -/
def newRequest (config : Config) (now : Instant) (p : Pool) : Request :=
  ⟨p.nextRequest, now, now.deadline config.acquireTimeout⟩

/-- The answer of `decide` depends on whether `select` finds a connection, then on whether a slot is
free, then on whether callers may wait, and last on whether the queue is full. -/
theorem decide_cases (config : Config) (m : Moment) (p : Pool) :
    (p.decide config m).stale = (select (·.isReusable config m) p.idle).stale ∧
    ((∃ e, (select (·.isReusable config m) p.idle).chosen = some e ∧
      (p.decide config m).decision = .claimed e ∧
      (p.decide config m).pool =
        { p.searched config m with inUse := (p.searched config m).inUse + 1 }) ∨
    ((select (·.isReusable config m) p.idle).chosen = none ∧
      ((config.maxConnections.admits (p.searched config m).allocated = true ∧
        (p.decide config m).decision = .connect ∧
        (p.decide config m).pool =
          { p.searched config m with allocated := (p.searched config m).allocated + 1 }) ∨
      (config.maxConnections.admits (p.searched config m).allocated = false ∧
        ((config.neverWaits = true ∧
          (p.decide config m).decision =
            .refused (.poolExhausted (config.maxConnections.get.getD counterMax)) ∧
          (p.decide config m).pool = p.searched config m) ∨
        (config.neverWaits = false ∧
          ((config.maxPending.admits p.pending.length = true ∧
            (p.decide config m).decision = .queued (p.newRequest config m.now) ∧
            (p.decide config m).pool =
              { p.searched config m with
                pending := p.pending ++ [p.newRequest config m.now],
                nextRequest := p.nextRequest + 1 }) ∨
          (config.maxPending.admits p.pending.length = false ∧
            (p.decide config m).decision =
              .refused (.tooManyPending (config.maxPending.get.getD counterMax)) ∧
            (p.decide config m).pool = p.searched config m)))))))) := by
  cases hchosen : (select (·.isReusable config m) p.idle).chosen with
  | some e =>
    refine ⟨by simp only [decide, hchosen], .inl ⟨e, rfl, ?_, ?_⟩⟩
    · simp only [decide, hchosen]
    · simp only [decide, hchosen, searched]
  | none =>
    have hdecide : p.decide config m =
        ⟨((p.searched config m).decideWithoutIdle config m.now).1,
          (select (·.isReusable config m) p.idle).stale,
          ((p.searched config m).decideWithoutIdle config m.now).2⟩ := by
      simp only [decide, hchosen, searched]
    rw [hdecide]
    refine ⟨rfl, .inr ⟨rfl, ?_⟩⟩
    unfold decideWithoutIdle
    cases config.maxConnections.admits (p.searched config m).allocated with
    | true => exact .inl ⟨rfl, rfl, rfl⟩
    | false =>
      refine .inr ⟨rfl, ?_⟩
      cases config.neverWaits with
      | true => exact .inl ⟨rfl, rfl, rfl⟩
      | false =>
        refine .inr ⟨rfl, ?_⟩
        -- the search does not touch the queue
        have hpending : (p.searched config m).pending = p.pending := rfl
        rw [hpending]
        cases config.maxPending.admits p.pending.length with
        | true => exact .inl ⟨rfl, rfl, rfl⟩
        | false => exact .inr ⟨rfl, rfl, rfl⟩

/-- What `select` keeps, chooses and finds stale makes up what was idle. -/
theorem length_select (usable : Entry → Bool) (idle : List Entry) :
    idle.length = (select usable idle).kept.length + (select usable idle).chosen.toList.length +
      (select usable idle).stale.length := by
  have := congrArg List.length (select_append usable idle)
  simp only [List.length_append, List.length_reverse] at this
  omega

/-- A sweep keeps the usable connections and removes the `unusable` ones. -/
theorem length_unusable (config : Config) (m : Moment) (p : Pool) :
    p.idle.length = (p.idle.filter (·.isReusable config m)).length +
      (p.unusable config m).length :=
  List.length_eq_length_filter_add _

end Pool

namespace Site

/-- `takeIn` closes a connection and uses its slot again, or passes it on. -/
theorem takeIn_cases (config : Config) (m : Moment) (e : Entry) (s : Site) :
    (∃ reason, s.pool.takeBack.closeReason? config m e = some reason ∧
      takeIn config m e s =
        (Change.andThen
          ({ s with pool := s.pool.takeBack.giveUp 1 },
            [.note (.closingReleased e.info.id reason)])
          (startClosing [e])).andThen (slotFreed config)) ∨
    (s.pool.takeBack.closeReason? config m e = none ∧
      takeIn config m e s =
        (handOff config m.now e { s with pool := s.pool.takeBack }).andThen announce) := by
  cases hreason : s.pool.takeBack.closeReason? config m e with
  | some reason => exact .inl ⟨reason, rfl, by simp only [takeIn, hreason]⟩
  | none => exact .inr ⟨rfl, by simp only [takeIn, hreason]⟩

/-- `release` takes the connection from the caller who holds it. -/
theorem release_cases (config : Config) (m : Moment) (lease : Nat) (s : Site) :
    (s.lease? lease = none ∧ s.release config m lease = (s, [])) ∨
    ∃ e, s.lease? lease = some e ∧
      s.release config m lease =
        Change.andThen (s.unlend lease, [.note (.returning lease)]) (takeIn config m e) := by
  cases hlease : s.lease? lease with
  | none => exact .inl ⟨rfl, by simp only [release, hlease]⟩
  | some e => exact .inr ⟨e, rfl, by simp only [release, hlease]⟩

/-- `detach` takes the connection out of the pool for the caller who holds it, and uses its slot
again. -/
theorem detach_cases (config : Config) (lease : Nat) (s : Site) :
    (s.lease? lease = none ∧ s.detach config lease = (none, s, [])) ∨
    ∃ e, s.lease? lease = some e ∧
      s.detach config lease =
        (some e.conn,
          slotFreed config { s.unlend lease with pool := s.pool.takeBack.freeSlot }) := by
  cases hlease : s.lease? lease with
  | none => exact .inl ⟨rfl, by simp only [detach, hlease]⟩
  | some e => exact .inr ⟨e, rfl, by simp only [detach, hlease]⟩

/-- The site after `select` has searched for an idle connection, before `acquire` acts upon the
outcome: what was stale is being closed. -/
def searched (config : Config) (m : Moment) (s : Site) : Change :=
  startClosing (Pool.select (·.isReusable config m) s.pool.idle).stale
    { s with pool := s.pool.searched config m }

/-- `acquire` is refused by a closed pool. An open pool searches for an idle connection, and where
none is found opens one, queues the acquisition or refuses it. -/
theorem acquire_cases (config : Config) (m : Moment) (s : Site) :
    (s.pool.closed = true ∧ s.acquire config m = (.error .poolClosed, s, [])) ∨
    (s.pool.closed = false ∧
      ((∃ e, (Pool.select (·.isReusable config m) s.pool.idle).chosen = some e ∧
        s.acquire config m =
          (.ok (.lease e.info.id), (s.searched config m).andThen fun s =>
            (lend e { s with pool := { s.pool with inUse := s.pool.inUse + 1 } },
              [.note (.reusing e.info.id)]))) ∨
      ((Pool.select (·.isReusable config m) s.pool.idle).chosen = none ∧
        ((config.maxConnections.admits (s.pool.searched config m).allocated = true ∧
          s.acquire config m =
            (.ok (.opening s.nextOpening), (s.searched config m).andThen fun s =>
              (beginOpening .caller
                { s with pool := { s.pool with allocated := s.pool.allocated + 1 } }, []))) ∨
        (config.maxConnections.admits (s.pool.searched config m).allocated = false ∧
          config.neverWaits = false ∧ config.maxPending.admits s.pool.pending.length = true ∧
          s.acquire config m =
            (.ok (.request s.pool.nextRequest (m.now.deadline config.acquireTimeout)),
              (s.searched config m).andThen fun s =>
                ({ s with pool := { s.pool with
                    pending := s.pool.pending ++ [s.pool.newRequest config m.now],
                    nextRequest := s.pool.nextRequest + 1 } },
                  [.note (.queueing s.pool.nextRequest)]))) ∨
        ∃ error, (config.maxConnections.admits (s.pool.searched config m).allocated = false ∧
            ((config.neverWaits = true ∧
              error = .poolExhausted (config.maxConnections.get.getD Pool.counterMax)) ∨
            (config.neverWaits = false ∧ config.maxPending.admits s.pool.pending.length = false ∧
              error = .tooManyPending (config.maxPending.get.getD Pool.counterMax)))) ∧
          s.acquire config m = (.error error, s.searched config m))))) := by
  -- the cases are those of the books, with the stale connections being closed in each
  cases hclosed : s.pool.closed with
  | true => exact .inl ⟨rfl, by simp only [acquire, hclosed, ↓reduceIte]⟩
  | false =>
    refine .inr ⟨rfl, ?_⟩
    obtain ⟨hstale, hdecide⟩ := Pool.decide_cases config m s.pool
    obtain ⟨e, hchosen, hdecision, hpool⟩ | ⟨hchosen, hdecide⟩ := hdecide
    · refine .inl ⟨e, hchosen, ?_⟩
      simp [acquire, hclosed, hdecision, hpool, hstale, searched, Change.andThen, startClosing]
    · refine .inr ⟨hchosen, ?_⟩
      obtain ⟨hadmits, hdecision, hpool⟩ | ⟨hadmits, hwaits⟩ := hdecide
      · refine .inl ⟨hadmits, ?_⟩
        simp [acquire, hclosed, hdecision, hpool, hstale, searched, Change.andThen, startClosing]
      · obtain ⟨hwaits, hdecision, hpool⟩ | ⟨hwaits, hroom⟩ := hwaits
        · refine .inr (.inr ⟨_, ⟨hadmits, .inl ⟨hwaits, rfl⟩⟩, ?_⟩)
          simp [acquire, hclosed, hdecision, hpool, hstale, searched]
        · obtain ⟨hroom, hdecision, hpool⟩ | ⟨hroom, hdecision, hpool⟩ := hroom
          · refine .inr (.inl ⟨hadmits, hwaits, hroom, ?_⟩)
            simp [acquire, hclosed, hdecision, hpool, hstale, searched, Change.andThen,
              startClosing, Pool.searched, Pool.giveUp, Pool.newRequest]
          · refine .inr (.inr ⟨_, ⟨hadmits, .inr ⟨hwaits, hroom, rfl⟩⟩, ?_⟩)
            simp [acquire, hclosed, hdecision, hpool, hstale, searched]

/-- The books after `acquire` from an open pool are those of `decide`. -/
theorem acquire_pool (config : Config) (m : Moment) {s : Site} (hopen : s.pool.closed = false) :
    (s.acquire config m).2.1.pool = (s.pool.decide config m).pool := by
  cases hdecision : (s.pool.decide config m).decision <;>
    simp [acquire, hopen, hdecision, lend, beginOpening]

/-- `opened` hands the connection to its caller, or closes it if the pool has been shut down
meanwhile. -/
theorem opened_cases (opening : Nat) (conn : Connection) (m : Moment) (s : Site) :
    (s.isOpening opening .caller = false ∧
      s.opened opening conn m = (.error .poolClosed, s, [])) ∨
    (s.isOpening opening .caller = true ∧
      let e := (s.pool.enlist conn m.now).1
      let ended := endOpening opening { s with pool := (s.pool.enlist conn m.now).2 }
      (s.pool.closed = true ∧
        s.opened opening conn m =
          (.error .poolClosed,
            (startClosing [e] { ended with pool := ended.pool.giveUp 1 }).andThen announce)) ∨
      (s.pool.closed = false ∧
        s.opened opening conn m =
          (.ok e.info.id,
            lend e { ended with pool := { ended.pool with inUse := ended.pool.inUse + 1 } },
            [.note (.opened e.info.id)]))) := by
  cases hopening : s.isOpening opening .caller with
  | false => exact .inl ⟨rfl, by simp [opened, hopening]⟩
  | true =>
    refine .inr ⟨rfl, ?_⟩
    cases hclosed : s.pool.closed with
    | true => exact .inl ⟨rfl, by simp [opened, hopening, endOpening, Pool.enlist, hclosed]⟩
    | false => exact .inr ⟨rfl, by simp [opened, hopening, endOpening, Pool.enlist, hclosed]⟩

/-- `abandon` uses the slot of the opening again. -/
theorem abandon_cases (config : Config) (opening : Nat) (s : Site) :
    (s.isOpening opening .caller = false ∧ s.abandon config opening = (s, [])) ∨
    (s.isOpening opening .caller = true ∧
      s.abandon config opening =
        slotFreed config (endOpening opening { s with pool := s.pool.freeSlot })) := by
  cases hopening : s.isOpening opening .caller with
  | false => exact .inl ⟨rfl, by simp [abandon, hopening]⟩
  | true => exact .inr ⟨rfl, by simp [abandon, hopening]⟩

/-- `openingFailed` uses the slot of the opening again as `abandon` does. -/
theorem openingFailed_snd_fst (config : Config) (opening : Nat) (failure : ConnectFailure)
    (s : Site) :
    (s.openingFailed config opening failure).2.1 = (s.abandon config opening).1 := by
  unfold openingFailed
  split
  · rfl
  · rename_i hopening
    simp [abandon, hopening]

/-- `openedForQueue` closes the connection if the pool has been shut down meanwhile, and otherwise
passes it on. -/
theorem openedForQueue_cases (config : Config) (opening : Nat) (conn : Connection) (m : Moment)
    (created : Instant) (s : Site) :
    (s.isOpening opening .queue = false ∧
      s.openedForQueue config opening conn m created = (s, [])) ∨
    (s.isOpening opening .queue = true ∧
      let e := (s.pool.enlist conn created).1
      let ended := endOpening opening { s with pool := (s.pool.enlist conn created).2 }
      (s.pool.closed = true ∧
        s.openedForQueue config opening conn m created =
          (startClosing [e] { ended with pool := ended.pool.giveUp 1 }).andThen announce) ∨
      (s.pool.closed = false ∧
        s.openedForQueue config opening conn m created =
          (Change.andThen (ended, [.note (.openedForQueue e.info.id)])
            (handOff config m.now e)).andThen announce)) := by
  cases hopening : s.isOpening opening .queue with
  | false => exact .inl ⟨rfl, by simp [openedForQueue, hopening]⟩
  | true =>
    refine .inr ⟨rfl, ?_⟩
    cases hclosed : s.pool.closed with
    | true => exact .inl ⟨rfl, by simp [openedForQueue, hopening, endOpening, Pool.enlist, hclosed]⟩
    | false =>
      exact .inr ⟨rfl, by simp [openedForQueue, hopening, endOpening, Pool.enlist, hclosed]⟩

/-- `openingForQueueFailed` tells one request at most, and uses the slot again. -/
theorem openingForQueueFailed_cases (config : Config) (opening : Nat) (failure : ConnectFailure)
    (m : Moment) (s : Site) :
    (s.isOpening opening .queue = false ∧
      s.openingForQueueFailed config opening failure m = (s, [])) ∨
    (s.isOpening opening .queue = true ∧
      s.openingForQueueFailed config opening failure m =
        (Change.andThen
          (endOpening opening { s with pool := s.pool.freeSlot },
            [.note (.openingForQueueFailed failure)])
          (failOldest config m.now (.connectionCreation failure))).andThen
          (slotFreed config)) := by
  cases hopening : s.isOpening opening .queue with
  | false => exact .inl ⟨rfl, by simp [openingForQueueFailed, hopening]⟩
  | true => exact .inr ⟨rfl, by simp [openingForQueueFailed, hopening]⟩

theorem isQueued_eq_isSome (p : Pool) (request : Nat) :
    p.isQueued request = (p.pending.find? (·.id == request)).isSome := by
  rw [Pool.isQueued, Bool.eq_iff_iff, List.find?_isSome, List.any_eq_true]

/-- `poll` reads a connection that was sent. -/
theorem poll_of_lookup_ok {config : Config} {m : Moment} {request : Nat} {s : Site} {e : Entry}
    (hsent : s.inbox.lookup request = some (.ok e)) :
    s.poll config m request =
      (some (.ok e.info.id), lend e { s with inbox := s.inbox.eraseP (·.1 == request) }, []) := by
  simp [poll, receive, hsent]

/-- `poll` reads what was sent to the request, or finds that its time is up, or waits on. A request
that is neither answered nor queued has none to send to it. -/
theorem poll_cases (config : Config) (m : Moment) (request : Nat) (s : Site) :
    (∃ e, s.inbox.lookup request = some (.ok e) ∧
      s.poll config m request =
        (some (.ok e.info.id),
          lend e { s with inbox := s.inbox.eraseP (·.1 == request) }, [])) ∨
    (∃ error, s.inbox.lookup request = some (.error error) ∧
      s.poll config m request =
        (some (.error error), { s with inbox := s.inbox.eraseP (·.1 == request) }, [])) ∨
    (s.inbox.lookup request = none ∧
      ((s.pool.pending.find? (·.id == request) = none ∧
        s.poll config m request = (some (.error .poolClosed), s, [])) ∨
      ∃ r, s.pool.pending.find? (·.id == request) = some r ∧
        ((m.hasFired r.deadline = true ∧
          s.poll config m request =
            (some (.error (.acquisitionTimeout config.acquireTimeout)),
              { s with pool := s.pool.dequeue request }, [.note (.timedOut request)])) ∨
        (m.hasFired r.deadline = false ∧ s.poll config m request = (none, s, []))))) := by
  -- the answer counts before the queue, and the queue before the timer
  cases hinbox : s.inbox.lookup request with
  | some delivery =>
    cases delivery with
    | ok e => exact .inl ⟨e, rfl, poll_of_lookup_ok hinbox⟩
    | error error => exact .inr (.inl ⟨error, rfl, by simp [poll, receive, hinbox]⟩)
  | none =>
    refine .inr (.inr ⟨rfl, ?_⟩)
    cases hfind : s.pool.pending.find? (·.id == request) with
    | none => exact .inl ⟨rfl, by simp [poll, receive, hinbox, hfind]⟩
    | some r =>
      have hqueued : s.pool.isQueued request = true := by rw [isQueued_eq_isSome, hfind]; rfl
      refine .inr ⟨r, rfl, ?_⟩
      cases hfired : m.hasFired r.deadline with
      | true =>
        exact .inl ⟨rfl, by simp [poll, receive, leaveQueue, hinbox, hfind, hfired, hqueued]⟩
      | false => exact .inr ⟨rfl, by simp [poll, receive, hinbox, hfind, hfired]⟩

/-- A `poll` without outcome leaves the site as it is. -/
theorem poll_of_none {config : Config} {m : Moment} {request : Nat} {s : Site}
    (h : (s.poll config m request).1 = none) : s.poll config m request = (none, s, []) := by
  obtain ⟨e, -, heq⟩ | ⟨error, -, heq⟩ | ⟨-, ⟨-, heq⟩ | ⟨r, -, ⟨-, heq⟩ | ⟨-, heq⟩⟩⟩ :=
    poll_cases config m request s <;> rw [heq] at h
  all_goals first | exact heq | cases h

/-- `cancel` takes a queued request off the queue. -/
theorem cancel_of_isQueued {config : Config} {m : Moment} {request : Nat} {s : Site}
    (hqueued : s.pool.isQueued request = true) :
    s.cancel config m request =
      ({ s with pool := s.pool.dequeue request }, [.note (.cancelled request)]) := by
  simp [cancel, leaveQueue, hqueued]

/-- `cancel` takes in a connection that was sent to the request. -/
theorem cancel_of_lookup_ok {config : Config} {m : Moment} {request : Nat} {s : Site} {e : Entry}
    (hqueued : s.pool.isQueued request = false) (hsent : s.inbox.lookup request = some (.ok e)) :
    s.cancel config m request =
      takeIn config m e { s with inbox := s.inbox.eraseP (·.1 == request) } := by
  simp [cancel, leaveQueue, discard, hqueued, hsent]

/-- `cancel` takes a request off the queue; if a connection was already sent to it, the connection
is taken in. -/
theorem cancel_cases (config : Config) (m : Moment) (request : Nat) (s : Site) :
    (s.pool.isQueued request = true ∧
      s.cancel config m request =
        ({ s with pool := s.pool.dequeue request }, [.note (.cancelled request)])) ∨
    (s.pool.isQueued request = false ∧
      let emptied := { s with inbox := s.inbox.eraseP (·.1 == request) }
      (∃ e, s.inbox.lookup request = some (.ok e) ∧
        s.cancel config m request = takeIn config m e emptied) ∨
      ((∀ e, s.inbox.lookup request ≠ some (.ok e)) ∧
        s.cancel config m request = (emptied, []))) := by
  cases hqueued : s.pool.isQueued request with
  | true => exact .inl ⟨rfl, cancel_of_isQueued hqueued⟩
  | false =>
    refine .inr ⟨rfl, ?_⟩
    cases hinbox : s.inbox.lookup request with
    | none => exact .inr ⟨by simp, by simp [cancel, leaveQueue, discard, hqueued, hinbox]⟩
    | some delivery =>
      cases delivery with
      | ok e => exact .inl ⟨e, rfl, cancel_of_lookup_ok hqueued hinbox⟩
      | error error => exact .inr ⟨by simp, by simp [cancel, leaveQueue, discard, hqueued, hinbox]⟩

/-- `sweep` closes the idle connections of an open pool that are `unusable`. -/
theorem sweep_cases (config : Config) (m : Moment) (s : Site) :
    (s.pool.closed = true ∧ s.sweep config m = (0, s, [])) ∨
    (s.pool.closed = false ∧
      ∃ notes : List Effect,
        (notes = [] ∨ notes = [.note (.evicted (s.pool.unusable config m).length)]) ∧
      s.sweep config m =
        ((s.pool.unusable config m).length,
          (Change.andThen
            ({ s with pool := (s.pool.sweep config m).reserve config }, notes)
            (startClosing (s.pool.unusable config m))).andThen
            (openForQueue ((s.pool.sweep config m).openingsDue config)))) := by
  cases hclosed : s.pool.closed with
  | true => exact .inl ⟨rfl, by simp [sweep, hclosed]⟩
  | false =>
    refine .inr ⟨rfl, ?_⟩
    cases hempty : (s.pool.unusable config m).isEmpty with
    | true => exact ⟨[], .inl rfl, by simp [sweep, hclosed, hempty]⟩
    | false => exact ⟨_, .inr rfl, by simp [sweep, hclosed, hempty]⟩

/-- `closeFinished` counts the end of a close if the connection was being closed. -/
theorem closeFinished_cases (connection : Nat) (s : Site) :
    (s.closings.find? (·.info.id == connection) = none ∧ s.closeFinished connection = (s, [])) ∨
    ∃ e, s.closings.find? (·.info.id == connection) = some e ∧
      s.closeFinished connection =
        announce { s with
          closings := s.closings.eraseP (·.info.id == connection),
          pool := { s.pool with closing := s.pool.closing - 1 } } := by
  unfold closeFinished
  cases hfind : s.closings.find? (·.info.id == connection) with
  | none =>
    have : s.closings.any (·.info.id == connection) = false := by
      simpa using hfind
    exact .inl ⟨rfl, by rw [this, if_neg Bool.false_ne_true]⟩
  | some e =>
    have : s.closings.any (·.info.id == connection) = true := by
      rw [List.any_eq_true]
      exact ⟨e, List.mem_of_find?_eq_some hfind,
        List.find?_some (p := fun e : Entry => e.info.id == connection) hfind⟩
    exact .inr ⟨e, rfl, by rw [this, if_pos rfl]⟩

/-- The first `shutDown` clears the queue, whose requests are told, and closes what is idle. -/
theorem shutDown_cases (s : Site) :
    (s.pool.closed = true ∧ s.shutDown = (s, [])) ∨
    (s.pool.closed = false ∧
      s.shutDown =
        (Change.andThen
          ({ s with pool := s.pool.shutDown },
            [.stopSweep, .note (.shuttingDown s.pool.pending.length s.pool.idle.length)])
          (deliver (s.pool.pending.map fun r => (r.id, .error .poolClosed)))).andThen
          (startClosing s.pool.idle)) := by
  cases hclosed : s.pool.closed with
  | true => exact .inl ⟨rfl, by simp [shutDown, hclosed]⟩
  | false => exact .inr ⟨rfl, by rw [shutDown, hclosed, if_neg Bool.false_ne_true]; rfl⟩

end Site

end ConnectionPool
