import ConnectionPool.Proofs.Provider.Waiters
import ConnectionPool.Proofs.Site.Demand
import ConnectionPool.Proofs.Site.Failures

/-!
# A failed opening hurts at most one caller

When the transport cannot open a connection, one acquisition at most learns of it. The caller of the
opening gets the error, and those who wait in the queue keep their places. Where the opening was for
the queue, the oldest request in time gets the error, those before it would have run out of time
anyway, and those behind it keep their places and get the slot. `HurtsOne` says for each case what
becomes of the provider.

## Main definitions

* `Learn`: what those who wait at a site learn of an opening that failed.
* `HurtsOne`: what the failure of an opening does.

## Main results

* `failure_hurts_one`: in every reachable provider the failure of an opening hurts
  at most one caller.
-/

namespace ConnectionPool.Provider

variable {config : Config} {p : Provider} {id site : Nat} {s : Site} {failure : ConnectFailure}
  {m : Moment} {opening : Nat}

/-- `openingFailed` tells the caller of the opening at the site in whose slot it is. -/
theorem openingFailed_of_opening {d : Destination}
    (hknown : p.acquisitions.lookup id = some (.opening d site opening))
    (hs : p.sites[site]? = some s) :
    p.openingFailed id failure =
      ((s.openingFailed p.config opening failure).1,
        (p.setSite site (s.openingFailed p.config opening failure).2.1).finishAcquisition id,
        (s.openingFailed p.config opening failure).2.2.map (.site site)) := by
  rw [openingFailed, hknown]
  dsimp only
  rw [changeSiteReporting, changeSite, hs]
  rfl

/-- `openingForQueueFailed` concerns the site of the opening. -/
theorem openingForQueueFailed_of_site (hs : p.sites[site]? = some s) (m : Moment) (opening : Nat)
    (failure : ConnectFailure) :
    p.openingForQueueFailed m site opening failure =
      (p.setSite site (s.openingForQueueFailed p.config opening failure m).1,
        (s.openingForQueueFailed p.config opening failure m).2.map (.site site)) := by
  rw [openingForQueueFailed, changeSite, hs]
  rfl

/-- `Learn config failure site late oldest rest p q`: what those who wait at a site learn of an
opening that failed. `late` are those who were late, `oldest` was the oldest request in time, and
`rest` were behind it. -/
structure Learn (config : Config) (failure : ConnectFailure) (site : Nat) (late : List Request)
    (oldest : Option Request) (rest : List Request) (p q : Provider) : Prop where
  /-- Whoever was late learns that its time is up, and not of the failure. -/
  late : ∀ r ∈ late, ∀ id deadline, p.acquisitions.lookup id = some (.queued site r.id deadline) →
    ∀ m, (q.poll m id).1 = .finished (.error (.acquisitionTimeout config.acquireTimeout))
  /-- The oldest in time learns of the failure. -/
  oldest : ∀ r, oldest = some r → ∀ id deadline,
    p.acquisitions.lookup id = some (.queued site r.id deadline) →
    ∀ m, (q.poll m id).1 = .finished (.error (.connectionCreation failure))
  /-- Whoever was behind waits on, as before. -/
  rest : ∀ r ∈ rest, ∀ id deadline, p.acquisitions.lookup id = some (.queued site r.id deadline) →
    Waiter.Waits ⟨id, site, r.id, deadline⟩ q

/-- Whoever was sent something reads it, and whoever is still queued waits. -/
theorem learn_of_told {late rest : List Request} {oldest : Option Request} {t : Site}
    (hs : p.sites[site]? = some s) (hq : Reachable config (p.setSite site t))
    (hpending : t.pool.pending = rest)
    (hinbox : t.inbox = s.inbox ++ Site.failureTold config failure late oldest) :
    Learn config failure site late oldest rest p (p.setSite site t) := by
  have ht : (p.setSite site t).sites[site]? = some t :=
    (getElem?_setSite t hs site).trans (if_pos rfl)
  -- no request is in two places, so whoever was told something is no longer queued
  have hrequests := (Site.requests_numbered ((sound_of_reachable hq).site ht)).nodup
  have hreads {r : Request} {answer : Delivery} {id : Nat} {deadline : Instant}
      (hknown : p.acquisitions.lookup id = some (.queued site r.id deadline))
      (htold : (r.id, answer) ∈ Site.failureTold config failure late oldest) (m : Moment) :
      ((p.setSite site t).poll m id).1 = .finished (answer.map fun e => ⟨site, e.info.id⟩) := by
    have hsent : t.Sent r.id answer :=
      (Site.sent_iff hrequests).2 (hinbox ▸ List.mem_append_right _ htold)
    have hanswered : Waiter.Answered ⟨id, site, r.id, deadline⟩ answer (p.setSite site t) :=
      ⟨hknown, t, ht, hsent⟩
    exact (step_poll_of_answered hq hanswered m).1
  refine ⟨fun r hr id deadline hknown m => ?_, fun r hr id deadline hknown m => ?_,
    fun r hr id deadline hknown => ?_⟩
  · exact hreads hknown (Site.timeUp_mem_failureTold hr) m
  · exact hreads hknown (Site.error_mem_failureTold hr) m
  · have hqueued : r ∈ t.pool.pending := hpending ▸ hr
    have hdeadline := (linked_of_reachable hq).deadlines id site r.id deadline
      (mem_of_lookup hknown) t ht r hqueued rfl
    exact ⟨hknown, t, ht, (Site.queues_iff hrequests).2 ⟨r, hqueued, rfl, hdeadline⟩⟩

/-- `HurtsOne config failure p`: what the failure of an opening does. -/
structure HurtsOne (config : Config) (failure : ConnectFailure) (p : Provider) : Prop where
  /-- The failure of an opening for a caller is reported to that caller as it is. Of the site, the
  opening ends and its slot is used again, and the queue and what was sent to it stay. Where nobody
  waits the slot is given back, and whoever waits for the pool's end is told. Where somebody waits,
  exactly one opening for the queue takes the slot, so that the bound is reached as before. -/
  direct : ∀ id d site opening, p.acquisitions.lookup id = some (.opening d site opening) →
    ∃ s, p.sites[site]? = some s ∧ 1 ≤ s.pool.allocated ∧
      (p.openingFailed id failure).1 = .connectionCreation failure ∧
      (s.pool.pending = [] →
        (p.openingFailed id failure).2 =
          ((p.setSite site { s.endOpening opening with
              pool := { s.pool with allocated := s.pool.allocated - 1 },
              drain := s.drain.told s.pool.closed }).finishAcquisition id,
            (.note (.openingFailed failure) :: s.notice).map (.site site))) ∧
      (s.pool.pending ≠ [] →
        s.pool.closed = false ∧ config.maxConnections.get = some s.pool.allocated ∧
        (p.openingFailed id failure).2 =
          ((p.setSite site ((s.endOpening opening).beginOpening .queue)).finishAcquisition id,
            [.note (.openingFailed failure), .openForQueue s.nextOpening].map (.site site)))
  /-- The failure of an opening for the queue of an open pool: those at the front of the queue who
  are late and the oldest request in time, if there is one, leave the queue and are told, each the
  right thing. The others stay in order. If any do, exactly one opening for the queue is begun, so
  that the bound is reached as before, and if none do, the slot is given back. -/
  queue : ∀ m site opening s, p.sites[site]? = some s → s.isOpening opening .queue = true →
    s.pool.closed = false →
    ∃ late oldest rest, Pool.Turn m.now s.pool.pending late oldest rest ∧ 1 ≤ s.pool.allocated ∧
      Learn config failure site late oldest rest p
        (p.openingForQueueFailed m site opening failure).1 ∧
      let told := Site.failureTold config failure late oldest
      let failed : List Site.Effect :=
        .note (.openingForQueueFailed failure) :: told.map fun sent => .wake sent.1
      (rest = [] →
        p.openingForQueueFailed m site opening failure =
          (p.setSite site { s.endOpening opening with
              pool := { s.pool with pending := [], allocated := s.pool.allocated - 1 },
              inbox := s.inbox ++ told },
            failed.map (.site site))) ∧
      (rest ≠ [] →
        config.maxConnections.get = some s.pool.allocated ∧
        p.openingForQueueFailed m site opening failure =
          (p.setSite site (Site.beginOpening .queue { s.endOpening opening with
              pool := { s.pool with pending := rest },
              inbox := s.inbox ++ told }),
            (failed ++ [Site.Effect.openForQueue s.nextOpening]).map (.site site)))
  /-- In a pool that has been shut down nobody waits. The failure of an opening for the queue gives
  the slot back and tells whoever waits for the pool's end. Nothing is sent and nothing is begun. -/
  closed : ∀ m site opening s, p.sites[site]? = some s → s.pool.closed = true →
    s.pool.pending = [] ∧
    (s.isOpening opening .queue = true →
      p.openingForQueueFailed m site opening failure =
        (p.setSite site { s.endOpening opening with
            pool := { s.pool with allocated := s.pool.allocated - 1 },
            drain := s.drain.told true },
          (.note (.openingForQueueFailed failure) :: s.notice).map (.site site)))

/-- In every `Reachable` provider the failure of an opening `HurtsOne` caller at most. -/
theorem failure_hurts_one (h : Reachable config p) (failure : ConnectFailure) :
    HurtsOne config failure p := by
  have hsound := sound_of_reachable h
  refine ⟨fun id d site opening hknown => ?_, fun m site opening s hs hopening hopen => ?_,
    fun m site opening s hs hclosed => ?_⟩
  -- an opening for a caller
  · obtain ⟨s, hs, hopening⟩ := isOpening_of_lookup (linked_of_reachable h) hknown
    have hreachable := hsound.site hs
    have hwaiting := (Site.justified_of_reachable hreachable).waiting
    refine ⟨s, hs, ((Site.balance_of_reachable hreachable).covers_opening hopening).allocated, ?_,
      fun hpending => ?_, fun hpending => ?_⟩
    · rw [openingFailed_of_opening hknown hs]
      rfl
    · rw [openingFailed_of_opening hknown hs,
        Site.openingFailed_of_pending_nil hopening hpending]
    · refine ⟨(hwaiting hpending).1, (hwaiting hpending).2.2.2, ?_⟩
      rw [openingFailed_of_opening hknown hs, hsound.settings,
        Site.openingFailed_of_pending_ne_nil hreachable hopening hpending]
  -- an opening for the queue of an open pool
  · have hreachable := hsound.site hs
    obtain ⟨late, oldest, rest, hturn, hserved⟩ := Pool.failOldest_turn m.now s.pool.freeSlot
    -- giving the slot back does not touch the queue
    have hturn : Pool.Turn m.now s.pool.pending late oldest rest := hturn
    have hafter := openingForQueueFailed_of_site hs m opening failure
    refine ⟨late, oldest, rest, hturn,
      ((Site.balance_of_reachable hreachable).covers_opening hopening).allocated, ?_,
      fun hrest => ?_, fun hrest => ?_⟩
    · have hnext := h.step (.openingForQueueFailed m site opening failure)
      obtain ⟨hpending, hinbox⟩ :=
        Site.openingForQueueFailed_told p.config failure hopening hserved
      rw [step, hafter] at hnext
      rw [hsound.settings] at hinbox hpending hnext hafter
      rw [hafter]
      exact learn_of_told hs hnext hpending hinbox
    · subst hrest
      rw [hafter, Site.openingForQueueFailed_of_rest_nil hopening hserved, hsound.settings]
      rw [Site.notice_of_open hopen, hopen, Site.told_false, List.append_nil]
      rfl
    · have hpending : s.pool.pending ≠ [] := by
        rw [hturn.order]
        simp [hrest]
      rw [hafter, hsound.settings,
        Site.openingForQueueFailed_of_rest_ne_nil hreachable hopening hserved hpending hrest]
      exact ⟨((Site.justified_of_reachable hreachable).waiting hpending).2.2.2, rfl⟩
  -- an opening for the queue of a pool that has been shut down
  · have hpending := ((Site.justified_of_reachable (hsound.site hs)).closed hclosed).1
    refine ⟨hpending, fun hopening => ?_⟩
    rw [openingForQueueFailed_of_site hs,
      Site.openingForQueueFailed_of_pending_nil hopening hpending, hclosed]

/-- Three callers wait for the only slot of a pool, which an opening for the queue has taken after
the first opening failed, and a fifth caller waits for its own opening in another pool. -/
def queuedThree : List Event :=
  [.acquire (.ofAddress "db:1"), .poll (.atMillis 0) 0,
    .acquire (.ofAddress "db:1"), .poll (.atMillis 0) 1,
    .acquire (.ofAddress "db:1"), .poll (.atMillis 500) 2,
    .acquire (.ofAddress "db:1"), .poll (.atMillis 600) 3,
    .openingFailed 0 (.refused "db:1"),
    .acquire (.ofAddress "db:2"), .poll (.atMillis 700) 4]

/-- When the opening for the queue fails too, the first of the three is late, the second learns of
the failure, and the third waits for the next opening. -/
theorem failure_hurts_one_queuedThree :
    ((ofConfig .oneSlot).run queuedThree).acquisitions.lookup 4 =
        some (.opening (.ofAddress "db:2") 1 1) ∧
      (((ofConfig .oneSlot).run queuedThree).sites.map fun s =>
        (s.pool.pending.map (·.id), s.pool.allocated, s.openings, s.pool.closed)) =
        [([1, 2, 3], 1, [⟨2, .queue⟩], false), ([], 1, [⟨1, .caller⟩], false)] ∧
      (((((ofConfig .oneSlot).run queuedThree).openingForQueueFailed (.atMillis 1200) 0 2
        (.refused "db:1")).1.sites[0]?).map
        fun s => (s.pool.pending.map (·.id), s.openings, s.inbox)) =
        some ([3], [⟨3, .queue⟩],
          [(1, .error (.acquisitionTimeout (.ofSeconds 1))),
            (2, .error (.connectionCreation (.refused "db:1")))]) ∧
      HurtsOne .oneSlot (.refused "db:1") ((ofConfig .oneSlot).run queuedThree) :=
  ⟨by decide, by decide, by decide, failure_hurts_one (Reachable.start.run queuedThree) _⟩

end ConnectionPool.Provider
