import ConnectionPool.Proofs.Provider.Waiters
import ConnectionPool.Proofs.Site.Cancellation
import ConnectionPool.Proofs.Site.Demand

/-!
# Giving an acquisition up at any point

An acquisition can be given up while it is unpolled, while its own connection is being opened, while
it waits in a queue, and after it was sent an error or a connection that it has not read. No other
situation exists. `GivesUpCleanly` says for each of them what becomes of the provider: its
acquisition is over, one site at most has changed, and of that site one thing at most.

## Main definitions

* `GivesUpCleanly`: what giving an acquisition up does.

## Main results

* `gives_up_cleanly`: in every reachable provider every acquisition is given up cleanly.
-/

namespace ConnectionPool.Provider

variable {config : Config} {p : Provider} {id site : Nat} {s : Site}

/-- `abandon` of a queued acquisition is `Site.cancel` at the site in whose queue it was. -/
theorem abandon_of_queued {request : Nat} {deadline : Instant}
    (hknown : p.acquisitions.lookup id = some (.queued site request deadline))
    (hs : p.sites[site]? = some s) (m : Moment) :
    p.abandon m id =
      ((p.setSite site (s.cancel p.config m request).1).finishAcquisition id,
        (s.cancel p.config m request).2.map (.site site)) := by
  rw [abandon, hknown]
  dsimp only
  rw [changeSite, hs]
  rfl

/-- `abandon` of an opening is `Site.abandon` at the site in whose slot it is. -/
theorem abandon_of_opening {d : Destination} {opening : Nat}
    (hknown : p.acquisitions.lookup id = some (.opening d site opening))
    (hs : p.sites[site]? = some s) (m : Moment) :
    p.abandon m id =
      ((p.setSite site (s.abandon p.config opening).1).finishAcquisition id,
        (s.abandon p.config opening).2.map (.site site)) := by
  rw [abandon, hknown]
  dsimp only
  rw [changeSite, hs]
  rfl

/-- `poll` that reads the outcome of a request is `Site.poll` at the site in whose queue it was. -/
theorem poll_of_queued {request : Nat} {deadline : Instant} {t : Site}
    {result : Except PoolError Nat}
    (hknown : p.acquisitions.lookup id = some (.queued site request deadline))
    (hs : p.sites[site]? = some s) {m : Moment}
    (hpoll : s.poll p.config m request = (some result, t, [])) :
    p.poll m id =
      (.finished (result.map (⟨site, ·⟩)), (p.setSite site t).finishAcquisition id, []) := by
  rw [poll, hknown]
  dsimp only
  rw [pollQueued, changeSiteReporting, changeSite, hs]
  dsimp only [Option.map_some, Option.getD_some]
  rw [hpoll]
  rfl

/-- `GivesUpCleanly config m id p`: what giving an acquisition up does, in each situation in which
it can be. -/
structure GivesUpCleanly (config : Config) (m : Moment) (id : Nat) (p : Provider) : Prop where
  /-- Before its first poll an acquisition is `fresh` and has done nothing, and there is nothing to
  undo. -/
  unpolled : ∀ d, p.acquisitions.lookup id = some (.fresh d) →
    p.abandon m id = (p.finishAcquisition id, [])
  /-- While it `Queues`, exactly its request leaves the queue, and no other field of the site
  changes; the line in the log says so. -/
  queued : ∀ site request deadline s,
    p.acquisitions.lookup id = some (.queued site request deadline) → p.sites[site]? = some s →
    s.Queues request deadline →
    ∃ before r after, s.pool.pending = before ++ r :: after ∧ r.id = request ∧
      p.abandon m id =
        ((p.setSite site { s with
            pool := { s.pool with pending := before ++ after } }).finishAcquisition id,
          [.site site (.note (.cancelled request))])
  /-- After it was `Sent` an error, only the unread error is thrown away. -/
  failed : ∀ site request deadline s error,
    p.acquisitions.lookup id = some (.queued site request deadline) → p.sites[site]? = some s →
    s.Sent request (.error error) →
    ∃ before after, s.inbox = before ++ (request, .error error) :: after ∧
      p.abandon m id =
        ((p.setSite site { s with inbox := before ++ after }).finishAcquisition id, [])
  /-- During its own opening, which is `opening`, the slot becomes free. Where nobody waits in the
  queue, as in every closed pool, the slot is given back, and whoever waits for the pool's end is
  told. Where somebody waits, the pool is open, and exactly one opening for the queue takes the
  slot, so that the bound is reached as before. Nothing else changes. -/
  connecting : ∀ d site opening s,
    p.acquisitions.lookup id = some (.opening d site opening) → p.sites[site]? = some s →
    1 ≤ s.pool.allocated ∧
    (s.pool.closed = true → s.pool.pending = []) ∧
    (s.pool.pending = [] →
      p.abandon m id =
        ((p.setSite site { s.endOpening opening with
            pool := { s.pool with allocated := s.pool.allocated - 1 },
            drain := s.drain.told s.pool.closed }).finishAcquisition id,
          s.notice.map (.site site))) ∧
    (s.pool.pending ≠ [] →
      config.maxConnections.get = some s.pool.allocated ∧
      p.abandon m id =
        ((p.setSite site ((s.endOpening opening).beginOpening .queue)).finishAcquisition id,
          [.site site (.openForQueue s.nextOpening)]))
  /-- After it was `Sent` a connection, `abandon` is the same as `poll` and `release` at once: the
  same site, but for one hand-out that is not `counted`, and the same effects in the same order, but
  for the count in what is closed and for the line about giving back. -/
  served : ∀ site request deadline s e,
    p.acquisitions.lookup id = some (.queued site request deadline) → p.sites[site]? = some s →
    s.Sent request (.ok e) →
    ∃ t, ∃ effects : List Site.Effect,
      p.abandon m id = ((p.setSite site t).finishAcquisition id, effects.map (.site site)) ∧
      (p.poll m id).1 = .finished (.ok ⟨site, e.info.id⟩) ∧ (p.poll m id).2.2 = [] ∧
      (p.poll m id).2.1.release m ⟨site, e.info.id⟩ =
        ((p.setSite site (t.counted e.info.id)).finishAcquisition id,
          (.note (.returning e.info.id) :: effects.map (.counted e.info.id)).map (.site site))
  /-- There is no other situation. -/
  situations : ∀ known, p.acquisitions.lookup id = some known →
    (∃ d, known = .fresh d) ∨
    (∃ d site opening s, known = .opening d site opening ∧ p.sites[site]? = some s) ∨
    ∃ site request deadline s, known = .queued site request deadline ∧ p.sites[site]? = some s ∧
      (s.Queues request deadline ∨ (∃ error, s.Sent request (.error error)) ∨
        ∃ e, s.Sent request (.ok e))

/-- In every `Reachable` provider every acquisition `GivesUpCleanly`, at any moment. -/
theorem gives_up_cleanly (h : Reachable config p) (m : Moment) (id : Nat) :
    GivesUpCleanly config m id p := by
  have hsound := sound_of_reachable h
  have hlinked := linked_of_reachable h
  refine ⟨fun d hknown => ?_, fun site request deadline s hknown hs hqueues => ?_,
    fun site request deadline s error hknown hs hsent => ?_,
    fun d site opening s hknown hs => ?_,
    fun site request deadline s e hknown hs hsent => ?_, fun known hknown => ?_⟩
  · rw [abandon, hknown]
  · obtain ⟨before, r, after, hpending, hid, hcancel⟩ :=
      Site.cancel_of_queues hqueues p.config m
    refine ⟨before, r, after, hpending, hid, ?_⟩
    rw [abandon_of_queued hknown hs, hcancel]
    rfl
  · obtain ⟨before, after, hinbox, hcancel⟩ := Site.cancel_of_sent_error (hsound.site hs) hsent m
    refine ⟨before, after, hinbox, ?_⟩
    rw [abandon_of_queued hknown hs, hsound.settings, hcancel]
    rfl
  · obtain ⟨s', hs', hopening⟩ := isOpening_of_lookup hlinked hknown
    obtain rfl : s = s' := Option.some.inj (hs.symm.trans hs')
    have hreachable := hsound.site hs
    have hjustified := Site.justified_of_reachable hreachable
    refine ⟨((Site.balance_of_reachable hreachable).covers_opening hopening).allocated,
      fun hclosed => (hjustified.closed hclosed).1, fun hpending => ?_, fun hpending => ?_⟩
    · rw [abandon_of_opening hknown hs, Site.abandon_of_pending_nil hopening hpending]
    · refine ⟨(hjustified.waiting hpending).2.2.2, ?_⟩
      rw [abandon_of_opening hknown hs, hsound.settings,
        Site.abandon_of_pending_ne_nil hreachable hopening hpending]
      rfl
  · obtain ⟨t, hpoll, hrelease⟩ := Site.release_of_poll (hsound.site hs) hsent m
    rw [← hsound.settings] at hpoll hrelease
    refine ⟨_, _, abandon_of_queued hknown hs m, ?_⟩
    have ht : (p.setSite site t).sites[site]? = some t :=
      (getElem?_setSite t hs site).trans (if_pos rfl)
    rw [poll_of_queued hknown hs hpoll]
    refine ⟨rfl, rfl, ?_⟩
    -- giving the connection back acts at the same site
    have hafter : ((p.setSite site t).finishAcquisition id).sites[site]? = some t := ht
    rw [release, changeSite, hafter]
    dsimp only
    rw [finishAcquisition, setSite, hrelease]
    simp only [List.set_set]
    rfl
  · cases known with
    | fresh d => exact .inl ⟨d, rfl⟩
    | opening d site opening =>
      obtain ⟨s, hs, -⟩ := isOpening_of_lookup hlinked hknown
      exact .inr (.inl ⟨d, site, opening, s, rfl, hs⟩)
    | queued site request deadline =>
      obtain ⟨-, s, hs, hqueues⟩ | ⟨answer, -, s, hs, hsent⟩ :=
        answered_or_waits (w := ⟨id, site, request, deadline⟩) h hknown
      · exact .inr (.inr ⟨site, request, deadline, s, rfl, hs, .inl hqueues⟩)
      · refine .inr (.inr ⟨site, request, deadline, s, rfl, hs, .inr ?_⟩)
        cases answer with
        | error error => exact .inl ⟨error, hsent⟩
        | ok e => exact .inr ⟨e, hsent⟩

/-- The second acquisition was sent the connection and may be given up without reading it. -/
theorem gives_up_cleanly_handedOn :
    ((ofConfig .oneSlot).run handedOn).acquisitions =
        [(1, .queued 0 1 (.ofMillis 1000))] ∧
      (((ofConfig .oneSlot).run handedOn).sites.map fun s =>
        (s.pool.pending, s.inbox.length)) = [([], 1)] ∧
      GivesUpCleanly .oneSlot (.atMillis 5) 1 ((ofConfig .oneSlot).run handedOn) :=
  ⟨by decide, by decide, gives_up_cleanly (Reachable.start.run handedOn) (.atMillis 5) 1⟩

end ConnectionPool.Provider
