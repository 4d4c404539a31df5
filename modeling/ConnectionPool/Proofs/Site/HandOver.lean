import ConnectionPool.Proofs.Site.Cancellation
import ConnectionPool.Proofs.Site.Staleness

/-!
# Handing over agrees with parking and claiming

A connection that is given back goes to the oldest request in time without having been idle. That is
a short cut. The long way is that those before that request leave the queue, and it as well, that
the connection is parked, and that an acquisition claims it at the same instant. Both ways lead to
the same site: the same caller's hands, the same counters, the same queue. What the short cut leaves
out is the date on which the connection was last given back, and what it adds is that those who were
late are told so.

The long way finds the connection usable whatever the limits are, because no time has passed since
it was parked, and nothing was idle before, because somebody waited.

## Main definitions

* `parkAside`: what an event makes of a site while the queue is put aside.
* `HandsOver`: both ways, and that they agree.

## Main results

* `handsOver_of_givenBack`: both ways agree wherever somebody in time waits.
-/

namespace ConnectionPool

/-- A connection is not `isExpired` if it is not older than the limit, where there is one. -/
theorem Metadata.isExpired_eq_false_iff {info : Metadata} {limit : Option Duration}
    {now : Instant} :
    info.isExpired limit now = false ↔ ∀ max, limit = some max → info.age now ≤ max := by
  refine ⟨fun h max hmax => age_le_of_not_isExpired h hmax, fun h => ?_⟩
  cases limit with
  | none => rfl
  | some max => exact decide_eq_false (Nat.not_lt.2 (h max rfl))

/-- No time passes between `parked` and a claim, so a connection `isReusable` if it was fit to be
parked. -/
theorem Entry.isReusable_parked {config : Config} {m : Moment} {e : Entry}
    (hhealthy : m.healthy e.conn = true)
    (hyoung : e.info.isExpired config.maxLifeTime m.now = false) :
    (e.parked m.now).isReusable config m = true := by
  refine isReusable_iff.2 ⟨hhealthy, ?_, hyoung⟩
  cases hlimit : config.maxIdleTime with
  | none => rfl
  | some max =>
    have hnone : (e.parked m.now).info.idleFor m.now ≤ max := Site.since_of_le (Int.le_refl _) max
    exact decide_eq_false (Nat.not_lt.2 hnone)

/-- `select` chooses a single idle connection if it is usable. -/
theorem Pool.select_singleton {usable : Entry → Bool} {e : Entry} (h : usable e = true) :
    select usable [e] = ⟨[], some e, []⟩ := by
  simp [select, h]

namespace Site

variable {config : Config} {s : Site} {event : Event} {m : Moment} {e : Entry}

/-- The site with another queue. -/
def withQueue (queue : List Request) (s : Site) : Site :=
  { s with pool := { s.pool with pending := queue } }

/-- What an event makes of a site while the queue is put aside with `withQueue`. -/
def parkAside (config : Config) (event : Event) (s : Site) : Site :=
  ((s.withQueue []).step config event).1.withQueue s.pool.pending

/-- Requests are given up by `cancel` one after another. -/
def leaving (m : Moment) (requests : List Request) : List Event :=
  requests.map fun r => .cancel m r.id

/-! ## Leaving, parking and claiming -/

/-- Requests at the front of the queue may be given up one after another, and
nothing else changes. -/
theorem run_leaving (config : Config) (m : Moment) {gone rest : List Request}
    (hpending : s.pool.pending = gone ++ rest) :
    s.run config (leaving m gone) = s.withQueue rest := by
  induction gone generalizing s with
  | nil =>
    rw [List.nil_append] at hpending
    rw [← hpending]
    rfl
  | cons r gone ih =>
    have hqueued : s.pool.isQueued r.id = true := by simp [Pool.isQueued, hpending]
    have hstep : (s.step config (.cancel m r.id)).1 = s.withQueue (gone ++ rest) := by
      rw [step, cancel_of_isQueued hqueued, Pool.dequeue, hpending]
      simp [withQueue]
    rw [leaving, List.map_cons, run, List.foldl_cons, hstep]
    exact ih (s := s.withQueue (gone ++ rest)) rfl

/-- `takeIn` passes a connection on that there is no reason to close. -/
theorem takeIn_of_fit (hfit : s.pool.closeReason? config m e = none) :
    takeIn config m e s = handOff config m.now e { s with pool := s.pool.takeBack } := by
  have hopen := (Pool.closeReason?_eq_none_iff.1 hfit).1
  -- whether a connection has to be closed does not depend on the counters
  have hkept : s.pool.takeBack.closeReason? config m e = none := hfit
  obtain ⟨reason, hreason, -⟩ | ⟨-, heq⟩ := takeIn_cases config m e s
  · cases hkept.symm.trans hreason
  · rw [heq]
    apply andThen_announce_of_open
    rw [handOff_fst]
    exact (Pool.handOff_closed _ _ _).trans hopen

/-- `takeIn` parks a connection that nobody waits for. -/
theorem takeIn_of_pending_nil (hfit : s.pool.closeReason? config m e = none)
    (hpending : s.pool.pending = []) :
    (takeIn config m e s).1 =
      { s with pool := { s.pool.takeBack with idle := s.pool.idle ++ [e.parked m.now] } } := by
  have hparked : s.pool.takeBack.handOff m.now e =
      ⟨[], none, { s.pool.takeBack with idle := s.pool.idle ++ [e.parked m.now] }⟩ := by
    simp [Pool.handOff, Pool.takeBack, hpending]
  rw [takeIn_of_fit hfit, handOff_fst, hparked]
  simp [Pool.Service.deliveries]

/-- `takeIn` hands a connection over that somebody in time waits for. -/
theorem takeIn_of_inTime (hfit : s.pool.closeReason? config m e = none) {late rest : List Request}
    {r : Request} (hlate : s.pool.pending.takeWhile (·.isLate m.now) = late)
    (hinTime : s.pool.pending.dropWhile (·.isLate m.now) = r :: rest) :
    (takeIn config m e s).1 =
      { s with
        pool := { s.pool.takeBack with pending := rest, inUse := s.pool.takeBack.inUse + 1 },
        inbox := s.inbox ++ (sentAs (late.map (·, timeUp config)) ++ [(r.id, .ok e)]) } := by
  have hserved : s.pool.takeBack.handOff m.now e = ⟨late, some r,
      { s.pool.takeBack with pending := rest, inUse := s.pool.takeBack.inUse + 1 }⟩ := by
    -- taking the connection back does not touch the queue
    rw [Pool.handOff]
    dsimp only [Pool.takeBack]
    rw [hlate, hinTime]
  rw [takeIn_of_fit hfit, handOff_fst, hserved]
  simp [Pool.Service.deliveries, sentAs, timeUp, Function.comp_def]

/-- Where a single connection is idle and `isReusable`, `acquire` claims it. -/
theorem acquire_of_idle_singleton (hopen : s.pool.closed = false) (hidle : s.pool.idle = [e])
    (husable : e.isReusable config m = true) :
    s.acquire config m =
      (.ok (.lease e.info.id),
        lend e { s with pool := { s.pool with idle := [], inUse := s.pool.inUse + 1 } },
        [.note (.reusing e.info.id)]) := by
  simp [acquire, hopen, Pool.decide, hidle, Pool.select_singleton husable, Pool.giveUp,
    startClosing, Change.andThen]

/-- `poll` reads what was sent last, and what was sent before stays. -/
theorem poll_of_sent_last (config : Config) {front : List (Nat × Delivery)} {request : Nat}
    (hrequests : s.requests.Nodup) (hinbox : s.inbox = front ++ [(request, .ok e)]) (m : Moment) :
    s.poll config m request = (some (.ok e.info.id), lend e { s with inbox := front }, []) := by
  have hkeys := (List.nodup_append.1 hrequests).2.1
  have hlookup : s.inbox.lookup request = some (.ok e) :=
    lookup_of_mem hkeys (by rw [hinbox]; exact List.mem_append_right _ (List.mem_singleton_self _))
  have herase : s.inbox.eraseP (·.1 == request) = front := by
    rw [hinbox, List.map_append, List.nodup_append] at hkeys
    rw [hinbox, List.eraseP_append_right _ fun sent hsent hrequest => ?_]
    · simp
    · exact hkeys.2.2 sent.1 (List.mem_map_of_mem hsent) request (by simp) (by simpa using hrequest)
  rw [poll_of_lookup_ok hlookup, herase]

/-- Who is in the queue does not matter to whoever gives a connection back. -/
theorem givenBack?_withQueue_nil (hback : s.givenBack? event = some e) :
    (s.withQueue []).givenBack? event = some e := by
  obtain ⟨m, lease, rfl, hlease⟩ | ⟨m, request, rfl, -, hsent⟩ := givenBack?_cases hback
  · exact hlease
  · exact congrArg (·.bind Except.toOption) hsent

/-- The short way: the connection is handed over. -/
theorem step_of_inTime (hback : s.givenBack? event = some e) (hm : event.moment? = some m)
    (hfit : s.pool.closeReason? config m e = none) {late rest : List Request} {r : Request}
    (hlate : s.pool.pending.takeWhile (·.isLate m.now) = late)
    (hinTime : s.pool.pending.dropWhile (·.isLate m.now) = r :: rest) :
    (s.step config event).1 =
        { s.withdraw event with
          pool := { s.pool.takeBack with pending := rest, inUse := s.pool.takeBack.inUse + 1 },
          inbox := (s.withdraw event).inbox ++
            sentAs (late.map (·, timeUp config)) ++ [(r.id, .ok e)] } ∧
      closesOf (s.step config event).2 = [] := by
  obtain ⟨notes, heq⟩ := step_of_givenBack config hback hm
  rw [← withdraw_pool s event] at hfit hlate hinTime
  rw [heq, Change.andThen_fst, Change.andThen_snd]
  constructor
  · rw [takeIn_of_inTime hfit hlate hinTime, withdraw_pool, List.append_assoc]
  · rw [closesOf_append, closesOf_notes, takeIn_of_fit hfit, closesOf_handOff]
    rfl

/-- The long way: the connection is parked. -/
theorem parkAside_of_givenBack (hback : s.givenBack? event = some e) (hm : event.moment? = some m)
    (hfit : s.pool.closeReason? config m e = none) (rest : List Request) :
    parkAside config event (s.withQueue rest) =
      { s.withdraw event with
        pool := { s.pool.takeBack with
          pending := rest, idle := s.pool.idle ++ [e.parked m.now] } } := by
  obtain ⟨notes, heq⟩ := step_of_givenBack config (givenBack?_withQueue_nil hback) hm
  have hfit' : ((s.withQueue []).withdraw event).pool.closeReason? config m e = none := by
    rw [withdraw_pool]
    exact hfit
  have hparked := takeIn_of_pending_nil hfit' (by rw [withdraw_pool]; rfl)
  show ((s.withQueue []).step config event).1.withQueue rest = _
  rw [heq, Change.andThen_fst, hparked]
  -- whoever gives the connection back, the queue is put aside and put back around it
  cases event <;> rfl

/-! ## Both ways -/

/-- `HandsOver config m event e s late r rest`: a connection `e` is given back at an event while `r`
is the oldest request in time, those before it, `late`, have run out of time, and `rest` are behind
it. It is handed over to `r`, or else the first of the queue leave, the connection is parked, and
the caller of `r` acquires afresh. -/
structure HandsOver (config : Config) (m : Moment) (event : Event) (e : Entry) (s : Site)
    (late : List Request) (r : Request) (rest : List Request) : Prop where
  /-- The queue is in this order. -/
  order : s.pool.pending = late ++ r :: rest
  /-- Those at the front are late. -/
  isLate : ∀ q ∈ late, q.isLate m.now = true
  /-- The request right behind them is in time. -/
  inTime : r.isLate m.now = false
  /-- The short way: the caller of the request has the connection as soon as it polls. -/
  handed : ∀ m', ((s.step config event).1.poll config m' r.id).1 = some (.ok e.info.id)
  /-- The long way begins with leaving the queue, which changes nothing else. -/
  left : s.run config (leaving m (late ++ [r])) = s.withQueue rest
  /-- The connection is then parked as the only one that is idle. -/
  parked : (parkAside config event (s.withQueue rest)).pool.idle = [e.parked m.now]
  /-- The caller then gets the same connection. -/
  claimed : ((parkAside config event (s.withQueue rest)).acquire config m).1 =
    .ok (.lease e.info.id)
  /-- Both ways lead to the same site with the same books: the same is idle, in the queue and being
  opened or closed, and all counters are equal. The long way only dates the connection in the
  caller's hands, and the short way only tells those who were late. -/
  agree : ∀ m',
    let short := ((s.step config event).1.poll config m' r.id).2.1
    let long := ((parkAside config event (s.withQueue rest)).acquire config m).2.1
    long.leases = (s.withdraw event).leases ++
      [{ e.acquired with info := { e.acquired.info with lastReleasedAt := m.now } }] ∧
    short = { long with
      inbox := long.inbox ++ sentAs (late.map (·, timeUp config)),
      leases := (s.withdraw event).leases ++ [e.acquired] }
  /-- No connection is closed on either way. -/
  quiet : closesOf (s.step config event).2 = [] ∧
    closesOf ((parkAside config event (s.withQueue rest)).acquire config m).2.2 = []

/-- A connection that is given back to an open pool, healthy and within its life limit, `HandsOver`
to the oldest request in time as if it had been parked and claimed at once. -/
theorem handsOver_of_givenBack (h : Reachable config s) (hopen : s.pool.closed = false)
    (hm : event.moment? = some m) (hback : s.givenBack? event = some e)
    (hhealthy : m.healthy e.conn = true)
    (hyoung : ∀ max, config.maxLifeTime = some max → e.info.age m.now ≤ max)
    (hwaits : ∃ r ∈ s.pool.pending, r.isLate m.now = false) :
    ∃ late r rest, HandsOver config m event e s late r rest := by
  have hexpired := Metadata.isExpired_eq_false_iff.2 hyoung
  have hfit : s.pool.closeReason? config m e = none :=
    Pool.closeReason?_eq_none_iff.2 ⟨hopen, hhealthy, hexpired⟩
  obtain ⟨-, -, hall⟩ | ⟨late, r, rest, horder, hlate, hr, htake, hdrop⟩ :=
    Pool.late_append_cases m.now s.pool.pending
  · obtain ⟨r, hmem, hr⟩ := hwaits
    cases hr.symm.trans (hall r hmem)
  -- nothing is idle where somebody waits, so the parked connection is the only one
  have hidle : s.pool.idle = [] :=
    ((justified_of_reachable h).waiting (by rw [horder]; simp)).2.2.1
  obtain ⟨hstep, hquiet⟩ := step_of_inTime hback hm hfit htake hdrop
  have hpark := parkAside_of_givenBack hback hm hfit rest
  rw [hidle, List.nil_append] at hpark
  -- the request is answered last, so its caller reads that answer
  have hpoll (m' : Moment) := poll_of_sent_last config
    (requests_numbered (h.step event)).nodup (by rw [hstep]) m'
  have hclaim := acquire_of_idle_singleton
    (s := parkAside config event (s.withQueue rest)) (by rw [hpark]; exact hopen)
    (by rw [hpark]) (Entry.isReusable_parked hhealthy hexpired)
  refine ⟨late, r, rest, horder, hlate, hr, fun m' => ?_, ?_, ?_, ?_, fun m' => ?_, hquiet, ?_⟩
  · rw [hpoll]
  · exact run_leaving config m (by rw [horder]; simp)
  · rw [hpark]
  · rw [hclaim]
    rfl
  · dsimp only
    rw [hpoll, hclaim, hstep, hpark]
    refine ⟨rfl, ?_⟩
    simp only [lend, Pool.takeBack, hidle]
  · rw [hclaim]
    rfl

/-- `Config.oneSlot` with a `maxIdleTime` of zero, so that nothing may stay idle. -/
def oneSlotHurried : Config :=
  { Config.oneSlot with maxIdleTime := some .zero, maxLifeTime := some (.ofMillis 1200) }

/-- Two callers wait for the only connection. -/
def waitingTwo : Site :=
  (fresh (.ofAddress "db:1")).run oneSlotHurried (crowded ++ [.acquire (.atMillis 500)])

/-- The connection comes back just before it is too old, and when the first of the two is late. -/
theorem handsOver_waitingTwo :
    Reachable oneSlotHurried waitingTwo ∧ waitingTwo.pool.closed = false ∧
      waitingTwo.pool.pending.map (fun r => (r.id, r.isLate (.ofMillis 1200))) =
        [(1, true), (2, false)] ∧
      ∃ e late r rest, waitingTwo.givenBack? (.release (.atMillis 1200) 1) = some e ∧
        e.info.age (.ofMillis 1200) = .ofMillis 1200 ∧
        HandsOver oneSlotHurried (.atMillis 1200) (.release (.atMillis 1200) 1) e waitingTwo late r
          rest := by
  have h : Reachable oneSlotHurried waitingTwo := (Reachable.fresh _).run _
  refine ⟨h, rfl, by decide, (waitingTwo.lease? 1).get rfl, ?_⟩
  obtain ⟨late, r, rest, hover⟩ : ∃ late r rest, HandsOver oneSlotHurried (.atMillis 1200)
      (.release (.atMillis 1200) 1) ((waitingTwo.lease? 1).get rfl) waitingTwo late r rest :=
    handsOver_of_givenBack h rfl rfl rfl rfl (fun max hmax => by cases hmax; decide)
      ⟨waitingTwo.pool.pending[1], by decide, by decide⟩
  exact ⟨late, r, rest, rfl, by decide, hover⟩

end Site

end ConnectionPool
