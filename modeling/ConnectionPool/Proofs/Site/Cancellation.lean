import ConnectionPool.Proofs.Site.Holdings
import ConnectionPool.Proofs.Site.Queue
import ConnectionPool.Proofs.Site.Waiting

/-!
# Giving an acquisition up

Whoever gives an acquisition up leaves the site as if it had never asked, as far as that is
possible. A request that still waits leaves the queue. The slot of an opening is given back, and
where somebody waits for one it is taken at once for the queue. An error that was already sent is
thrown away.

A connection that was already sent has to go back. It goes the same way as a connection that its
caller gives back without having used it, and only one trace tells the two apart: a connection that
was never read was not counted as handed out once more. `Site.counted` makes up for that.

## Main definitions

* `Site.counted`, `Site.Effect.counted`: a site, and what is asked of its surroundings, after one
  more hand-out of a connection is counted.

## Main results

* `abandon_of_pending_nil`, `abandon_of_pending_ne_nil`: what becomes of the slot of an opening.
* `cancel_of_queues`, `cancel_of_sent_error`: what becomes of a request without a connection.
* `release_of_poll`: to give up a connection that was sent is to read it and to give it back.
-/

namespace ConnectionPool

/-- The entry after one more hand-out is counted. -/
def Entry.counted (e : Entry) : Entry :=
  { e with info := { e.info with acquireCount := e.info.acquireCount + 1 } }

/-- The entry, counted once more if it has the number. -/
def Entry.countedIf (number : Nat) (e : Entry) : Entry :=
  if e.info.id == number then e.counted else e

/-- The entry, marked as handed out if it has the number. -/
def Entry.acquiredIf (number : Nat) (e : Entry) : Entry :=
  if e.info.id == number then e.acquired else e

/-- What a queued acquisition receives, with the entry `acquiredIf` it has the number. -/
def Delivery.counted (number : Nat) : Delivery → Delivery
  | .ok e => .ok (e.acquiredIf number)
  | .error error => .error error

@[simp]
theorem Delivery.counted_error (number : Nat) (error : PoolError) :
    Delivery.counted number (.error error) = .error error := rfl

@[simp]
theorem Delivery.counted_ok (number : Nat) (e : Entry) :
    Delivery.counted number (.ok e) = .ok (e.acquiredIf number) := rfl

/-- Counting a connection that is not there changes nothing. -/
theorem Entry.map_countedIf {number : Nat} {entries : List Entry}
    (h : number ∉ entries.map (·.info.id)) : entries.map (Entry.countedIf number) = entries := by
  rw [List.map_congr_left (g := id), List.map_id]
  intro e he
  refine if_neg fun hnumber => h ?_
  exact List.mem_map.2 ⟨e, he, by simpa using hnumber⟩

namespace Site

variable {config : Config} {s : Site} {number : Nat}

/-- The site after one more hand-out of a connection is counted: where it is idle or being closed
the count grows, and where it is on its way to a caller it is marked as handed out as well. -/
def counted (number : Nat) (s : Site) : Site :=
  { s with
    pool := { s.pool with idle := s.pool.idle.map (Entry.countedIf number) },
    inbox := s.inbox.map fun sent => (sent.1, Delivery.counted number sent.2),
    closings := s.closings.map (Entry.countedIf number) }

/-- What is asked of the surroundings after one more hand-out of a connection is counted. -/
def Effect.counted (number : Nat) : Effect → Effect
  | .note (.closing id acquireCount state) =>
    .note (.closing id (if id == number then acquireCount + 1 else acquireCount) state)
  | .close e => .close (e.countedIf number)
  | effect => effect

/-- A change after one more hand-out of a connection is counted. -/
def Change.counted (number : Nat) (c : Change) : Change :=
  (c.1.counted number, c.2.map (Effect.counted number))

/-- `andThen` is `counted` part by part. -/
theorem Change.counted_andThen (c : Change) {next next' : Site → Change}
    (hnext : ∀ s, next' (s.counted number) = (next s).counted number) :
    (c.andThen next).counted number = (c.counted number).andThen next' := by
  simp only [Change.andThen, Change.counted, hnext, List.map_append]

/-! ## What does not depend on the count -/

theorem announce_counted (s : Site) :
    announce (s.counted number) = (announce s).counted number := by
  -- who is asleep, and whether the pool is closed, is the same of both
  have hdrain : (s.counted number).drain = s.drain := rfl
  have hclosed : (s.counted number).pool.closed = s.pool.closed := rfl
  unfold announce
  rw [hdrain, hclosed]
  split
  · split <;> rfl
  · rfl

theorem openForQueue_counted (count : Nat) (s : Site) :
    openForQueue count (s.counted number) = (openForQueue count s).counted number := by
  induction count generalizing s with
  | zero => rfl
  | succ count ih =>
    rw [openForQueue, openForQueue, Change.counted_andThen _ fun s => ih s]
    rfl

theorem slotFreed_counted (config : Config) (s : Site) :
    slotFreed config (s.counted number) = (slotFreed config s).counted number := by
  -- how many openings are due depends on the counters only
  have hreserved :
      announce { s.counted number with pool := (s.counted number).pool.reserve config } =
        (announce { s with pool := s.pool.reserve config }).counted number :=
    announce_counted { s with pool := s.pool.reserve config }
  rw [slotFreed, slotFreed, hreserved, Change.counted_andThen _ (openForQueue_counted _)]
  rfl

/-! ## A connection that nobody has -/

/-- `Lacks number s`: the connection is neither idle nor being closed nor on its way to a caller, so
that there is nothing to count. -/
structure Lacks (number : Nat) (s : Site) : Prop where
  /-- It is not idle. -/
  idle : s.pool.idle.map (Entry.countedIf number) = s.pool.idle
  /-- It was sent to nobody. -/
  inbox : s.inbox.map (fun sent => (sent.1, Delivery.counted number sent.2)) = s.inbox
  /-- It is not being closed. -/
  closings : s.closings.map (Entry.countedIf number) = s.closings

/-- A site `Lacks` what is not among its `holdings`. -/
theorem lacks_of_notMem (h : number ∉ s.holdings.map Prod.fst) : s.Lacks number := by
  simp only [holdings, List.map_append, List.map_map, List.mem_append, not_or] at h
  obtain ⟨⟨⟨hidle, -⟩, hinbox⟩, hclosings⟩ := h
  refine ⟨Entry.map_countedIf hidle, ?_, Entry.map_countedIf hclosings⟩
  rw [List.map_congr_left (g := id), List.map_id]
  rintro ⟨request, answer⟩ hmem
  cases answer with
  | error error => rfl
  | ok e =>
    have hne : ¬(e.info.id == number) = true := by
      intro hnumber
      obtain rfl : e.info.id = number := by simpa using hnumber
      exact hinbox (List.mem_map.2 ⟨e, List.mem_filterMap.2 ⟨_, hmem, rfl⟩, rfl⟩)
    simp [Entry.acquiredIf, hne]

/-- Where the site `Lacks` the connection, there is nothing to count. -/
theorem Lacks.counted (h : s.Lacks number) : s.counted number = s := by
  simp only [Site.counted, h.idle, h.inbox, h.closings]

/-- Only the idle connections, the inbox and the connections being closed matter. -/
theorem Lacks.congr {t : Site} (h : s.Lacks number) (hidle : t.pool.idle = s.pool.idle)
    (hinbox : t.inbox = s.inbox) (hclosings : t.closings = s.closings) : t.Lacks number :=
  ⟨by rw [hidle]; exact h.idle, by rw [hinbox]; exact h.inbox, by rw [hclosings]; exact h.closings⟩

/-- Where the site `Lacks` the connection, `deliverTimeouts` has nothing to count either. -/
theorem Lacks.deliverTimeouts (h : s.Lacks number) (config : Config) (late : List Request) :
    (deliverTimeouts config late s).counted number = deliverTimeouts config late s := by
  simp [Site.deliverTimeouts, deliver, Change.counted, Site.counted, Effect.counted,
    Function.comp_def, h.idle, h.inbox, h.closings]

/-- `handOff` of a connection that nobody else has is `counted` when the connection was handed out
once more. -/
theorem handOff_acquired {e : Entry} (h : s.Lacks e.info.id) (now : Instant) :
    handOff config now e.acquired s = (handOff config now e s).counted e.info.id := by
  unfold handOff Pool.handOff
  cases s.pool.pending.dropWhile (·.isLate now) with
  -- parked, it is counted once more
  | nil =>
    have hparked : (e.parked now).countedIf e.info.id = e.acquired.parked now :=
      if_pos (beq_self_eq_true _)
    simp [deliverTimeouts, deliver, Change.counted, counted, Effect.counted,
      Function.comp_def, h.idle, h.inbox, h.closings, hparked]
  -- sent, it is marked as handed out
  | cons r rest =>
    have hsent : e.acquiredIf e.info.id = e.acquired := if_pos (beq_self_eq_true _)
    have hserved : Lacks e.info.id
        { s with pool := { s.pool with pending := rest, inUse := s.pool.inUse + 1 } } :=
      h.congr rfl rfl rfl
    have htold := hserved.deliverTimeouts config (s.pool.pending.takeWhile (·.isLate now))
    refine (congrArg (Change.andThen · _) htold.symm).trans
      (Change.counted_andThen _ fun t => ?_).symm
    simp only [Change.andThen, Change.counted, deliver, counted, Effect.counted,
      Delivery.counted_ok, hsent, List.map_append, List.map_cons, List.map_nil]
    rfl

/-- `startClosing` closes a connection with one more hand-out on its record. -/
theorem startClosing_acquired (e : Entry) (s : Site) :
    startClosing [e.acquired] (s.counted e.info.id) = (startClosing [e] s).counted e.info.id := by
  have hretired : e.retired.countedIf e.info.id = e.acquired.retired :=
    if_pos (beq_self_eq_true _)
  simp [Change.counted, startClosing, counted, Effect.counted, hretired]
  simp [Entry.retired, Entry.acquired, Metadata.markClosed, Metadata.markAcquired]

/-- `takeIn` of a connection that nobody else has is `counted` when the connection was handed out
once more. -/
theorem takeIn_acquired {e : Entry} (h : s.Lacks e.info.id) (m : Moment) :
    takeIn config m e.acquired s = (takeIn config m e s).counted e.info.id := by
  have hback : Lacks e.info.id { s with pool := s.pool.takeBack } := h.congr rfl rfl rfl
  -- what decides whether the connection is closed does not change when it is handed out
  have hreason : s.pool.takeBack.closeReason? config m e.acquired =
      s.pool.takeBack.closeReason? config m e := rfl
  unfold takeIn
  dsimp only
  rw [hreason]
  cases s.pool.takeBack.closeReason? config m e with
  | none =>
    dsimp only
    rw [handOff_acquired hback, Change.counted_andThen _ announce_counted]
  | some reason =>
    have hgivenUp : Lacks e.info.id { s with pool := s.pool.takeBack.giveUp 1 } :=
      h.congr rfl rfl rfl
    dsimp only
    rw [Change.counted_andThen _ (slotFreed_counted config),
      Change.counted_andThen _ (startClosing_acquired e), Change.counted, hgivenUp.counted]
    rfl

/-! ## Giving an opening up -/

/-- What is asked of the surroundings when a pool has changed: to wake whoever is asleep until it
does. -/
def notice (s : Site) : List Effect :=
  match s.drain with
  | .waiting _ _ false => if s.pool.closed then [.wakeDrain] else []
  | _ => []

/-- `announce` asks for the `notice`. -/
theorem announce_snd (s : Site) : (announce s).2 = s.notice := by
  obtain ⟨_, pool, _, _, _, _, _, drain⟩ := s
  cases drain with
  | unobserved => rfl
  | finished => rfl
  | waiting graceEnd graceOver changed =>
    cases changed with
    | true => rfl
    | false => cases hclosed : pool.closed <;> simp [announce, notice, hclosed]

/-- In an open pool nobody waits for its end, so `announce` tells nobody. -/
theorem announce_of_open (hopen : s.pool.closed = false) : announce s = (s, []) := by
  unfold announce
  split
  · rw [if_neg (by simp [hopen])]
  · rfl

theorem andThen_announce_of_open {c : Change} (hopen : c.1.pool.closed = false) :
    c.andThen announce = c := by
  rw [Change.andThen, announce_of_open hopen]
  exact Prod.ext rfl (List.append_nil _)

theorem notice_of_open (hopen : s.pool.closed = false) : s.notice = [] := by
  rw [← announce_snd, announce_of_open hopen]

/-- A `Drain` that is `told` of a change of an open pool stays as it is. -/
theorem told_false (drain : Drain) : drain.told false = drain := by
  cases drain with
  | waiting graceEnd graceOver changed => cases changed <;> rfl
  | unobserved | finished => rfl

/-- `slotFreed` leaves the slot free while nobody waits in the queue. -/
theorem slotFreed_of_pending_nil (config : Config) (hpending : s.pool.pending = []) :
    slotFreed config s = ({ s with drain := s.drain.told s.pool.closed }, s.notice) := by
  have hdue : s.pool.openingsDue config = 0 := Pool.openingsDue_of_pending_nil hpending
  rw [slotFreed, hdue, Pool.reserve_of_openingsDue_zero hdue]
  refine Prod.ext ?_ ?_
  · rw [Change.andThen_fst, announce_fst]
    rfl
  · rw [Change.andThen_snd, announce_snd]
    exact List.append_nil _

/-- `slotFreed` begins one opening for the queue while somebody waits in it. -/
theorem slotFreed_of_pending_ne_nil (h : s.pool.Justified config 1)
    (hpending : s.pool.pending ≠ []) :
    slotFreed config s =
      (beginOpening .queue { s with pool := { s.pool with allocated := s.pool.allocated + 1 } },
        [.openForQueue s.nextOpening]) := by
  have hdue : s.pool.openingsDue config = 1 := h.openingsDue_eq (Nat.le_refl 1) hpending
  have hopen : s.pool.closed = false := (h.waiting hpending).1
  rw [slotFreed, Pool.reserve, hdue, announce_of_open (by exact hopen)]
  rfl

/-- `abandon` while nobody waits in the queue gives the slot back. -/
theorem abandon_of_pending_nil {opening : Nat} (hopening : s.isOpening opening .caller = true)
    (hpending : s.pool.pending = []) :
    s.abandon config opening =
      ({ s.endOpening opening with
          pool := { s.pool with allocated := s.pool.allocated - 1 },
          drain := s.drain.told s.pool.closed },
        s.notice) := by
  obtain ⟨hnot, -⟩ | ⟨-, heq⟩ := abandon_cases config opening s
  · rw [hopening] at hnot
    cases hnot
  · rw [heq, slotFreed_of_pending_nil config (by exact hpending)]
    rfl

/-- The books of a pool in which somebody waits have every slot taken again when one that was given
up is. -/
theorem freeSlot_retaken (h : s.pool.Justified config 0) (hpending : s.pool.pending ≠ []) :
    s.pool.freeSlot.allocated + 1 = s.pool.allocated := by
  have hpositive := Limit.pos_of_get (h.waiting hpending).2.2.2
  rw [Pool.freeSlot]
  dsimp only
  omega

/-- `abandon` while somebody waits in the queue begins one opening for the queue in the slot. -/
theorem abandon_of_pending_ne_nil (h : Reachable config s) {opening : Nat}
    (hopening : s.isOpening opening .caller = true) (hpending : s.pool.pending ≠ []) :
    s.abandon config opening =
      ((s.endOpening opening).beginOpening .queue, [.openForQueue s.nextOpening]) := by
  have hjustified := justified_of_reachable h
  obtain ⟨hnot, -⟩ | ⟨-, heq⟩ := abandon_cases config opening s
  · rw [hopening] at hnot
    cases hnot
  · rw [heq, slotFreed_of_pending_ne_nil (by exact hjustified.freeSlot) (by exact hpending)]
    dsimp only [endOpening]
    rw [freeSlot_retaken hjustified hpending]
    rfl

/-! ## Giving a request up -/

/-- Where one member is of a kind, removing the first of that kind removes that one. -/
theorem exists_eraseP_of_filter {α : Type} {kind : α → Bool} {l : List α} {a : α}
    (h : l.filter kind = [a]) :
    ∃ before after, l = before ++ a :: after ∧ l.eraseP kind = before ++ after := by
  have hmem : a ∈ l.filter kind := by
    rw [h]
    exact List.mem_singleton_self a
  obtain ⟨b, before, after, -, hb, hl, herase⟩ :=
    List.exists_of_eraseP (List.mem_filter.1 hmem).1 (List.mem_filter.1 hmem).2
  have hmem : b ∈ l.filter kind := List.mem_filter.2 ⟨by simp [hl], hb⟩
  rw [h] at hmem
  obtain rfl := List.mem_singleton.1 hmem
  exact ⟨before, after, hl, herase⟩

/-- `cancel` of a request that `Queues` takes it off the queue. -/
theorem cancel_of_queues {request : Nat} {deadline : Instant} (h : s.Queues request deadline)
    (config : Config) (m : Moment) :
    ∃ before r after, s.pool.pending = before ++ r :: after ∧ r.id = request ∧
      s.cancel config m request =
        ({ s with pool := { s.pool with pending := before ++ after } },
          [.note (.cancelled request)]) := by
  obtain ⟨r, hfilter, -⟩ := h.once
  have hid : r ∈ s.pool.pending.filter (·.id == request) := by
    rw [hfilter]
    exact List.mem_singleton_self r
  obtain ⟨before, after, hpending, herase⟩ := exists_eraseP_of_filter hfilter
  refine ⟨before, r, after, hpending, by simpa using (List.mem_filter.1 hid).2, ?_⟩
  obtain ⟨-, heq⟩ | ⟨hnot, -⟩ := cancel_cases config m request s
  · rw [heq, Pool.dequeue, herase]
  · rw [h.isQueued] at hnot
    cases hnot

/-- A request that was `Sent` an answer finds it in the inbox. -/
theorem Sent.lookup {request : Nat} {answer : Delivery} (h : s.Sent request answer)
    (hrequests : s.requests.Nodup) : s.inbox.lookup request = some answer :=
  lookup_of_mem (List.nodup_append.1 hrequests).2.1 ((sent_iff hrequests).1 h)

/-- `cancel` of a request that was `Sent` an error throws the error away. -/
theorem cancel_of_sent_error (h : Reachable config s) {request : Nat} {error : PoolError}
    (hsent : s.Sent request (.error error)) (m : Moment) :
    ∃ before after, s.inbox = before ++ (request, .error error) :: after ∧
      s.cancel config m request = ({ s with inbox := before ++ after }, []) := by
  have hlookup := hsent.lookup (requests_numbered h).nodup
  obtain ⟨before, after, hinbox, herase⟩ := exists_eraseP_of_filter hsent.once
  refine ⟨before, after, hinbox, ?_⟩
  obtain ⟨hqueued, -⟩ | ⟨-, ⟨e, hsentEntry, -⟩ | ⟨-, heq⟩⟩ := cancel_cases config m request s
  · rw [hsent.unqueued] at hqueued
    cases hqueued
  · rw [hlookup] at hsentEntry
    cases hsentEntry
  · rw [heq, herase]

/-- `poll` that reads a connection and `release` right after it do the same to the site as `cancel`,
but for one hand-out that is `counted` and for the line about giving it back. -/
theorem release_of_poll (h : Reachable config s) {request : Nat} {e : Entry}
    (hsent : s.Sent request (.ok e)) (m : Moment) :
    ∃ t, s.poll config m request = (some (.ok e.info.id), t, []) ∧
      t.release config m e.info.id =
        (((s.cancel config m request).counted e.info.id).1,
          .note (.returning e.info.id) :: ((s.cancel config m request).counted e.info.id).2) := by
  have hlookup := hsent.lookup (requests_numbered h).nodup
  -- nobody else has the connection
  have hnumbers := (holdings_numbered h).nodup
  rw [((unsend_holdings hlookup).map Prod.fst).nodup_iff, List.map_append, List.nodup_append]
    at hnumbers
  have hfree : e.info.id ∉
      (Site.holdings { s with inbox := s.inbox.eraseP (·.1 == request) }).map Prod.fst :=
    fun hmem => hnumbers.2.2 _ hmem _ (List.mem_singleton_self _) rfl
  have hleases : ∀ other ∈ s.leases, ¬(other.info.id == e.info.id) = true := by
    intro other hother hid
    refine hfree ?_
    simp only [holdings, List.map_append, List.mem_append, List.map_map]
    exact .inl (.inl (.inr (List.mem_map.2 ⟨other, hother, beq_iff_eq.1 hid⟩)))
  refine ⟨_, poll_of_lookup_ok hlookup, ?_⟩
  -- the caller finds the connection that it has just been given, and no other
  have hlease : (lend e { s with inbox := s.inbox.eraseP (·.1 == request) }).lease? e.info.id =
      some e.acquired := by
    rw [lease?, lend, List.find?_append, List.find?_eq_none.2 hleases, Option.none_or]
    exact List.find?_cons_of_pos (beq_self_eq_true _)
  have hunlend : (lend e { s with inbox := s.inbox.eraseP (·.1 == request) }).unlend e.info.id =
      { s with inbox := s.inbox.eraseP (·.1 == request) } := by
    rw [unlend, lend]
    dsimp only
    rw [List.eraseP_append_right _ hleases]
    simp [Entry.acquired, Metadata.markAcquired]
  rw [release, hlease]
  dsimp only
  rw [hunlend, Change.andThen, takeIn_acquired (lacks_of_notMem hfree),
    cancel_of_lookup_ok hsent.unqueued hlookup]
  rfl

end Site

end ConnectionPool
