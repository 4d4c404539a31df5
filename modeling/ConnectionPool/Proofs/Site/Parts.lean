import ConnectionPool.Proofs.Lists
import ConnectionPool.Site.Acquire
import ConnectionPool.Site.Drain

/-!
# What the parts of a change do

The changes of a site are put together from a few parts. Each part is described here by the site
that it leaves, field by field, so that nothing else has to look inside it.

* `startClosing_fst`, `deliver_fst`, `openForQueue_fst`: one field grows.
* `announce_fst`: only the state of the drain changes.
* `slotFreed_fst`, `handOff_fst`, `failOldest_fst`: the books change, and what the change of the
  books calls for is sent or begun.
* `Pool.handOff_cases`, `Pool.failOldest_cases`: the queue is split at its first request in time.
-/

namespace ConnectionPool

namespace Pool

/-- The deliveries that a `Service` of the queue calls for: every late request is told so, and the
recipient gets `answer`. -/
def Service.deliveries (timeout : Duration) (answer : Delivery) (service : Service) :
    List (Nat × Delivery) :=
  service.late.map (fun r => (r.id, Except.error (.acquisitionTimeout timeout))) ++
    service.recipient.toList.map fun r => (r.id, answer)

/-- A queue begins with late requests, which end at the first request in time if there is one. -/
theorem late_append_cases (now : Instant) (queue : List Request) :
    (queue.dropWhile (·.isLate now) = [] ∧ queue.takeWhile (·.isLate now) = queue ∧
      ∀ q ∈ queue, q.isLate now = true) ∨
    ∃ late r rest, queue = late ++ r :: rest ∧ (∀ q ∈ late, q.isLate now = true) ∧
      r.isLate now = false ∧ queue.takeWhile (·.isLate now) = late ∧
      queue.dropWhile (·.isLate now) = r :: rest := by
  have hlate : ∀ q ∈ queue.takeWhile (·.isLate now), q.isLate now = true :=
    fun q hq => List.all_eq_true.1 List.all_takeWhile q hq
  have parts := List.takeWhile_append_dropWhile (p := (·.isLate now)) (l := queue)
  cases hrest : queue.dropWhile (·.isLate now) with
  | nil =>
    rw [hrest, List.append_nil] at parts
    exact .inl ⟨rfl, parts, parts ▸ hlate⟩
  | cons r rest =>
    refine .inr ⟨queue.takeWhile (·.isLate now), r, rest, ?_, hlate, ?_, rfl, rfl⟩
    · rw [← hrest, parts]
    · have := List.head?_dropWhile_not (p := (·.isLate now)) (l := queue)
      rw [hrest] at this
      simpa using this

/-- `handOff` parks the connection if every request is late, and otherwise gives it to the first
request in time. -/
theorem handOff_cases (now : Instant) (e : Entry) (p : Pool) :
    ((∀ q ∈ p.pending, q.isLate now = true) ∧
      p.handOff now e =
        ⟨p.pending, none, { p with pending := [], idle := p.idle ++ [e.parked now] }⟩) ∨
    ∃ late r rest, p.pending = late ++ r :: rest ∧ (∀ q ∈ late, q.isLate now = true) ∧
      r.isLate now = false ∧
      p.handOff now e = ⟨late, some r, { p with pending := rest, inUse := p.inUse + 1 }⟩ := by
  obtain ⟨hdrop, htake, hall⟩ | ⟨late, r, rest, hqueue, hlate, hr, htake, hdrop⟩ :=
    late_append_cases now p.pending
  · refine .inl ⟨hall, ?_⟩
    rw [handOff, hdrop, htake]
  · refine .inr ⟨late, r, rest, hqueue, hlate, hr, ?_⟩
    rw [handOff, hdrop, htake]

/-- `failOldest` gives the error to the first request in time, if there is one. -/
theorem failOldest_cases (now : Instant) (p : Pool) :
    ((∀ q ∈ p.pending, q.isLate now = true) ∧
      p.failOldest now = ⟨p.pending, none, { p with pending := [] }⟩) ∨
    ∃ late r rest, p.pending = late ++ r :: rest ∧ (∀ q ∈ late, q.isLate now = true) ∧
      r.isLate now = false ∧ p.failOldest now = ⟨late, some r, { p with pending := rest }⟩ := by
  obtain ⟨hdrop, htake, hall⟩ | ⟨late, r, rest, hqueue, hlate, hr, htake, hdrop⟩ :=
    late_append_cases now p.pending
  · refine .inl ⟨hall, ?_⟩
    rw [failOldest, hdrop, htake]
  · refine .inr ⟨late, r, rest, hqueue, hlate, hr, ?_⟩
    rw [failOldest, hdrop, htake]

@[simp]
theorem handOff_nextRequest (now : Instant) (e : Entry) (p : Pool) :
    (p.handOff now e).pool.nextRequest = p.nextRequest := by
  obtain ⟨-, heq⟩ | ⟨late, r, rest, -, -, -, heq⟩ := handOff_cases now e p <;> rw [heq]

@[simp]
theorem handOff_nextConnection (now : Instant) (e : Entry) (p : Pool) :
    (p.handOff now e).pool.nextConnection = p.nextConnection := by
  obtain ⟨-, heq⟩ | ⟨late, r, rest, -, -, -, heq⟩ := handOff_cases now e p <;> rw [heq]

@[simp]
theorem handOff_closed (now : Instant) (e : Entry) (p : Pool) :
    (p.handOff now e).pool.closed = p.closed := by
  obtain ⟨-, heq⟩ | ⟨late, r, rest, -, -, -, heq⟩ := handOff_cases now e p <;> rw [heq]

/-- `failOldest` changes nothing but the queue. -/
theorem failOldest_pool (now : Instant) (p : Pool) :
    (p.failOldest now).pool = { p with pending := (p.failOldest now).pool.pending } := by
  obtain ⟨-, heq⟩ | ⟨late, r, rest, -, -, -, heq⟩ := failOldest_cases now p <;> rw [heq]

@[simp]
theorem failOldest_nextRequest (now : Instant) (p : Pool) :
    (p.failOldest now).pool.nextRequest = p.nextRequest := by
  rw [failOldest_pool]

@[simp]
theorem failOldest_nextConnection (now : Instant) (p : Pool) :
    (p.failOldest now).pool.nextConnection = p.nextConnection := by
  rw [failOldest_pool]

@[simp]
theorem failOldest_closed (now : Instant) (p : Pool) :
    (p.failOldest now).pool.closed = p.closed := by
  rw [failOldest_pool]

@[simp]
theorem reserve_nextRequest (config : Config) (p : Pool) :
    (p.reserve config).nextRequest = p.nextRequest := rfl

@[simp]
theorem reserve_nextConnection (config : Config) (p : Pool) :
    (p.reserve config).nextConnection = p.nextConnection := rfl

@[simp]
theorem reserve_closed (config : Config) (p : Pool) : (p.reserve config).closed = p.closed := rfl

end Pool

/-- The wait for a pool's end after `announce` at a pool with this `closed` flag. -/
def Drain.told (closed : Bool) : Drain → Drain
  | .waiting graceEnd graceOver false => .waiting graceEnd graceOver closed
  | other => other

namespace Site

/-- The openings that `openForQueue` begins when `count` slots are taken for the queue, numbered
from `first`. -/
def queueOpenings (first count : Nat) : List Opening :=
  (List.range' first count).map fun id => ⟨id, .queue⟩

@[simp]
theorem startClosing_fst (entries : List Entry) (s : Site) :
    (startClosing entries s).1 = { s with closings := s.closings ++ entries.map Entry.retired } :=
  rfl

@[simp]
theorem deliver_fst (deliveries : List (Nat × Delivery)) (s : Site) :
    (deliver deliveries s).1 = { s with inbox := s.inbox ++ deliveries } := rfl

@[simp]
theorem announce_fst (s : Site) :
    (announce s).1 = { s with drain := s.drain.told s.pool.closed } := by
  obtain ⟨_, pool, _, _, _, _, _, drain⟩ := s
  cases drain with
  | unobserved => rfl
  | finished => rfl
  | waiting graceEnd graceOver changed =>
    cases changed with
    | true => rfl
    | false => cases hclosed : pool.closed <;> simp [announce, Drain.told, hclosed]

@[simp]
theorem openForQueue_fst (count : Nat) (s : Site) :
    (openForQueue count s).1 =
      { s with openings := s.openings ++ queueOpenings s.nextOpening count,
               nextOpening := s.nextOpening + count } := by
  induction count generalizing s with
  | zero => simp [openForQueue, queueOpenings]
  | succ count ih =>
    rw [openForQueue, Change.andThen_fst, ih]
    simp [beginOpening, queueOpenings, List.range'_succ, Nat.add_assoc, Nat.add_comm 1 count]

@[simp]
theorem slotFreed_fst (config : Config) (s : Site) :
    (slotFreed config s).1 =
      { s with
        pool := s.pool.reserve config,
        drain := s.drain.told s.pool.closed,
        openings := s.openings ++ queueOpenings s.nextOpening (s.pool.openingsDue config),
        nextOpening := s.nextOpening + s.pool.openingsDue config } := by
  rw [slotFreed, Change.andThen_fst, announce_fst, openForQueue_fst]
  rfl

@[simp]
theorem handOff_fst (config : Config) (now : Instant) (e : Entry) (s : Site) :
    (handOff config now e s).1 =
      { s with
        pool := (s.pool.handOff now e).pool,
        inbox := s.inbox ++ (s.pool.handOff now e).deliveries config.acquireTimeout (.ok e) } := by
  unfold handOff
  cases hrecipient : (s.pool.handOff now e).recipient with
  | none => simp [hrecipient, deliverTimeouts, Pool.Service.deliveries]
  | some r => simp [hrecipient, deliverTimeouts, Pool.Service.deliveries]

@[simp]
theorem failOldest_fst (config : Config) (now : Instant) (error : PoolError) (s : Site) :
    (failOldest config now error s).1 =
      { s with
        pool := (s.pool.failOldest now).pool,
        inbox := s.inbox ++
          (s.pool.failOldest now).deliveries config.acquireTimeout (.error error) } := by
  unfold failOldest
  cases hrecipient : (s.pool.failOldest now).recipient with
  | none => simp [hrecipient, deliverTimeouts, Pool.Service.deliveries]
  | some r => simp [hrecipient, deliverTimeouts, Pool.Service.deliveries]

/-- `lookWithoutGrace` changes only the state of the drain. -/
theorem lookWithoutGrace_fst (graceOver : Bool) (s : Site) :
    ∃ drain, (lookWithoutGrace graceOver s).1 = { s with drain } := by
  unfold lookWithoutGrace
  split
  · exact ⟨.finished, rfl⟩
  · exact ⟨.waiting none graceOver false, rfl⟩

/-- `look` changes only the state of the drain. -/
theorem look_fst (m : Moment) (graceOver : Bool) (graceEnd : Option Instant) (s : Site) :
    ∃ drain, (look m graceOver graceEnd s).1 = { s with drain } := by
  unfold look
  split
  · exact lookWithoutGrace_fst graceOver s
  · split
    · exact ⟨.finished, rfl⟩
    · split
      · exact lookWithoutGrace_fst true s
      · exact ⟨_, rfl⟩

/-- `pollDrain` changes only the state of the drain. -/
theorem pollDrain_fst (config : Config) (m : Moment) (s : Site) :
    ∃ drain, (pollDrain config m s).1 = { s with drain } := by
  unfold pollDrain
  split
  · exact ⟨s.drain, rfl⟩
  · exact look_fst m false _ s
  · exact look_fst m _ _ s
  · split
    · split
      · exact lookWithoutGrace_fst true s
      · exact ⟨s.drain, rfl⟩
    · exact ⟨s.drain, rfl⟩

end Site

end ConnectionPool
