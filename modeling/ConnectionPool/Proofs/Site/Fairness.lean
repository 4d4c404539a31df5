import ConnectionPool.Proofs.Site.Balance
import ConnectionPool.Proofs.Site.Openings
import ConnectionPool.Proofs.Site.Queue

/-!
# Nobody waits in vain, and nobody is overtaken

`Fair` collects what a queue is worth to those who are in it. They wait only for connections that
others have or that are on their way, so somebody will act on the queue again; whoever comes later
gets nothing before them; and a pool that may open any number of connections, or whose callers never
wait, has no queue.

* `Config.maxConnections_applyAll`: an elastic configuration stays elastic under other settings.
* `fair_of_reachable`: every reachable site is fair.
-/

namespace ConnectionPool

/-- The setting bounds the connections. -/
def Setting.isMaxConnections : Setting → Bool
  | .maxConnections _ => true
  | _ => false

namespace Config

theorem maxConnections_applyOrKeep (c : Config) {setting : Setting}
    (h : setting.isMaxConnections = false) :
    (c.applyOrKeep setting).maxConnections = c.maxConnections := by
  cases setting with
  | maxConnections raw => cases h
  | maxPending raw =>
    rw [applyOrKeep, apply]
    cases Limit.fromRaw raw "max pending acquire" <;> rfl
  | _ => rfl

/-- Settings that do not bound the connections leave the bound as it is. -/
theorem maxConnections_applyAll (c : Config) {settings : List Setting}
    (h : ∀ setting ∈ settings, setting.isMaxConnections = false) :
    (c.applyAll settings).maxConnections = c.maxConnections := by
  induction settings generalizing c with
  | nil => rfl
  | cons setting rest ih =>
    rw [List.forall_mem_cons] at h
    have hrest := ih (c.applyOrKeep setting) h.2
    rw [maxConnections_applyOrKeep c h.1] at hrest
    exact hrest

/-- A configuration that was made elastic stays so while connections are not bounded again. -/
theorem isUnbounded_applyAll (c : Config) {settings : List Setting}
    (h : ∀ setting ∈ settings, setting.isMaxConnections = false) :
    (c.applyAll (.maxConnections (-1) :: settings)).maxConnections.isUnbounded = true := by
  have hkept := maxConnections_applyAll (c.applyOrKeep (.maxConnections (-1))) h
  show ((c.applyOrKeep (.maxConnections (-1))).applyAll settings).maxConnections.isUnbounded = true
  rw [hkept]
  rfl

end Config

namespace Site

variable {config : Config} {s : Site}

/-- `acquire` queues a request only in a pool whose connections are bounded and whose callers may
wait. -/
theorem acquire_ne_request (m : Moment)
    (h : config.maxConnections.isUnbounded = true ∨ config.neverWaits = true) (request : Nat)
    (deadline : Instant) : (s.acquire config m).1 ≠ .ok (.request request deadline) := by
  intro hticket
  -- the only branch that queues comes after both conditions
  obtain ⟨-, heq⟩ | ⟨-, ⟨e, -, heq⟩ | ⟨-, ⟨-, heq⟩ | ⟨hfull, hwaits, -, -⟩ | ⟨error, -, heq⟩⟩⟩ :=
    acquire_cases config m s
  · rw [heq] at hticket
    cases hticket
  · rw [heq] at hticket
    cases hticket
  · rw [heq] at hticket
    cases hticket
  · rcases h with hunbounded | hnever
    · obtain ⟨max, hmax, -⟩ := Limit.get_of_not_admits hfull
      rw [Limit.not_isUnbounded_of_get hmax] at hunbounded
      cases hunbounded
    · rw [hwaits] at hnever
      cases hnever
  · rw [heq] at hticket
    cases hticket

/-- Where nothing is idle and no slot is free, `acquire` gives neither a connection nor a slot, and
if it queues a request then behind all others. -/
theorem acquire_behind (m : Moment) (hidle : s.pool.idle = [])
    (hfull : config.maxConnections.admits s.pool.allocated = false) :
    (∀ lease, (s.acquire config m).1 ≠ .ok (.lease lease)) ∧
      (∀ opening, (s.acquire config m).1 ≠ .ok (.opening opening)) ∧
      ∃ later, (s.acquire config m).2.1.pool.pending = s.pool.pending ++ later := by
  -- the search finds nothing, and gives nothing up on the way
  have hsearched : (s.pool.searched config m).allocated = s.pool.allocated := by
    rw [Pool.searched, hidle]
    exact Nat.sub_zero _
  obtain ⟨-, heq⟩ | ⟨-, ⟨e, hchosen, -⟩ | ⟨-, ⟨hadmits, -⟩ | ⟨-, -, -, heq⟩ | ⟨error, -, heq⟩⟩⟩ :=
    acquire_cases config m s
  · rw [heq]
    exact ⟨by simp, by simp, [], (List.append_nil _).symm⟩
  · rw [hidle] at hchosen
    cases hchosen
  · rw [hsearched, hfull] at hadmits
    cases hadmits
  · rw [heq]
    exact ⟨by simp, by simp, [s.pool.newRequest config m.now], rfl⟩
  · rw [heq]
    exact ⟨by simp, by simp, [], (List.append_nil _).symm⟩

/-- `Fair config s`: requests wait only for what others have, are served before whoever comes later,
and are not queued where they need not wait. -/
structure Fair (config : Config) (s : Site) : Prop where
  /-- Requests wait only in an open pool whose callers may wait, in which nothing is idle and every
  slot is taken. -/
  waiting : s.pool.pending ≠ [] → s.pool.closed = false ∧ config.neverWaits = false ∧
    s.pool.idle = [] ∧ config.maxConnections.get = some s.pool.allocated
  /-- A pool that was shut down has neither a queue nor idle connections. -/
  closed : s.pool.closed = true → s.pool.pending = [] ∧ s.pool.idle = []
  /-- No slot is free for a connection while a request waits. -/
  full : s.pool.pending ≠ [] → config.maxConnections.admits s.pool.allocated = false
  /-- While a request waits, a caller holds a connection, or one is on its way to a caller, or one
  is being opened. -/
  expected : s.pool.pending ≠ [] → s.leases ≠ [] ∨ entriesOf s.inbox ≠ [] ∨ s.openings ≠ []
  /-- Whoever comes while a request waits gets neither a connection nor a slot to open one in, and
  is queued behind it if at all. -/
  behind : s.pool.pending ≠ [] → ∀ m,
    (∀ lease, (s.acquire config m).1 ≠ .ok (.lease lease)) ∧
    (∀ opening, (s.acquire config m).1 ≠ .ok (.opening opening)) ∧
    ∃ later, (s.acquire config m).2.1.pool.pending = s.pool.pending ++ later
  /-- A pool without a bound on its connections never queues, and neither does one whose
  `Config.acquireTimeout` is zero. -/
  never : config.maxConnections.isUnbounded = true ∨ config.acquireTimeout = Duration.zero →
    s.pool.pending = [] ∧
      ∀ m request deadline, (s.acquire config m).1 ≠ .ok (.request request deadline)
  /-- A pool that was made elastic by `maxConnections (-1)` never queues, whatever was set
  afterwards besides the bound on its connections. -/
  elastic : ∀ (base : Config) (settings : List Setting),
    (∀ setting ∈ settings, setting.isMaxConnections = false) →
      config = base.applyAll (.maxConnections (-1) :: settings) →
        s.pool.pending = [] ∧
          ∀ m request deadline, (s.acquire config m).1 ≠ .ok (.request request deadline)

/-- Every `Reachable` site is `Fair`. -/
theorem fair_of_reachable (h : Reachable config s) : Fair config s := by
  have hbalance := balance_of_reachable h
  have hjustified := justified_of_reachable h
  -- where requests wait the bound is reached, so no slot is free
  have hfull : s.pool.pending ≠ [] → config.maxConnections.admits s.pool.allocated = false := by
    intro hpending
    obtain ⟨-, -, -, hmax⟩ := hjustified.waiting hpending
    rw [Limit.admits_of_get hmax]
    exact decide_eq_false (Nat.lt_irrefl _)
  have hnever : config.maxConnections.isUnbounded = true ∨ config.neverWaits = true →
      s.pool.pending = [] ∧
        ∀ m request deadline, (s.acquire config m).1 ≠ .ok (.request request deadline) := by
    intro hconfig
    refine ⟨?_, fun m => acquire_ne_request m hconfig⟩
    by_contra hpending
    obtain ⟨-, hwaits, -, hmax⟩ := hjustified.waiting hpending
    rcases hconfig with hunbounded | hneverWaits
    · rw [Limit.not_isUnbounded_of_get hmax] at hunbounded
      cases hunbounded
    · rw [hwaits] at hneverWaits
      cases hneverWaits
  refine ⟨hjustified.waiting, hjustified.closed, hfull, fun hpending => ?_, fun hpending m => ?_,
    ?_, ?_⟩
  · obtain ⟨-, -, hidle, hmax⟩ := hjustified.waiting hpending
    -- the bound is positive, so some slot is taken, and not by an idle connection
    have hpositive := Limit.pos_of_get hmax
    by_contra hnothing
    push Not at hnothing
    obtain ⟨hleases, hsent, hopenings⟩ := hnothing
    have hallocated := hbalance.allocated
    have hinUse := hbalance.inUse
    rw [hidle, hopenings] at hallocated
    rw [hleases, hsent] at hinUse
    simp only [List.length_nil] at hallocated hinUse
    omega
  · exact acquire_behind m (hjustified.waiting hpending).2.2.1 (hfull hpending)
  · rw [← Config.neverWaits_iff]
    exact hnever
  · rintro base settings hsettings rfl
    exact hnever (.inl (base.isUnbounded_applyAll hsettings))

/-- The second of two acquisitions waits for the only slot, and the site is `Fair`. -/
theorem fair_crowded :
    ((fresh (.ofAddress "db:1")).run .oneSlot crowded).pool.pending ≠ [] ∧
      Fair .oneSlot ((fresh (.ofAddress "db:1")).run .oneSlot crowded) :=
  ⟨by decide, fair_of_reachable ((Reachable.fresh _).run crowded)⟩

end Site

end ConnectionPool
