import ConnectionPool.Proofs.Provider.Custody
import ConnectionPool.Transport

/-!
# A provider on the in-memory transport

The in-memory transport counts the connections that are open. Here it is put together with a
provider: it answers the calls of acquisitions and of the queues, it is told of every close that
ends, and nobody else opens or closes connections. Then its count is what the pools say.

* `received_distinct`: the transport never hands over a connection twice.
* `openNow_eq`: what is open is idle, in use, being closed, or detached.
* `Reachable.custody`: what is proved of a provider and its record holds on this transport too.
-/

namespace ConnectionPool

namespace Transport

/-- Something that is asked of the transport besides opening and closing connections. -/
inductive Request where
  /-- A call is begun. -/
  | begin (address : String)
  /-- A call is given up. -/
  | hangUp (call : Nat)
  /-- Failures are ordered. -/
  | failNext (count : Nat)
  /-- An address is to be refused. -/
  | refuse (address : String)
  /-- An address is no longer to be refused. -/
  | accept (address : String)

/-- The transport after a request. -/
def serve (t : Transport) : Request → Transport
  | .begin address => (t.begin address).2
  | .hangUp call => t.hangUp call
  | .failNext count => t.failNext count
  | .refuse address => t.refuse address
  | .accept address => t.accept address

theorem serve_counters (t : Transport) (request : Request) :
    (t.serve request).openNow = t.openNow ∧
      (t.serve request).nextConnection = t.nextConnection := by
  cases request with
  | refuse address =>
    rw [serve, refuse]
    split <;> exact ⟨rfl, rfl⟩
  | _ => exact ⟨rfl, rfl⟩

/-- `answer` to a call with a connection opens it under the next number; any other answer opens
nothing. -/
theorem answer_cases (call : Nat) (t : Transport) :
    (∃ address, (t.answer call).1 = some (.ok ⟨t.nextConnection, address⟩) ∧
      (t.answer call).2.openNow = t.openNow + 1 ∧
      (t.answer call).2.nextConnection = t.nextConnection + 1) ∨
    (((t.answer call).1 = none ∨ ∃ failure, (t.answer call).1 = some (.error failure)) ∧
      (t.answer call).2.openNow = t.openNow ∧
      (t.answer call).2.nextConnection = t.nextConnection) := by
  unfold answer
  cases t.calls.find? (·.id == call) with
  | none => exact .inr ⟨.inl rfl, rfl, rfl⟩
  | some known =>
    dsimp only [connect]
    split
    · exact .inr ⟨.inr ⟨_, rfl⟩, rfl, rfl⟩
    · split
      · exact .inr ⟨.inr ⟨_, rfl⟩, rfl, rfl⟩
      · exact .inl ⟨_, rfl, rfl, rfl⟩

end Transport

namespace Provider

variable {config : Config} {p : Provider}

/-- The event says that the transport has opened or closed a connection. -/
def Event.isOfTransport : Event → Bool
  | .opened _ _ _ | .openedForQueue _ _ _ _ _ | .closeFinished _ _ => true
  | _ => false

/-- A site awaits a connection for its queue under the number of an opening. -/
def awaitsForQueue (site opening : Nat) (p : Provider) : Bool :=
  p.sites[site]?.any (·.isOpening opening .queue)

/-- An acquisition awaits the connection that is `opening` for it. -/
def awaits (id : Nat) (p : Provider) : Bool :=
  match p.acquisitions.lookup id with
  | some (.opening _ _ _) => true
  | _ => false

/-- A site is closing a connection. -/
def isClosing (site connection : Nat) (p : Provider) : Bool :=
  p.sites[site]?.any fun s => (s.closings.find? (·.info.id == connection)).isSome

/-- An event that is not `isOfTransport` has a `flow` in which nothing arrives and nothing is
closed. -/
theorem flow_of_not_transport (p : Provider) {event : Event} (h : event.isOfTransport = false) :
    (p.flow event).arrived = [] ∧ (p.flow event).closed = [] := by
  cases event with
  | detach lease =>
    rw [flow, flowAt]
    cases p.sites[lease.site]? <;> exact ⟨rfl, rfl⟩
  | opened m id conn => cases h
  | openedForQueue m site opening conn created => cases h
  | closeFinished site connection => cases h
  | _ => exact ⟨rfl, rfl⟩

/-- A connection that an acquisition `awaits` arrives. -/
theorem flow_opened (h : Reachable config p) (m : Moment) {id : Nat} (hawaits : p.awaits id = true)
    (conn : Connection) :
    (p.flow (.opened m id conn)).arrived = [conn] ∧ (p.flow (.opened m id conn)).closed = [] := by
  rw [awaits] at hawaits
  split at hawaits
  · rename_i d site opening hknown
    obtain ⟨s, hs, hopening⟩ := isOpening_of_lookup (linked_of_reachable h) hknown
    rw [flow, hknown]
    dsimp only
    rw [flowAt, hs]
    exact ⟨if_pos hopening, rfl⟩
  · cases hawaits

/-- A connection that a site `awaitsForQueue` arrives. -/
theorem flow_openedForQueue (m : Moment) (created : Instant) {site opening : Nat}
    (hawaits : p.awaitsForQueue site opening = true) (conn : Connection) :
    (p.flow (.openedForQueue m site opening conn created)).arrived = [conn] ∧
      (p.flow (.openedForQueue m site opening conn created)).closed = [] := by
  rw [flow, flowAt]
  obtain ⟨s, hs, hopening⟩ := (Option.any_eq_true _ _).1 hawaits
  rw [hs]
  exact ⟨if_pos hopening, rfl⟩

/-- A close that ends is the close of one connection that a site `isClosing`. -/
theorem flow_closeFinished {site connection : Nat} (hclosing : p.isClosing site connection = true) :
    (p.flow (.closeFinished site connection)).arrived = [] ∧
      ∃ conn, (p.flow (.closeFinished site connection)).closed = [conn] := by
  rw [flow, flowAt]
  obtain ⟨s, hs, hsome⟩ := (Option.any_eq_true _ _).1 hclosing
  obtain ⟨e, hfind⟩ := Option.isSome_iff_exists.1 hsome
  rw [hs]
  refine ⟨rfl, e.conn, ?_⟩
  show ((s.closings.find? (·.info.id == connection)).toList.map Entry.tag).map Prod.snd = [e.conn]
  rw [hfind]
  rfl

end Provider

/-- A `Bench`: a provider on the in-memory transport. -/
structure Bench where
  /-- The provider and its record. -/
  custody : Custody
  /-- The transport. -/
  transport : Transport

namespace Bench

variable {config : Config} {b : Bench}

/-- Something that happens to the provider or to the transport. -/
inductive Event where
  /-- Something that happens to the provider without the transport. -/
  | provider (event : Provider.Event)
  /-- The transport answers a call for an acquisition. -/
  | answer (m : Moment) (id call : Nat)
  /-- The transport answers a call for the queue of a site, and the record of a connection is made
  at `created`. -/
  | answerQueue (m : Moment) (site opening call : Nat) (created : Instant)
  /-- The transport has closed a connection of a site. -/
  | close (site connection : Nat)
  /-- Something is asked of the transport. -/
  | request (request : Transport.Request)

/-- The transport answers a call, and the provider is told by the event for that answer. -/
def tell (call : Nat) (opened : Connection → Provider.Event)
    (failed : ConnectFailure → Provider.Event) (b : Bench) : Bench :=
  match b.transport.answer call with
  | (some (.ok conn), transport) => ⟨b.custody.step (opened conn), transport⟩
  | (some (.error failure), transport) => ⟨b.custody.step (failed failure), transport⟩
  | (none, transport) => ⟨b.custody, transport⟩

/-- What an event makes of the provider and the transport. An answer that nobody `awaits` is not
given. -/
def step (b : Bench) : Event → Bench
  | .provider event =>
    if event.isOfTransport then b else { b with custody := b.custody.step event }
  | .answer m id call =>
    if b.custody.provider.awaits id then b.tell call (.opened m id) (.openingFailed id) else b
  | .answerQueue m site opening call created =>
    if b.custody.provider.awaitsForQueue site opening then
      b.tell call (.openedForQueue m site opening · created) (.openingForQueueFailed m site opening)
    else b
  | .close site connection =>
    if b.custody.provider.isClosing site connection then
      ⟨b.custody.step (.closeFinished site connection), b.transport.close⟩
    else b
  | .request request => { b with transport := b.transport.serve request }

/-- A provider before its first acquisition on a transport before its first call. -/
def start (config : Config) (connectLatency closeLatency : Duration) (refused : List String) :
    Bench :=
  ⟨.start config, .ofLatencies connectLatency closeLatency refused⟩

/-- `Reachable config b`: a list of events leads to `b`. -/
inductive Reachable (config : Config) : Bench → Prop
  | start (connectLatency closeLatency : Duration) (refused : List String) :
      Reachable config (.start config connectLatency closeLatency refused)
  | step {b : Bench} (event : Event) : Reachable config b → Reachable config (b.step event)

/-- What a list of events makes of the provider and the transport. -/
def run (b : Bench) (events : List Event) : Bench := events.foldl step b

theorem Reachable.run (h : Reachable config b) (events : List Event) :
    Reachable config (b.run events) := by
  induction events generalizing b with
  | nil => exact h
  | cons event events ih => exact ih (h.step event)

/-- `Counted b`: the count of the transport agrees with the record, and its connections are
numbered. -/
structure Counted (b : Bench) : Prop where
  /-- What was handed over is open or has been closed. -/
  openNow : b.transport.openNow + b.custody.closed.length = b.custody.received.length
  /-- The transport numbers its connections. -/
  numbers : Numbered b.transport.nextConnection (b.custody.received.map (·.id))

/-- Where nothing arrives and nothing is closed, a bench stays `Counted`. -/
theorem Counted.step_quiet (h : b.Counted) {event : Provider.Event} {t : Transport}
    (hflow : (b.custody.provider.flow event).arrived = [] ∧
      (b.custody.provider.flow event).closed = [])
    (hopenNow : t.openNow = b.transport.openNow)
    (hnext : t.nextConnection = b.transport.nextConnection) :
    Counted ⟨b.custody.step event, t⟩ := by
  obtain ⟨harrived, hclosed⟩ := hflow
  refine ⟨?_, ?_⟩
  · simpa [Custody.step, harrived, hclosed, hopenNow] using h.openNow
  · simpa [Custody.step, harrived, hnext] using h.numbers

/-- `tell` with an answer that is awaited keeps a bench `Counted`. -/
theorem Counted.tell (h : b.Counted) (call : Nat) {opened : Connection → Provider.Event}
    {failed : ConnectFailure → Provider.Event}
    (hopened : ∀ conn, (b.custody.provider.flow (opened conn)).arrived = [conn] ∧
      (b.custody.provider.flow (opened conn)).closed = [])
    (hfailed : ∀ failure, (failed failure).isOfTransport = false) :
    (b.tell call opened failed).Counted := by
  have hcases := b.transport.answer_cases call
  rw [Bench.tell]
  generalize b.transport.answer call = answer at hcases
  obtain ⟨result, t⟩ := answer
  obtain ⟨address, rfl, hopenNow, hnext⟩ | ⟨rfl | ⟨failure, rfl⟩, hopenNow, hnext⟩ := hcases <;>
    dsimp only at hopenNow hnext
  · obtain ⟨harrived, hclosed⟩ := hopened ⟨b.transport.nextConnection, address⟩
    refine ⟨?_, ?_⟩
    · have := h.openNow
      simp only [Custody.step, harrived, hclosed, List.append_nil, List.length_append,
        List.length_singleton] at hopenNow ⊢
      omega
    · have hnew := h.numbers.append_next
      simpa [Custody.step, harrived, hnext] using hnew
  · exact ⟨by simpa [hopenNow] using h.openNow, by simpa [hnext] using h.numbers⟩
  · exact h.step_quiet (b.custody.provider.flow_of_not_transport (hfailed failure)) hopenNow hnext

/-- Every `step` keeps a bench `Counted`. -/
theorem Counted.step (h : b.Counted) (hcustody : Custody.Reachable config b.custody)
    (event : Event) : (b.step event).Counted := by
  -- only the transport opens and closes connections, and the record says which
  cases event with
  | provider event =>
    rw [Bench.step]
    split
    next => exact h
    next hevent =>
      rw [Bool.not_eq_true] at hevent
      exact h.step_quiet (b.custody.provider.flow_of_not_transport hevent) rfl rfl
  | answer m id call =>
    rw [Bench.step]
    split
    next hawaits =>
      exact h.tell call (Provider.flow_opened hcustody.provider m hawaits) fun failure => rfl
    next => exact h
  | answerQueue m site opening call created =>
    rw [Bench.step]
    split
    next hawaits =>
      exact h.tell call (Provider.flow_openedForQueue m created hawaits) fun failure => rfl
    next => exact h
  | close site connection =>
    rw [Bench.step]
    split
    next hclosing =>
      obtain ⟨harrived, conn, hclosed⟩ := Provider.flow_closeFinished hclosing
      have hopenNow := h.openNow
      -- what has been closed was received before, so the transport counts it as open
      have hkept := (Custody.kept_of_reachable
        (hcustody.step (.closeFinished site connection))).received.length_eq
      simp only [Custody.step, harrived, hclosed, List.append_nil, List.length_append,
        List.length_singleton] at hkept
      refine ⟨?_, ?_⟩
      · simp only [Custody.step, harrived, hclosed, Transport.close, List.append_nil,
          List.length_append, List.length_singleton]
        omega
      · simpa [Custody.step, harrived, Transport.close] using h.numbers
    next => exact h
  | request request =>
    obtain ⟨hopenNow, hnext⟩ := b.transport.serve_counters request
    exact ⟨by simpa [Bench.step, hopenNow] using h.openNow,
      by simpa [Bench.step, hnext] using h.numbers⟩

/-- The `custody` of a `Reachable` bench is one that some list of events leads to. -/
theorem Reachable.custody (h : Reachable config b) : Custody.Reachable config b.custody := by
  induction h with
  | start connectLatency closeLatency refused => exact .start
  | @step b event _ ih =>
    -- an event of the bench is one event of the provider, or none
    have htell : ∀ (call : Nat) (opened : Connection → Provider.Event)
        (failed : ConnectFailure → Provider.Event),
        Custody.Reachable config (b.tell call opened failed).custody := by
      intro call opened failed
      rw [tell]
      split
      · exact ih.step _
      · exact ih.step _
      · exact ih
    cases event with
    | provider event =>
      rw [Bench.step]
      split
      · exact ih
      · exact ih.step event
    | answer m id call =>
      rw [Bench.step]
      split
      · exact htell _ _ _
      · exact ih
    | answerQueue m site opening call created =>
      rw [Bench.step]
      split
      · exact htell _ _ _
      · exact ih
    | close site connection =>
      rw [Bench.step]
      split
      · exact ih.step _
      · exact ih
    | request request => exact ih

theorem counted_of_reachable (h : Reachable config b) : b.Counted := by
  induction h with
  | start connectLatency closeLatency refused => exact ⟨rfl, .nil 1⟩
  | step event hreachable ih => exact ih.step hreachable.custody event

/-- No connection is `received` twice from the transport. -/
theorem received_distinct (h : Reachable config b) : b.custody.received.Nodup :=
  (counted_of_reachable h).numbers.nodup.of_map _

/-- The connections that are `held` by the pools of a provider are those they count. -/
theorem length_held {p : Provider} (h : Provider.Sound config p) :
    p.held.length =
      (p.sites.map fun s => s.pool.idle.length + s.pool.inUse + s.pool.closing).sum := by
  rw [Provider.held, List.length_flatMap]
  -- site by site, the counters are the lengths of the lists
  refine congrArg List.sum (List.map_congr_left fun s hs => ?_)
  have hbalance := Site.balance_of_reachable (h.sites s hs)
  have hinUse := hbalance.inUse
  have hclosing := hbalance.closing
  simp only [Site.holdings, List.length_map, List.length_append]
  omega

/-- What is open, `openNow`, is idle, in use, being closed, or detached. -/
theorem openNow_eq (h : Reachable config b) :
    b.transport.openNow =
      (b.custody.provider.sites.map fun s =>
        s.pool.idle.length + s.pool.inUse + s.pool.closing).sum + b.custody.detached.length := by
  have hopenNow := (counted_of_reachable h).openNow
  have hreceived := (Custody.kept_of_reachable h.custody).received.length_eq
  have hheld := length_held (Provider.sound_of_reachable h.custody.provider)
  simp only [List.length_append] at hreceived
  -- what was received is held, detached or closed, and the transport counts what is not closed
  omega

/-- Whatever happens, what was handed over is where the pools and the record say. If no connection
is `received` twice, the record is `Settled`: each is in exactly one place and closed at most once.
The in-memory transport hands none over twice, and counts as `openNow` what the pools count and what
was detached. -/
theorem settled_and_counted (config : Config) :
    (∀ w, Custody.Reachable config w →
      (w.places.map Prod.snd).Perm w.received ∧ (w.received.Nodup → w.Settled)) ∧
    ∀ b, Reachable config b → b.custody.Settled ∧
      b.transport.openNow =
        (b.custody.provider.sites.map fun s =>
          s.pool.idle.length + s.pool.inUse + s.pool.closing).sum + b.custody.detached.length :=
  ⟨fun _ h => ⟨Custody.places_perm h, Custody.settled_of_reachable h⟩,
    fun _ h => ⟨Custody.settled_of_reachable h.custody (received_distinct h), openNow_eq h⟩⟩

/-- One caller detaches its connection, and another waits while its own is being opened. -/
def shared : List Event :=
  [.provider (.acquire (.ofAddress "db:1")), .provider (.poll (.atMillis 0) 0),
    .request (.begin "db:1"), .answer (.atMillis 0) 0 1, .provider (.detach ⟨0, 1⟩),
    .provider (.acquire (.ofAddress "db:1")), .provider (.poll (.atMillis 0) 1)]

/-- The record of one caller who holds the only connection, and the transport of one who detached
it. -/
theorem settled_and_counted_shared :
    ((Custody.start .oneSlot).run Provider.crowded).received = [⟨1, "db:1"⟩] ∧
    ((Custody.start .oneSlot).run Provider.crowded).Settled ∧
    ((start .oneSlot .zero .zero []).run shared).transport.openNow = 1 ∧
    ((start .oneSlot .zero .zero []).run shared).custody.Settled :=
  ⟨rfl,
    ((settled_and_counted .oneSlot).1 _ (Custody.Reachable.start.run Provider.crowded)).2
      (by decide),
    rfl,
    ((settled_and_counted .oneSlot).2 _ ((Reachable.start .zero .zero []).run shared)).1⟩

end Bench

end ConnectionPool
