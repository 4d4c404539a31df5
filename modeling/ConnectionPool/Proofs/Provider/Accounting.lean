import ConnectionPool.Proofs.Provider.Links
import ConnectionPool.Proofs.Site.Demand
import ConnectionPool.Proofs.Site.Queue

/-!
# The counters of every pool

The counters of a pool stand for what is spread over its provider: idle connections, handles of
callers, connections on their way to an acquisition that has not read them, slots held by
acquisitions whose connection is being opened, and openings for the queue. `Accounted` says that the
counters of one site are right in this sense, that they stay within the bounds, and that no event
takes more from a counter than is there.

* `unread_perm`: what was sent and not read is waited for, one connection by one acquisition.
* `accounted_of_reachable`: every site of every reachable provider is accounted for.
-/

namespace ConnectionPool

namespace Site

variable {config : Config} {s : Site}

/-- The openings made for the queue. -/
def openingsForQueue (s : Site) : List Opening := s.openings.filter (·.purpose == .queue)

/-- The connection that was sent to a request and not yet read. -/
def sent? (request : Nat) (s : Site) : Option Entry :=
  (s.inbox.lookup request).bind Except.toOption

/-- Every opening is among the `callerOpenings` or the `openingsForQueue`. -/
theorem length_openings (s : Site) :
    s.openings.length = s.callerOpenings.length + s.openingsForQueue.length := by
  have hsplit := List.length_eq_length_filter_add (l := s.openings) (·.purpose == .caller)
  have hqueue : s.openings.filter (fun o => !(o.purpose == .caller)) = s.openingsForQueue := by
    refine List.filter_congr fun o _ => ?_
    cases o.purpose <;> rfl
  rw [hqueue] at hsplit
  rw [hsplit, callerOpenings, List.length_map]

/-- Looked up request by request with `sent?`, the connections that were sent are those in the
inbox. -/
theorem filterMap_sent? (hrequests : s.requests.Nodup) :
    s.requests.filterMap s.sent? = entriesOf s.inbox := by
  obtain ⟨-, hkeys, hdisjoint⟩ := List.nodup_append.1 hrequests
  rw [requests, List.filterMap_append]
  -- a queued request was sent nothing
  have hqueued : (s.pool.pending.map (·.id)).filterMap s.sent? = [] := by
    rw [List.filterMap_eq_nil_iff]
    intro request hrequest
    cases hlookup : s.inbox.lookup request with
    | none => rw [sent?, hlookup, Option.bind_none]
    | some answer =>
      have hkey := List.mem_map_of_mem (f := Prod.fst) (mem_of_lookup hlookup)
      exact absurd rfl (hdisjoint request hrequest request hkey)
  rw [hqueued, List.nil_append, List.filterMap_map, entriesOf]
  refine List.filterMap_congr ?_
  rintro ⟨request, answer⟩ hmem
  show s.sent? request = answer.toOption
  rw [sent?, lookup_of_mem hkeys hmem, Option.bind_some]

end Site

namespace Provider

variable {config : Config} {p : Provider} {index : Nat} {s : Site}

/-- The openings of a site for which unfinished acquisitions hold a slot, by `openingAt`. -/
def reservations (index : Nat) (p : Provider) : List Nat :=
  p.acquisitions.filterMap fun known => known.2.openingAt index

/-- The connections of a site that were sent to unfinished acquisitions and not yet read. -/
def unread (index : Nat) (s : Site) (p : Provider) : List Entry :=
  p.acquisitions.filterMap fun known => (known.2.requestAt index).bind s.sent?

/-- What is `unread` is in the inbox, one connection for one acquisition. -/
theorem unread_perm (h : Reachable config p) (hs : p.sites[index]? = some s) :
    (p.unread index s).Perm (Site.entriesOf s.inbox) := by
  have hrequests := (linked_of_reachable h).requests index
  rw [listAt, hs] at hrequests
  have hsent := hrequests.filterMap s.sent?
  rw [List.filterMap_filterMap] at hsent
  have hnodup := (Site.requests_numbered ((sound_of_reachable h).site hs)).nodup
  rw [← Site.filterMap_sent? hnodup]
  exact hsent

/-- The `reservations` of acquisitions are the `callerOpenings` of the site. -/
theorem reservations_perm (h : Reachable config p) (hs : p.sites[index]? = some s) :
    (p.reservations index).Perm s.callerOpenings := by
  have hopenings := (linked_of_reachable h).openings index
  rw [listAt, hs] at hopenings
  exact hopenings

/-- `Accounted config p index s`: the counters of a site stand for what is idle, with callers, on
its way to one, being opened and being closed, and no event takes more from a counter than
is there. -/
structure Accounted (config : Config) (p : Provider) (index : Nat) (s : Site) : Prop where
  /-- An `allocated` slot belongs to an idle connection, to one in use, to one of the
  `reservations`, or to one of the `openingsForQueue`. -/
  allocated : s.pool.allocated = s.pool.idle.length + s.pool.inUse +
    ((p.reservations index).length + s.openingsForQueue.length)
  /-- A connection that is `inUse` is in the hands of a caller, or is `unread` by the acquisition it
  was sent to. -/
  inUse : s.pool.inUse = s.leases.length + (p.unread index s).length
  /-- A connection that is counted as `closing` is among the `closings`. -/
  closing : s.pool.closing = s.closings.length
  /-- The bound on connections is kept. -/
  slots : ∀ max, config.maxConnections.get = some max → s.pool.allocated ≤ max
  /-- The bound on the queue is kept. -/
  queue : ∀ max, config.maxPending.get = some max → s.pool.pending.length ≤ max
  /-- The counters cover the `demand` of every event. -/
  covers : ∀ event, Site.Covers s.pool (s.demand config event)
  /-- What an event takes is what the counters lose, as `Exact` says, so no counter stops short at
  zero. -/
  exactly : ∀ event, Site.Exact (s.demand config event) s (s.step config event)
  /-- The slots of connections being opened are found by exact subtraction. -/
  connecting : s.pool.connecting + (s.pool.idle.length + s.pool.inUse) = s.pool.allocated

/-- Every site of every `Reachable` provider is `Accounted` for. -/
theorem accounted_of_reachable (h : Reachable config p) (hs : p.sites[index]? = some s) :
    Accounted config p index s := by
  have hsite := (sound_of_reachable h).site hs
  have hbalance := Site.balance_of_reachable hsite
  have hjustified := Site.justified_of_reachable hsite
  -- the openings are those for callers and those for the queue
  have hopenings := s.length_openings
  have hreservations := (reservations_perm h hs).length_eq
  have hunread := (unread_perm h hs).length_eq
  have hallocated := hbalance.allocated
  refine ⟨?_, ?_, hbalance.closing, hjustified.slots, hjustified.queue, hbalance.demand_le config,
    Site.step_exact hbalance, ?_⟩
  · omega
  · rw [hunread]
    exact hbalance.inUse
  · rw [Pool.connecting]
    omega

/-- The only slot is taken by the connection that one caller holds while another waits. -/
theorem accounted_crowded : ∃ s, ((ofConfig .oneSlot).run crowded).sites[0]? = some s ∧
    Reachable .oneSlot ((ofConfig .oneSlot).run crowded) ∧
    s.leases.length = 1 ∧ s.pool.pending.length = 1 ∧
    Accounted .oneSlot ((ofConfig .oneSlot).run crowded) 0 s :=
  ⟨_, rfl, Reachable.start.run crowded, rfl, rfl,
    accounted_of_reachable (Reachable.start.run crowded) rfl⟩

end Provider

end ConnectionPool
