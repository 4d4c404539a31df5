import ConnectionPool.Proofs.Site.Requests

/-!
# The course of one request

A request that was queued is in the queue, or its answer is in the inbox, or it is over. These
exclude one another. Whoever waits for it brings it to an end by reading the answer, by finding that
its time is up, or by giving it up; everybody else can at most answer it, and only once.

* `step_queues`, `step_sent`, `step_past`: what others can do to a request.
* `poll_of_queues`, `poll_of_sent`, `past_of_poll`, `past_of_cancel`: what its own waiter can do.
* `closed_of_sent`, `closed_of_acquire`, `closed_of_opened`: that the pool is closed is told only by
  a closed pool.
-/

namespace ConnectionPool.Site

variable {config : Config} {s t : Site} {event : Event} {request : Nat} {deadline : Instant}
  {answer : Delivery}

/-- `Queues request deadline s`: the request is in the queue once, until the deadline, and has no
answer. -/
structure Queues (request : Nat) (deadline : Instant) (s : Site) : Prop where
  /-- It is queued once. -/
  once : ∃ r, s.pool.pending.filter (·.id == request) = [r] ∧ r.deadline = deadline
  /-- It was sent nothing. -/
  unanswered : s.inbox.lookup request = none

/-- `Sent request answer s`: the request has left the queue, and its one answer has not
been read. -/
structure Sent (request : Nat) (answer : Delivery) (s : Site) : Prop where
  /-- It is not queued. -/
  unqueued : s.pool.isQueued request = false
  /-- It was sent one answer. -/
  once : s.inbox.filter (·.1 == request) = [(request, answer)]

/-- `Past request s`: the request was under way and no longer is. -/
structure Past (request : Nat) (s : Site) : Prop where
  /-- Its number was given out. -/
  lt : request < s.pool.nextRequest
  /-- It is neither queued nor answered. -/
  notMem : request ∉ s.requests

/-- The event is a `poll` or a `cancel` of the request. -/
def Event.isOfRequest (request : Nat) : Event → Bool
  | .poll _ known | .cancel _ known => known == request
  | _ => false

/-- A request that `Queues` is in the queue. -/
theorem Queues.exists_mem (h : s.Queues request deadline) :
    ∃ r ∈ s.pool.pending, r.id = request ∧ r.deadline = deadline := by
  obtain ⟨⟨r, hfilter, hdeadline⟩, -⟩ := h
  -- the filter has a member, which is in the queue
  have hmem : r ∈ s.pool.pending.filter (·.id == request) := by
    rw [hfilter]
    exact List.mem_singleton_self r
  obtain ⟨hmem, hid⟩ := List.mem_filter.1 hmem
  exact ⟨r, hmem, by simpa using hid, hdeadline⟩

/-- Where `requests` are different, a request `Queues` if it is in the queue. -/
theorem queues_iff (hrequests : s.requests.Nodup) :
    s.Queues request deadline ↔
      ∃ r ∈ s.pool.pending, r.id = request ∧ r.deadline = deadline := by
  refine ⟨Queues.exists_mem, ?_⟩
  -- numbers differ within the queue, and between the queue and the inbox
  obtain ⟨hpending, -, hdisjoint⟩ := List.nodup_append.1 hrequests
  rintro ⟨r, hmem, rfl, hdeadline⟩
  refine ⟨⟨r, filter_of_mem hpending hmem, hdeadline⟩, ?_⟩
  rw [List.lookup_eq_none_iff]
  intro sent hsent
  have := hdisjoint r.id (List.mem_map_of_mem hmem) sent.1 (List.mem_map_of_mem hsent)
  simpa using this

/-- Where `requests` are different, an answer is `Sent` if it is in the inbox. -/
theorem sent_iff (hrequests : s.requests.Nodup) :
    s.Sent request answer ↔ (request, answer) ∈ s.inbox := by
  obtain ⟨-, hkeys, hdisjoint⟩ := List.nodup_append.1 hrequests
  constructor
  · rintro ⟨-, hfilter⟩
    have hmem : (request, answer) ∈ s.inbox.filter (·.1 == request) := by
      rw [hfilter]
      exact List.mem_singleton_self _
    exact (List.mem_filter.1 hmem).1
  · intro hmem
    refine ⟨?_, filter_of_mem hkeys hmem⟩
    rw [Pool.isQueued, List.any_eq_false]
    intro r hr
    have := hdisjoint r.id (List.mem_map_of_mem hr) request
      (List.mem_map_of_mem (f := Prod.fst) hmem)
    simpa using this

theorem mem_requests_of_queues (hrequests : s.requests.Nodup) (h : s.Queues request deadline) :
    request ∈ s.requests := by
  obtain ⟨r, hr, rfl, -⟩ := (queues_iff hrequests).1 h
  exact List.mem_append_left _ (List.mem_map_of_mem hr)

theorem mem_requests_of_sent (hrequests : s.requests.Nodup) (h : s.Sent request answer) :
    request ∈ s.requests :=
  List.mem_append_right _ (List.mem_map_of_mem (f := Prod.fst) ((sent_iff hrequests).1 h))

theorem Queues.isQueued (h : s.Queues request deadline) : s.pool.isQueued request = true := by
  obtain ⟨r, hmem, hid, -⟩ := h.exists_mem
  exact List.any_eq_true.2 ⟨r, hmem, by simpa using hid⟩

/-- A request is `Sent` one answer. -/
theorem Sent.unique {other : Delivery} (h : s.Sent request answer) (hother : s.Sent request other) :
    answer = other := by
  have hfilter := h.once.symm.trans hother.once
  simpa using hfilter

/-! ## What others do -/

/-- What `Serves` the queue leaves a request there, or answers it. -/
theorem Serves.queued {right : Request → Delivery → Prop} (h : Serves right s t) {r : Request}
    (hr : r ∈ s.pool.pending) :
    r ∈ t.pool.pending ∨ ∃ answer, right r answer ∧ (r.id, answer) ∈ t.inbox := by
  obtain ⟨served, hpending, hinbox, hanswers⟩ := h
  rw [hpending] at hr
  rcases List.mem_append.1 hr with hserved | hleft
  · obtain ⟨⟨q, answer⟩, hmem, rfl⟩ := List.mem_map.1 hserved
    refine .inr ⟨answer, hanswers q answer hmem, ?_⟩
    rw [hinbox]
    exact List.mem_append_right _ (List.mem_map.2 ⟨_, hmem, rfl⟩)
  · exact .inl hleft

/-- What `Serves` the queue takes no answer away. -/
theorem Serves.inbox_subset {right : Request → Delivery → Prop} (h : Serves right s t) :
    s.inbox ⊆ t.inbox := by
  obtain ⟨served, -, hinbox, -⟩ := h
  rw [hinbox]
  exact List.subset_append_left _ _

/-- What `Serves` the queue sends only right answers. -/
theorem Serves.inbox_mem {right : Request → Delivery → Prop} (h : Serves right s t)
    (hmem : (request, answer) ∈ t.inbox) :
    (request, answer) ∈ s.inbox ∨ ∃ r, r.id = request ∧ right r answer := by
  obtain ⟨served, -, hinbox, hanswers⟩ := h
  rw [hinbox] at hmem
  rcases List.mem_append.1 hmem with hold | hnew
  · exact .inl hold
  · obtain ⟨⟨r, sent⟩, hserved, heq⟩ := List.mem_map.1 hnew
    obtain ⟨rfl, rfl⟩ := Prod.mk.inj heq
    exact .inr ⟨r, rfl, hanswers r sent hserved⟩

theorem mem_inbox_eraseP {other : Nat} (hne : request ≠ other)
    (hmem : (request, answer) ∈ s.inbox) :
    (request, answer) ∈ s.inbox.eraseP (·.1 == other) :=
  (List.mem_eraseP_of_neg (by simpa using hne)).2 hmem

theorem mem_dequeue {other : Nat} {r : Request} (hne : r.id ≠ other) (hmem : r ∈ s.pool.pending) :
    r ∈ (s.pool.dequeue other).pending :=
  (List.mem_eraseP_of_neg (by simpa using hne)).2 hmem

/-- Every `step` takes off the list what its own waiter has done with, if there is one, and then
serves the queue. Requests of others are still there when it begins to serve. -/
theorem step_base (config : Config) (event : Event) (s : Site) :
    ∃ base : Site, Serves (event.Answers config) base (s.step config event).1 ∧
      base.inbox ⊆ s.inbox ∧
      ∀ request, event.isOfRequest request = false →
        (∀ r ∈ s.pool.pending, r.id = request → r ∈ base.pool.pending) ∧
        ∀ answer, (request, answer) ∈ s.inbox → (request, answer) ∈ base.inbox := by
  -- for acquisitions and polls the queue is not served at all, so the base is the site after the
  -- event
  cases event with
  | acquire m =>
    refine ⟨(s.step config (.acquire m)).1, .of_eq rfl rfl, ?_⟩
    obtain ⟨hinbox, ⟨-, -, -, hpending, -⟩ | ⟨-, -, -, hpending, -⟩ | ⟨-, -, -, hpending, -⟩⟩ :=
      acquire_tickets config m s <;> rw [step, hinbox, hpending]
    · exact ⟨List.Subset.refl _, fun _ _ => ⟨fun r hr _ => hr, fun _ hmem => hmem⟩⟩
    · -- the new request is the last in the queue
      refine ⟨List.Subset.refl _, fun _ _ => ⟨fun r hr _ => ?_, fun _ hmem => hmem⟩⟩
      exact List.mem_append_left _ hr
    · exact ⟨List.Subset.refl _, fun _ _ => ⟨fun r hr _ => hr, fun _ hmem => hmem⟩⟩
  | poll m other =>
    refine ⟨(s.step config (.poll m other)).1, .of_eq rfl rfl, ?_⟩
    have hne : ∀ request, Event.isOfRequest request (.poll m other) = false → request ≠ other :=
      fun request hother => Ne.symm (by simpa [Event.isOfRequest] using hother)
    obtain ⟨e, -, heq⟩ | ⟨error, -, heq⟩ | ⟨-, ⟨-, heq⟩ | ⟨q, -, ⟨-, heq⟩ | ⟨-, heq⟩⟩⟩ :=
      poll_cases config m other s <;> rw [step, heq]
    · exact ⟨List.eraseP_subset, fun request hother =>
        ⟨fun r hr _ => hr, fun _ => mem_inbox_eraseP (hne request hother)⟩⟩
    · exact ⟨List.eraseP_subset, fun request hother =>
        ⟨fun r hr _ => hr, fun _ => mem_inbox_eraseP (hne request hother)⟩⟩
    · exact ⟨List.Subset.refl _, fun _ _ => ⟨fun r hr _ => hr, fun _ hmem => hmem⟩⟩
    · exact ⟨List.Subset.refl _, fun request hother =>
        ⟨fun r hr hid => mem_dequeue (hid ▸ hne request hother) hr, fun _ hmem => hmem⟩⟩
    · exact ⟨List.Subset.refl _, fun _ _ => ⟨fun r hr _ => hr, fun _ hmem => hmem⟩⟩
  | cancel m other =>
    have hne : ∀ request, Event.isOfRequest request (.cancel m other) = false → request ≠ other :=
      fun request hother => Ne.symm (by simpa [Event.isOfRequest] using hother)
    by_cases hqueued : s.pool.isQueued other = true
    · obtain ⟨-, heq⟩ | ⟨hnot, -⟩ := cancel_cases config m other s
      · refine ⟨(s.step config (.cancel m other)).1, .of_eq rfl rfl, ?_⟩
        rw [step, heq]
        exact ⟨List.Subset.refl _, fun request hother =>
          ⟨fun r hr hid => mem_dequeue (hid ▸ hne request hother) hr, fun _ hmem => hmem⟩⟩
      · rw [hqueued] at hnot
        cases hnot
    · -- a connection that was sent to the request may serve those behind it
      rw [Bool.not_eq_true] at hqueued
      exact ⟨_, cancel_serves config m hqueued, List.eraseP_subset, fun request hother =>
        ⟨fun r hr _ => hr, fun _ => mem_inbox_eraseP (hne request hother)⟩⟩
  | _ =>
    exact ⟨s, step_serves config _ rfl s, List.Subset.refl _, fun _ _ =>
      ⟨fun r hr _ => hr, fun _ hmem => hmem⟩⟩

/-- Every answer was sent by an event that `Answers` the request so. -/
theorem mem_inbox_of_step (config : Config) (event : Event) (s : Site)
    (hmem : (request, answer) ∈ (s.step config event).1.inbox) :
    (request, answer) ∈ s.inbox ∨ ∃ r, r.id = request ∧ event.Answers config r answer := by
  obtain ⟨base, hserves, hsubset, -⟩ := step_base config event s
  rcases hserves.inbox_mem hmem with hold | hnew
  · exact .inl (hsubset hold)
  · exact .inr hnew

/-- The acts of others leave a request that `Queues` in the queue, or send it one answer. -/
theorem step_queues (h : Reachable config s) (hother : event.isOfRequest request = false)
    (hqueues : s.Queues request deadline) :
    (s.step config event).1.Queues request deadline ∨
      ∃ answer, (s.step config event).1.Sent request answer ∧
        ∃ r, r.id = request ∧ r.deadline = deadline ∧ event.Answers config r answer := by
  have hafter := (requests_numbered (h.step event)).nodup
  obtain ⟨r, hr, hid, hdeadline⟩ := (queues_iff (requests_numbered h).nodup).1 hqueues
  obtain ⟨base, hserves, -, hkept⟩ := step_base config event s
  rcases hserves.queued ((hkept request hother).1 r hr hid) with hstays | ⟨answer, hright, hsent⟩
  · exact .inl ((queues_iff hafter).2 ⟨r, hstays, hid, hdeadline⟩)
  · exact .inr ⟨answer, (sent_iff hafter).2 (hid ▸ hsent), r, hid, hdeadline, hright⟩

/-- The acts of others leave an answer that was `Sent` where it is. -/
theorem step_sent (h : Reachable config s) (hother : event.isOfRequest request = false)
    (hsent : s.Sent request answer) : (s.step config event).1.Sent request answer := by
  have hmem := (sent_iff (requests_numbered h).nodup).1 hsent
  obtain ⟨base, hserves, -, hkept⟩ := step_base config event s
  have hafter := hserves.inbox_subset ((hkept request hother).2 answer hmem)
  exact (sent_iff (requests_numbered (h.step event)).nodup).2 hafter

/-- Numbers of requests are given out in order. -/
theorem nextRequest_le (config : Config) (event : Event) (s : Site) :
    s.pool.nextRequest ≤ (s.step config event).1.pool.nextRequest := by
  by_cases hacquire : event.isAcquire = true
  · obtain ⟨m, rfl⟩ : ∃ m, event = .acquire m := by
      cases event <;> simp [Event.isAcquire] at hacquire ⊢
    rw [step]
    obtain ⟨-, ⟨-, -, -, -, hnext⟩ | ⟨-, -, -, -, hnext⟩ | ⟨-, -, -, -, hnext⟩⟩ :=
      acquire_tickets config m s
    · exact Nat.le_of_eq hnext.symm
    · rw [hnext]
      exact Nat.le_succ _
    · exact Nat.le_of_eq hnext.symm
  · rw [Bool.not_eq_true] at hacquire
    exact Nat.le_of_eq ((step_frame config event s).nextRequest hacquire).symm

/-- What is `Past` stays so. -/
theorem step_past (config : Config) (event : Event) (h : s.Past request) :
    (s.step config event).1.Past request := by
  obtain ⟨hlt, hnotMem⟩ := h
  refine ⟨Nat.lt_of_lt_of_le hlt (nextRequest_le config event s), ?_⟩
  intro hmem
  -- no event but an acquisition brings a request under way
  cases event with
  | acquire m =>
    obtain ⟨hinbox, ⟨-, -, -, hpending, -⟩ | ⟨-, -, -, hpending, -⟩ | ⟨-, -, -, hpending, -⟩⟩ :=
      acquire_tickets config m s <;> rw [step, requests, hinbox, hpending] at hmem
    · exact hnotMem hmem
    · -- the new request has a number that was not given out before
      rw [List.map_append, List.append_assoc] at hmem
      rcases List.mem_append.1 hmem with hqueued | hnew
      · exact hnotMem (List.mem_append_left _ hqueued)
      · rcases List.mem_append.1 hnew with hown | hsent
        · have heq : request = s.pool.nextRequest := by
            simpa [Pool.newRequest] using hown
          omega
        · exact hnotMem (List.mem_append_right _ hsent)
    · exact hnotMem hmem
  | poll m other =>
    obtain ⟨-, heq⟩ | ⟨-, hperm⟩ := poll_requests config m other s
    · rw [step, heq] at hmem
      exact hnotMem hmem
    · exact hnotMem (List.mem_of_mem_erase (hperm.subset hmem))
  | cancel m other =>
    exact hnotMem (List.mem_of_mem_erase ((cancel_requests config m other s).subset hmem))
  | _ => exact hnotMem ((step_requests config _ rfl s).subset hmem)

/-! ## What the waiter does -/

/-- `poll` of a request that `Queues` has no outcome until its timer has fired. -/
theorem poll_of_queues (hrequests : s.requests.Nodup) (h : s.Queues request deadline) (m : Moment) :
    (m.hasFired deadline = true ∧
      (s.poll config m request).1 = some (.error (.acquisitionTimeout config.acquireTimeout))) ∨
    (m.hasFired deadline = false ∧ s.poll config m request = (none, s, [])) := by
  obtain ⟨hpending, -, -⟩ := List.nodup_append.1 hrequests
  obtain ⟨r, hr, hid, hdeadline⟩ := (queues_iff hrequests).1 h
  have hfind : s.pool.pending.find? (·.id == request) = some r := by
    rw [← hid]
    exact find?_of_mem hpending hr
  have hnone := h.unanswered
  -- the request has no answer and is in the queue, which leaves the timer to decide
  obtain ⟨e, hinbox, -⟩ | ⟨error, hinbox, -⟩ | ⟨-, ⟨hqueue, -⟩ | ⟨q, hqueue, htimer⟩⟩ :=
    poll_cases config m request s
  · rw [hnone] at hinbox
    cases hinbox
  · rw [hnone] at hinbox
    cases hinbox
  · rw [hfind] at hqueue
    cases hqueue
  · obtain rfl : r = q := Option.some.inj (hfind.symm.trans hqueue)
    rw [hdeadline] at htimer
    obtain ⟨hfired, heq⟩ | ⟨hfired, heq⟩ := htimer
    · exact .inl ⟨hfired, by rw [heq]⟩
    · exact .inr ⟨hfired, heq⟩

/-- `poll` of a request that was `Sent` an answer gets it, at any time. -/
theorem poll_of_sent (hrequests : s.requests.Nodup) (h : s.Sent request answer) (m : Moment) :
    (s.poll config m request).1 = some (answer.map fun e => e.info.id) := by
  obtain ⟨-, hkeys, -⟩ := List.nodup_append.1 hrequests
  have hlookup := lookup_of_mem hkeys ((sent_iff hrequests).1 h)
  obtain ⟨e, hinbox, heq⟩ | ⟨error, hinbox, heq⟩ | ⟨hinbox, -⟩ := poll_cases config m request s
  · obtain rfl := Option.some.inj (hlookup.symm.trans hinbox)
    rw [heq]
    rfl
  · obtain rfl := Option.some.inj (hlookup.symm.trans hinbox)
    rw [heq]
    rfl
  · rw [hlookup] at hinbox
    cases hinbox

/-- A request is `Past` after a `poll` that tells its outcome. -/
theorem past_of_poll (h : Reachable config s) (hmem : request ∈ s.requests) {m : Moment}
    (houtcome : (s.poll config m request).1 ≠ none) :
    (s.poll config m request).2.1.Past request := by
  have hnumbers := requests_numbered h
  have hframe := (step_frame config (.poll m request) s).nextRequest rfl
  obtain ⟨hnone, -⟩ | ⟨-, hperm⟩ := poll_requests config m request s
  · exact absurd hnone houtcome
  · refine ⟨?_, fun hafter => ?_⟩
    · show request < (s.step config (.poll m request)).1.pool.nextRequest
      rw [hframe]
      exact hnumbers.lt request hmem
    · exact (hnumbers.nodup.mem_erase_iff.1 (hperm.subset hafter)).1 rfl

/-- A request is `Past` after `cancel`. -/
theorem past_of_cancel (h : Reachable config s) (hmem : request ∈ s.requests) (m : Moment) :
    (s.cancel config m request).1.Past request := by
  have hnumbers := requests_numbered h
  have hframe := (step_frame config (.cancel m request) s).nextRequest rfl
  refine ⟨?_, fun hafter => ?_⟩
  · show request < (s.step config (.cancel m request)).1.pool.nextRequest
    rw [hframe]
    exact hnumbers.lt request hmem
  · have herased := (cancel_requests config m request s).subset hafter
    exact (hnumbers.nodup.mem_erase_iff.1 herased).1 rfl

/-! ## Closed pools -/

/-- Only an event that `isShutDown` tells requests that the pool is closed. -/
theorem Event.Answers.isShutDown {r : Request} (h : event.Answers config r (.error .poolClosed)) :
    event.isShutDown = true := by
  cases h
  rfl

/-- `poolClosed` is told to requests only by a closed pool. -/
theorem closed_of_sent (h : Reachable config s)
    (hmem : (request, .error .poolClosed) ∈ s.inbox) : s.pool.closed = true := by
  -- a pool that was shut down stays so, and nothing else sends this answer
  revert request
  refine h.invariant (motive := fun s => ∀ {request : Nat},
    (request, .error .poolClosed) ∈ s.inbox → s.pool.closed = true) (fun destination => ?_) ?_
  · intro request hmem
    cases hmem
  · intro s event hs request hmem
    rw [(step_frame config event s).closed]
    rcases mem_inbox_of_step config event s hmem with hold | ⟨r, -, hanswers⟩
    · rw [hs hold, Bool.true_or]
    · rw [hanswers.isShutDown, Bool.or_true]

/-- `acquire` tells `poolClosed` only at a closed pool. -/
theorem closed_of_acquire {m : Moment} (h : (s.acquire config m).1 = .error .poolClosed) :
    s.pool.closed = true := by
  obtain ⟨hclosed, -⟩ | ⟨-, ⟨e, -, heq⟩ | ⟨-, ⟨-, heq⟩ | ⟨-, -, -, heq⟩ | ⟨error, herror, heq⟩⟩⟩ :=
    acquire_cases config m s
  · exact hclosed
  · rw [heq] at h
    cases h
  · rw [heq] at h
    cases h
  · rw [heq] at h
    cases h
  · rw [heq] at h
    obtain rfl := Except.error.inj h
    obtain ⟨-, ⟨-, hexhausted⟩ | ⟨-, -, hfull⟩⟩ := herror
    · cases hexhausted
    · cases hfull

/-- `opened` keeps a connection from the caller for whom it was opened only at a closed pool. -/
theorem closed_of_opened {opening : Nat} {conn : Connection} {m : Moment}
    (hopening : s.isOpening opening .caller = true)
    (h : (s.opened opening conn m).1 = .error .poolClosed) : s.pool.closed = true := by
  obtain ⟨hnot, -⟩ | ⟨-, ⟨hclosed, -⟩ | ⟨-, heq⟩⟩ := opened_cases opening conn m s
  · rw [hopening] at hnot
    cases hnot
  · exact hclosed
  · rw [heq] at h
    cases h

end ConnectionPool.Site
