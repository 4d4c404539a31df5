import ConnectionPool.Proofs.Site.Returns
import ConnectionPool.Proofs.Site.Waiting

/-!
# First come, first served

The queue of a pool is in the order of the requests' numbers, and what is offered to it goes down
the queue from the front: those who are late are told so, and the first who is in time gets what is
offered. So requests are served in the order in which they came, over any run, and nobody who is in
time is passed over.

## Main definitions

* `Pool.serve`: what a queue is sent when something is offered to it.
* `offer?`: what an event offers to the queue, and when.
* `servedIn`: everybody who is served in a run, in order, each with what was sent.

## Main results

* `pending_sorted`: the queue is in the order of its numbers.
* `step_served`: an event sends what is sent when its offer goes down the queue.
* `servedIn_sorted`: over any run, requests are served in the order of their numbers.
* `deadlines_sorted`: on a monotone clock they run out of time in that order as well.
-/

namespace ConnectionPool

namespace Pool

/-- What a queue is sent when something is offered to it: those at its front who are late learn that
their time is up, and the first who is in time gets what is offered. -/
def serve (config : Config) (now : Instant) (offered : Delivery) :
    List Request → List (Request × Delivery)
  | [] => []
  | r :: rest =>
    if r.isLate now then
      (r, .error (.acquisitionTimeout config.acquireTimeout)) :: serve config now offered rest
    else [(r, offered)]

variable {config : Config} {now : Instant} {offered : Delivery}

/-- Where all are late, `serve` tells all that their time is up. -/
theorem serve_of_late {queue : List Request} (h : ∀ q ∈ queue, q.isLate now = true) :
    serve config now offered queue =
      queue.map fun q => (q, .error (.acquisitionTimeout config.acquireTimeout)) := by
  induction queue with
  | nil => rfl
  | cons q queue ih =>
    rw [List.forall_mem_cons] at h
    rw [serve, if_pos h.1, ih h.2, List.map_cons]

/-- `serve` gives what is offered to the first request in time, right after those who are late. -/
theorem serve_append_cons {late rest : List Request} {r : Request}
    (hlate : ∀ q ∈ late, q.isLate now = true) (hr : r.isLate now = false) :
    serve config now offered (late ++ r :: rest) =
      late.map (fun q => (q, .error (.acquisitionTimeout config.acquireTimeout))) ++
        [(r, offered)] := by
  induction late with
  | nil => simp [serve, hr]
  | cons q late ih =>
    rw [List.forall_mem_cons] at hlate
    rw [List.cons_append, serve, if_pos hlate.1, ih hlate.2, List.map_cons, List.cons_append]

/-- Those whom `serve` answers are the first in the queue. -/
theorem serve_fst_front (config : Config) (now : Instant) (offered : Delivery)
    (queue : List Request) : (serve config now offered queue).map Prod.fst <+: queue := by
  induction queue with
  | nil => exact List.nil_prefix
  | cons r rest ih =>
    rw [serve]
    split
    · exact List.prefix_cons_inj r |>.2 ih
    · exact ⟨rest, rfl⟩

end Pool

namespace Site

variable {config : Config} {s : Site}

/-- What is sent to requests, under their numbers. -/
def sentAs (served : List (Request × Delivery)) : List (Nat × Delivery) :=
  served.map fun (r, answer) => (r.id, answer)

/-- A connection that is no longer in use is offered to the queue, unless it has to be closed. -/
def offerOf? (config : Config) (m : Moment) (e : Entry) (s : Site) : Option (Instant × Delivery) :=
  if s.pool.closeReason? config m e = none then some (m.now, .ok e) else none

/-- What an event offers to the queue, and when: a connection that a caller gives back, one that was
sent to a request that is given up, one that was opened for the queue, or the failure of such an
opening. -/
def offer? (config : Config) (s : Site) : Event → Option (Instant × Delivery)
  | .release m lease => (s.lease? lease).bind fun e => s.offerOf? config m e
  | .cancel m request =>
    if s.pool.isQueued request then none
    else (s.inbox.lookup request).bind fun answer =>
      answer.toOption.bind fun e => s.offerOf? config m e
  | .openedForQueue opening conn m created =>
    if s.isOpening opening .queue && !s.pool.closed then
      some (m.now, .ok (s.pool.enlist conn created).1)
    else none
  | .openingForQueueFailed opening failure m =>
    if s.isOpening opening .queue then some (m.now, .error (.connectionCreation failure)) else none
  | _ => none

/-- Who is served at an event, in order, each with what is sent: `serve` with the offer of the
event. -/
def served (config : Config) (s : Site) (event : Event) : List (Request × Delivery) :=
  (s.offer? config event).elim [] fun (now, offered) =>
    Pool.serve config now offered s.pool.pending

/-- Who is `served` in the course of events. -/
def servedIn (config : Config) (s : Site) : List Event → List (Request × Delivery)
  | [] => []
  | event :: events => s.served config event ++ servedIn config (s.step config event).1 events

/-- Who is turned away at an event, because the pool is shut down. -/
def dismissed (s : Site) : Event → List (Request × Delivery)
  | .shutDown => if s.pool.closed then [] else s.pool.pending.map (·, .error .poolClosed)
  | _ => []

/-- The answers that are still unread when an event has taken off what its own waiter reads or gives
up. -/
def unread (s : Site) : Event → List (Nat × Delivery)
  | .poll _ request | .cancel _ request => s.inbox.eraseP (·.1 == request)
  | _ => s.inbox

/-! ## What an event sends -/

/-- `offerOf?` offers what comes back when `closeReason?` finds no reason to close it. -/
theorem offerOf?_eq_some_iff {m : Moment} {e : Entry} {now : Instant} {offered : Delivery} :
    s.offerOf? config m e = some (now, offered) ↔
      s.pool.closeReason? config m e = none ∧ m.now = now ∧ .ok e = offered := by
  simp [offerOf?]

/-- What `offer?` finds has come back, or belongs to an opening for the queue that has ended. -/
theorem offer?_cases {event : Event} {now : Instant} {offered : Delivery}
    (h : s.offer? config event = some (now, offered)) :
    (∃ m e, event.moment? = some m ∧ s.givenBack? event = some e ∧
      s.offerOf? config m e = some (now, offered)) ∨
    (∃ opening conn m created, event = .openedForQueue opening conn m created ∧
      s.isOpening opening .queue = true ∧ s.pool.closed = false ∧ m.now = now ∧
      .ok (s.pool.enlist conn created).1 = offered) ∨
    ∃ opening failure m, event = .openingForQueueFailed opening failure m ∧
      s.isOpening opening .queue = true ∧ m.now = now ∧
      .error (.connectionCreation failure) = offered := by
  cases event with
  | release m lease =>
    obtain ⟨e, hlease, hoffer⟩ := Option.bind_eq_some_iff.1 h
    exact .inl ⟨m, e, rfl, hlease, hoffer⟩
  | cancel m request =>
    -- whoever is queued has nothing to give back
    cases hqueued : s.pool.isQueued request with
    | true =>
      rw [offer?, if_pos hqueued] at h
      cases h
    | false =>
      rw [offer?, hqueued, if_neg Bool.false_ne_true] at h
      obtain ⟨answer, hlookup, hentry⟩ := Option.bind_eq_some_iff.1 h
      obtain ⟨e, hanswer, hoffer⟩ := Option.bind_eq_some_iff.1 hentry
      refine .inl ⟨m, e, rfl, ?_, hoffer⟩
      rw [givenBack?, hqueued, if_neg Bool.false_ne_true, hlookup, Option.bind_some, hanswer]
  | openedForQueue opening conn m created =>
    rw [offer?] at h
    split at h
    · rename_i hready
      obtain ⟨hopening, hopen⟩ := Bool.and_eq_true_iff.1 hready
      obtain ⟨rfl, rfl⟩ := Prod.mk.inj (Option.some.inj h)
      exact .inr (.inl ⟨opening, conn, m, created, rfl, hopening, by simpa using hopen, rfl, rfl⟩)
    · cases h
  | openingForQueueFailed opening failure m =>
    rw [offer?] at h
    split at h
    · rename_i hopening
      obtain ⟨rfl, rfl⟩ := Prod.mk.inj (Option.some.inj h)
      exact .inr (.inr ⟨opening, failure, m, rfl, hopening, rfl, rfl⟩)
    · cases h
  | _ => cases h

theorem served_of_offer {event : Event} {now : Instant} {offered : Delivery}
    (h : s.offer? config event = some (now, offered)) :
    s.served config event = Pool.serve config now offered s.pool.pending := by
  rw [served, h, Option.elim_some]

theorem served_of_no_offer {event : Event} (h : s.offer? config event = none) :
    s.served config event = [] := by
  rw [served, h, Option.elim_none]

/-- `handOff` sends the connection down the queue. -/
theorem handOff_served (config : Config) (now : Instant) (e : Entry) (s : Site) :
    (handOff config now e s).1.inbox =
        s.inbox ++ sentAs (Pool.serve config now (.ok e) s.pool.pending) ∧
      (handOff config now e s).1.pool.pending =
        s.pool.pending.drop (Pool.serve config now (.ok e) s.pool.pending).length := by
  rw [handOff_fst]
  obtain ⟨hlate, heq⟩ | ⟨late, r, rest, hpending, hlate, hr, heq⟩ :=
    Pool.handOff_cases now e s.pool <;> rw [heq]
  · rw [Pool.serve_of_late hlate]
    simp [sentAs, Pool.Service.deliveries, Function.comp_def]
  · rw [hpending, Pool.serve_append_cons hlate hr]
    simp [sentAs, Pool.Service.deliveries, Function.comp_def, List.drop_append]

/-- `failOldest` sends the failure of an opening down the queue. -/
theorem failOldest_served (config : Config) (now : Instant) (error : PoolError) (s : Site) :
    (failOldest config now error s).1.inbox =
        s.inbox ++ sentAs (Pool.serve config now (.error error) s.pool.pending) ∧
      (failOldest config now error s).1.pool.pending =
        s.pool.pending.drop (Pool.serve config now (.error error) s.pool.pending).length := by
  rw [failOldest_fst]
  obtain ⟨hlate, heq⟩ | ⟨late, r, rest, hpending, hlate, hr, heq⟩ :=
    Pool.failOldest_cases now s.pool <;> rw [heq]
  · rw [Pool.serve_of_late hlate]
    simp [sentAs, Pool.Service.deliveries, Function.comp_def]
  · rw [hpending, Pool.serve_append_cons hlate hr]
    simp [sentAs, Pool.Service.deliveries, Function.comp_def, List.drop_append]

/-- `Passes config now offered unread s t`: on the way from `s` to `t`, the answers that are unread
stay, and the offer goes down the queue. -/
structure Passes (config : Config) (now : Instant) (offered : Delivery)
    (unread : List (Nat × Delivery)) (s t : Site) : Prop where
  /-- The answers are sent. -/
  inbox : t.inbox = unread ++ sentAs (Pool.serve config now offered s.pool.pending)
  /-- Those who are served leave the queue. -/
  pending : t.pool.pending =
    s.pool.pending.drop (Pool.serve config now offered s.pool.pending).length

/-- `takeIn` offers the connection to the queue, or leaves the queue alone. -/
theorem takeIn_passes (config : Config) (m : Moment) (e : Entry) (s : Site) :
    (s.offerOf? config m e = some (m.now, .ok e) ∧
      Passes config m.now (.ok e) s.inbox s (takeIn config m e s).1) ∨
    (s.offerOf? config m e = none ∧ (takeIn config m e s).1.inbox = s.inbox ∧
      (takeIn config m e s).1.pool.pending = s.pool.pending) := by
  -- whether a connection has to be closed does not depend on the counters
  have hreason : s.pool.takeBack.closeReason? config m e = s.pool.closeReason? config m e := rfl
  obtain ⟨reason, hclose, heq⟩ | ⟨hclose, heq⟩ := takeIn_cases config m e s <;>
    rw [hreason] at hclose <;> rw [heq]
  · refine .inr ⟨by simp [offerOf?, hclose], ?_, ?_⟩ <;>
      simp [Pool.giveUp, Pool.takeBack, Pool.reserve]
  · refine .inl ⟨if_pos hclose, ?_⟩
    rw [Change.andThen_fst, announce_fst]
    obtain ⟨hinbox, hpending⟩ := handOff_served config m.now e { s with pool := s.pool.takeBack }
    exact ⟨hinbox, hpending⟩

/-- What comes back leaves the other answers `unread`. -/
theorem withdraw_inbox {event : Event} {e : Entry} (h : s.givenBack? event = some e) :
    (s.withdraw event).inbox = s.unread event := by
  obtain ⟨m, lease, rfl, -⟩ | ⟨m, request, rfl, -⟩ := givenBack?_cases h
  · rfl
  · rfl

/-- At an event with an `offer?`, the offer goes down the queue. -/
theorem step_of_offer {event : Event} {now : Instant} {offered : Delivery}
    (h : s.offer? config event = some (now, offered)) :
    Passes config now offered (s.unread event) s (s.step config event).1 := by
  obtain ⟨m, e, hm, hback, hoffer⟩ | ⟨opening, conn, m, created, rfl, hopening, hopen, rfl, rfl⟩ |
    ⟨opening, failure, m, rfl, hopening, rfl, rfl⟩ := offer?_cases h
  · obtain ⟨hreason, rfl, rfl⟩ := offerOf?_eq_some_iff.1 hoffer
    obtain ⟨notes, heq⟩ := step_of_givenBack config hback hm
    rw [heq, Change.andThen_fst]
    obtain ⟨-, hpasses⟩ | ⟨hnone, -⟩ := takeIn_passes config m e (s.withdraw event)
    · obtain ⟨hinbox, hpending⟩ := hpasses
      rw [withdraw_inbox hback, withdraw_pool] at hinbox
      rw [withdraw_pool] at hpending
      exact ⟨hinbox, hpending⟩
    · -- whether it has to be closed does not depend on where it comes from
      rw [offerOf?, withdraw_pool, if_pos hreason] at hnone
      cases hnone
  · obtain ⟨hnot, -⟩ | ⟨-, ⟨hclosed, -⟩ | ⟨-, heq⟩⟩ :=
      openedForQueue_cases config opening conn m created s
    · cases hnot.symm.trans hopening
    · cases hclosed.symm.trans hopen
    · rw [step, heq, Change.andThen_fst, announce_fst, Change.andThen_fst]
      obtain ⟨hinbox, hpending⟩ := handOff_served config m.now (s.pool.enlist conn created).1
        (endOpening opening { s with pool := (s.pool.enlist conn created).2 })
      exact ⟨hinbox, hpending⟩
  · obtain ⟨hnot, -⟩ | ⟨-, heq⟩ := openingForQueueFailed_cases config opening failure m s
    · cases hnot.symm.trans hopening
    · rw [step, heq, Change.andThen_fst, slotFreed_fst, Change.andThen_fst]
      obtain ⟨hinbox, hpending⟩ := failOldest_served config m.now (.connectionCreation failure)
        (endOpening opening { s with pool := s.pool.freeSlot })
      exact ⟨hinbox, hpending⟩

/-- Where no answer is right, nobody is served. -/
theorem Serves.inbox_of_no_answers {right : Request → Delivery → Prop} {t : Site}
    (h : Serves right s t) (hnone : ∀ r answer, ¬ right r answer) : t.inbox = s.inbox := by
  obtain ⟨served, -, hinbox, hright⟩ := h
  have hserved : served = [] := by
    rw [List.eq_nil_iff_forall_not_mem]
    rintro ⟨r, answer⟩ hmem
    exact hnone r answer (hright r answer hmem)
  rw [hinbox, hserved, List.map_nil, List.append_nil]

/-- An event without an `offer?` sends nothing, unless it shuts the pool down. -/
theorem step_of_no_offer (h : Reachable config s) {event : Event}
    (hoffer : s.offer? config event = none) :
    (s.step config event).1.inbox = s.unread event ++ sentAs (s.dismissed event) := by
  cases event with
  | acquire m =>
    have hinbox := (acquire_tickets config m s).1
    rw [step, hinbox]
    exact (List.append_nil _).symm
  | poll m request =>
    obtain ⟨e, -, heq⟩ | ⟨error, -, heq⟩ | ⟨hinbox, ⟨-, heq⟩ | ⟨r, -, ⟨-, heq⟩ | ⟨-, heq⟩⟩⟩ :=
      poll_cases config m request s <;> rw [step, heq]
    -- the answer is read, or there is none to be taken off
    · exact (List.append_nil _).symm
    · exact (List.append_nil _).symm
    all_goals
      show s.inbox = s.inbox.eraseP (·.1 == request) ++ []
      rw [eraseP_of_lookup_none hinbox, List.append_nil]
  | cancel m request =>
    show _ = s.inbox.eraseP (·.1 == request) ++ []
    rw [List.append_nil, step]
    obtain ⟨hqueued, heq⟩ | ⟨hqueued, ⟨e, hlookup, heq⟩ | ⟨-, heq⟩⟩ :=
      cancel_cases config m request s <;> rw [heq]
    · -- a queued request has no answer
      obtain ⟨r, hr, hid⟩ := List.any_eq_true.1 hqueued
      have hrequests := (requests_numbered h).nodup
      have hqueues := (queues_iff hrequests).2 ⟨r, hr, by simpa using hid, rfl⟩
      exact (eraseP_of_lookup_none hqueues.unanswered).symm
    · rw [offer?, hqueued, if_neg Bool.false_ne_true, hlookup] at hoffer
      obtain ⟨hsome, -⟩ | ⟨-, hinbox, -⟩ := takeIn_passes config m e
        { s with inbox := s.inbox.eraseP (·.1 == request) }
      · cases hoffer.symm.trans hsome
      · exact hinbox
  | release m lease =>
    show _ = s.inbox ++ []
    rw [List.append_nil, step]
    obtain ⟨-, heq⟩ | ⟨e, hlease, heq⟩ := release_cases config m lease s <;> rw [heq]
    rw [offer?, hlease, Option.bind_some] at hoffer
    obtain ⟨hsome, -⟩ | ⟨-, hinbox, -⟩ := takeIn_passes config m e (s.unlend lease)
    · cases hoffer.symm.trans hsome
    · exact hinbox
  | openedForQueue opening conn m created =>
    show _ = s.inbox ++ []
    rw [List.append_nil, step]
    obtain ⟨-, heq⟩ | ⟨hopening, ⟨-, heq⟩ | ⟨hopen, -⟩⟩ :=
      openedForQueue_cases config opening conn m created s
    · rw [heq]
    · rw [heq, Change.andThen_fst, announce_fst]
      rfl
    · simp [offer?, hopening, hopen] at hoffer
  | openingForQueueFailed opening failure m =>
    show _ = s.inbox ++ []
    rw [List.append_nil, step]
    obtain ⟨-, heq⟩ | ⟨hopening, -⟩ := openingForQueueFailed_cases config opening failure m s
    · rw [heq]
    · simp [offer?, hopening] at hoffer
  | shutDown =>
    rw [step]
    obtain ⟨hclosed, heq⟩ | ⟨hopen, heq⟩ := shutDown_cases s <;> rw [heq]
    · simp [unread, dismissed, hclosed, sentAs]
    · simp [unread, dismissed, hopen, sentAs, Function.comp_def]
  | _ =>
    show _ = s.inbox ++ []
    rw [List.append_nil]
    refine (step_serves config _ rfl s).inbox_of_no_answers fun r answer hanswers => ?_
    cases hanswers with
    | entry hoffers _ => cases hoffers
    | late hoffers _ => cases hoffers

/-- Every `step` sends what it has `served`, and a shutdown turns everybody away who
is `dismissed`. -/
theorem step_served (h : Reachable config s) (event : Event) :
    (s.step config event).1.inbox =
      s.unread event ++ sentAs (s.served config event ++ s.dismissed event) := by
  cases hoffer : s.offer? config event with
  | none => rw [served_of_no_offer hoffer, List.nil_append, step_of_no_offer h hoffer]
  | some given =>
    obtain ⟨now, offered⟩ := given
    have hdismissed : s.dismissed event = [] := by cases event <;> first | rfl | cases hoffer
    rw [served_of_offer hoffer, hdismissed, List.append_nil, (step_of_offer hoffer).inbox]

/-! ## The order of the queue -/

/-- Requests may leave the queue at an event, and only an acquisition comes to it, at the end. -/
theorem step_pending_cases (config : Config) (event : Event) (s : Site) :
    (s.step config event).1.pool.pending.Sublist s.pool.pending ∨
    ∃ m, event = .acquire m ∧ (s.step config event).1.pool.pending =
      s.pool.pending ++ [s.pool.newRequest config m.now] := by
  by_cases hevent : event.isAcquire = true
  · obtain ⟨m, rfl⟩ : ∃ m, event = .acquire m := by
      cases event <;> simp [Event.isAcquire] at hevent ⊢
    rw [step]
    obtain ⟨-, ⟨-, -, -, hpending, -⟩ | ⟨-, -, -, hpending, -⟩ | ⟨-, -, -, hpending, -⟩⟩ :=
      acquire_tickets config m s
    · exact .inl (hpending ▸ .refl _)
    · exact .inr ⟨m, rfl, hpending⟩
    · exact .inl (hpending ▸ .refl _)
  · rw [Bool.not_eq_true] at hevent
    exact .inl (step_pending config event hevent s)

theorem id_lt_of_mem_pending (h : Reachable config s) {r : Request} (hr : r ∈ s.pool.pending) :
    r.id < s.pool.nextRequest :=
  (requests_numbered h).lt r.id (List.mem_append_left _ (List.mem_map_of_mem hr))

/-- The queue is in the order of the requests' numbers. -/
theorem pending_sorted (h : Reachable config s) :
    s.pool.pending.Pairwise fun q r => q.id < r.id := by
  induction h with
  | fresh destination => exact List.Pairwise.nil
  | @step s event hs ih =>
    rcases step_pending_cases config event s with hsub | ⟨m, -, hpending⟩
    · exact ih.sublist hsub
    · -- the new request has the next number
      rw [hpending, List.pairwise_append]
      refine ⟨ih, List.pairwise_singleton _ _, fun q hq r hr => ?_⟩
      rw [List.mem_singleton.1 hr]
      exact id_lt_of_mem_pending hs hq

/-- Those who are `served` at an event are the first in the queue. -/
theorem served_front (config : Config) (s : Site) (event : Event) :
    (s.served config event).map Prod.fst <+: s.pool.pending := by
  cases hoffer : s.offer? config event with
  | none => rw [served_of_no_offer hoffer]; exact List.nil_prefix
  | some given =>
    rw [served_of_offer hoffer]
    exact Pool.serve_fst_front config given.1 given.2 s.pool.pending

/-- Whoever is in the queue after a `step` was behind those who are `served`, or has just come. -/
theorem mem_pending_step (config : Config) (s : Site) (event : Event) {r : Request}
    (hr : r ∈ (s.step config event).1.pool.pending) :
    r ∈ s.pool.pending.drop (s.served config event).length ∨ s.pool.nextRequest ≤ r.id := by
  cases hoffer : s.offer? config event with
  | some given =>
    rw [(step_of_offer hoffer).pending] at hr
    rw [served_of_offer hoffer]
    exact .inl hr
  | none =>
    rw [served_of_no_offer hoffer]
    rcases step_pending_cases config event s with hsub | ⟨m, -, hpending⟩
    · exact .inl (hsub.subset hr)
    · rw [hpending] at hr
      rcases List.mem_append.1 hr with hold | hnew
      · exact .inl hold
      · rw [List.mem_singleton.1 hnew]
        exact .inr (Nat.le_refl _)

/-- Whoever is among `servedIn` of a run is in the queue when it begins, or comes later. -/
theorem mem_servedIn {events : List Event} {r : Request} {answer : Delivery}
    (hr : (r, answer) ∈ s.servedIn config events) :
    r ∈ s.pool.pending ∨ s.pool.nextRequest ≤ r.id := by
  induction events generalizing s with
  | nil => cases hr
  | cons event events ih =>
    rcases List.mem_append.1 hr with hnow | hlater
    · exact .inl ((served_front config s event).subset (List.mem_map_of_mem (f := Prod.fst) hnow))
    · rcases ih hlater with hqueued | hcomes
      · rcases mem_pending_step config s event hqueued with hbehind | hcomes
        · exact .inl (List.mem_of_mem_drop hbehind)
        · exact .inr hcomes
      · exact .inr (Nat.le_trans (nextRequest_le config event s) hcomes)

/-- Whoever is `served` at an event came before everybody who is served after it. -/
theorem id_lt_of_served (h : Reachable config s) {event : Event} {events : List Event}
    {q r : Request} {answer answer' : Delivery} (hq : (q, answer) ∈ s.served config event)
    (hr : (r, answer') ∈ (s.step config event).1.servedIn config events) : q.id < r.id := by
  obtain ⟨behind, hqueue⟩ := served_front config s event
  have hserved := List.mem_map_of_mem (f := Prod.fst) hq
  have hlt : q.id < s.pool.nextRequest :=
    id_lt_of_mem_pending h ((served_front config s event).subset hserved)
  -- the other was behind in the queue, or was not in it yet
  rcases mem_servedIn hr with hqueued | hcomes
  · rcases mem_pending_step config s event hqueued with hbehind | hcomes
    · have hsorted := pending_sorted h
      rw [← hqueue, List.pairwise_append] at hsorted
      rw [← hqueue, ← List.length_map (f := Prod.fst), List.drop_left] at hbehind
      exact hsorted.2.2 q hserved r hbehind
    · exact Nat.lt_of_lt_of_le hlt hcomes
  · have hnext := nextRequest_le config event s
    omega

/-- Over any run, `servedIn` is in the order of the requests' numbers. -/
theorem servedIn_sorted (h : Reachable config s) (events : List Event) :
    ((s.servedIn config events).map (·.1.id)).Pairwise (· < ·) := by
  induction events generalizing s with
  | nil => exact List.Pairwise.nil
  | cons event events ih =>
    rw [servedIn, List.map_append, List.pairwise_append]
    refine ⟨?_, ih (h.step event), ?_⟩
    · have hfirst := (pending_sorted h).sublist (served_front config s event).sublist
      rw [List.pairwise_map] at hfirst
      exact List.pairwise_map.2 hfirst
    · intro id hid id' hid'
      obtain ⟨⟨q, answer⟩, hq, rfl⟩ := List.mem_map.1 hid
      obtain ⟨⟨r, answer'⟩, hr, rfl⟩ := List.mem_map.1 hid'
      exact id_lt_of_served h hq hr

/-! ## The order of deadlines -/

/-- `InOrder events`: the clock does not go back in the course of the events, by their `looks`. -/
def InOrder (events : List Event) : Prop :=
  (events.filterMap Event.moment?).Pairwise fun m n => m.now ≤ n.now

/-- `InRange config events`: no deadline of an acquisition is beyond the range of the clock. -/
def InRange (config : Config) (events : List Event) : Prop :=
  ∀ m, .acquire m ∈ events → (m.now.add config.acquireTimeout).Representable

theorem InOrder.tail {event : Event} {events : List Event} (h : InOrder (event :: events)) :
    InOrder events := by
  have hsub := (List.sublist_cons_self event events).filterMap Event.moment?
  exact List.Pairwise.sublist hsub h

theorem InOrder.le {event other : Event} {events : List Event} {m n : Moment}
    (h : InOrder (event :: events)) (hevent : event.moment? = some m) (hother : other ∈ events)
    (hmoment : other.moment? = some n) : m.now ≤ n.now := by
  rw [InOrder, List.filterMap_cons_some hevent, List.pairwise_cons] at h
  exact h.1 n (List.mem_filterMap.2 ⟨other, hother, hmoment⟩)

/-- When the events are `InOrder` and `InRange`, requests run out of time in the order in which they
came. -/
theorem deadlines_sorted {events : List Event} (horder : InOrder events)
    (hrange : InRange config events)
    (hsorted : s.pool.pending.Pairwise fun q r => q.deadline ≤ r.deadline)
    (hearlier : ∀ r ∈ s.pool.pending, ∀ m, .acquire m ∈ events →
      r.deadline ≤ m.now.add config.acquireTimeout) :
    (s.run config events).pool.pending.Pairwise fun q r => q.deadline ≤ r.deadline := by
  -- on the events: no deadline in the queue is after one that is still to be given out
  induction events generalizing s with
  | nil => exact hsorted
  | cons event events ih =>
    have hrest : InRange config events := fun m hm => hrange m (List.mem_cons_of_mem _ hm)
    rcases step_pending_cases config event s with hsub | ⟨m, rfl, hpending⟩
    · refine ih horder.tail hrest (hsorted.sublist hsub) fun r hr m hm => ?_
      exact hearlier r (hsub.subset hr) m (List.mem_cons_of_mem _ hm)
    · have hdeadline : (s.pool.newRequest config m.now).deadline =
          m.now.add config.acquireTimeout := by
        have hrepresentable := hrange m List.mem_cons_self
        simp [Pool.newRequest, Instant.deadline, Instant.checkedAdd, hrepresentable]
      refine ih horder.tail hrest ?_ ?_
      · rw [hpending, List.pairwise_append]
        refine ⟨hsorted, List.pairwise_singleton _ _, fun q hq r hr => ?_⟩
        rw [List.mem_singleton.1 hr, hdeadline]
        exact hearlier q hq m List.mem_cons_self
      · intro r hr n hn
        rw [hpending] at hr
        rcases List.mem_append.1 hr with hold | hnew
        · exact hearlier r hold n (List.mem_cons_of_mem _ hn)
        · rw [List.mem_singleton.1 hnew, hdeadline]
          exact Int.add_le_add_right (horder.le rfl hn rfl) _

/-- Where requests run out of time in the order in which they came, those who are late come first in
the queue. -/
theorem late_first {queue : List Request}
    (hsorted : queue.Pairwise fun q r => q.deadline ≤ r.deadline) (now : Instant) :
    ∀ r ∈ queue.dropWhile (·.isLate now), r.isLate now = false := by
  obtain ⟨hrest, -, -⟩ | ⟨late, r, rest, hqueue, -, hr, -, hrest⟩ :=
    Pool.late_append_cases now queue <;> rw [hrest]
  · simp
  · rw [hqueue, List.pairwise_append, List.pairwise_cons] at hsorted
    rw [List.forall_mem_cons]
    refine ⟨hr, fun q hq => decide_eq_false fun hlate => ?_⟩
    -- whoever is behind a request in time has a later deadline
    exact of_decide_eq_false hr (Int.le_trans (hsorted.2.1.1 q hq) hlate)

/-! ## First come, first served -/

/-- What a request is sent whose time is up. -/
def timeUp (config : Config) : Delivery := .error (.acquisitionTimeout config.acquireTimeout)

/-- `InTurn config s event`: at the event, the queue is served from its front, and nobody in time is
passed over. -/
structure InTurn (config : Config) (s : Site) (event : Event) : Prop where
  /-- Nothing is sent but to those who are served, and to everybody when the pool is shut down. -/
  sent : (s.step config event).1.inbox =
    s.unread event ++ sentAs (s.served config event ++ s.dismissed event)
  /-- What `offer?` finds goes to the oldest request in time; those before it are late and learn
  that their time is up, and those behind it stay. Where all are late, all learn so. -/
  front : ∀ now offered, s.offer? config event = some (now, offered) →
    (∃ late r rest, s.pool.pending = late ++ r :: rest ∧ (∀ q ∈ late, q.isLate now = true) ∧
      r.isLate now = false ∧
      s.served config event = late.map (·, timeUp config) ++ [(r, offered)] ∧
      (s.step config event).1.pool.pending = rest) ∨
    ((∀ q ∈ s.pool.pending, q.isLate now = true) ∧
      s.served config event = s.pool.pending.map (·, timeUp config) ∧
      (s.step config event).1.pool.pending = [])
  /-- Where anybody is `served`, something was offered. -/
  offered : s.served config event ≠ [] →
    ∃ now offered, s.offer? config event = some (now, offered)
  /-- Whoever gets a connection, or the error of an opening, has only late requests before it, and
  these learn that their time is up. -/
  overtaken : ∀ now offered r answer, s.offer? config event = some (now, offered) →
    (r, answer) ∈ s.served config event → answer ≠ timeUp config →
      ∀ q ∈ s.pool.pending, q.id < r.id →
        q.isLate now = true ∧ (q, timeUp config) ∈ s.served config event

/-- At a `Reachable` site every event serves the queue `InTurn`. -/
theorem inTurn_of_reachable (h : Reachable config s) (event : Event) : InTurn config s event := by
  have hfront : ∀ now offered, s.offer? config event = some (now, offered) →
      (∃ late r rest, s.pool.pending = late ++ r :: rest ∧ (∀ q ∈ late, q.isLate now = true) ∧
        r.isLate now = false ∧
        s.served config event = late.map (·, timeUp config) ++ [(r, offered)] ∧
        (s.step config event).1.pool.pending = rest) ∨
      ((∀ q ∈ s.pool.pending, q.isLate now = true) ∧
        s.served config event = s.pool.pending.map (·, timeUp config) ∧
        (s.step config event).1.pool.pending = []) := by
    intro now offered hoffer
    have hpending := (step_of_offer hoffer).pending
    rw [served_of_offer hoffer, hpending]
    obtain ⟨-, -, hlate⟩ | ⟨late, r, rest, hqueue, hlate, hr, -, -⟩ :=
      Pool.late_append_cases now s.pool.pending
    · refine .inr ⟨hlate, Pool.serve_of_late hlate, ?_⟩
      rw [Pool.serve_of_late hlate, List.length_map, List.drop_length]
    · refine .inl ⟨late, r, rest, hqueue, hlate, hr, ?_, ?_⟩ <;>
        rw [hqueue, Pool.serve_append_cons hlate hr]
      · rfl
      · simp [List.drop_append]
  refine ⟨step_served h event, hfront, fun hserved => ?_, ?_⟩
  · cases hoffer : s.offer? config event with
    | none => exact absurd (served_of_no_offer hoffer) hserved
    | some given => exact ⟨given.1, given.2, rfl⟩
  · intro now offered r answer hoffer hr hanswer q hq hlt
    have hsorted := pending_sorted h
    obtain ⟨late, r', rest, hqueue, hlate, -, hserved, -⟩ | ⟨hlate, hserved, -⟩ :=
      hfront now offered hoffer
    · rw [hserved] at hr ⊢
      rcases List.mem_append.1 hr with hlater | hrecipient
      · obtain ⟨late', -, heq⟩ := List.mem_map.1 hlater
        exact absurd (Prod.mk.inj heq).2.symm hanswer
      · obtain ⟨rfl, rfl⟩ := Prod.mk.inj (List.mem_singleton.1 hrecipient)
        -- whoever has a smaller number stands before the recipient
        have hbefore : q ∈ late := by
          rw [hqueue, List.pairwise_append, List.pairwise_cons] at hsorted
          rw [hqueue] at hq
          rcases List.mem_append.1 hq with hbefore | hbehind
          · exact hbefore
          · rcases List.mem_cons.1 hbehind with rfl | hbehind
            · exact absurd hlt (Nat.lt_irrefl _)
            · exact absurd (hsorted.2.1.1 q hbehind) (Nat.lt_asymm hlt)
        exact ⟨hlate q hbefore, List.mem_append_left _ (List.mem_map_of_mem hbefore)⟩
    · rw [hserved] at hr
      obtain ⟨late', -, heq⟩ := List.mem_map.1 hr
      exact absurd (Prod.mk.inj heq).2.symm hanswer

/-- After any run the queue is in the order of the requests' numbers, which were given out in the
order in which they came. When the events are `InOrder` and `InRange`, they run out of time in that
order, so that those who are late come first. Over the whole run, `servedIn` is in the order of the
requests' numbers, and the next event serves them `InTurn`. -/
theorem first_come_first_served (config : Config) (destination : Destination)
    (events : List Event) :
    let s := (fresh destination).run config events
    (s.pool.pending.Pairwise fun q r => q.id < r.id) ∧
    (∀ r ∈ s.pool.pending, r.id < s.pool.nextRequest) ∧
    (InOrder events → InRange config events →
      (s.pool.pending.Pairwise fun q r => q.deadline ≤ r.deadline) ∧
      ∀ now, ∀ r ∈ s.pool.pending.dropWhile (·.isLate now), r.isLate now = false) ∧
    (((fresh destination).servedIn config events).map (·.1.id)).Pairwise (· < ·) ∧
    ∀ event, InTurn config s event := by
  have hfresh : Reachable config (fresh destination) := .fresh destination
  have h := hfresh.run events
  refine ⟨pending_sorted h, fun r => id_lt_of_mem_pending h, fun horder hrange => ?_,
    servedIn_sorted hfresh events, inTurn_of_reachable h⟩
  have hdeadlines := deadlines_sorted horder hrange (s := fresh destination) List.Pairwise.nil
    fun r hr => absurd hr List.not_mem_nil
  exact ⟨hdeadlines, late_first hdeadlines⟩

/-- Two callers wait for the only connection, and it comes back when the first of them is late. -/
def crowdedTwice : List Event :=
  crowded ++ [.acquire (.atMillis 500), .release (.atMillis 1200) 1]

/-- The first of two callers who wait is late when the connection comes back, so the second gets
it. -/
theorem first_come_first_served_crowded :
    InOrder crowdedTwice ∧ InRange .oneSlot crowdedTwice ∧
    ((fresh (.ofAddress "db:1")).servedIn .oneSlot crowdedTwice).map (·.1.id) = [1, 2] ∧
    (((fresh (.ofAddress "db:1")).servedIn .oneSlot crowdedTwice).map (·.1.id)).Pairwise (· < ·) ∧
    ∀ now, ∀ r ∈ ((fresh (.ofAddress "db:1")).run .oneSlot crowdedTwice).pool.pending.dropWhile
      (·.isLate now), r.isLate now = false := by
  have horder : InOrder crowdedTwice := by
    show List.Pairwise _ _
    decide
  have hrange : InRange .oneSlot crowdedTwice := by
    intro m hm
    have hmoment : m ∈ [Moment.atMillis 0, .atMillis 0, .atMillis 500] := by
      simpa [crowdedTwice, crowded] using hm
    simp only [List.mem_cons, List.not_mem_nil, or_false] at hmoment
    rcases hmoment with rfl | rfl | rfl <;> decide
  obtain ⟨-, -, hdeadlines, hserved, -⟩ :=
    first_come_first_served .oneSlot (.ofAddress "db:1") crowdedTwice
  exact ⟨horder, hrange, rfl, hserved, (hdeadlines horder hrange).2⟩

end Site

end ConnectionPool
