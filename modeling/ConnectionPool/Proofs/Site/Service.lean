import ConnectionPool.Proofs.Site.Cases
import ConnectionPool.Proofs.Site.Run

/-!
# How the queue is served

Whatever happens to a site, requests leave its queue from the front, each with one answer that is
sent to its inbox; only whoever waits for a request may take it off from another place. `Serves`
says this of two sites, and `Event.Answers` says which answers an event may give: a connection or
the error of an opening to a request still in time, the news that its time is up to a request that
is late, and the news that the pool is closed to every request when the pool is shut down.

* `step_serves`: events that are not acts of those who wait serve the queue.
* `cancel_serves`: a connection that was sent to a request given up serves those behind it.
-/

namespace ConnectionPool.Site

variable {config : Config} {s t : Site}

/-- `Serves right s t`: on the way from `s` to `t`, the first requests of the queue are sent one
answer each, as `right` allows, and the others stay. -/
def Serves (right : Request → Delivery → Prop) (s t : Site) : Prop :=
  ∃ served : List (Request × Delivery),
    s.pool.pending = served.map Prod.fst ++ t.pool.pending ∧
    t.inbox = s.inbox ++ served.map (fun (r, answer) => (r.id, answer)) ∧
    ∀ r answer, (r, answer) ∈ served → right r answer

/-- `Offered config now answer r sent`: what a request may be sent when `answer` arrives for the
queue. That is `answer` if the request is still in time, and otherwise that it is late. -/
def Offered (config : Config) (now : Instant) (answer : Delivery) (r : Request)
    (sent : Delivery) : Prop :=
  (r.isLate now = false ∧ sent = answer) ∨
    (r.isLate now = true ∧ sent = .error (.acquisitionTimeout config.acquireTimeout))

namespace Event

/-- The moment at which the event may give a connection to the queue. -/
def offersAt : Event → Option Moment
  | .cancel m _ | .release m _ | .openedForQueue _ _ m _ => some m
  | _ => none

/-- The event is an act of those who wait in the queue, or who come to it: `acquire`, `poll` or
`cancel`. -/
def isOfWaiter : Event → Bool
  | .acquire _ | .poll _ _ | .cancel _ _ => true
  | _ => false

/-- `Answers config event r answer`: the event may give this answer to a queued request. -/
inductive Answers (config : Config) : Event → Request → Delivery → Prop
  /-- A connection that comes back or was opened for the queue goes to a request in time. -/
  | entry {event : Event} {m : Moment} {r : Request} {e : Entry} (hoffers : event.offersAt = some m)
      (htime : r.isLate m.now = false) : Answers config event r (.ok e)
  /-- A connection that comes back or was opened for the queue passes a late request over. -/
  | late {event : Event} {m : Moment} {r : Request} (hoffers : event.offersAt = some m)
      (hlate : r.isLate m.now = true) :
      Answers config event r (.error (.acquisitionTimeout config.acquireTimeout))
  /-- The failure of an opening for the queue goes to a request in time. -/
  | failure {opening : Nat} {failure : ConnectFailure} {m : Moment} {r : Request}
      (htime : r.isLate m.now = false) :
      Answers config (.openingForQueueFailed opening failure m) r
        (.error (.connectionCreation failure))
  /-- The failure of an opening for the queue passes a late request over. -/
  | lateFailure {opening : Nat} {failure : ConnectFailure} {m : Moment} {r : Request}
      (hlate : r.isLate m.now = true) :
      Answers config (.openingForQueueFailed opening failure m) r
        (.error (.acquisitionTimeout config.acquireTimeout))
  /-- A shutdown sends the same to every request. -/
  | shutDown {r : Request} : Answers config .shutDown r (.error .poolClosed)

/-- What is `Offered` at an event is one of its `Answers`. -/
theorem Answers.of_offered {event : Event} {m : Moment} {r : Request} {e : Entry}
    {sent : Delivery} (hoffers : event.offersAt = some m)
    (h : Offered config m.now (.ok e) r sent) : Answers config event r sent := by
  obtain ⟨htime, rfl⟩ | ⟨hlate, rfl⟩ := h
  · exact .entry hoffers htime
  · exact .late hoffers hlate

end Event

namespace Serves

variable {right right' : Request → Delivery → Prop}

/-- Where neither the queue nor the inbox changes, nobody is served. -/
theorem of_eq (hpending : t.pool.pending = s.pool.pending) (hinbox : t.inbox = s.inbox) :
    Serves right s t :=
  ⟨[], by simp [hpending], by simp [hinbox], by simp⟩

/-- A weaker condition on the answers is met as well when the queue is served. -/
theorem mono (h : Serves right s t) (hright : ∀ r answer, right r answer → right' r answer) :
    Serves right' s t := by
  obtain ⟨served, hpending, hinbox, hanswers⟩ := h
  exact ⟨served, hpending, hinbox, fun r answer hmem => hright r answer (hanswers r answer hmem)⟩

/-- `announce` serves nobody. -/
theorem announce (h : Serves right s t) : Serves right s (announce t).1 := by
  rw [announce_fst]
  exact h

/-- `slotFreed` serves nobody yet. -/
theorem slotFreed (h : Serves right s t) : Serves right s (slotFreed config t).1 := by
  rw [slotFreed_fst]
  exact h

/-- The requests that are left were there before. -/
theorem sublist (h : Serves right s t) : t.pool.pending.Sublist s.pool.pending := by
  obtain ⟨served, hpending, -, -⟩ := h
  rw [hpending]
  exact List.sublist_append_right _ _

end Serves

/-- A `Service` of the queue sends the answer to its recipient, and to the late requests before it
that they are late. -/
theorem serves_of_service {now : Instant} {answer : Delivery} {service : Pool.Service}
    (hpending : s.pool.pending =
      service.late ++ service.recipient.toList ++ service.pool.pending)
    (hlate : ∀ r ∈ service.late, r.isLate now = true)
    (htime : ∀ r ∈ service.recipient, r.isLate now = false) :
    Serves (Offered config now answer) s
      { s with
        pool := service.pool,
        inbox := s.inbox ++ service.deliveries config.acquireTimeout answer } := by
  -- the late requests are told so, and the recipient comes right after them
  refine ⟨service.late.map (fun r => (r, .error (.acquisitionTimeout config.acquireTimeout))) ++
    service.recipient.toList.map fun r => (r, answer), ?_, ?_, ?_⟩
  · simpa [Function.comp_def] using hpending
  · simp [Pool.Service.deliveries, Function.comp_def]
  · intro r sent hmem
    rw [List.mem_append, List.mem_map, List.mem_map] at hmem
    obtain ⟨q, hq, heq⟩ | ⟨q, hq, heq⟩ := hmem
    · obtain ⟨rfl, rfl⟩ := Prod.mk.inj heq
      exact .inr ⟨hlate q hq, rfl⟩
    · obtain ⟨rfl, rfl⟩ := Prod.mk.inj heq
      exact .inl ⟨htime q (Option.mem_toList.1 hq), rfl⟩

/-- `handOff` gives the connection to the first request still in time. -/
theorem handOff_serves (config : Config) (now : Instant) (e : Entry) (s : Site) :
    Serves (Offered config now (.ok e)) s (handOff config now e s).1 := by
  rw [handOff_fst]
  apply serves_of_service
  all_goals obtain ⟨hlate, heq⟩ | ⟨late, r, rest, hpending, hlate, hr, heq⟩ :=
    Pool.handOff_cases now e s.pool <;> rw [heq]
  · simp
  · simp [hpending]
  · exact hlate
  · exact hlate
  · simp
  · simpa using hr

/-- `failOldest` gives the error to the first request still in time. -/
theorem failOldest_serves (config : Config) (now : Instant) (error : PoolError) (s : Site) :
    Serves (Offered config now (.error error)) s (failOldest config now error s).1 := by
  rw [failOldest_fst]
  apply serves_of_service
  all_goals obtain ⟨hlate, heq⟩ | ⟨late, r, rest, hpending, hlate, hr, heq⟩ :=
    Pool.failOldest_cases now s.pool <;> rw [heq]
  · simp
  · simp [hpending]
  · exact hlate
  · exact hlate
  · simp
  · simpa using hr

/-- `takeIn` may give the connection to the queue. -/
theorem takeIn_serves (config : Config) (m : Moment) (e : Entry) (s : Site) :
    Serves (Offered config m.now (.ok e)) s (takeIn config m e s).1 := by
  obtain ⟨reason, -, heq⟩ | ⟨-, heq⟩ := takeIn_cases config m e s
  · rw [heq]
    refine Serves.of_eq ?_ ?_ <;> simp [Pool.reserve, Pool.giveUp, Pool.takeBack]
  · rw [heq, Change.andThen_fst]
    exact (handOff_serves config m.now e { s with pool := s.pool.takeBack }).announce

/-- `abandon` serves nobody yet. -/
theorem abandon_serves {right : Request → Delivery → Prop} (config : Config) (opening : Nat)
    (s : Site) : Serves right s (s.abandon config opening).1 := by
  obtain ⟨-, heq⟩ | ⟨-, heq⟩ := abandon_cases config opening s <;> rw [heq]
  · exact Serves.of_eq rfl rfl
  · exact Serves.slotFreed (Serves.of_eq rfl rfl)

/-- A `step` that is not an act of those who wait `Serves` the queue. -/
theorem step_serves (config : Config) (event : Event) (hevent : event.isOfWaiter = false)
    (s : Site) :
    Serves (event.Answers config) s (s.step config event).1 := by
  -- an event that is no act of a waiter serves the queue through one of the parts above, or not at
  -- all
  cases event with
  | acquire m => cases hevent
  | poll m request => cases hevent
  | cancel m request => cases hevent
  | opened opening conn m =>
    obtain ⟨-, heq⟩ | ⟨-, ⟨-, heq⟩ | ⟨-, heq⟩⟩ := opened_cases opening conn m s <;>
      rw [step, heq] <;> refine Serves.of_eq ?_ ?_ <;>
      simp [Pool.giveUp, Pool.enlist, endOpening, lend]
  | openingFailed opening failure =>
    rw [step, openingFailed_snd_fst]
    exact abandon_serves config opening s
  | abandon opening => exact abandon_serves config opening s
  | openedForQueue opening conn m created =>
    obtain ⟨-, heq⟩ | ⟨-, ⟨-, heq⟩ | ⟨-, heq⟩⟩ :=
      openedForQueue_cases config opening conn m created s
    · rw [step, heq]
      exact Serves.of_eq rfl rfl
    · rw [step, heq]
      refine Serves.of_eq ?_ ?_ <;> simp [Pool.giveUp, Pool.enlist, endOpening]
    · rw [step, heq, Change.andThen_fst, Change.andThen_fst]
      have hserves := handOff_serves config m.now (s.pool.enlist conn created).1
        (endOpening opening { s with pool := (s.pool.enlist conn created).2 })
      exact (hserves.mono fun r answer => Event.Answers.of_offered rfl).announce
  | openingForQueueFailed opening failure m =>
    obtain ⟨-, heq⟩ | ⟨-, heq⟩ := openingForQueueFailed_cases config opening failure m s
    · rw [step, heq]
      exact Serves.of_eq rfl rfl
    · rw [step, heq, Change.andThen_fst, Change.andThen_fst]
      have hserves := failOldest_serves config m.now (.connectionCreation failure)
        (endOpening opening { s with pool := s.pool.freeSlot })
      refine Serves.slotFreed (hserves.mono ?_)
      rintro r answer (⟨htime, rfl⟩ | ⟨hlate, rfl⟩)
      · exact .failure htime
      · exact .lateFailure hlate
  | release m lease =>
    obtain ⟨-, heq⟩ | ⟨e, -, heq⟩ := release_cases config m lease s
    · rw [step, heq]
      exact Serves.of_eq rfl rfl
    · rw [step, heq, Change.andThen_fst]
      exact (takeIn_serves config m e (s.unlend lease)).mono
        fun r answer => Event.Answers.of_offered rfl
  | detach lease =>
    obtain ⟨-, heq⟩ | ⟨e, -, heq⟩ := detach_cases config lease s <;> rw [step, heq] <;>
      refine Serves.of_eq ?_ ?_ <;>
      simp [Pool.reserve, Pool.freeSlot, Pool.takeBack, unlend]
  | exchange lease conn => exact Serves.of_eq rfl rfl
  | sweep m =>
    obtain ⟨-, heq⟩ | ⟨-, notes, -, heq⟩ := sweep_cases config m s <;> rw [step, heq] <;>
      refine Serves.of_eq ?_ ?_ <;> simp [Pool.reserve, Pool.sweep, Pool.giveUp]
  | closeFinished connection =>
    obtain ⟨-, heq⟩ | ⟨e, -, heq⟩ := closeFinished_cases connection s <;> rw [step, heq] <;>
      refine Serves.of_eq ?_ ?_ <;> simp
  | shutDown =>
    obtain ⟨-, heq⟩ | ⟨-, heq⟩ := shutDown_cases s
    · rw [step, heq]
      exact Serves.of_eq rfl rfl
    · rw [step, heq]
      refine ⟨s.pool.pending.map fun r => (r, .error .poolClosed), ?_, ?_, ?_⟩
      · simp [Pool.shutDown, Pool.giveUp, Function.comp_def]
      · simp [Function.comp_def]
      · intro r answer hmem
        obtain ⟨q, -, heq⟩ := List.mem_map.1 hmem
        obtain ⟨rfl, rfl⟩ := Prod.mk.inj heq
        exact .shutDown
  | pollDrain m =>
    obtain ⟨drain, heq⟩ := pollDrain_fst config m s
    rw [step, heq]
    exact Serves.of_eq rfl rfl

/-- When a request is given up by `cancel` that a connection was sent to, those behind it may be
served. -/
theorem cancel_serves (config : Config) (m : Moment) {request : Nat}
    (hqueued : s.pool.isQueued request = false) :
    Serves (Event.Answers config (.cancel m request))
      { s with inbox := s.inbox.eraseP (·.1 == request) } (s.cancel config m request).1 := by
  obtain ⟨h, -⟩ | ⟨-, ⟨e, -, heq⟩ | ⟨-, heq⟩⟩ := cancel_cases config m request s
  · rw [h] at hqueued
    cases hqueued
  · rw [heq]
    exact (takeIn_serves config m e _).mono fun r answer => Event.Answers.of_offered rfl
  · rw [heq]
    exact Serves.of_eq rfl rfl

end ConnectionPool.Site
