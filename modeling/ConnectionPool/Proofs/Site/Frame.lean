import ConnectionPool.Proofs.Site.Cases
import ConnectionPool.Proofs.Site.Run

/-!
# What most events leave alone

The destination of a site never changes, only a shutdown closes its pool, only an acquisition takes
the number of a request, and only a connection that the transport hands over takes the number of a
connection. `step_frame` says so for every event at once.
-/

namespace ConnectionPool.Site

variable {config : Config}

namespace Event

/-- The event is a first poll. -/
def isAcquire : Event → Bool
  | .acquire _ => true
  | _ => false

/-- The event is a shutdown. -/
def isShutDown : Event → Bool
  | .shutDown => true
  | _ => false

end Event

/-- The connections that a pool takes over from the transport at an event: the one of `opened` or
`openedForQueue`, if there is such an opening. -/
def arrivals (s : Site) : Event → List Connection
  | .opened opening conn _ => if s.isOpening opening .caller then [conn] else []
  | .openedForQueue opening conn _ _ => if s.isOpening opening .queue then [conn] else []
  | _ => []

/-- `Frame event s t`: what `event` leaves alone on the way from `s` to `t`. -/
structure Frame (event : Event) (s t : Site) : Prop where
  /-- A site stays with its destination. -/
  destination : t.destination = s.destination
  /-- Only an event that `isShutDown` closes the pool. -/
  closed : t.pool.closed = (s.pool.closed || event.isShutDown)
  /-- Only an event that `isAcquire` takes a number of a request. -/
  nextRequest : event.isAcquire = false → t.pool.nextRequest = s.pool.nextRequest
  /-- Only `arrivals` take numbers of connections. -/
  nextConnection : t.pool.nextConnection = s.pool.nextConnection + (s.arrivals event).length

/-- Where nothing arrives and the pool is not shut down, it is enough for `Frame` that four fields
stay. -/
theorem Frame.of_eq {event : Event} {s t : Site} (hshut : event.isShutDown = false)
    (harrivals : s.arrivals event = []) (hdestination : t.destination = s.destination)
    (hclosed : t.pool.closed = s.pool.closed) (hrequest : t.pool.nextRequest = s.pool.nextRequest)
    (hconnection : t.pool.nextConnection = s.pool.nextConnection) : Frame event s t :=
  ⟨hdestination, by rw [hclosed, hshut, Bool.or_false], fun _ => hrequest,
    by rw [hconnection, harrivals, List.length_nil, Nat.add_zero]⟩

theorem takeIn_frame (config : Config) (m : Moment) (e : Entry) (s : Site) :
    (takeIn config m e s).1.destination = s.destination ∧
      (takeIn config m e s).1.pool.closed = s.pool.closed ∧
      (takeIn config m e s).1.pool.nextRequest = s.pool.nextRequest ∧
      (takeIn config m e s).1.pool.nextConnection = s.pool.nextConnection := by
  obtain ⟨reason, -, heq⟩ | ⟨-, heq⟩ := takeIn_cases config m e s <;>
    simp [heq, Pool.takeBack, Pool.giveUp]

theorem abandon_frame (config : Config) (opening : Nat) (s : Site) :
    (s.abandon config opening).1.destination = s.destination ∧
      (s.abandon config opening).1.pool.closed = s.pool.closed ∧
      (s.abandon config opening).1.pool.nextRequest = s.pool.nextRequest ∧
      (s.abandon config opening).1.pool.nextConnection = s.pool.nextConnection := by
  obtain ⟨-, heq⟩ | ⟨-, heq⟩ := abandon_cases config opening s <;>
    simp [heq, Pool.freeSlot, endOpening]

/-- Every `step` leaves alone what `Frame` says. -/
theorem step_frame (config : Config) (event : Event) (s : Site) :
    Frame event s (s.step config event).1 := by
  -- each change writes to few fields; the case lemmas show which
  cases event with
  | acquire m =>
    obtain ⟨-, heq⟩ | ⟨-, ⟨e, -, heq⟩ | ⟨-, ⟨-, heq⟩ | ⟨-, -, -, heq⟩ | ⟨error, -, heq⟩⟩⟩ :=
      acquire_cases config m s <;> rw [step, heq]
    all_goals
      refine ⟨rfl, (Bool.or_false _).symm, ?_, rfl⟩
      intro h
      cases h
  | opened opening conn m =>
    obtain ⟨hopening, heq⟩ | ⟨hopening, ⟨-, heq⟩ | ⟨-, heq⟩⟩ := opened_cases opening conn m s <;>
      rw [step, heq] <;> refine ⟨?_, ?_, fun _ => ?_, ?_⟩ <;>
      simp [Event.isShutDown, arrivals, hopening, Pool.giveUp, Pool.enlist, endOpening, lend]
  | openingFailed opening failure =>
    obtain ⟨hdestination, hclosed, hrequest, hconnection⟩ := abandon_frame config opening s
    rw [step, openingFailed_snd_fst]
    exact .of_eq rfl rfl hdestination hclosed hrequest hconnection
  | abandon opening =>
    obtain ⟨hdestination, hclosed, hrequest, hconnection⟩ := abandon_frame config opening s
    exact .of_eq rfl rfl hdestination hclosed hrequest hconnection
  | openedForQueue opening conn m created =>
    obtain ⟨hopening, heq⟩ | ⟨hopening, ⟨-, heq⟩ | ⟨-, heq⟩⟩ :=
      openedForQueue_cases config opening conn m created s <;>
      rw [step, heq] <;> refine ⟨?_, ?_, fun _ => ?_, ?_⟩ <;>
      simp [Event.isShutDown, arrivals, hopening, Pool.giveUp, Pool.enlist, endOpening]
  | openingForQueueFailed opening failure m =>
    obtain ⟨-, heq⟩ | ⟨-, heq⟩ := openingForQueueFailed_cases config opening failure m s <;>
      rw [step, heq] <;> refine .of_eq rfl rfl ?_ ?_ ?_ ?_ <;> simp [Pool.freeSlot, endOpening]
  | poll m request =>
    obtain ⟨e, -, heq⟩ | ⟨error, -, heq⟩ | ⟨-, ⟨-, heq⟩ | ⟨r, -, ⟨-, heq⟩ | ⟨-, heq⟩⟩⟩ :=
      poll_cases config m request s <;> rw [step, heq] <;> exact .of_eq rfl rfl rfl rfl rfl rfl
  | cancel m request =>
    obtain ⟨-, heq⟩ | ⟨-, ⟨e, -, heq⟩ | ⟨-, heq⟩⟩ := cancel_cases config m request s <;>
      rw [step, heq]
    · exact .of_eq rfl rfl rfl rfl rfl rfl
    · obtain ⟨hdestination, hclosed, hrequest, hconnection⟩ := takeIn_frame config m e
        { s with inbox := s.inbox.eraseP (·.1 == request) }
      exact .of_eq rfl rfl hdestination hclosed hrequest hconnection
    · exact .of_eq rfl rfl rfl rfl rfl rfl
  | release m lease =>
    obtain ⟨-, heq⟩ | ⟨e, -, heq⟩ := release_cases config m lease s <;> rw [step, heq]
    · exact .of_eq rfl rfl rfl rfl rfl rfl
    · obtain ⟨hdestination, hclosed, hrequest, hconnection⟩ :=
        takeIn_frame config m e (s.unlend lease)
      exact .of_eq rfl rfl hdestination hclosed hrequest hconnection
  | detach lease =>
    obtain ⟨-, heq⟩ | ⟨e, -, heq⟩ := detach_cases config lease s <;> rw [step, heq] <;>
      refine .of_eq rfl rfl ?_ ?_ ?_ ?_ <;> simp [Pool.freeSlot, Pool.takeBack, unlend]
  | exchange lease conn => exact .of_eq rfl rfl rfl rfl rfl rfl
  | sweep m =>
    obtain ⟨-, heq⟩ | ⟨-, notes, -, heq⟩ := sweep_cases config m s <;> rw [step, heq] <;>
      refine .of_eq rfl rfl ?_ ?_ ?_ ?_ <;> simp [Pool.sweep, Pool.giveUp]
  | closeFinished connection =>
    obtain ⟨-, heq⟩ | ⟨e, -, heq⟩ := closeFinished_cases connection s <;> rw [step, heq] <;>
      refine .of_eq rfl rfl ?_ ?_ ?_ ?_ <;> simp
  | shutDown =>
    obtain ⟨hclosed, heq⟩ | ⟨-, heq⟩ := shutDown_cases s <;> rw [step, heq]
    · exact ⟨rfl, by rw [hclosed, Bool.true_or], fun _ => rfl, rfl⟩
    · exact ⟨rfl, (Bool.or_true _).symm, fun _ => rfl, rfl⟩
  | pollDrain m =>
    obtain ⟨drain, heq⟩ := pollDrain_fst config m s
    rw [step, heq]
    exact .of_eq rfl rfl rfl rfl rfl rfl

end ConnectionPool.Site
