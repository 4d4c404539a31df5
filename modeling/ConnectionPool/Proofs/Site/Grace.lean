import ConnectionPool.Proofs.Site.Order
import ConnectionPool.Proofs.Site.Wakeup

/-!
# The grace period

Whoever waits for the end of a closed pool does not wait for the connections that callers hold
beyond the end of the grace period, which runs from the first look at the pool. It waits for those
that are being opened or closed however long that takes. What callers hold at the end is closed when
they give it back.

## Main definitions

* `Knows`: what a wait knows about a grace period that ends at a given instant.
* `Capped`: what a look at the pool means for the wait.
* `LetGo`: what becomes of the connections that callers of a closed pool hold.

## Main results

* `Knows.run`: a wait never takes the grace period to be over too early.
* `closed_once`: a connection given back to a closed pool is closed, once.
* `grace_caps`: the grace period caps the wait for connections that are held, and nothing else.
-/

namespace ConnectionPool

namespace Site

variable {config : Config} {s t : Site} {event : Event} {events later : List Event} {m : Moment}
  {graceEnd : Instant} {knownEnd : Option Instant} {graceOver : Bool}

/-! ## What the wait knows about the grace period -/

/-- `Knows graceEnd later drain`: what a wait knows about a grace period that ends at `graceEnd`,
when `later` is still to come. It runs until then, or it was over before any later look at
the pool. -/
inductive Knows (graceEnd : Instant) (later : List Event) : Drain → Prop
  /-- The grace period runs. -/
  | running (changed : Bool) : Knows graceEnd later (.waiting (some graceEnd) false changed)
  /-- The grace period is over. -/
  | elapsed (changed : Bool) (hpast : ∀ m, .pollDrain m ∈ later → graceEnd ≤ m.now) :
      Knows graceEnd later (.waiting none true changed)
  /-- The wait is over. -/
  | finished : Knows graceEnd later .finished

/-- `KnowsAt graceEnd m`: what a wait knows that looks at the pool at `m`. -/
inductive KnowsAt (graceEnd : Instant) (m : Moment) : Option Instant → Bool → Prop
  /-- The grace period was not over at the last look. -/
  | running : KnowsAt graceEnd m (some graceEnd) false
  /-- The grace period was over at the last look. -/
  | elapsed (hpast : graceEnd ≤ m.now) : KnowsAt graceEnd m none true

namespace KnowsAt

theorem running_of_ne_none (h : KnowsAt graceEnd m knownEnd graceOver) (hne : knownEnd ≠ none) :
    graceOver = false := by
  cases h with
  | running => rfl
  | elapsed hpast => exact absurd rfl hne

/-- `graceOverAt` is not true before `graceEnd`. -/
theorem le_now (h : KnowsAt graceEnd m knownEnd graceOver)
    (hover : graceOverAt m knownEnd graceOver = true) : graceEnd ≤ m.now := by
  cases h with
  | running =>
    rw [graceOverAt_some] at hover
    exact Moment.le_now_of_hasFired hover
  | elapsed hpast => exact hpast

/-- When the timer has fired, `graceOverAt` is true. -/
theorem graceOverAt_of_hasFired (h : KnowsAt graceEnd m knownEnd graceOver)
    (hfired : m.hasFired graceEnd = true) : graceOverAt m knownEnd graceOver = true := by
  cases h with
  | running => rw [graceOverAt_some, hfired]
  | elapsed hpast => rfl

/-- What a wait has learnt from `look` it `Knows` from then on. -/
theorem knows (h : KnowsAt graceEnd m knownEnd graceOver)
    (horder : InOrder (.pollDrain m :: later)) :
    Knows graceEnd later (look m graceOver knownEnd s).1.drain := by
  obtain ⟨-, heq⟩ | ⟨-, heq⟩ := look_cases m h.running_of_ne_none s <;> rw [heq]
  · exact .finished
  · have hlater : graceEnd ≤ m.now → ∀ n, .pollDrain n ∈ later → graceEnd ≤ n.now :=
      fun hpast n hn => Int.le_trans hpast (horder.le rfl hn rfl)
    show Knows graceEnd later (stillWaiting m knownEnd graceOver)
    -- the wait learns from the timer that the grace period is over, and does not forget it
    cases h with
    | running =>
      cases hfired : m.hasFired graceEnd with
      | false =>
        have hwaiting : stillWaiting m (some graceEnd) false =
            .waiting (some graceEnd) false false := by simp [stillWaiting, graceOverAt_some, hfired]
        rw [hwaiting]
        exact .running false
      | true =>
        have hwaiting : stillWaiting m (some graceEnd) false = .waiting none true false := by
          simp [stillWaiting, graceOverAt_some, hfired]
        rw [hwaiting]
        exact .elapsed false (hlater (Moment.le_now_of_hasFired hfired))
    | elapsed hpast => exact .elapsed false (hlater hpast)

end KnowsAt

namespace Knows

theorem knowsAt (h : Knows graceEnd (.pollDrain m :: later) s.drain)
    (hlooks : Looks config m s knownEnd graceOver) : KnowsAt graceEnd m knownEnd graceOver := by
  cases hlooks with
  | first hdrain =>
    rw [hdrain] at h
    cases h
  | again hdrain hdue =>
    rw [hdrain] at h
    cases h with
    | running changed => exact .running
    | elapsed changed hpast => exact .elapsed (hpast m List.mem_cons_self)

theorem tail {drain : Drain} (h : Knows graceEnd (event :: later) drain) :
    Knows graceEnd later drain := by
  cases h with
  | running changed => exact .running changed
  | elapsed changed hpast => exact .elapsed changed fun m hm => hpast m (List.mem_cons_of_mem _ hm)
  | finished => exact .finished

theorem told {drain : Drain} (h : Knows graceEnd later drain) (closed : Bool) :
    Knows graceEnd later (drain.told closed) := by
  cases h with
  | running changed => cases changed <;> exact .running _
  | elapsed changed hpast => cases changed <;> exact .elapsed _ hpast
  | finished => exact .finished

/-- A wait `Knows` no less after a `step`. -/
theorem step (h : Knows graceEnd (event :: later) s.drain) (horder : InOrder (event :: later)) :
    Knows graceEnd later (s.step config event).1.drain := by
  cases hlook : event.isLook with
  | true =>
    obtain ⟨m, rfl⟩ := Event.eq_pollDrain hlook
    rw [Site.step]
    obtain ⟨-, heq⟩ | ⟨knownEnd, graceOver, hlooks⟩ := pollDrain_cases config m s
    · rw [heq]
      exact h.tail
    · rw [hlooks.pollDrain]
      exact (h.knowsAt hlooks).knows horder
  | false =>
    obtain heq | ⟨closed, heq⟩ := step_keeps config hlook s <;> rw [heq]
    · exact h.tail
    · exact h.tail.told closed

/-- A wait never takes the grace period to be over too early, whatever a `run` brings. -/
theorem run (h : Knows graceEnd (events ++ later) s.drain) (horder : InOrder (events ++ later)) :
    Knows graceEnd later (s.run config events).drain := by
  induction events generalizing s with
  | nil => exact h
  | cons event events ih => exact ih (h.step horder) horder.tail

end Knows

/-! ## What a look at the pool means -/

/-- A closed pool stays closed and sends nothing, and its `hands` become no more. -/
theorem closed_run (h : Reachable config s) (hclosed : s.pool.closed = true)
    (events : List Event) :
    (s.run config events).pool.closed = true ∧ (s.run config events).inbox.Sublist s.inbox ∧
      (s.run config events).hands ⊆ s.hands := by
  induction events generalizing s with
  | nil => exact ⟨hclosed, .refl _, fun _ => id⟩
  | cons event events ih =>
    have hconfined := confined_of_closed h hclosed event
    obtain ⟨hstays, hinbox, hhands⟩ := ih (h.step event) hconfined.closed
    exact ⟨hstays, hinbox.trans hconfined.inbox, fun id hid => hconfined.hands (hhands hid)⟩

theorem Driven.run (h : Driven config s) (hclosed : s.pool.closed = true) (events : List Event) :
    Driven config (s.run config events) := by
  induction events generalizing s with
  | nil => exact h
  | cons event events ih =>
    exact ih (h.step event fun _ => hclosed) (confined_of_closed h.reachable hclosed event).closed

/-- Nobody who waits for the end of a pool is needed for anything else to happen to it: a run
without looks keeps it `Driven`. -/
theorem Driven.runUnobserved (h : Driven config s) (events : List Event)
    (hlook : ∀ event ∈ events, event.isLook = false) : Driven config (s.run config events) := by
  induction events generalizing s with
  | nil => exact h
  | cons event events ih =>
    rw [List.forall_mem_cons] at hlook
    refine ih (h.step event fun hlooks => ?_) hlook.2
    cases hlooks.symm.trans hlook.1

/-- `Capped config graceEnd s m`: what a look at a closed pool means when its grace period ends at
`graceEnd`. -/
structure Capped (config : Config) (graceEnd : Instant) (s : Site) (m : Moment) : Prop where
  /-- If `pollDrain` finds that the wait is over, nothing is left of the pool, or the grace period
  is over and all that is left is with callers or on its way to one. -/
  resolves : s.drain ≠ .finished → (s.step config (.pollDrain m)).1.drain = .finished →
    (s.pool.allocated = 0 ∧ s.pool.closing = 0) ∨
    (graceEnd ≤ m.now ∧ s.openings = [] ∧ s.pool.closing = 0 ∧ s.pool.allocated = s.pool.inUse)
  /-- When the timer has fired and no connection is being opened or closed, `pollDrain` ends the
  wait, whatever callers hold. -/
  ends : m.hasFired graceEnd = true → s.pool.connecting + s.pool.closing = 0 →
    (s.step config (.pollDrain m)).1.drain = .finished

/-- Where no connection of a closed pool is being opened, all slots belong to connections with
callers or on their way to one. -/
theorem allocated_of_not_connecting (h : Reachable config s) (hclosed : s.pool.closed = true)
    (hconnecting : s.pool.connecting = 0) :
    s.openings = [] ∧ s.pool.allocated = s.pool.inUse := by
  have hidle := ((justified_of_reachable h).closed hclosed).2
  have hallocated := (balance_of_reachable h).allocated
  rw [Pool.connecting, hidle] at hconnecting
  rw [hidle] at hallocated
  simp only [List.length_nil] at hconnecting hallocated
  exact ⟨List.eq_nil_of_length_eq_zero (by omega), by omega⟩

theorem capped_of_knowsAt (h : Driven config s) (hclosed : s.pool.closed = true)
    (hknows : ∀ {knownEnd graceOver}, Looks config m s knownEnd graceOver →
      KnowsAt graceEnd m knownEnd graceOver)
    (hasleep : ∀ knownEnd graceOver, s.drain = .waiting knownEnd graceOver false →
      knownEnd = some graceEnd ∨ graceOver = true) : Capped config graceEnd s m := by
  have halert := alert_of_driven h
  refine ⟨fun hdrain hfinished => ?_, fun hfired hidle => ?_⟩
  · rw [step] at hfinished
    obtain ⟨hidle, heq⟩ | ⟨knownEnd, graceOver, hlooks⟩ := pollDrain_cases config m s
    · rw [heq] at hfinished
      exact absurd hfinished hdrain
    · have hat := hknows hlooks
      rw [hlooks.pollDrain] at hfinished
      obtain ⟨hend, -⟩ | ⟨-, heq⟩ := look_cases m hat.running_of_ne_none s
      · obtain hdrained | ⟨hover, hidle⟩ := mayEnd_iff.1 hend
        · exact .inl hdrained
        · obtain ⟨hconnecting, hclosing⟩ := Nat.add_eq_zero_iff.1 hidle
          obtain ⟨hopenings, hheld⟩ := allocated_of_not_connecting h.reachable hclosed hconnecting
          exact .inr ⟨hat.le_now hover, hopenings, hclosing, hheld⟩
      · rw [heq] at hfinished
        cases hfinished
  · rw [step]
    obtain ⟨hdrain | ⟨knownEnd, graceOver, hdrain, hnotDue⟩, heq⟩ | ⟨knownEnd, graceOver, hlooks⟩ :=
      pollDrain_cases config m s
    · rw [heq]
      exact hdrain
    · -- whoever is asleep waits for the timer, or for a connection being opened or closed
      obtain rfl | rfl := hasleep knownEnd graceOver hdrain
      · rw [Option.any_some, hfired] at hnotDue
        cases hnotDue
      · have hwait := halert.asleep knownEnd true hdrain
        cases (mayEnd_iff.2 (.inr ⟨rfl, hidle⟩)).symm.trans hwait
    · have hat := hknows hlooks
      rw [hlooks.pollDrain]
      obtain ⟨-, heq⟩ | ⟨hwait, -⟩ := look_cases m hat.running_of_ne_none s
      · rw [heq]
      · have hover := hat.graceOverAt_of_hasFired hfired
        cases (mayEnd_iff.2 (.inr ⟨hover, hidle⟩)).symm.trans hwait

/-! ## What callers hold in the end -/

/-- The connections that the surroundings are asked to close in the course of events, by `closesOf`
of every `step`. -/
def closesIn (config : Config) (s : Site) : List Event → List Entry
  | [] => []
  | event :: events =>
    closesOf (s.step config event).2 ++ closesIn config (s.step config event).1 events

theorem closesIn_append (config : Config) (s : Site) (before after : List Event) :
    s.closesIn config (before ++ after) =
      s.closesIn config before ++ (s.run config before).closesIn config after := by
  induction before generalizing s with
  | nil => rfl
  | cons event before ih =>
    rw [List.cons_append, closesIn, closesIn, ih, List.append_assoc]
    rfl

/-- The numbers of the `holdings` of a site. -/
theorem holdings_numbers (s : Site) : s.holdings.map Prod.fst =
    s.pool.idle.map (·.info.id) ++ s.hands ++ s.closings.map (·.info.id) := by
  simp [holdings, hands, Function.comp_def, Entry.tag]

/-- What is being closed is not among the `hands`. -/
theorem notMem_hands_of_mem_closings (h : Reachable config s) {e : Entry} (he : e ∈ s.closings) :
    e.info.id ∉ s.hands := by
  have hnodup := (holdings_numbered h).nodup
  rw [holdings_numbers, List.nodup_append] at hnodup
  intro hhand
  exact hnodup.2.2 _ (List.mem_append_right _ hhand) _ (List.mem_map_of_mem he) rfl

theorem mem_closings_of_mem_closesOf {e : Entry} (he : e ∈ closesOf (s.step config event).2) :
    e ∈ (s.step config event).1.closings := by
  cases hclose : event.isCloseFinished with
  | false =>
    rw [step_closings config event hclose]
    exact List.mem_append_right _ he
  | true =>
    obtain ⟨connection, rfl⟩ : ∃ connection, event = .closeFinished connection := by
      cases event <;> simp [Event.isCloseFinished] at hclose ⊢
    rw [step, (closeFinished_closings connection s).2] at he
    cases he

/-- As long as it is among the `hands`, a connection is not closed. -/
theorem notMem_closesIn_of_held (h : Reachable config s) (hclosed : s.pool.closed = true)
    {id : Nat} (hid : id ∈ (s.run config events).hands) :
    ∀ e ∈ s.closesIn config events, e.info.id ≠ id := by
  induction events generalizing s with
  | nil => exact fun _ => nofun
  | cons event events ih =>
    have hconfined := confined_of_closed h hclosed event
    intro e he
    rcases List.mem_append.1 he with hnow | hlater
    · rintro rfl
      have hheld := (closed_run (h.step event) hconfined.closed events).2.2 hid
      exact notMem_hands_of_mem_closings (h.step event) (mem_closings_of_mem_closesOf hnow) hheld
    · exact ih (h.step event) hconfined.closed hid e hlater

/-- A connection that has left the `hands` is not closed again. -/
theorem notMem_closesIn_of_gone (h : Reachable config s) (hclosed : s.pool.closed = true)
    {id : Nat} (hid : id ∉ s.hands) (hnumber : id < s.pool.nextConnection) :
    ∀ e ∈ s.closesIn config events, e.info.id ≠ id := by
  induction events generalizing s with
  | nil => exact fun _ => nofun
  | cons event events ih =>
    have hconfined := confined_of_closed h hclosed event
    intro e he
    rcases List.mem_append.1 he with hnow | hlater
    · rintro rfl
      obtain hhand | hnew := hconfined.closesOf e hnow
      · exact hid hhand
      · exact absurd hnew (Nat.ne_of_lt hnumber)
    · refine ih (h.step event) hconfined.closed
        (fun hhand => hid (hconfined.hands hhand)) ?_ e hlater
      rw [(step_frame config event s).nextConnection]
      exact Nat.lt_of_lt_of_le hnumber (Nat.le_add_right _ _)

/-- A closed pool closes what is given back to it. -/
theorem closesOf_of_givenBack (hclosed : s.pool.closed = true) {e : Entry}
    (h : s.givenBack? event = some e) :
    closesOf (s.step config event).2 = [e.retired] ∧ e.info.id ∈ s.hands := by
  obtain ⟨m, hm⟩ := exists_moment_of_givenBack h
  obtain ⟨notes, heq⟩ := step_of_givenBack config h hm
  have hstays : (s.withdraw event).pool.closed = true := by rwa [withdraw_pool]
  refine ⟨?_, List.mem_map.2 ⟨e, mem_of_givenBack h, rfl⟩⟩
  rw [heq, Change.andThen_snd, takeIn_of_closed config m e hstays]
  simp

/-- A connection that is given back to a closed pool is closed, and only once, whatever happens
before and after. -/
theorem closed_once (h : Reachable config s) (hclosed : s.pool.closed = true)
    {before after : List Event} {e : Entry}
    (hback : (s.run config before).givenBack? event = some e) :
    (s.closesIn config (before ++ event :: after)).filter (·.info.id == e.info.id) =
      [e.retired] := by
  have hrun := h.run before
  have hstays := (closed_run h hclosed before).1
  obtain ⟨hcloses, hheld⟩ := closesOf_of_givenBack hstays hback
  have hnone (entries : List Entry) (hentries : ∀ c ∈ entries, c.info.id ≠ e.info.id) :
      entries.filter (·.info.id == e.info.id) = [] := by
    rw [List.filter_eq_nil_iff]
    exact fun c hc => by simpa using hentries c hc
  -- once it is being closed it is in nobody's hands
  have hclosing : e.retired ∈ ((s.run config before).step config event).1.closings := by
    apply mem_closings_of_mem_closesOf
    rw [hcloses]
    exact List.mem_singleton_self _
  have hgone := notMem_hands_of_mem_closings (hrun.step event) hclosing
  have hnumber := (holdings_numbered (hrun.step event)).lt e.info.id (by
    rw [holdings_numbers]
    exact List.mem_append_right _ (List.mem_map.2 ⟨e.retired, hclosing, rfl⟩))
  have hafter : ∀ c ∈ ((s.run config before).step config event).1.closesIn config after,
      c.info.id ≠ e.info.id :=
    notMem_closesIn_of_gone (hrun.step event) (confined_of_closed hrun hstays event).closed hgone
      hnumber
  rw [closesIn_append, closesIn, hcloses, List.filter_append, List.filter_append,
    hnone _ (notMem_closesIn_of_held h hclosed hheld), hnone _ hafter]
  simp [Entry.retired, Metadata.markClosed]

/-- `LetGo config s`: what becomes of the connections that callers of a closed pool hold. -/
structure LetGo (config : Config) (s : Site) : Prop where
  /-- Nothing is idle any more. -/
  idle : ∀ events, (s.run config events).pool.idle = []
  /-- `acquire` that begins later tells `poolClosed`. -/
  refused : ∀ events m, ((s.run config events).acquire config m).1 = .error .poolClosed
  /-- No `poll` gets a connection that a caller holds. -/
  kept : ∀ e ∈ s.leases, ∀ events m request,
    ((s.run config events).poll config m request).1 ≠ some (.ok e.info.id)
  /-- Nobody holds a connection that was not held, or on its way to its caller, before. -/
  hands : ∀ events, (s.run config events).hands ⊆ s.hands
  /-- What `givenBack?` finds is closed once. -/
  once : ∀ before event after e, (s.run config before).givenBack? event = some e →
    (s.closesIn config (before ++ event :: after)).filter (·.info.id == e.info.id) = [e.retired]

theorem letGo_of_closed (h : Reachable config s) (hclosed : s.pool.closed = true) :
    LetGo config s := by
  refine ⟨fun events => ?_, fun events m => ?_, fun e he events m request hpoll => ?_,
    fun events => (closed_run h hclosed events).2.2,
    fun before event after e => closed_once h hclosed⟩
  · have hstays := (closed_run h hclosed events).1
    exact ((justified_of_reachable (h.run events)).closed hstays).2
  · rw [acquire, if_pos (closed_run h hclosed events).1]
  · obtain ⟨sent, hsent, heq⟩ | ⟨error, -, heq⟩ | ⟨-, ⟨-, heq⟩ | ⟨r, -, ⟨-, heq⟩ | ⟨-, heq⟩⟩⟩ :=
      poll_cases config m request (s.run config events) <;> rw [heq] at hpoll
    · have hid : e.info.id = sent.info.id := by simpa using hpoll.symm
      have hentry := (entriesOf_of_lookup_ok hsent).symm.subset List.mem_cons_self
      have hbefore : sent ∈ entriesOf s.inbox :=
        ((closed_run h hclosed events).2.1.filterMap _).subset hentry
      -- what a request gets was on its way to it before, and so with no caller
      have hnodup := (holdings_numbered h).nodup
      rw [holdings_numbers, List.nodup_append, List.nodup_append, Site.hands, List.map_append,
        List.nodup_append] at hnodup
      exact hnodup.1.2.1.2.2 _ (List.mem_map_of_mem he) _ (List.mem_map_of_mem hbefore) hid
    all_goals simp at hpoll

/-! ## The grace period caps the wait -/

/-- If the `disposeGrace` of a closed pool is `grace`, every look at the pool is `Capped` at `grace`
after the first: the wait for the pool's end is not over before unless nothing is left of the pool,
and it is over then as soon as no connection is being opened or closed, whatever callers hold. What
they hold is `LetGo`: a connection that is still held is closed once, when it is given back, and
nobody else gets it. -/
theorem grace_caps (h : Driven config s) (hclosed : s.pool.closed = true)
    (hunobserved : s.drain = .unobserved) {grace : Duration}
    (hgrace : config.disposeGrace = some grace) {m₀ : Moment}
    (hrange : (m₀.now.add grace).Representable) :
    Capped config (m₀.now.add grace) s m₀ ∧
    (∀ events m, InOrder (.pollDrain m₀ :: events ++ [.pollDrain m]) →
      Capped config (m₀.now.add grace) (s.run config (.pollDrain m₀ :: events)) m) ∧
    ∀ events, LetGo config (s.run config events) := by
  have hend : config.disposeGrace.map m₀.now.deadline = some (m₀.now.add grace) := by
    rw [hgrace, Option.map_some, Instant.deadline, Instant.checkedAdd, if_pos hrange]
    rfl
  have hfirst {knownEnd : Option Instant} {graceOver : Bool}
      (hlooks : Looks config m₀ s knownEnd graceOver) :
      KnowsAt (m₀.now.add grace) m₀ knownEnd graceOver := by
    cases hlooks with
    | first hdrain =>
      rw [hend]
      exact .running
    | again hdrain hdue => cases hunobserved.symm.trans hdrain
  refine ⟨?_, fun events m horder => ?_, fun events => ?_⟩
  · refine capped_of_knowsAt h hclosed hfirst fun knownEnd graceOver hdrain => ?_
    cases hunobserved.symm.trans hdrain
  · -- the first look tells the wait when the grace period ends, and it never forgets
    have hknows : Knows (m₀.now.add grace) (events ++ [.pollDrain m])
        (s.step config (.pollDrain m₀)).1.drain := by
      have hlooks : Looks config m₀ s _ _ := .first hunobserved
      rw [step, hlooks.pollDrain]
      exact (hfirst hlooks).knows horder
    have hthen : Knows (m₀.now.add grace) [.pollDrain m]
        (s.run config (.pollDrain m₀ :: events)).drain := hknows.run horder.tail
    have hdriven := h.run hclosed (.pollDrain m₀ :: events)
    have hstays := (closed_run h.reachable hclosed (.pollDrain m₀ :: events)).1
    refine capped_of_knowsAt hdriven hstays (hthen.knowsAt ·) fun knownEnd graceOver hdrain => ?_
    have hasleep : Knows (m₀.now.add grace) [.pollDrain m] (.waiting knownEnd graceOver false) :=
      hdrain ▸ hthen
    cases hasleep with
    | running changed => exact .inl rfl
    | elapsed changed hpast => exact .inr rfl
  · exact letGo_of_closed (h.reachable.run events) (closed_run h.reachable hclosed events).1

/-- `Config.oneSlot` with a `disposeGrace` of a second. -/
def oneSlotGraced : Config := { Config.oneSlot with disposeGrace := some (.ofSeconds 1) }

/-- One caller holds the only connection, and another waits, when the pool is shut down. -/
def shutCrowded : Site := (fresh (.ofAddress "db:1")).run oneSlotGraced (crowded ++ [.shutDown])

/-- A caller holds a connection when the pool is shut down, and for longer than the grace period.
The wait for the pool's end is over when the timer fires, and the connection is closed when it comes
back. -/
theorem grace_caps_shutCrowded :
    Driven oneSlotGraced shutCrowded ∧ shutCrowded.pool.closed = true ∧
    shutCrowded.drain = .unobserved ∧ oneSlotGraced.disposeGrace = some (.ofSeconds 1) ∧
    ((Moment.atMillis 1000).now.add (.ofSeconds 1)).Representable ∧
    InOrder [.pollDrain (.atMillis 1000), .pollDrain (.atMillis 2000)] ∧
    (shutCrowded.run oneSlotGraced [.pollDrain (.atMillis 1000)]).leases.length = 1 ∧
    ((shutCrowded.run oneSlotGraced [.pollDrain (.atMillis 1000)]).step oneSlotGraced
      (.pollDrain (.atMillis 2000))).1.drain = .finished ∧
    LetGo oneSlotGraced (shutCrowded.run oneSlotGraced
      [.pollDrain (.atMillis 1000), .pollDrain (.atMillis 2000)]) := by
  have hquiet : ∀ event ∈ crowded ++ [.shutDown], event.isLook = false := by decide
  have hfresh : Driven oneSlotGraced (fresh (.ofAddress "db:1")) := .fresh _
  have hdriven : Driven oneSlotGraced shutCrowded := hfresh.runUnobserved _ hquiet
  have horder : InOrder [.pollDrain (.atMillis 1000), .pollDrain (.atMillis 2000)] := by
    show List.Pairwise _ _
    decide
  have hrange : ((Moment.atMillis 1000).now.add (.ofSeconds 1)).Representable := by decide
  obtain ⟨-, hcapped, hletGo⟩ := grace_caps hdriven rfl rfl rfl hrange
  have hends := (hcapped [] (.atMillis 2000) horder).ends (by decide) (by decide)
  exact ⟨hdriven, rfl, rfl, rfl, hrange, horder, by decide, hends, hletGo _⟩

end Site

end ConnectionPool
