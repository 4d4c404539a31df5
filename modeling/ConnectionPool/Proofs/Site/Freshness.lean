import ConnectionPool.Proofs.Site.Grace

/-!
# No stale reuse

An idle connection that has gone stale is not handed out. Whether it has is judged by the record
that the pool keeps about it, so the judgement is as good as the record: it must say that the
connection is idle, when it was parked, and when it was opened. What goes to a request without
having been idle is judged when it is given back.

## Main definitions

* `Since`: a condition came to hold in the course of events at an instant, and has held since.
* `IdleSince`, `OpenedAt`: when a connection was parked, and when it was opened.
* `Lent`: how it comes that a caller holds a connection.
* `PassesOn`, `FitToPass`: a connection is sent to a request or parked, and why it may be.
* `Vetted`: what is used again after a run.

## Main results

* `step_idle`, `step_leases`: where the connections come from that are idle, or with callers.
* `step_stems`: no event changes the number of a connection, or when it was opened.
* `dated_of_run`: the records are right after any run.
* `passed_is_fit`, `isReusable_of_claimed`: what is passed on, and what is claimed, is not stale.
* `no_stale_reuse`: all of this after any run.
-/

namespace ConnectionPool

namespace Metadata

variable {info : Metadata} {limit : Option Duration} {now : Instant}

theorem age_le_of_not_isExpired (h : info.isExpired limit now = false) {max : Duration}
    (hlimit : limit = some max) : info.age now ≤ max := by
  rw [isExpired, hlimit, Option.any_some] at h
  exact Nat.not_lt.1 (of_decide_eq_false h)

/-- The idle limit binds a connection only if its `state` is `idle`. -/
theorem idleFor_le_of_not_isIdleExpired (hstate : info.state = .idle)
    (h : info.isIdleExpired limit now = false) {max : Duration} (hlimit : limit = some max) :
    info.idleFor now ≤ max := by
  rw [isIdleExpired, hstate, hlimit, Option.any_some] at h
  exact Nat.not_lt.1 (of_decide_eq_false h)

end Metadata

/-- What `isReusable` is healthy and within the limits. -/
theorem Entry.isReusable_iff {config : Config} {m : Moment} {e : Entry} :
    e.isReusable config m = true ↔
      m.healthy e.conn = true ∧ e.info.isIdleExpired config.maxIdleTime m.now = false ∧
        e.info.isExpired config.maxLifeTime m.now = false := by
  simp [isReusable, and_assoc]

/-- What `select` chooses is usable, and was idle. -/
theorem Pool.isReusable_of_chosen {usable : Entry → Bool} {idle : List Entry} {e : Entry}
    (h : (Pool.select usable idle).chosen = some e) : usable e = true ∧ e ∈ idle := by
  have hidle : e ∈ idle := by
    rw [← Pool.select_append usable idle, h]
    simp
  have husable := List.head?_dropWhile_not (p := (!usable ·)) (l := idle.reverse)
  unfold Pool.select at h
  cases hrest : idle.reverse.dropWhile (!usable ·) with
  | nil =>
    rw [hrest] at h
    cases h
  | cons first older =>
    rw [hrest] at h husable
    obtain rfl : first = e := Option.some.inj h
    exact ⟨by simpa using husable, hidle⟩

namespace Site

variable {config : Config} {s start : Site} {event : Event} {events : List Event} {m : Moment}
  {now : Instant} {e : Entry}

/-! ## What is idle -/

/-- What `offer?` finds and is a connection was given back without a reason to close it, or it was
opened for the queue. -/
theorem offer?_ok_cases (h : s.offer? config event = some (now, .ok e)) :
    ∃ m, event.moment? = some m ∧ now = m.now ∧
      ((s.givenBack? event = some e ∧ s.pool.closeReason? config m e = none) ∨
      ∃ opening conn created, event = .openedForQueue opening conn m created ∧
        s.isOpening opening .queue = true ∧ e = (s.pool.enlist conn created).1) := by
  obtain ⟨m, given, hm, hback, hoffer⟩ |
    ⟨opening, conn, m, created, rfl, hopening, -, rfl, hentry⟩ |
    ⟨opening, failure, m, -, -, -, herror⟩ := offer?_cases h
  · obtain ⟨hreason, rfl, hgiven⟩ := offerOf?_eq_some_iff.1 hoffer
    obtain rfl := Except.ok.inj hgiven
    exact ⟨m, hm, rfl, .inl ⟨hback, hreason⟩⟩
  · obtain rfl := Except.ok.inj hentry
    exact ⟨m, rfl, rfl, .inr ⟨opening, conn, created, rfl, hopening, rfl⟩⟩
  · cases herror

/-- `handOff` parks the connection, or changes nothing about what is idle. -/
theorem handOff_idle (config : Config) (now : Instant) (e : Entry) (s : Site) :
    (handOff config now e s).1.pool.idle = s.pool.idle ∨
      (handOff config now e s).1.pool.idle = s.pool.idle ++ [e.parked now] := by
  rw [handOff_fst]
  obtain ⟨-, heq⟩ | ⟨late, r, rest, -, -, -, heq⟩ := Pool.handOff_cases now e s.pool <;> rw [heq]
  · exact .inr rfl
  · exact .inl rfl

theorem takeIn_idle (config : Config) (m : Moment) (e : Entry) (s : Site) :
    (takeIn config m e s).1.pool.idle = s.pool.idle ∨
    (s.offerOf? config m e = some (m.now, .ok e) ∧
      (takeIn config m e s).1.pool.idle = s.pool.idle ++ [e.parked m.now]) := by
  -- whether a connection has to be closed does not depend on the counters
  have hreason : s.pool.takeBack.closeReason? config m e = s.pool.closeReason? config m e := rfl
  obtain ⟨reason, -, heq⟩ | ⟨hclose, heq⟩ := takeIn_cases config m e s <;> rw [heq]
  · refine .inl ?_
    simp [Pool.reserve, Pool.giveUp, Pool.takeBack]
  · rw [Change.andThen_fst, announce_fst]
    rw [hreason] at hclose
    obtain hkept | hparked := handOff_idle config m.now e { s with pool := s.pool.takeBack }
    · exact .inl hkept
    · exact .inr ⟨if_pos hclose, hparked⟩

theorem abandon_idle (config : Config) (opening : Nat) (s : Site) :
    (s.abandon config opening).1.pool.idle = s.pool.idle := by
  obtain ⟨-, heq⟩ | ⟨-, heq⟩ := abandon_cases config opening s <;> rw [heq]
  rw [slotFreed_fst]
  rfl

/-- Connections may leave the idle list at an event, and one that `offer?` finds may come to it, at
the end. -/
theorem step_idle (config : Config) (event : Event) (s : Site) :
    (s.step config event).1.pool.idle.Sublist s.pool.idle ∨
    ∃ now e, s.offer? config event = some (now, .ok e) ∧
      (s.step config event).1.pool.idle = s.pool.idle ++ [e.parked now] := by
  cases event with
  | acquire m =>
    -- what the search keeps is the front of what was idle
    have hkept : (s.pool.searched config m).idle.Sublist s.pool.idle := by
      have hparts := Pool.select_append (·.isReusable config m) s.pool.idle
      rw [List.append_assoc] at hparts
      exact hparts ▸ List.sublist_append_left _ _
    obtain ⟨-, heq⟩ | ⟨-, ⟨e, -, heq⟩ | ⟨-, ⟨-, heq⟩ | ⟨-, -, -, heq⟩ | ⟨error, -, heq⟩⟩⟩ :=
      acquire_cases config m s <;> rw [step, heq]
    · exact .inl (.refl _)
    all_goals exact .inl hkept
  | opened opening conn m =>
    obtain ⟨-, heq⟩ | ⟨-, ⟨-, heq⟩ | ⟨-, heq⟩⟩ := opened_cases opening conn m s <;> rw [step, heq]
    · exact .inl (.refl _)
    · rw [Change.andThen_fst, announce_fst]
      exact .inl (.refl _)
    · exact .inl (.refl _)
  | openingFailed opening failure =>
    rw [step, openingFailed_snd_fst, abandon_idle]
    exact .inl (.refl _)
  | abandon opening =>
    rw [step, abandon_idle]
    exact .inl (.refl _)
  | openedForQueue opening conn m created =>
    obtain ⟨-, heq⟩ | ⟨hopening, ⟨-, heq⟩ | ⟨hopen, heq⟩⟩ :=
      openedForQueue_cases config opening conn m created s <;> rw [step, heq]
    · exact .inl (.refl _)
    · rw [Change.andThen_fst, announce_fst]
      exact .inl (.refl _)
    · rw [Change.andThen_fst, announce_fst, Change.andThen_fst]
      obtain hkept | hparked := handOff_idle config m.now (s.pool.enlist conn created).1
        (endOpening opening { s with pool := (s.pool.enlist conn created).2 })
      · exact .inl (hkept ▸ .refl _)
      · refine .inr ⟨m.now, _, ?_, hparked⟩
        simp [offer?, hopening, hopen]
  | openingForQueueFailed opening failure m =>
    obtain ⟨-, heq⟩ | ⟨-, heq⟩ := openingForQueueFailed_cases config opening failure m s <;>
      rw [step, heq]
    · exact .inl (.refl _)
    · rw [Change.andThen_fst, slotFreed_fst, Change.andThen_fst, failOldest_fst,
        Pool.failOldest_pool]
      exact .inl (.refl _)
  | poll m request =>
    obtain ⟨e, -, heq⟩ | ⟨error, -, heq⟩ | ⟨-, ⟨-, heq⟩ | ⟨r, -, ⟨-, heq⟩ | ⟨-, heq⟩⟩⟩ :=
      poll_cases config m request s <;> rw [step, heq] <;> exact .inl (.refl _)
  | cancel m request =>
    obtain ⟨-, heq⟩ | ⟨hqueued, ⟨e, hlookup, heq⟩ | ⟨-, heq⟩⟩ := cancel_cases config m request s <;>
      rw [step, heq]
    · exact .inl (.refl _)
    · obtain hkept | ⟨hoffer, hparked⟩ := takeIn_idle config m e
        { s with inbox := s.inbox.eraseP (·.1 == request) }
      · exact .inl (hkept ▸ .refl _)
      · refine .inr ⟨m.now, e, ?_, hparked⟩
        rw [offer?, hqueued, if_neg Bool.false_ne_true, hlookup]
        exact hoffer
    · exact .inl (.refl _)
  | release m lease =>
    obtain ⟨-, heq⟩ | ⟨e, hlease, heq⟩ := release_cases config m lease s <;> rw [step, heq]
    · exact .inl (.refl _)
    · obtain hkept | ⟨hoffer, hparked⟩ := takeIn_idle config m e (s.unlend lease)
      · exact .inl (hkept ▸ .refl _)
      · refine .inr ⟨m.now, e, ?_, hparked⟩
        rw [offer?, hlease]
        exact hoffer
  | detach lease =>
    obtain ⟨-, heq⟩ | ⟨e, -, heq⟩ := detach_cases config lease s <;> rw [step, heq]
    · exact .inl (.refl _)
    · rw [slotFreed_fst]
      exact .inl (.refl _)
  | exchange lease conn => exact .inl (.refl _)
  | sweep m =>
    obtain ⟨-, heq⟩ | ⟨-, notes, -, heq⟩ := sweep_cases config m s <;> rw [step, heq]
    · exact .inl (.refl _)
    · rw [Change.andThen_fst, openForQueue_fst]
      exact .inl List.filter_sublist
  | closeFinished connection =>
    obtain ⟨-, heq⟩ | ⟨e, -, heq⟩ := closeFinished_cases connection s <;> rw [step, heq]
    · exact .inl (.refl _)
    · rw [announce_fst]
      exact .inl (.refl _)
  | shutDown =>
    obtain ⟨-, heq⟩ | ⟨-, heq⟩ := shutDown_cases s <;> rw [step, heq]
    · exact .inl (.refl _)
    · exact .inl (List.nil_sublist _)
  | pollDrain m =>
    obtain ⟨drain, heq⟩ := pollDrain_fst config m s
    rw [step, heq]
    exact .inl (.refl _)

/-! ## What callers hold -/

/-- `Lent config s event e`: how it comes that a caller holds the connection after the event. -/
inductive Lent (config : Config) (s : Site) : Event → Entry → Prop
  /-- A caller held it before, perhaps with another connection in its place. -/
  | held {event : Event} {e before : Entry} (hbefore : before ∈ s.leases)
      (hinfo : e.info = before.info) : Lent config s event e
  /-- It was idle, and `isReusable`. -/
  | claimed {m : Moment} {idle : Entry} (hidle : idle ∈ s.pool.idle)
      (husable : idle.isReusable config m = true) : Lent config s (.acquire m) idle.acquired
  /-- It was sent to the caller's request. -/
  | read {m : Moment} {request : Nat} {sent : Entry}
      (hsent : s.inbox.lookup request = some (.ok sent)) :
      Lent config s (.poll m request) sent.acquired
  /-- It has just been opened for the caller. -/
  | opened {opening : Nat} {conn : Connection} {m : Moment}
      (hopening : s.isOpening opening .caller = true) :
      Lent config s (.opened opening conn m) (s.pool.enlist conn m.now).1.acquired

theorem lent_of_sublist {leases : List Entry} (h : leases.Sublist s.leases) :
    ∀ e ∈ leases, Lent config s event e :=
  fun _ he => .held (h.subset he) rfl

/-- Where one connection is handed out, it is enough to say why that one is `Lent`. -/
theorem lent_of_append {given : Entry} (h : Lent config s event given) :
    ∀ e ∈ s.leases ++ [given], Lent config s event e := by
  intro e he
  rcases List.mem_append.1 he with hold | hnew
  · exact .held hold rfl
  · exact List.mem_singleton.1 hnew ▸ h

theorem takeIn_leases (config : Config) (m : Moment) (e : Entry) (s : Site) :
    (takeIn config m e s).1.leases = s.leases := by
  obtain ⟨reason, -, heq⟩ | ⟨-, heq⟩ := takeIn_cases config m e s <;> simp [heq]

theorem abandon_leases (config : Config) (opening : Nat) (s : Site) :
    (s.abandon config opening).1.leases = s.leases := by
  obtain ⟨-, heq⟩ | ⟨-, heq⟩ := abandon_cases config opening s <;> simp [heq, endOpening]

/-- What a caller holds after a `step` is `Lent`. -/
theorem step_leases (config : Config) (event : Event) (s : Site) :
    ∀ e ∈ (s.step config event).1.leases, Lent config s event e := by
  -- a connection comes into a caller's hands by a claim, by an opening or out of the inbox, and
  -- every other event only takes from what callers hold, or swaps what they hold
  cases event with
  | acquire m =>
    obtain ⟨-, heq⟩ | ⟨-, ⟨e, hchosen, heq⟩ | ⟨-, hnone⟩⟩ := acquire_cases config m s
    · rw [step, heq]
      exact lent_of_sublist (.refl _)
    · obtain ⟨husable, hidle⟩ := Pool.isReusable_of_chosen hchosen
      rw [step, heq]
      exact lent_of_append (.claimed hidle husable)
    · obtain ⟨-, heq⟩ | ⟨-, -, -, heq⟩ | ⟨error, -, heq⟩ := hnone <;> rw [step, heq] <;>
        exact lent_of_sublist (.refl _)
  | opened opening conn m =>
    obtain ⟨-, heq⟩ | ⟨hopening, ⟨-, heq⟩ | ⟨-, heq⟩⟩ := opened_cases opening conn m s <;>
      rw [step, heq]
    · exact lent_of_sublist (.refl _)
    · rw [Change.andThen_fst, announce_fst]
      exact lent_of_sublist (.refl _)
    · exact lent_of_append (.opened hopening)
  | openingFailed opening failure =>
    rw [step, openingFailed_snd_fst, abandon_leases]
    exact lent_of_sublist (.refl _)
  | abandon opening =>
    rw [step, abandon_leases]
    exact lent_of_sublist (.refl _)
  | openedForQueue opening conn m created =>
    obtain ⟨-, heq⟩ | ⟨-, ⟨-, heq⟩ | ⟨-, heq⟩⟩ :=
      openedForQueue_cases config opening conn m created s <;>
      rw [step, heq] <;> refine lent_of_sublist ?_ <;> simp [endOpening]
  | openingForQueueFailed opening failure m =>
    obtain ⟨-, heq⟩ | ⟨-, heq⟩ := openingForQueueFailed_cases config opening failure m s <;>
      rw [step, heq] <;> refine lent_of_sublist ?_ <;> simp [endOpening]
  | poll m request =>
    obtain ⟨e, hsent, heq⟩ | ⟨error, -, heq⟩ | ⟨-, ⟨-, heq⟩ | ⟨r, -, ⟨-, heq⟩ | ⟨-, heq⟩⟩⟩ :=
      poll_cases config m request s <;> rw [step, heq]
    · exact lent_of_append (.read hsent)
    all_goals exact lent_of_sublist (.refl _)
  | cancel m request =>
    obtain ⟨-, heq⟩ | ⟨-, ⟨e, -, heq⟩ | ⟨-, heq⟩⟩ := cancel_cases config m request s <;>
      rw [step, heq]
    · exact lent_of_sublist (.refl _)
    · rw [takeIn_leases]
      exact lent_of_sublist (.refl _)
    · exact lent_of_sublist (.refl _)
  | release m lease =>
    obtain ⟨-, heq⟩ | ⟨e, -, heq⟩ := release_cases config m lease s <;> rw [step, heq]
    · exact lent_of_sublist (.refl _)
    · rw [Change.andThen_fst, takeIn_leases]
      exact lent_of_sublist List.eraseP_sublist
  | detach lease =>
    obtain ⟨-, heq⟩ | ⟨e, -, heq⟩ := detach_cases config lease s <;> rw [step, heq]
    · exact lent_of_sublist (.refl _)
    · rw [slotFreed_fst]
      exact lent_of_sublist List.eraseP_sublist
  | exchange lease conn =>
    intro e he
    obtain ⟨before, hbefore, rfl⟩ := List.mem_map.1 he
    refine .held hbefore ?_
    split <;> rfl
  | sweep m =>
    obtain ⟨-, heq⟩ | ⟨-, notes, -, heq⟩ := sweep_cases config m s <;> rw [step, heq] <;>
      refine lent_of_sublist ?_ <;> simp
  | closeFinished connection =>
    obtain ⟨-, heq⟩ | ⟨e, -, heq⟩ := closeFinished_cases connection s <;> rw [step, heq] <;>
      refine lent_of_sublist ?_ <;> simp
  | shutDown =>
    obtain ⟨-, heq⟩ | ⟨-, heq⟩ := shutDown_cases s <;> rw [step, heq] <;>
      exact lent_of_sublist (.refl _)
  | pollDrain m =>
    obtain ⟨drain, heq⟩ := pollDrain_fst config m s
    rw [step, heq]
    exact lent_of_sublist (.refl _)

/-! ## What is sent -/

/-- Whoever is answered by `serve` gets what is offered, or learns that its time is up. -/
theorem answer_of_mem_serve {offered answer : Delivery} {queue : List Request} {r : Request}
    (h : (r, answer) ∈ Pool.serve config now offered queue) :
    answer = offered ∨ answer = timeUp config := by
  induction queue with
  | nil => cases h
  | cons q queue ih =>
    rw [Pool.serve] at h
    split at h
    · rcases List.mem_cons.1 h with heq | hrest
      · exact .inr (Prod.mk.inj heq).2
      · exact ih hrest
    · exact .inl (Prod.mk.inj (List.mem_singleton.1 h)).2

theorem unread_subset (s : Site) (event : Event) : s.unread event ⊆ s.inbox := by
  cases event with
  | poll m request => exact List.eraseP_subset
  | cancel m request => exact List.eraseP_subset
  | _ => exact fun _ => id

/-- A connection that is on its way to a request was so before the event, or is its `offer?`. -/
theorem step_sent_ok (h : Reachable config s) {request : Nat}
    (hsent : (request, .ok e) ∈ (s.step config event).1.inbox) :
    (request, .ok e) ∈ s.inbox ∨ ∃ now, s.offer? config event = some (now, .ok e) := by
  rw [step_served h event] at hsent
  rcases List.mem_append.1 hsent with hunread | hnew
  · exact .inl (unread_subset s event hunread)
  obtain ⟨⟨r, answer⟩, hserved, heq⟩ := List.mem_map.1 hnew
  obtain ⟨-, rfl⟩ := Prod.mk.inj heq
  rcases List.mem_append.1 hserved with hserved | hdismissed
  · cases hoffer : s.offer? config event with
    | none =>
      rw [served_of_no_offer hoffer] at hserved
      cases hserved
    | some given =>
      rw [served_of_offer hoffer] at hserved
      obtain hoffered | hlate := answer_of_mem_serve hserved
      · exact .inr ⟨given.1, hoffered ▸ rfl⟩
      · cases hlate
  · -- a shutdown sends no connections
    cases event with
    | shutDown =>
      rw [dismissed] at hdismissed
      split at hdismissed
      · cases hdismissed
      · obtain ⟨q, -, heq⟩ := List.mem_map.1 hdismissed
        cases (Prod.mk.inj heq).2
    | _ => cases hdismissed

/-! ## When a connection was opened -/

/-- The connections that are idle, with callers, or on their way to one. -/
def stock (s : Site) : List Entry := s.pool.idle ++ (s.leases ++ entriesOf s.inbox)

theorem mem_stock : e ∈ s.stock ↔ e ∈ s.pool.idle ∨ e ∈ s.leases ∨ e ∈ entriesOf s.inbox := by
  rw [stock, List.mem_append, List.mem_append]

theorem mem_stock_of_lookup {request : Nat} (h : s.inbox.lookup request = some (.ok e)) :
    e ∈ s.stock :=
  mem_stock.2 (.inr (.inr ((entriesOf_of_lookup_ok h).symm.subset List.mem_cons_self)))

theorem mem_stock_of_givenBack (h : s.givenBack? event = some e) : e ∈ s.stock :=
  List.mem_append_right _ (mem_of_givenBack h)

/-- `Stems s event e`: the connection was there before the event, or arrives at it. -/
inductive Stems (s : Site) (event : Event) (e : Entry) : Prop
  /-- It was there before, opened when its record says. -/
  | kept {before : Entry} (hbefore : before ∈ s.stock) (hid : before.info.id = e.info.id)
      (hcreated : before.info.createdAt = e.info.createdAt) : Stems s event e
  /-- It arrives at the event, and its record says when. -/
  | arrived {conn : Connection} (harrives : s.arrivals event = [conn])
      (hid : e.info.id = s.pool.nextConnection)
      (hcreated : event.created? = some e.info.createdAt) :
      Stems s event e

theorem stems_of_offer (h : s.offer? config event = some (now, .ok e)) : Stems s event e := by
  obtain ⟨m, -, -, ⟨hback, -⟩ | ⟨opening, conn, created, rfl, hopening, rfl⟩⟩ := offer?_ok_cases h
  · exact .kept (mem_stock_of_givenBack hback) rfl rfl
  · have harrives : s.arrivals (.openedForQueue opening conn m created) = [conn] := if_pos hopening
    exact .arrived harrives rfl rfl

theorem stems_of_lent (h : Lent config s event e) : Stems s event e := by
  cases h with
  | held hbefore hinfo =>
    exact .kept (mem_stock.2 (.inr (.inl hbefore))) (hinfo ▸ rfl) (hinfo ▸ rfl)
  | claimed hidle husable => exact .kept (mem_stock.2 (.inl hidle)) rfl rfl
  | read hsent => exact .kept (mem_stock_of_lookup hsent) rfl rfl
  | @opened opening conn m hopening =>
    have harrives : s.arrivals (.opened opening conn m) = [conn] := if_pos hopening
    exact .arrived harrives rfl rfl

/-- Every connection `Stems` from before a `step`, or arrives at it. -/
theorem step_stems (h : Reachable config s) (event : Event) :
    ∀ e ∈ (s.step config event).1.stock, Stems s event e := by
  intro e he
  rcases mem_stock.1 he with hidle | hlease | hsent
  · obtain hsub | ⟨now, given, hoffer, heq⟩ := step_idle config event s
    · exact .kept (mem_stock.2 (.inl (hsub.subset hidle))) rfl rfl
    · rw [heq] at hidle
      rcases List.mem_append.1 hidle with hold | hnew
      · exact .kept (mem_stock.2 (.inl hold)) rfl rfl
      · rw [List.mem_singleton.1 hnew]
        -- parking a connection leaves its number and its age alone
        cases stems_of_offer hoffer with
        | kept hbefore hid hcreated => exact .kept hbefore hid hcreated
        | arrived harrives hid hcreated => exact .arrived harrives hid hcreated
  · exact stems_of_lent (step_leases config event s e hlease)
  · obtain ⟨⟨request, answer⟩, hmem, hanswer⟩ := List.mem_filterMap.1 hsent
    cases answer with
    | error error => cases hanswer
    | ok sent =>
      obtain rfl : sent = e := Option.some.inj hanswer
      obtain hold | ⟨now, hoffer⟩ := step_sent_ok h hmem
      · have hbefore : sent ∈ entriesOf s.inbox := List.mem_filterMap.2 ⟨_, hold, rfl⟩
        exact .kept (mem_stock.2 (.inr (.inr hbefore))) rfl rfl
      · exact stems_of_offer hoffer

/-! ## Since when something holds -/

/-- `Since config start events clock motive since`: in the course of the events, `motive` came to
hold at an event, and it has held from there on. `clock` says which of the event's `looks` shows the
instant. -/
def Since (config : Config) (start : Site) (events : List Event) (clock : Event → Option Instant)
    (motive : Site → Prop) (since : Instant) : Prop :=
  ∃ before event after, events = before ++ event :: after ∧ clock event = some since ∧
    ¬ motive (start.run config before) ∧
    ∀ later, later <+: after → motive (start.run config (before ++ event :: later))

/-- `IdleSince config start events id since`: the connection with the number was parked at the
instant, and has been idle since. -/
def IdleSince (config : Config) (start : Site) (events : List Event) (id : Nat)
    (since : Instant) : Prop :=
  Since config start events Event.instant? (fun s => id ∈ s.pool.idle.map (·.info.id)) since

/-- `OpenedAt config start events id since`: the connection with the number was opened at the
instant, at which its record was made and the number was given out. -/
def OpenedAt (config : Config) (start : Site) (events : List Event) (id : Nat)
    (since : Instant) : Prop :=
  Since config start events Event.created? (fun s => id < s.pool.nextConnection) since

theorem run_concat (config : Config) (start : Site) (events : List Event) (event : Event) :
    start.run config (events ++ [event]) = ((start.run config events).step config event).1 := by
  rw [run, List.foldl_append]
  rfl

namespace Since

variable {clock : Event → Option Instant} {motive : Site → Prop} {since other : Instant}

/-- What comes to hold at the last event holds `Since` then. -/
theorem of_step (hclock : clock event = some since) (hbefore : ¬ motive (start.run config events))
    (hafter : motive ((start.run config events).step config event).1) :
    Since config start (events ++ [event]) clock motive since := by
  refine ⟨events, event, [], rfl, hclock, hbefore, fun later hlater => ?_⟩
  rw [List.prefix_nil.1 hlater, run_concat]
  exact hafter

/-- What still holds after one more event holds `Since` the same instant. -/
theorem concat (h : Since config start events clock motive since)
    (hafter : motive ((start.run config events).step config event).1) :
    Since config start (events ++ [event]) clock motive since := by
  obtain ⟨before, first, after, rfl, hclock, hbefore, hlater⟩ := h
  refine ⟨before, first, after ++ [event], by simp, hclock, hbefore, fun later hle => ?_⟩
  obtain rfl | hle := List.prefix_concat_iff.1 hle
  · rw [← List.cons_append, ← List.append_assoc, run_concat]
    exact hafter
  · exact hlater later hle

/-- Of two ways to split the events, each at an event at which the condition came to hold for good,
the first is not before the second. -/
theorem eq_nil_of_split {before gap after after' : List Event} {first second : Event}
    (hsplit : first :: after = gap ++ second :: after')
    (hlater : ∀ later, later <+: after → motive (start.run config (before ++ first :: later)))
    (hbefore : ¬ motive (start.run config (before ++ gap))) : gap = [] := by
  cases gap with
  | nil => rfl
  | cons other gap =>
    obtain ⟨rfl, rfl⟩ := List.cons.inj hsplit
    exact absurd (hlater gap (List.prefix_append _ _)) hbefore

/-- There is only one instant `Since` which a condition holds. -/
theorem unique (h : Since config start events clock motive since)
    (h' : Since config start events clock motive other) : since = other := by
  obtain ⟨before, first, after, rfl, hclock, hbefore, hlater⟩ := h
  obtain ⟨before', second, after', hsplit, hclock', hbefore', hlater'⟩ := h'
  obtain ⟨gap, rfl, hgap⟩ | ⟨gap, rfl, hgap⟩ := List.append_eq_append_iff.1 hsplit
  · obtain rfl := eq_nil_of_split hgap hlater hbefore'
    obtain ⟨rfl, -⟩ := List.cons.inj hgap
    exact Option.some.inj (hclock.symm.trans hclock')
  · obtain rfl := eq_nil_of_split hgap hlater' hbefore
    obtain ⟨rfl, -⟩ := List.cons.inj hgap
    exact Option.some.inj (hclock.symm.trans hclock')

end Since

/-! ## The records are right -/

/-- `Dated config start events`: the records of a site are right about what is idle, and about when
connections were opened. -/
structure Dated (config : Config) (start : Site) (events : List Event) : Prop where
  /-- What is idle is recorded as idle. -/
  idle : ∀ e ∈ (start.run config events).pool.idle, e.info.state = .idle
  /-- What is idle has been so since its `lastReleasedAt`. -/
  parked : ∀ e ∈ (start.run config events).pool.idle,
    IdleSince config start events e.info.id e.info.lastReleasedAt
  /-- A connection was opened at its `createdAt`. -/
  opened : ∀ e ∈ (start.run config events).stock,
    OpenedAt config start events e.info.id e.info.createdAt

/-- The numbers of what is idle are `Numbered`. -/
theorem idle_numbered (h : Reachable config s) :
    Numbered s.pool.nextConnection (s.pool.idle.map (·.info.id)) := by
  refine (holdings_numbered h).of_subperm ?_
  rw [holdings_numbers, List.append_assoc]
  exact (List.sublist_append_left _ _).subperm

/-- The numbers of all connections in `stock` are given out. -/
theorem id_lt_of_mem_stock (h : Reachable config s) (he : e ∈ s.stock) :
    e.info.id < s.pool.nextConnection := by
  refine (holdings_numbered h).lt _ ?_
  rw [holdings_numbers, hands]
  refine List.mem_append_left _ ?_
  rw [← List.map_append]
  exact List.mem_map_of_mem he

/-- The records stay `Dated` at every event. -/
theorem Dated.step (h : Dated config start events) (hs : Reachable config (start.run config events))
    (event : Event) : Dated config start (events ++ [event]) := by
  refine ⟨?_, ?_, ?_⟩ <;> rw [run_concat]
  · intro e he
    obtain hsub | ⟨now, given, -, heq⟩ := step_idle config event (start.run config events)
    · exact h.idle e (hsub.subset he)
    · rw [heq] at he
      rcases List.mem_append.1 he with hold | hnew
      · exact h.idle e hold
      · exact List.mem_singleton.1 hnew ▸ rfl
  · intro e he
    have hstill : e.info.id ∈ ((start.run config events).step config event).1.pool.idle.map
        (·.info.id) := List.mem_map_of_mem he
    obtain hsub | ⟨now, given, hoffer, heq⟩ := step_idle config event (start.run config events)
    · exact (h.parked e (hsub.subset he)).concat hstill
    · have hnodup := (idle_numbered (hs.step event)).nodup
      rw [heq] at he hnodup
      rcases List.mem_append.1 he with hold | hnew
      · exact (h.parked e hold).concat hstill
      · -- numbers differ, so what is parked was not idle before
        obtain rfl := List.mem_singleton.1 hnew
        obtain ⟨m, hmoment, rfl, -⟩ := offer?_ok_cases hoffer
        refine Since.of_step (by rw [Event.instant?, hmoment]; rfl) (fun hbefore => ?_) hstill
        rw [List.map_append, List.nodup_append] at hnodup
        exact hnodup.2.2 _ hbefore _ (List.mem_singleton_self _) rfl
  · intro e he
    have hgiven := id_lt_of_mem_stock (hs.step event) he
    cases step_stems hs event e he with
    | @kept before hbefore hid hcreated =>
      have hopened := h.opened before hbefore
      rw [hid, hcreated] at hopened
      exact hopened.concat hgiven
    | arrived harrives hid hcreated =>
      refine Since.of_step hcreated ?_ hgiven
      rw [hid]
      exact Nat.lt_irrefl _

/-- The records stay `Dated` in the course of events. -/
theorem Dated.run (h : Dated config start events) (hstart : Reachable config start)
    (later : List Event) : Dated config start (events ++ later) := by
  induction later generalizing events with
  | nil =>
    rw [List.append_nil]
    exact h
  | cons event later ih =>
    have hstep := ih (h.step (hstart.run events) event)
    rw [List.append_assoc] at hstep
    exact hstep

/-- The records of a site are `Dated` after any run. -/
theorem dated_of_run (config : Config) (destination : Destination) (events : List Event) :
    Dated config (fresh destination) events := by
  have hfresh : Dated config (fresh destination) [] := ⟨nofun, nofun, nofun⟩
  exact hfresh.run (.fresh destination) events

/-! ## What is handed out and passed on -/

/-- `PassesOn config s event e`: the connection is sent to a request at the event, or parked. -/
def PassesOn (config : Config) (s : Site) (event : Event) (e : Entry) : Prop :=
  (∃ request, (request, .ok e) ∈ (s.step config event).1.inbox ∧ (request, .ok e) ∉ s.inbox) ∨
  (e ∈ (s.step config event).1.pool.idle ∧ e.info.id ∉ s.pool.idle.map (·.info.id))

/-- `FitToPass config s event e`: why the connection may be passed on at the event. -/
inductive FitToPass (config : Config) (s : Site) (event : Event) (e : Entry) : Prop
  /-- It was given back at the event, and it is healthy and not too old. -/
  | givenBack {m : Moment} {back : Entry} (hmoment : event.moment? = some m)
      (hback : s.givenBack? event = some back) (htag : e.tag = back.tag)
      (hcreated : e.info.createdAt = back.info.createdAt) (hhealthy : m.healthy e.conn = true)
      (hage : ∀ max, config.maxLifeTime = some max → e.info.age m.now ≤ max)
  /-- It has just been opened for the queue. -/
  | opened {opening : Nat} {conn : Connection} {m : Moment}
      (hevent : event = .openedForQueue opening conn m e.info.createdAt)
      (hopening : s.isOpening opening .queue = true) (htag : e.tag = (s.pool.nextConnection, conn))

/-- What `offer?` finds is `FitToPass`. -/
theorem fitToPass_of_offer (h : s.offer? config event = some (now, .ok e)) :
    FitToPass config s event e := by
  obtain ⟨m, hmoment, -, ⟨hback, hreason⟩ | ⟨opening, conn, created, hevent, hopening, rfl⟩⟩ :=
    offer?_ok_cases h
  · obtain ⟨-, hhealthy, hexpired⟩ := Pool.closeReason?_eq_none_iff.1 hreason
    exact .givenBack hmoment hback rfl rfl hhealthy
      fun max hmax => Metadata.age_le_of_not_isExpired hexpired hmax
  · exact .opened hevent hopening rfl

/-- Parking a connection does not change whether it is `FitToPass`. -/
theorem FitToPass.parked (h : FitToPass config s event e) (now : Instant) :
    FitToPass config s event (e.parked now) := by
  cases h with
  | givenBack hmoment hback htag hcreated hhealthy hage =>
    exact .givenBack hmoment hback htag hcreated hhealthy hage
  | opened hevent hopening htag => exact .opened hevent hopening htag

/-- What an event `PassesOn` is `FitToPass`: it was given back at the event, healthy and not too
old, or has just been opened. -/
theorem passed_is_fit (h : Reachable config s) (hpass : PassesOn config s event e) :
    FitToPass config s event e := by
  obtain ⟨request, hsent, hunsent⟩ | ⟨hidle, hbusy⟩ := hpass
  · obtain hold | ⟨now, hoffer⟩ := step_sent_ok h hsent
    · exact absurd hold hunsent
    · exact fitToPass_of_offer hoffer
  · obtain hsub | ⟨now, given, hoffer, heq⟩ := step_idle config event s
    · exact absurd (List.mem_map_of_mem (hsub.subset hidle)) hbusy
    · rw [heq] at hidle
      rcases List.mem_append.1 hidle with hold | hnew
      · exact absurd (List.mem_map_of_mem hold) hbusy
      · rw [List.mem_singleton.1 hnew]
        exact (fitToPass_of_offer hoffer).parked now

/-- `decide` claims an idle connection only if it `isReusable`. -/
theorem isReusable_of_claimed (h : (s.pool.decide config m).decision = .claimed e) :
    e ∈ s.pool.idle ∧ e.isReusable config m = true := by
  obtain ⟨-, ⟨chosen, hchosen, hdecision, -⟩ | ⟨-, hnone⟩⟩ := Pool.decide_cases config m s.pool
  · rw [hdecision] at h
    obtain rfl : chosen = e := by simpa using h
    exact (Pool.isReusable_of_chosen hchosen).symm
  · obtain ⟨-, hdecision, -⟩ | ⟨-, hrefused⟩ := hnone
    · rw [hdecision] at h
      cases h
    · obtain ⟨-, hdecision, -⟩ | ⟨-, ⟨-, hdecision, -⟩ | ⟨-, hdecision, -⟩⟩ := hrefused <;>
        rw [hdecision] at h <;> cases h

/-- `acquire` gets a connection at once only if an idle one is claimed by `decide`. -/
theorem claimed_of_lease {id : Nat} (h : (s.acquire config m).1 = .ok (.lease id)) :
    ∃ e, (s.pool.decide config m).decision = .claimed e ∧ e.info.id = id := by
  unfold acquire at h
  split at h
  · cases h
  · cases hdecision : (s.pool.decide config m).decision with
    | claimed e => exact ⟨e, rfl, by simpa [hdecision] using h⟩
    | _ => simp [hdecision] at h

/-- `Vetted config start events`: after the events, only connections are used again that have not
gone stale. -/
structure Vetted (config : Config) (start : Site) (events : List Event) : Prop where
  /-- What is idle is recorded as idle, and is `IdleSince` its `lastReleasedAt`. -/
  parked : ∀ e ∈ (start.run config events).pool.idle, e.info.state = .idle ∧
    ∀ since, IdleSince config start events e.info.id since ↔ since = e.info.lastReleasedAt
  /-- A connection is `OpenedAt` its `createdAt`. -/
  opened : ∀ e ∈ (start.run config events).stock, ∀ since,
    OpenedAt config start events e.info.id since ↔ since = e.info.createdAt
  /-- A connection that is claimed is healthy, has not been idle for too long and is not too old. -/
  claimed : ∀ m e, ((start.run config events).pool.decide config m).decision = .claimed e →
    e ∈ (start.run config events).pool.idle ∧ m.healthy e.conn = true ∧
    (∀ since max, IdleSince config start events e.info.id since → config.maxIdleTime = some max →
      m.now.since since ≤ max) ∧
    ∀ since max, OpenedAt config start events e.info.id since → config.maxLifeTime = some max →
      m.now.since since ≤ max
  /-- `acquire` that gets a connection at once gets one that is claimed. -/
  leased : ∀ m id, ((start.run config events).acquire config m).1 = .ok (.lease id) →
    ∃ e, ((start.run config events).pool.decide config m).decision = .claimed e ∧ e.info.id = id
  /-- A connection that an event `PassesOn` is `FitToPass`. -/
  passed : ∀ event e, PassesOn config (start.run config events) event e →
    FitToPass config (start.run config events) event e
  /-- What callers hold is `Lent` to them: it was claimed, or sent to them, or has just been opened
  for them. -/
  lent : ∀ event, ∀ e ∈ ((start.run config events).step config event).1.leases,
    Lent config (start.run config events) event e

/-- After any run the site is `Vetted`: no connection is used again that has gone stale, whatever
happened before, whatever the limits are and whatever the clock says. What is claimed is judged by a
record that says truly since when it has been idle and when it was opened, and what is passed on is
judged when it is given back. -/
theorem no_stale_reuse (config : Config) (destination : Destination) (events : List Event) :
    Vetted config (fresh destination) events := by
  -- the dates that are read off the run are those of the records
  have hdated := dated_of_run config destination events
  have hfresh : Reachable config (fresh destination) := .fresh destination
  have hs := hfresh.run events
  have hopened : ∀ e ∈ ((fresh destination).run config events).stock, ∀ since,
      OpenedAt config (fresh destination) events e.info.id since ↔ since = e.info.createdAt := by
    intro e he since
    exact ⟨fun hsince => hsince.unique (hdated.opened e he), fun heq => heq ▸ hdated.opened e he⟩
  refine ⟨fun e he => ⟨hdated.idle e he, fun since => ?_⟩, hopened, fun m e hclaimed => ?_,
    fun m id => claimed_of_lease, fun event e => passed_is_fit hs,
    fun event => step_leases config event _⟩
  · exact ⟨fun hsince => hsince.unique (hdated.parked e he), fun heq => heq ▸ hdated.parked e he⟩
  · obtain ⟨hidle, husable⟩ := isReusable_of_claimed hclaimed
    obtain ⟨hhealthy, hrested, hyoung⟩ := Entry.isReusable_iff.1 husable
    refine ⟨hidle, hhealthy, fun since max hsince hmax => ?_, fun since max hsince hmax => ?_⟩
    · obtain rfl := hsince.unique (hdated.parked e hidle)
      exact Metadata.idleFor_le_of_not_isIdleExpired (hdated.idle e hidle) hrested hmax
    · obtain rfl := hsince.unique (hdated.opened e (mem_stock.2 (.inl hidle)))
      exact Metadata.age_le_of_not_isExpired hyoung hmax

/-- A connection that may be idle for a second is claimed after that time, and passed over a
millisecond later. -/
example :
    let config : Config := { Config.oneSlot with maxIdleTime := some (.ofSeconds 1) }
    let s := (fresh (.ofAddress "db:1")).run config
      [.acquire (.atMillis 0), .opened 1 ⟨1, "db:1"⟩ (.atMillis 0), .release (.atMillis 200) 1]
    (s.acquire config (.atMillis 1200)).1 = .ok (.lease 1) ∧
      (s.acquire config (.atMillis 1201)).1 = .ok (.opening 2) := by
  decide

end Site

end ConnectionPool
