import ConnectionPool.Proofs.Site.Balance
import ConnectionPool.Proofs.Site.Frame

/-!
# Where the connections of a site are

A connection that a site has taken over from the transport is idle, in the hands of a caller, on its
way to one, or being closed. Changes of the site move connections between these places and change
their records; they neither lose a connection nor list one twice. The number of a connection and the
connection itself stay together through all this, and `Entry.tag` is the pair of them.

* `step_holdings`: what a site holds changes only by what arrives and what leaves.
* `exchange_holdings`: putting another connection in a caller's hands changes one member.
* `step_closings`: a connection is being closed from the moment the surroundings are asked to.
* `holdings_numbered`: no number is held twice.
-/

namespace ConnectionPool

/-- The number of a connection in its pool, and the connection. -/
def Entry.tag (e : Entry) : Nat × Connection := (e.info.id, e.conn)

@[simp]
theorem Entry.tag_acquired (e : Entry) : e.acquired.tag = e.tag := rfl

@[simp]
theorem Entry.tag_parked (e : Entry) (now : Instant) : (e.parked now).tag = e.tag := rfl

@[simp]
theorem Entry.tag_retired (e : Entry) : e.retired.tag = e.tag := rfl

@[simp]
theorem Entry.map_tag_retired (entries : List Entry) :
    (entries.map Entry.retired).map Entry.tag = entries.map Entry.tag := by
  rw [List.map_map]
  exact List.map_congr_left fun e _ => e.tag_retired

namespace Site

variable {config : Config} {s : Site}

/-- Everything that the site holds: what is idle, with callers, on its way to one, or
being closed. -/
def holdings (s : Site) : List (Nat × Connection) :=
  s.pool.idle.map Entry.tag ++ s.leases.map Entry.tag ++ (entriesOf s.inbox).map Entry.tag ++
    s.closings.map Entry.tag

/-- What leaves the site for good at an event: a connection that is detached, or one that has been
closed. -/
def departures (s : Site) : Event → List (Nat × Connection)
  | .detach lease => (s.lease? lease).toList.map Entry.tag
  | .closeFinished connection =>
    (s.closings.find? (·.info.id == connection)).toList.map Entry.tag
  | _ => []

/-- The connections that the effects ask to be closed. -/
def closesOf (effects : List Effect) : List Entry :=
  effects.filterMap fun
    | .close e => some e
    | _ => none

/-- The effect is a call of the transport, to open a connection or to close one. -/
def Effect.isCall : Effect → Bool
  | .close _ | .openForQueue _ => true
  | _ => false

/-- The event is the end of a close. -/
def Event.isCloseFinished : Event → Bool
  | .closeFinished _ => true
  | _ => false

/-- The event puts another connection into a caller's hands. -/
def Event.isExchange : Event → Bool
  | .exchange _ _ => true
  | _ => false

/-! ## The parts of a change -/

theorem announce_holdings (s : Site) : (announce s).1.holdings = s.holdings := by
  rw [announce_fst]
  rfl

theorem slotFreed_holdings (config : Config) (s : Site) :
    (slotFreed config s).1.holdings = s.holdings := by
  rw [slotFreed_fst]
  rfl

theorem startClosing_holdings (entries : List Entry) (s : Site) :
    (startClosing entries s).1.holdings = s.holdings ++ entries.map Entry.tag := by
  simp [holdings]

theorem handOff_holdings (config : Config) (now : Instant) (e : Entry) (s : Site) :
    (handOff config now e s).1.holdings.Perm (s.holdings ++ [e.tag]) := by
  rw [handOff_fst]
  obtain ⟨-, heq⟩ | ⟨late, r, rest, -, -, -, heq⟩ := Pool.handOff_cases now e s.pool
  -- parked or sent, the connection is held once more than before
  all_goals
    rw [List.perm_iff_count]
    intro tag
    simp only [holdings, entriesOf_append, entriesOf_deliveries_ok, heq, Option.toList,
      List.map_append, List.map_cons, List.map_nil, List.append_nil, Entry.tag_parked,
      List.count_append]
    omega

theorem failOldest_holdings (config : Config) (now : Instant) (error : PoolError) (s : Site) :
    (failOldest config now error s).1.holdings = s.holdings := by
  rw [failOldest_fst]
  simp only [holdings, entriesOf_append, entriesOf_deliveries_error, List.append_nil]
  rw [Pool.failOldest_pool]

theorem unlend_holdings {lease : Nat} {e : Entry} (h : s.lease? lease = some e) :
    s.holdings.Perm ((s.unlend lease).holdings ++ [e.tag]) := by
  have hleases := (perm_cons_eraseP_of_find? h).map Entry.tag
  rw [List.perm_iff_count] at hleases ⊢
  intro tag
  have := hleases tag
  rw [List.map_cons, ← List.singleton_append] at this
  simp only [holdings, unlend, List.count_append] at this ⊢
  omega

theorem unsend_holdings {request : Nat} {e : Entry} (h : s.inbox.lookup request = some (.ok e)) :
    s.holdings.Perm
      (Site.holdings { s with inbox := s.inbox.eraseP (·.1 == request) } ++ [e.tag]) := by
  have hinbox := (entriesOf_of_lookup_ok h).map Entry.tag
  rw [List.perm_iff_count] at hinbox ⊢
  intro tag
  have := hinbox tag
  rw [List.map_cons, ← List.singleton_append] at this
  simp only [holdings, List.count_append] at this ⊢
  omega

theorem discard_holdings {request : Nat} (h : ∀ e, s.inbox.lookup request ≠ some (.ok e)) :
    (Site.holdings { s with inbox := s.inbox.eraseP (·.1 == request) }).Perm s.holdings := by
  have hinbox := (entriesOf_of_lookup_ne_ok h).map Entry.tag
  exact (hinbox.append_left _).append_right _

theorem lend_holdings (e : Entry) (s : Site) :
    (s.lend e).holdings.Perm (s.holdings ++ [e.tag]) := by
  rw [List.perm_iff_count]
  intro tag
  simp only [holdings, lend, List.map_append, List.map_cons, List.map_nil, Entry.tag_acquired,
    List.count_append]
  omega

/-- What `select` chooses is taken out of the `holdings`. -/
theorem searched_holdings (config : Config) (m : Moment) (s : Site) :
    s.holdings.Perm ((s.searched config m).1.holdings ++
      (Pool.select (·.isReusable config m) s.pool.idle).chosen.toList.map Entry.tag) := by
  -- what is kept, found and passed over makes up what was idle, in another order
  have hidle := congrArg (List.map Entry.tag)
    (Pool.select_append (·.isReusable config m) s.pool.idle)
  rw [searched, startClosing_holdings, List.perm_iff_count]
  intro tag
  have := congrArg (List.count tag) hidle
  simp only [List.map_append, List.map_reverse, List.count_append, List.count_reverse] at this
  simp only [holdings, Pool.searched, Pool.giveUp, List.count_append]
  omega

/-- What `takeIn` takes is among the `holdings`. -/
theorem takeIn_holdings (config : Config) (m : Moment) (e : Entry) (s : Site) :
    (takeIn config m e s).1.holdings.Perm (s.holdings ++ [e.tag]) := by
  obtain ⟨reason, -, heq⟩ | ⟨-, heq⟩ := takeIn_cases config m e s <;> rw [heq]
  · rw [Change.andThen_fst, slotFreed_holdings, Change.andThen_fst, startClosing_holdings]
    exact .refl _
  · rw [Change.andThen_fst, announce_holdings]
    exact handOff_holdings config m.now e { s with pool := s.pool.takeBack }

theorem abandon_holdings (config : Config) (opening : Nat) (s : Site) :
    (s.abandon config opening).1.holdings = s.holdings := by
  obtain ⟨-, heq⟩ | ⟨-, heq⟩ := abandon_cases config opening s <;> rw [heq]
  rw [slotFreed_holdings]
  rfl

theorem acquire_holdings (config : Config) (m : Moment) (s : Site) :
    (s.acquire config m).2.1.holdings.Perm s.holdings := by
  have hsearched := searched_holdings config m s
  obtain ⟨-, heq⟩ | ⟨-, ⟨e, hchosen, heq⟩ | ⟨hchosen, hnone⟩⟩ := acquire_cases config m s
  · rw [heq]
  · rw [heq, Change.andThen_fst]
    rw [hchosen] at hsearched
    exact (lend_holdings e _).trans hsearched.symm
  · rw [hchosen, Option.toList, List.map_nil, List.append_nil] at hsearched
    obtain ⟨-, heq⟩ | ⟨-, -, -, heq⟩ | ⟨error, -, heq⟩ := hnone <;> rw [heq] <;>
      exact hsearched.symm

/-! ## Every event -/

/-- Where nothing arrives and nothing leaves, it is enough that the `holdings` are the same. -/
theorem holdings_of_perm {event : Event} {t : Site} (harrivals : s.arrivals event = [])
    (hdepartures : s.departures event = []) (h : t.holdings.Perm s.holdings) :
    (t.holdings ++ s.departures event).Perm
      (s.holdings ++ (s.arrivals event).map (s.pool.nextConnection, ·)) := by
  rw [harrivals, hdepartures, List.map_nil, List.append_nil, List.append_nil]
  exact h

/-- Where one connection arrives and nothing leaves, the `holdings` have that connection besides. -/
theorem holdings_of_arrival {event : Event} {t : Site} {conn : Connection}
    (harrivals : s.arrivals event = [conn]) (hdepartures : s.departures event = [])
    (h : t.holdings.Perm (s.holdings ++ [(s.pool.nextConnection, conn)])) :
    (t.holdings ++ s.departures event).Perm
      (s.holdings ++ (s.arrivals event).map (s.pool.nextConnection, ·)) := by
  rw [harrivals, hdepartures, List.append_nil]
  exact h

/-- Where one member leaves and nothing arrives, the `holdings` had that member besides. -/
theorem holdings_of_departure {event : Event} {t : Site} {tag : Nat × Connection}
    (harrivals : s.arrivals event = []) (hdepartures : s.departures event = [tag])
    (h : s.holdings.Perm (t.holdings ++ [tag])) :
    (t.holdings ++ s.departures event).Perm
      (s.holdings ++ (s.arrivals event).map (s.pool.nextConnection, ·)) := by
  rw [harrivals, hdepartures, List.map_nil, List.append_nil]
  exact h.symm

/-- The `holdings` of a site change only by `arrivals` and `departures`. -/
theorem step_holdings (config : Config) (event : Event) (hevent : event.isExchange = false)
    (s : Site) :
    ((s.step config event).1.holdings ++ s.departures event).Perm
      (s.holdings ++ (s.arrivals event).map (s.pool.nextConnection, ·)) := by
  -- events at which nothing arrives or leaves only move what is held from one list to another
  cases event with
  | acquire m => exact holdings_of_perm rfl rfl (acquire_holdings config m s)
  | opened opening conn m =>
    obtain ⟨hopening, heq⟩ | ⟨hopening, hopened⟩ := opened_cases opening conn m s
    · refine holdings_of_perm (by simp [arrivals, hopening]) rfl ?_
      rw [step, heq]
    · refine holdings_of_arrival (if_pos hopening) rfl ?_
      obtain ⟨-, heq⟩ | ⟨-, heq⟩ := hopened <;> rw [step, heq]
      · rw [Change.andThen_fst, announce_holdings, startClosing_holdings]
        exact .refl _
      · exact lend_holdings _ _
  | openingFailed opening failure =>
    refine holdings_of_perm rfl rfl ?_
    rw [step, openingFailed_snd_fst, abandon_holdings]
  | abandon opening =>
    refine holdings_of_perm rfl rfl ?_
    rw [step, abandon_holdings]
  | openedForQueue opening conn m created =>
    obtain ⟨hopening, heq⟩ | ⟨hopening, hopened⟩ :=
      openedForQueue_cases config opening conn m created s
    · refine holdings_of_perm (by simp [arrivals, hopening]) rfl ?_
      rw [step, heq]
    · refine holdings_of_arrival (if_pos hopening) rfl ?_
      obtain ⟨-, heq⟩ | ⟨-, heq⟩ := hopened <;> rw [step, heq]
      · rw [Change.andThen_fst, announce_holdings, startClosing_holdings]
        exact .refl _
      · rw [Change.andThen_fst, announce_holdings, Change.andThen_fst]
        exact handOff_holdings config m.now _
          (endOpening opening { s with pool := (s.pool.enlist conn created).2 })
  | openingForQueueFailed opening failure m =>
    refine holdings_of_perm rfl rfl ?_
    obtain ⟨-, heq⟩ | ⟨-, heq⟩ := openingForQueueFailed_cases config opening failure m s <;>
      rw [step, heq]
    rw [Change.andThen_fst, slotFreed_holdings, Change.andThen_fst, failOldest_holdings]
    exact .refl _
  | poll m request =>
    refine holdings_of_perm rfl rfl ?_
    obtain ⟨e, hinbox, heq⟩ | ⟨error, hinbox, heq⟩ | ⟨-, ⟨-, heq⟩ | ⟨r, -, ⟨-, heq⟩ | ⟨-, heq⟩⟩⟩ :=
      poll_cases config m request s <;> rw [step, heq]
    -- from the inbox into the hands of the caller
    · exact (lend_holdings e _).trans (unsend_holdings hinbox).symm
    · exact discard_holdings (by simp [hinbox])
    · exact .refl _
  | cancel m request =>
    refine holdings_of_perm rfl rfl ?_
    obtain ⟨-, heq⟩ | ⟨-, ⟨e, hinbox, heq⟩ | ⟨hinbox, heq⟩⟩ := cancel_cases config m request s <;>
      rw [step, heq]
    · exact .refl _
    · exact (takeIn_holdings config m e _).trans (unsend_holdings hinbox).symm
    · exact discard_holdings hinbox
  | release m lease =>
    refine holdings_of_perm rfl rfl ?_
    obtain ⟨-, heq⟩ | ⟨e, hlease, heq⟩ := release_cases config m lease s <;> rw [step, heq]
    exact (takeIn_holdings config m e _).trans (unlend_holdings hlease).symm
  | detach lease =>
    obtain ⟨hlease, heq⟩ | ⟨e, hlease, heq⟩ := detach_cases config lease s
    · refine holdings_of_perm rfl (by simp [departures, hlease]) ?_
      rw [step, heq]
    · refine holdings_of_departure rfl
        (congrArg (fun known => known.toList.map Entry.tag) hlease) ?_
      rw [step, heq, slotFreed_holdings]
      exact unlend_holdings hlease
  | exchange lease conn => cases hevent
  | sweep m =>
    refine holdings_of_perm rfl rfl ?_
    obtain ⟨-, heq⟩ | ⟨-, notes, -, heq⟩ := sweep_cases config m s <;> rw [step, heq]
    rw [Change.andThen_fst, openForQueue_fst, Change.andThen_fst]
    -- a sweep splits what was idle into what it keeps and what is being closed
    have hidle := (List.filter_append_perm (·.isReusable config m) s.pool.idle).map Entry.tag
    rw [List.perm_iff_count] at hidle ⊢
    intro tag
    have := hidle tag
    simp only [startClosing_fst, holdings, Pool.reserve, Pool.sweep, Pool.giveUp, Pool.unusable,
      List.map_append, Entry.map_tag_retired, List.count_append] at this ⊢
    omega
  | closeFinished connection =>
    obtain ⟨hfind, heq⟩ | ⟨e, hfind, heq⟩ := closeFinished_cases connection s
    · refine holdings_of_perm rfl (by simp [departures, hfind]) ?_
      rw [step, heq]
    · have hclosings := (perm_cons_eraseP_of_find? hfind).map Entry.tag
      refine holdings_of_departure rfl
        (congrArg (fun known => known.toList.map Entry.tag) hfind) ?_
      rw [step, heq, announce_holdings, List.perm_iff_count]
      intro tag
      have := hclosings.count_eq tag
      rw [List.map_cons, ← List.singleton_append] at this
      simp only [holdings, List.count_append] at this ⊢
      omega
  | shutDown =>
    refine holdings_of_perm rfl rfl ?_
    obtain ⟨-, heq⟩ | ⟨-, heq⟩ := shutDown_cases s <;> rw [step, heq]
    rw [Change.andThen_fst, startClosing_holdings, List.perm_iff_count]
    intro tag
    -- a shutdown sends no connections
    have hsent : entriesOf (s.pool.pending.map fun r => (r.id, .error .poolClosed)) = [] := by
      simp [entriesOf, Except.toOption]
    simp only [Change.andThen_fst, deliver_fst, holdings, Pool.shutDown, Pool.giveUp,
      entriesOf_append, hsent, List.append_nil, List.map_nil, List.count_append, List.count_nil]
    omega
  | pollDrain m =>
    refine holdings_of_perm rfl rfl ?_
    obtain ⟨drain, heq⟩ := pollDrain_fst config m s
    rw [step, heq]
    exact .refl _

/-- Where no number is held twice, `exchange` changes one member of the `holdings`. -/
theorem exchange_holdings {lease : Nat} {e : Entry} (conn : Connection)
    (hnumbers : (s.holdings.map Prod.fst).Nodup) (h : s.lease? lease = some e) :
    ∃ others, s.holdings.Perm ((lease, e.conn) :: others) ∧
      (s.exchange lease conn).holdings.Perm ((lease, conn) :: others) := by
  have hid : e.info.id = lease := by
    simpa using List.find?_some (p := fun e : Entry => e.info.id == lease) h
  -- leases are among what is held, so their numbers differ and one of them is changed
  have hleases : (s.leases.map (·.info.id)).Nodup := by
    have hsub : (s.leases.map (·.info.id)).Sublist (s.holdings.map Prod.fst) := by
      simp only [holdings, List.map_append, List.map_map]
      refine List.sublist_append_of_sublist_left (List.sublist_append_of_sublist_left ?_)
      exact List.sublist_append_right _ _
    exact hnumbers.sublist hsub
  have hexchanged := perm_map_of_mem (fun e => { e with conn }) hleases
    (List.mem_of_find?_eq_some h)
  rw [hid] at hexchanged
  refine ⟨(s.unlend lease).holdings, ?_, ?_⟩
  · have htag : (lease, e.conn) = e.tag := by rw [← hid, Entry.tag]
    rw [htag]
    exact (unlend_holdings h).trans (List.perm_append_singleton _ _)
  · have htags := hexchanged.map Entry.tag
    rw [List.map_cons, Entry.tag, hid, ← List.singleton_append] at htags
    rw [← List.singleton_append, List.perm_iff_count]
    intro tag
    have := htags.count_eq tag
    simp only [holdings, exchange, unlend, List.count_append] at this ⊢
    omega

/-- `exchange` leaves the numbers of the `holdings` as they are. -/
theorem exchange_numbers (lease : Nat) (conn : Connection) (s : Site) :
    (s.exchange lease conn).holdings.map Prod.fst = s.holdings.map Prod.fst := by
  have hkept : ∀ e : Entry, (if e.info.id = lease then { e with conn } else e).info.id =
      e.info.id := by
    intro e
    split <;> rfl
  simp [holdings, exchange, Function.comp_def, Entry.tag, hkept]

/-- At most one connection is among the `arrivals` of an event. -/
theorem arrivals_cases (event : Event) (s : Site) :
    s.arrivals event = [] ∨ ∃ conn, s.arrivals event = [conn] := by
  cases event <;> simp only [arrivals] <;> (try split) <;> simp

/-- No number occurs twice in the `holdings`, and all were given out. -/
theorem holdings_numbered (h : Reachable config s) :
    Numbered s.pool.nextConnection (s.holdings.map Prod.fst) := by
  refine h.invariant (motive := fun s => Numbered s.pool.nextConnection (s.holdings.map Prod.fst))
    (fun destination => .nil 1) fun s event hs => ?_
  -- an exchange is the one event that is no permutation of what is held, but it keeps the numbers
  cases hevent : event.isExchange with
  | true =>
    obtain ⟨lease, conn, rfl⟩ : ∃ lease conn, event = .exchange lease conn := by
      cases event <;> simp [Event.isExchange] at hevent ⊢
    rw [step, exchange_numbers]
    exact hs
  | false =>
    have hframe := step_frame config event s
    have hperm := (step_holdings config event hevent s).map Prod.fst
    have hbelow : ((s.step config event).1.holdings.map Prod.fst).Subperm
        ((s.holdings ++ (s.arrivals event).map (s.pool.nextConnection, ·)).map Prod.fst) := by
      rw [List.map_append] at hperm
      exact (List.sublist_append_left _ _).subperm.trans hperm.subperm
    rw [hframe.nextConnection]
    refine Numbered.of_subperm ?_ hbelow
    obtain harrivals | ⟨conn, harrivals⟩ := arrivals_cases event s
    · simpa [harrivals] using hs
    · simpa [harrivals] using hs.append_next

/-! ## What is being closed -/

@[simp]
theorem closesOf_append (first second : List Effect) :
    closesOf (first ++ second) = closesOf first ++ closesOf second :=
  List.filterMap_append

@[simp]
theorem closesOf_nil : closesOf [] = [] := rfl

@[simp]
theorem closesOf_note (event : PoolEvent) (effects : List Effect) :
    closesOf (.note event :: effects) = closesOf effects := rfl

/-- Lines in the log close nothing. -/
@[simp]
theorem closesOf_notes (notes : List PoolEvent) : closesOf (notes.map .note) = [] := by
  induction notes with
  | nil => rfl
  | cons note notes ih => exact ih

@[simp]
theorem closesOf_stopSweep (effects : List Effect) :
    closesOf (.stopSweep :: effects) = closesOf effects := rfl

@[simp]
theorem closesOf_announce (s : Site) : closesOf (announce s).2 = [] := by
  unfold announce
  split
  · split <;> rfl
  · rfl

@[simp]
theorem closesOf_openForQueue (count : Nat) (s : Site) :
    closesOf (openForQueue count s).2 = [] := by
  induction count generalizing s with
  | zero => rfl
  | succ count ih =>
    rw [openForQueue, Change.andThen_snd, closesOf_append, ih]
    rfl

@[simp]
theorem closesOf_slotFreed (config : Config) (s : Site) :
    closesOf (slotFreed config s).2 = [] := by
  rw [slotFreed, Change.andThen_snd, closesOf_append, closesOf_announce, closesOf_openForQueue]
  rfl

@[simp]
theorem closesOf_deliver (deliveries : List (Nat × Delivery)) (s : Site) :
    closesOf (deliver deliveries s).2 = [] := by
  simp [deliver, closesOf]

@[simp]
theorem closesOf_startClosing (entries : List Entry) (s : Site) :
    closesOf (startClosing entries s).2 = entries.map Entry.retired := by
  induction entries with
  | nil => rfl
  | cons e entries ih =>
    simp only [startClosing, List.map_cons, List.flatMap_cons, closesOf_append] at ih ⊢
    rw [ih]
    rfl

@[simp]
theorem closesOf_handOff (config : Config) (now : Instant) (e : Entry) (s : Site) :
    closesOf (handOff config now e s).2 = [] := by
  unfold handOff
  cases hrecipient : (s.pool.handOff now e).recipient with
  | none => simp [hrecipient, deliverTimeouts]
  | some r => simp [hrecipient, deliverTimeouts, closesOf, deliver]

@[simp]
theorem closesOf_failOldest (config : Config) (now : Instant) (error : PoolError) (s : Site) :
    closesOf (failOldest config now error s).2 = [] := by
  unfold failOldest
  cases hrecipient : (s.pool.failOldest now).recipient with
  | none => simp [hrecipient, deliverTimeouts]
  | some r => simp [hrecipient, deliverTimeouts]

theorem closesOf_lookWithoutGrace (graceOver : Bool) (s : Site) :
    closesOf (lookWithoutGrace graceOver s).2 = [] := by
  unfold lookWithoutGrace
  split <;> rfl

theorem closesOf_endGrace (s : Site) : closesOf (endGrace s).2 = [] := by
  rw [endGrace, Change.andThen_snd, closesOf_append, closesOf_lookWithoutGrace]
  rfl

theorem closesOf_look (m : Moment) (graceOver : Bool) (graceEnd : Option Instant) (s : Site) :
    closesOf (look m graceOver graceEnd s).2 = [] := by
  unfold look
  split
  · exact closesOf_lookWithoutGrace graceOver s
  · split
    · rfl
    · split
      · exact closesOf_endGrace s
      · rfl

theorem closesOf_pollDrain (config : Config) (m : Moment) (s : Site) :
    closesOf (pollDrain config m s).2 = [] := by
  unfold pollDrain
  split
  · rfl
  · exact closesOf_look m false _ s
  · exact closesOf_look m _ _ s
  · split
    · split
      · exact closesOf_endGrace s
      · rfl
    · rfl

theorem takeIn_closings (config : Config) (m : Moment) (e : Entry) (s : Site) :
    (takeIn config m e s).1.closings = s.closings ++ closesOf (takeIn config m e s).2 := by
  obtain ⟨reason, -, heq⟩ | ⟨-, heq⟩ := takeIn_cases config m e s <;> rw [heq]
  · simp
  · simp

theorem abandon_closings (config : Config) (opening : Nat) (s : Site) :
    (s.abandon config opening).1.closings = s.closings ∧
      closesOf (s.abandon config opening).2 = [] := by
  obtain ⟨-, heq⟩ | ⟨-, heq⟩ := abandon_cases config opening s <;> rw [heq]
  · exact ⟨rfl, rfl⟩
  · simp [endOpening]

/-- A connection is among the `closings` from the moment the surroundings are asked to close it. -/
theorem step_closings (config : Config) (event : Event) (hevent : event.isCloseFinished = false)
    (s : Site) :
    (s.step config event).1.closings = s.closings ++ closesOf (s.step config event).2 := by
  -- only the parts that begin closes ask for one
  cases event with
  | acquire m =>
    obtain ⟨-, heq⟩ | ⟨-, ⟨e, -, heq⟩ | ⟨-, ⟨-, heq⟩ | ⟨-, -, -, heq⟩ | ⟨error, -, heq⟩⟩⟩ :=
      acquire_cases config m s <;> rw [step, heq] <;>
      simp [searched, lend, beginOpening]
  | opened opening conn m =>
    obtain ⟨-, heq⟩ | ⟨-, ⟨-, heq⟩ | ⟨-, heq⟩⟩ := opened_cases opening conn m s <;>
      rw [step, heq] <;> simp [endOpening, lend]
  | openingFailed opening failure =>
    obtain ⟨hclosings, hcloses⟩ := abandon_closings config opening s
    rw [step, openingFailed_snd_fst, hclosings, openingFailed]
    split <;> simp [hcloses]
  | abandon opening =>
    obtain ⟨hclosings, hcloses⟩ := abandon_closings config opening s
    rw [step, hclosings, hcloses, List.append_nil]
  | openedForQueue opening conn m created =>
    obtain ⟨-, heq⟩ | ⟨-, ⟨-, heq⟩ | ⟨-, heq⟩⟩ :=
      openedForQueue_cases config opening conn m created s <;>
      rw [step, heq] <;> simp [endOpening]
  | openingForQueueFailed opening failure m =>
    obtain ⟨-, heq⟩ | ⟨-, heq⟩ := openingForQueueFailed_cases config opening failure m s <;>
      rw [step, heq] <;> simp [endOpening]
  | poll m request =>
    obtain ⟨e, -, heq⟩ | ⟨error, -, heq⟩ | ⟨-, ⟨-, heq⟩ | ⟨r, -, ⟨-, heq⟩ | ⟨-, heq⟩⟩⟩ :=
      poll_cases config m request s <;> rw [step, heq] <;> simp [lend]
  | cancel m request =>
    obtain ⟨-, heq⟩ | ⟨-, ⟨e, -, heq⟩ | ⟨-, heq⟩⟩ := cancel_cases config m request s <;>
      rw [step, heq]
    · simp
    · exact takeIn_closings config m e _
    · simp
  | release m lease =>
    obtain ⟨-, heq⟩ | ⟨e, -, heq⟩ := release_cases config m lease s <;> rw [step, heq]
    · simp
    · exact takeIn_closings config m e (s.unlend lease)
  | detach lease =>
    obtain ⟨-, heq⟩ | ⟨e, -, heq⟩ := detach_cases config lease s <;> rw [step, heq] <;>
      simp [unlend]
  | exchange lease conn => simp [step, exchange]
  | sweep m =>
    obtain ⟨-, heq⟩ | ⟨-, notes, hnotes, heq⟩ := sweep_cases config m s <;> rw [step, heq]
    · simp
    · have hquiet : closesOf notes = [] := by
        rcases hnotes with rfl | rfl <;> rfl
      simp [hquiet]
  | closeFinished connection => cases hevent
  | shutDown =>
    obtain ⟨-, heq⟩ | ⟨-, heq⟩ := shutDown_cases s <;> rw [step, heq] <;> simp
  | pollDrain m =>
    obtain ⟨drain, heq⟩ := pollDrain_fst config m s
    have hcloses := closesOf_pollDrain config m s
    rw [step, heq, hcloses, List.append_nil]

/-- `closeFinished` takes one connection off the `closings`, and asks for no other to be closed. -/
theorem closeFinished_closings (connection : Nat) (s : Site) :
    (s.closings.map Entry.tag).Perm
        ((s.closeFinished connection).1.closings.map Entry.tag ++
          s.departures (.closeFinished connection)) ∧
      closesOf (s.closeFinished connection).2 = [] := by
  obtain ⟨hfind, heq⟩ | ⟨e, hfind, heq⟩ := closeFinished_cases connection s
  · rw [heq]
    refine ⟨?_, rfl⟩
    simp [departures, hfind]
  · rw [heq]
    refine ⟨?_, closesOf_announce _⟩
    have hclosings := (perm_cons_eraseP_of_find? hfind).map Entry.tag
    rw [announce_fst]
    simpa [departures, hfind] using hclosings.trans (List.perm_append_singleton _ _).symm

end Site

end ConnectionPool
