import Mathlib.Data.List.Induction
import ConnectionPool.Proofs.Site.Eviction

/-!
# What the records of connections say

The record that a pool keeps about a connection is written by different parts of the pool: where the
connection is numbered, where a caller gets it, where it is parked, and where it is given up. In
between it travels with the connection, from a caller to a request, from a request that is given up
to the next one, to the idle list and back to a caller. After every run, all the same, it says what
has happened.

The one exception is a connection that is opened for the queue when nobody is left in it. The clock
is looked at once when the transport has answered and again when the record is made, and `handOff`
parks the connection at the instant of the first look. Until it is parked again, it is recorded as
given back before it was opened, if the clock has moved on between the two looks.

What happened is read off the run and not off the records. A connection is admitted at the event
after which the site holds it for the first time, and a caller's handle is made at the event whose
answer gives the caller the connection. A delivery that its receiver never reads makes none.

## Main definitions

* `chronicle`: what is noted in the course of events, in order.
* `records`: all connections of which a site keeps a record.
* `newcomers`, `handed`: whom an event admits, and what a caller gets at it.
* `Origin`, `Updates`: where a record comes from, and what an event does to it.
* `Labelled`: each connection is in the state in which its record says that it is.
* `Truthful`: the records of a site tell what happened in a run.

## Main results

* `newcomers_tags`: an event admits what the transport hands over, under the next number.
* `step_updates`: what one event does to a record.
* `labelled_of_reachable`, `admissions_tags`, `counts_of_run`, `dates_of_run`: what holds of the
  states, the numbers, the counts and the instants in the records after a run.
* `records_tell_truth`: all of it.
* `givenBack_before_opened`: a connection is recorded as given back before it was opened.
-/

namespace ConnectionPool

namespace Site

variable {config : Config} {s start : Site} {event : Event} {events : List Event} {e : Entry}
  {now : Instant}

/-! ## What is noted in the course of events -/

/-- What `noted` finds at each event, in the course of the events. -/
def chronicle {β : Type} (config : Config) (noted : Site → Event → List β) (s : Site) :
    List Event → List β
  | [] => []
  | event :: events => noted s event ++ chronicle config noted (s.step config event).1 events

/-- What `noted` finds at a last event stands at the end of the `chronicle`. -/
theorem chronicle_concat {β : Type} (noted : Site → Event → List β) :
    start.chronicle config noted (events ++ [event]) =
      start.chronicle config noted events ++ noted (start.run config events) event := by
  induction events generalizing start with
  | nil => exact List.append_nil _
  | cons first events ih =>
    rw [List.cons_append, chronicle, chronicle, ih, List.append_assoc]
    rfl

/-! ## Who has a record -/

/-- All connections of which the site keeps a record: those that are idle, with callers or on their
way to one, and those that are being closed. -/
def records (s : Site) : List Entry := s.stock ++ s.closings

theorem mem_records :
    e ∈ s.records ↔ e ∈ s.pool.idle ∨ e ∈ s.leases ∨ e ∈ entriesOf s.inbox ∨ e ∈ s.closings := by
  rw [records, List.mem_append, mem_stock, or_assoc, or_assoc]

/-- What is in `records` is what is in `holdings`. -/
theorem records_tags (s : Site) : s.records.map Entry.tag = s.holdings := by
  simp [records, stock, holdings]

theorem records_numbers (s : Site) : s.records.map (·.info.id) = s.holdings.map Prod.fst := by
  rw [← records_tags, List.map_map]
  rfl

/-- No two `records` have the same number. -/
theorem records_numbered (h : Reachable config s) :
    Numbered s.pool.nextConnection (s.records.map (·.info.id)) := by
  rw [records_numbers]
  exact holdings_numbered h

/-- What is in `leases` is nowhere else. -/
theorem id_ne_of_mem_leases (h : Reachable config s) {lease : Entry} (hlease : lease ∈ s.leases)
    (he : e ∈ s.pool.idle ∨ e ∈ entriesOf s.inbox ∨ e ∈ s.closings) :
    lease.info.id ≠ e.info.id := by
  have hnodup := (records_numbered h).nodup
  simp only [records, stock, List.map_append, List.nodup_append] at hnodup
  obtain ⟨⟨-, ⟨-, -, hsent⟩, hidle⟩, -, hclosing⟩ := hnodup
  have hid := List.mem_map_of_mem (f := (·.info.id)) hlease
  rcases he with he | he | he
  · exact (hidle _ (List.mem_map_of_mem he) _ (List.mem_append_left _ hid)).symm
  · exact hsent _ hid _ (List.mem_map_of_mem he)
  · exact hclosing _ (List.mem_append_right _ (List.mem_append_left _ hid)) _
      (List.mem_map_of_mem he)

/-! ## Who is admitted -/

/-- The connections that are in `records` after an event and were not before. -/
def newcomers (config : Config) (s : Site) (event : Event) : List Entry :=
  (s.step config event).1.records.filter fun e => e.info.id ∉ s.records.map (·.info.id)

/-- `departures` are from the `holdings`. -/
theorem departures_subset (s : Site) (event : Event) : s.departures event ⊆ s.holdings := by
  have hfound {entries : List Entry} {number : Nat} (hentries : entries ⊆ s.records) :
      (entries.find? (·.info.id == number)).toList.map Entry.tag ⊆ s.holdings := by
    intro tag htag
    obtain ⟨e, he, rfl⟩ := List.mem_map.1 htag
    rw [← records_tags]
    exact List.mem_map_of_mem (hentries (List.mem_of_find?_eq_some (Option.mem_toList.1 he)))
  cases event with
  | detach lease => exact hfound fun e he => mem_records.2 (.inr (.inl he))
  | closeFinished connection =>
    exact hfound fun e he => mem_records.2 (.inr (.inr (.inr he)))
  | _ => exact List.nil_subset _

/-- The `newcomers` of an event are its `arrivals`, under the next number. -/
theorem newcomers_tags (h : Reachable config s) (event : Event) :
    (newcomers config s event).map Entry.tag =
      (s.arrivals event).map (s.pool.nextConnection, ·) := by
  -- of what is held afterwards, the newcomers are what has another number than all held before
  have hnew : (newcomers config s event).map Entry.tag =
      (s.step config event).1.holdings.filter fun tag => tag.1 ∉ s.holdings.map Prod.fst := by
    rw [← records_tags (s.step config event).1, List.filter_map, newcomers, records_numbers]
    rfl
  rw [hnew]
  -- an exchange is no permutation of what is held, but it keeps the numbers
  cases hevent : event.isExchange with
  | true =>
    obtain ⟨lease, conn, rfl⟩ : ∃ lease conn, event = .exchange lease conn := by
      cases event <;> simp [Event.isExchange] at hevent ⊢
    refine List.filter_eq_nil_iff.2 fun tag htag => ?_
    rw [step] at htag
    simpa [exchange_numbers] using List.mem_map_of_mem (f := Prod.fst) htag
  | false =>
    have hperm := (step_holdings config event hevent s).filter
      fun tag => tag.1 ∉ s.holdings.map Prod.fst
    have hheld {tags : List (Nat × Connection)} (htags : tags ⊆ s.holdings) :
        tags.filter (fun tag => tag.1 ∉ s.holdings.map Prod.fst) = [] :=
      List.filter_eq_nil_iff.2 fun tag htag => by
        simpa using List.mem_map_of_mem (f := Prod.fst) (htags htag)
    -- what stays and what leaves was held before, so only what arrives is left
    rw [List.filter_append, List.filter_append, hheld (departures_subset s event),
      hheld (List.Subset.refl _), List.append_nil, List.nil_append] at hperm
    have hnext : s.pool.nextConnection ∉ s.holdings.map Prod.fst :=
      fun hmem => Nat.lt_irrefl _ ((holdings_numbered h).lt _ hmem)
    obtain harrivals | ⟨conn, harrivals⟩ := arrivals_cases event s
    · rw [harrivals] at hperm ⊢
      exact List.perm_nil.1 hperm
    · rw [harrivals, List.map_singleton, List.filter_cons_of_pos (by simpa using hnext),
        List.filter_nil] at hperm
      rw [harrivals]
      exact List.perm_singleton.1 hperm

/-! ## What a caller gets -/

/-- The connection that a caller gets at an event, which is when the caller's handle is made. -/
def handed (config : Config) (s : Site) : Event → Option Nat
  | .acquire m =>
    match (s.acquire config m).1 with
    | .ok (.lease id) => some id
    | _ => none
  | .opened opening conn m => (s.opened opening conn m).1.toOption
  | .poll m request => (s.poll config m request).1.bind Except.toOption
  | _ => none

/-- `Origin s event e`: where a record comes from that is there after the event. -/
inductive Origin (s : Site) (event : Event) : Entry → Prop
  /-- There was one before. -/
  | held {e : Entry} (he : e ∈ s.records) : Origin s event e
  /-- The connection arrives at the event. -/
  | arrived {conn : Connection} {created : Instant} (hcreated : event.created? = some created)
      (harrives : s.arrivals event = [conn]) : Origin s event (s.pool.enlist conn created).1

theorem origin_of_mem_idle (h : e ∈ s.pool.idle) : Origin s event e :=
  .held (mem_records.2 (.inl h))

theorem origin_of_mem_stock (h : e ∈ s.stock) : Origin s event e :=
  .held (List.mem_append_left _ h)

theorem origin_of_offer (h : s.offer? config event = some (now, .ok e)) : Origin s event e := by
  obtain ⟨m, -, -, ⟨hback, -⟩ | ⟨opening, conn, created, rfl, hopening, rfl⟩⟩ := offer?_ok_cases h
  · exact origin_of_mem_stock (mem_stock_of_givenBack hback)
  · exact .arrived rfl (if_pos hopening)

/-- If a caller gets a connection at an event, it has an `Origin`, and all that callers held stays
with them. If no caller gets one, callers hold nothing new. -/
theorem step_lends (config : Config) (event : Event) (s : Site) :
    (s.handed config event = none ∧
      ∀ e ∈ (s.step config event).1.leases, ∃ before ∈ s.leases, e.info = before.info) ∨
    ∃ given, Origin s event given ∧ s.handed config event = some given.info.id ∧
      (s.step config event).1.leases = s.leases ++ [given.acquired] := by
  -- only three events make a handle, and each lends one connection when it does
  cases event with
  | acquire m =>
    obtain ⟨-, heq⟩ | ⟨-, ⟨given, hchosen, heq⟩ | ⟨-, hnone⟩⟩ := acquire_cases config m s
    · refine .inl ⟨by rw [handed, heq], fun e he => ⟨e, ?_, rfl⟩⟩
      rwa [step, heq] at he
    · refine .inr ⟨given, origin_of_mem_idle (Pool.isReusable_of_chosen hchosen).2, ?_, ?_⟩
      · rw [handed, heq]
      · rw [step, heq]
        rfl
    · obtain ⟨-, heq⟩ | ⟨-, -, -, heq⟩ | ⟨error, -, heq⟩ := hnone
      all_goals
        refine .inl ⟨by rw [handed, heq], fun e he => ⟨e, ?_, rfl⟩⟩
        rw [step, heq] at he
        exact he
  | opened opening conn m =>
    obtain ⟨-, heq⟩ | ⟨hopening, ⟨-, heq⟩ | ⟨-, heq⟩⟩ := opened_cases opening conn m s
    · refine .inl ⟨by rw [handed, heq]; rfl, fun e he => ⟨e, ?_, rfl⟩⟩
      rwa [step, heq] at he
    · refine .inl ⟨by rw [handed, heq]; rfl, fun e he => ⟨e, ?_, rfl⟩⟩
      rw [step, heq, Change.andThen_fst, announce_fst] at he
      exact he
    · refine .inr ⟨(s.pool.enlist conn m.now).1, .arrived rfl (if_pos hopening), ?_, ?_⟩
      · rw [handed, heq]
        rfl
      · rw [step, heq]
        rfl
  | poll m request =>
    obtain ⟨given, hsent, heq⟩ | ⟨error, -, heq⟩ | ⟨-, ⟨-, heq⟩ | ⟨r, -, ⟨-, heq⟩ | ⟨-, heq⟩⟩⟩ :=
      poll_cases config m request s
    · refine .inr ⟨given, origin_of_mem_stock (mem_stock_of_lookup hsent), ?_, ?_⟩
      · rw [handed, heq]
        rfl
      · rw [step, heq]
        rfl
    all_goals
      refine .inl ⟨by rw [handed, heq]; rfl, fun e he => ⟨e, ?_, rfl⟩⟩
      rw [step, heq] at he
      exact he
  | _ =>
    refine .inl ⟨rfl, fun e he => ?_⟩
    cases step_leases config _ s e he with
    | held hbefore hinfo => exact ⟨_, hbefore, hinfo⟩

/-- A caller who is `handed` a connection at an event holds it afterwards. -/
theorem exists_lease_of_handed {id : Nat} (h : s.handed config event = some id) :
    ∃ lease ∈ (s.step config event).1.leases, lease.info.id = id := by
  obtain ⟨hnone, -⟩ | ⟨given, -, hhanded, hleases⟩ := step_lends config event s
  · cases hnone.symm.trans h
  · rw [hleases]
    exact ⟨given.acquired, List.mem_append_right _ (List.mem_singleton_self _),
      Option.some.inj (hhanded.symm.trans h)⟩

/-! ## What is given up -/

theorem closesOf_takeIn (config : Config) (m : Moment) (e : Entry) (s : Site) :
    ∀ c ∈ closesOf (takeIn config m e s).2, c = e.retired := by
  obtain ⟨reason, -, heq⟩ | ⟨-, heq⟩ := takeIn_cases config m e s <;> simp [heq]

/-- What the surroundings are asked to close at an event has an `Origin`, and its record is marked
by `retired`. -/
theorem exists_origin_of_mem_closesOf (config : Config) (event : Event) (s : Site) :
    ∀ c ∈ closesOf (s.step config event).2,
      ∃ before, Origin s event before ∧ c = before.retired := by
  have hretired {entries : List Entry} (hidle : entries ⊆ s.pool.idle) :
      ∀ c ∈ entries.map Entry.retired, ∃ before, Origin s event before ∧ c = before.retired := by
    intro c hc
    obtain ⟨before, hbefore, rfl⟩ := List.mem_map.1 hc
    exact ⟨before, origin_of_mem_idle (hidle hbefore), rfl⟩
  -- what is given up was idle, or comes back at the event, or arrives at a pool that is shut down
  intro c hc
  cases event with
  | acquire m =>
    cases hclosed : s.pool.closed with
    | true =>
      rw [step, acquire, if_pos hclosed] at hc
      cases hc
    | false =>
      rw [step, closesOf_acquire hclosed] at hc
      refine hretired (fun e he => ?_) c hc
      rw [← Pool.select_append (·.isReusable config m) s.pool.idle]
      exact List.mem_append_right _ (List.mem_reverse.2 he)
  | opened opening conn m =>
    obtain ⟨-, heq⟩ | ⟨hopening, ⟨-, heq⟩ | ⟨-, heq⟩⟩ := opened_cases opening conn m s <;>
      rw [step, heq] at hc
    · cases hc
    · have hnew : c = (s.pool.enlist conn m.now).1.retired := by simpa using hc
      exact ⟨_, .arrived rfl (if_pos hopening), hnew⟩
    · cases hc
  | openingFailed opening failure =>
    have hnone := (abandon_closings config opening s).2
    rw [step, openingFailed] at hc
    split at hc
    · simp [hnone] at hc
    · cases hc
  | abandon opening =>
    rw [step, (abandon_closings config opening s).2] at hc
    cases hc
  | openedForQueue opening conn m created =>
    obtain ⟨-, heq⟩ | ⟨hopening, ⟨-, heq⟩ | ⟨-, heq⟩⟩ :=
      openedForQueue_cases config opening conn m created s <;> rw [step, heq] at hc
    · cases hc
    · have hnew : c = (s.pool.enlist conn created).1.retired := by simpa using hc
      exact ⟨_, .arrived rfl (if_pos hopening), hnew⟩
    · simp at hc
  | openingForQueueFailed opening failure m =>
    obtain ⟨-, heq⟩ | ⟨-, heq⟩ := openingForQueueFailed_cases config opening failure m s <;>
      rw [step, heq] at hc <;> simp at hc
  | poll m request =>
    obtain ⟨e, -, heq⟩ | ⟨error, -, heq⟩ | ⟨-, ⟨-, heq⟩ | ⟨r, -, ⟨-, heq⟩ | ⟨-, heq⟩⟩⟩ :=
      poll_cases config m request s <;> rw [step, heq] at hc <;> cases hc
  | cancel m request =>
    obtain ⟨-, heq⟩ | ⟨-, ⟨e, hlookup, heq⟩ | ⟨-, heq⟩⟩ := cancel_cases config m request s <;>
      rw [step, heq] at hc
    · cases hc
    · exact ⟨e, origin_of_mem_stock (mem_stock_of_lookup hlookup),
        closesOf_takeIn config m e _ c hc⟩
    · cases hc
  | release m lease =>
    obtain ⟨-, heq⟩ | ⟨e, hlease, heq⟩ := release_cases config m lease s <;> rw [step, heq] at hc
    · cases hc
    · have hback : s.givenBack? (.release m lease) = some e := hlease
      exact ⟨e, origin_of_mem_stock (mem_stock_of_givenBack hback),
        closesOf_takeIn config m e _ c hc⟩
  | detach lease =>
    obtain ⟨-, heq⟩ | ⟨e, -, heq⟩ := detach_cases config lease s <;> rw [step, heq] at hc <;>
      simp at hc
  | exchange lease conn => cases hc
  | sweep m =>
    cases hclosed : s.pool.closed with
    | true =>
      rw [step, sweep, if_pos hclosed] at hc
      cases hc
    | false =>
      rw [step, closesOf_sweep hclosed] at hc
      exact hretired (List.filter_subset_self _) c hc
  | closeFinished connection =>
    rw [step, (closeFinished_closings connection s).2] at hc
    cases hc
  | shutDown =>
    obtain ⟨-, heq⟩ | ⟨-, heq⟩ := shutDown_cases s <;> rw [step, heq] at hc
    · cases hc
    · refine hretired (List.Subset.refl _) c ?_
      simpa using hc
  | pollDrain m =>
    rw [step, closesOf_pollDrain] at hc
    cases hc

/-- What is among the `closings` was so before an event, or the surroundings are asked at it. -/
theorem mem_closings_cases (h : e ∈ (s.step config event).1.closings) :
    e ∈ s.closings ∨ e ∈ closesOf (s.step config event).2 := by
  cases hclose : event.isCloseFinished with
  | false =>
    rw [step_closings config event hclose] at h
    exact List.mem_append.1 h
  | true =>
    obtain ⟨connection, rfl⟩ : ∃ connection, event = .closeFinished connection := by
      cases event <;> simp [Event.isCloseFinished] at hclose ⊢
    obtain ⟨-, heq⟩ | ⟨closed, -, heq⟩ := closeFinished_cases connection s <;> rw [step, heq] at h
    · exact .inl h
    · rw [announce_fst] at h
      exact .inl (List.mem_of_mem_eraseP h)

/-! ## What an event does to a record -/

/-- `Updates config s event before after`: what the event does to the record of a connection, which
from `before` becomes `after`. -/
structure Updates (config : Config) (s : Site) (event : Event) (before after : Metadata) :
    Prop where
  /-- The connection keeps its number. -/
  id : after.id = before.id
  /-- It was opened when it was. -/
  createdAt : after.createdAt = before.createdAt
  /-- It was given back when it was, or it is parked at the event. -/
  lastReleasedAt : after.lastReleasedAt = before.lastReleasedAt ∨
    (∃ m, event.moment? = some m ∧ after.lastReleasedAt = m.now) ∧
      after.id ∈ (s.step config event).1.pool.idle.map (·.info.id)
  /-- The handle that is made for it at the event is added to the `acquireCount`. -/
  acquireCount : after.acquireCount =
    before.acquireCount + (s.handed config event).toList.count after.id

/-- A caller is `handed` no connection that is elsewhere afterwards. -/
theorem count_handed_eq_zero (h : Reachable config s)
    (he : e ∈ (s.step config event).1.pool.idle ∨ e ∈ entriesOf (s.step config event).1.inbox ∨
      e ∈ (s.step config event).1.closings) :
    (s.handed config event).toList.count e.info.id = 0 := by
  refine List.count_eq_zero.2 fun hhanded => ?_
  obtain ⟨lease, hlease, hid⟩ := exists_lease_of_handed (Option.mem_toList.1 hhanded)
  exact id_ne_of_mem_leases (h.step event) hlease he hid

/-- A record of which no handle is counted may stay as it is. -/
theorem Updates.refl {info : Metadata}
    (h : (s.handed config event).toList.count info.id = 0) : Updates config s event info info :=
  ⟨rfl, rfl, .inl rfl, by rw [h]; rfl⟩

/-- Where a caller gets no connection, what callers hold is recorded as before. Where one does, this
is counted in its record, and in no other. -/
theorem updates_of_mem_leases (h : Reachable config s)
    (he : e ∈ (s.step config event).1.leases) :
    ∃ before, Origin s event before ∧ Updates config s event before.info e.info := by
  have hheld {before : Entry} (hbefore : before ∈ s.leases) : Origin s event before :=
    .held (mem_records.2 (.inr (.inl hbefore)))
  obtain ⟨hnone, hleases⟩ | ⟨given, horigin, hhanded, hleases⟩ := step_lends config event s
  · obtain ⟨before, hbefore, hinfo⟩ := hleases e he
    refine ⟨before, hheld hbefore, by rw [hinfo], by rw [hinfo], .inl (by rw [hinfo]), ?_⟩
    rw [hinfo, hnone]
    rfl
  · have hnodup : ((s.step config event).1.leases.map (·.info.id)).Nodup := by
      have hrecords := (records_numbered (h.step event)).nodup
      simp only [records, stock, List.map_append, List.nodup_append] at hrecords
      exact hrecords.1.2.1.1
    rw [hleases] at he hnodup
    rcases List.mem_append.1 he with hold | hnew
    · refine ⟨e, hheld hold, .refl ?_⟩
      -- numbers differ, so it is another connection that the caller gets
      have hother : e.info.id ≠ given.info.id := by
        rw [List.map_append, List.nodup_append] at hnodup
        exact hnodup.2.2 _ (List.mem_map_of_mem hold) _ (List.mem_singleton_self _)
      rw [hhanded, Option.toList_some]
      exact List.count_eq_zero.2 fun hmem => hother (List.mem_singleton.1 hmem)
    · obtain rfl := List.mem_singleton.1 hnew
      refine ⟨given, horigin, rfl, rfl, .inl rfl, ?_⟩
      have hself : [given.info.id].count given.acquired.info.id = 1 := List.count_singleton_self
      rw [hhanded, Option.toList_some, hself]
      rfl

/-- What a `step` does to the `records`: each has an `Origin`, and what it says is brought up to
date by `Updates`. -/
theorem step_updates (h : Reachable config s) (event : Event) :
    ∀ e ∈ (s.step config event).1.records,
      ∃ before, Origin s event before ∧ Updates config s event before.info e.info := by
  intro e he
  -- callers hold what is handed out, so the other records stay as they are but for what is parked
  -- or given up
  rcases mem_records.1 he with hidle | hlease | hsent | hclosing
  · have hkept : Updates config s event e.info e.info := .refl (count_handed_eq_zero h (.inl hidle))
    obtain hsub | ⟨now, given, hoffer, heq⟩ := step_idle config event s
    · exact ⟨e, origin_of_mem_idle (hsub.subset hidle), hkept⟩
    · rw [heq] at hidle
      rcases List.mem_append.1 hidle with hold | hnew
      · exact ⟨e, origin_of_mem_idle hold, hkept⟩
      · obtain rfl := List.mem_singleton.1 hnew
        obtain ⟨m, hmoment, rfl, -⟩ := offer?_ok_cases hoffer
        refine ⟨given, origin_of_offer hoffer, rfl, rfl, .inr ⟨⟨m, hmoment, rfl⟩, ?_⟩,
          hkept.acquireCount⟩
        rw [heq]
        exact List.mem_map_of_mem (List.mem_append_right _ (List.mem_singleton_self _))
  · exact updates_of_mem_leases h hlease
  · refine ⟨e, ?_, .refl (count_handed_eq_zero h (.inr (.inl hsent)))⟩
    obtain ⟨⟨request, answer⟩, hmem, hanswer⟩ := List.mem_filterMap.1 hsent
    cases answer with
    | error error => cases hanswer
    | ok sent =>
      obtain rfl : sent = e := Option.some.inj hanswer
      obtain hold | ⟨now, hoffer⟩ := step_sent_ok h hmem
      · exact origin_of_mem_stock (mem_stock.2 (.inr (.inr (List.mem_filterMap.2 ⟨_, hold, rfl⟩))))
      · exact origin_of_offer hoffer
  · have hkept : Updates config s event e.info e.info :=
      .refl (count_handed_eq_zero h (.inr (.inr hclosing)))
    rcases mem_closings_cases hclosing with hold | hnew
    · exact ⟨e, .held (mem_records.2 (.inr (.inr (.inr hold)))), hkept⟩
    · obtain ⟨before, horigin, rfl⟩ := exists_origin_of_mem_closesOf config event s e hnew
      exact ⟨before, horigin, rfl, rfl, .inl rfl, hkept.acquireCount⟩

/-! ## The states in the records -/

/-- `Labelled s`: each connection is in the state in which its record says that it is. -/
structure Labelled (s : Site) : Prop where
  /-- What is idle is recorded as idle. -/
  idle : ∀ e ∈ s.pool.idle, e.info.state = .idle
  /-- What a caller holds is recorded as acquired. -/
  lent : ∀ e ∈ s.leases, e.info.state = .acquired
  /-- What is being closed is recorded as closed. -/
  closing : ∀ e ∈ s.closings, e.info.state = .closed

/-- What is asked to be closed has the state `closed`. -/
theorem state_of_mem_closesOf (h : e ∈ closesOf (s.step config event).2) :
    e.info.state = .closed := by
  obtain ⟨before, -, rfl⟩ := exists_origin_of_mem_closesOf config event s e h
  rfl

/-- The states stay `Labelled` at every event. -/
theorem Labelled.step (h : s.Labelled) (config : Config) (event : Event) :
    (s.step config event).1.Labelled := by
  refine ⟨fun e he => ?_, fun e he => ?_, fun e he => ?_⟩
  · obtain hsub | ⟨now, given, -, heq⟩ := step_idle config event s
    · exact h.idle e (hsub.subset he)
    · rw [heq] at he
      rcases List.mem_append.1 he with hold | hnew
      · exact h.idle e hold
      · exact List.mem_singleton.1 hnew ▸ rfl
  -- of a lease that stays, only the connection can have been exchanged
  · obtain ⟨-, hleases⟩ | ⟨given, -, -, hleases⟩ := step_lends config event s
    · obtain ⟨before, hbefore, hinfo⟩ := hleases e he
      rw [hinfo]
      exact h.lent before hbefore
    · rw [hleases] at he
      rcases List.mem_append.1 he with hold | hnew
      · exact h.lent e hold
      · exact List.mem_singleton.1 hnew ▸ rfl
  · rcases mem_closings_cases he with hold | hnew
    · exact h.closing e hold
    · exact state_of_mem_closesOf hnew

/-- Every `Reachable` site is `Labelled`. -/
theorem labelled_of_reachable (h : Reachable config s) : s.Labelled :=
  h.invariant (fun _ => ⟨nofun, nofun, nofun⟩) fun _ event hs => hs.step config event

/-- All of `closesIn` has the state `closed`. -/
theorem state_of_mem_closesIn (h : e ∈ s.closesIn config events) : e.info.state = .closed := by
  induction events generalizing s with
  | nil => cases h
  | cons event events ih =>
    rcases List.mem_append.1 h with hnow | hlater
    · exact state_of_mem_closesOf hnow
    · exact ih hlater

/-! ## The numbers in the records -/

/-- The `arrivals` in the course of events: the connections that the transport handed over. -/
def taken (config : Config) (s : Site) (events : List Event) : List Connection :=
  s.chronicle config arrivals events

/-- The `newcomers` in the course of events: the connections that were admitted, as they were first
recorded. -/
def admissions (config : Config) (s : Site) (events : List Event) : List Entry :=
  s.chronicle config (newcomers config) events

/-- The connections `handed` to callers in the course of events, each as often as a handle was made
for it. -/
def handles (config : Config) (s : Site) (events : List Event) : List Nat :=
  s.chronicle config (fun s event => (s.handed config event).toList) events

theorem taken_cons : s.taken config (event :: events) =
    s.arrivals event ++ (s.step config event).1.taken config events := rfl

/-- As many numbers are given out as connections are `taken`. -/
theorem nextConnection_run (config : Config) (s : Site) (events : List Event) :
    (s.run config events).pool.nextConnection =
      s.pool.nextConnection + (s.taken config events).length := by
  induction events generalizing s with
  | nil => rfl
  | cons event events ih =>
    have hlater := ih (s.step config event).1
    rw [(step_frame config event s).nextConnection] at hlater
    rw [taken_cons, List.length_append, ← Nat.add_assoc]
    exact hlater

/-- The `admissions` get the next numbers, in the order in which the transport hands them over. -/
theorem admissions_tags (h : Reachable config s) (events : List Event) :
    (s.admissions config events).map Entry.tag =
      (List.range' s.pool.nextConnection (s.taken config events).length).zip
        (s.taken config events) := by
  induction events generalizing s with
  | nil => rfl
  | cons event events ih =>
    have hnow : (s.arrivals event).map (s.pool.nextConnection, ·) =
        (List.range' s.pool.nextConnection (s.arrivals event).length).zip (s.arrivals event) := by
      obtain harrivals | ⟨conn, harrivals⟩ := arrivals_cases event s <;> rw [harrivals] <;> rfl
    have hlater := ih (h.step event)
    rw [(step_frame config event s).nextConnection] at hlater
    -- the numbers of what is handed over later follow those of what is handed over now
    calc (s.admissions config (event :: events)).map Entry.tag
        = (newcomers config s event).map Entry.tag ++
            ((s.step config event).1.admissions config events).map Entry.tag := List.map_append
      _ = _ := by
          rw [newcomers_tags h event, hnow, hlater, ← List.zip_append (by simp), taken_cons,
            List.length_append, ← List.range'_append_1]

/-- Whatever is in `records` at the end was there at the beginning, or is among the `admissions`. -/
theorem mem_admissions_of_mem_records (he : e ∈ (s.run config events).records) :
    e.info.id ∈ s.records.map (·.info.id) ∨
      e.info.id ∈ (s.admissions config events).map (·.info.id) := by
  induction events generalizing s with
  | nil => exact .inl (List.mem_map_of_mem he)
  | cons event events ih =>
    rw [admissions, chronicle, List.map_append, List.mem_append]
    rcases ih he with hrecord | hlater
    · by_cases hbefore : e.info.id ∈ s.records.map (·.info.id)
      · exact .inl hbefore
      · obtain ⟨after, hafter, hid⟩ := List.mem_map.1 hrecord
        have hnew : after ∈ newcomers config s event :=
          List.mem_filter.2 ⟨hafter, by simpa [hid] using hbefore⟩
        exact .inr (.inl (hid ▸ List.mem_map_of_mem hnew))
    · exact .inr (.inr hlater)

/-! ## The counts in the records -/

/-- The numbers of all `handles` were given out. -/
theorem lt_of_mem_handles (h : Reachable config s) {id : Nat} (hid : id ∈ s.handles config events) :
    id < (s.run config events).pool.nextConnection := by
  induction events generalizing s with
  | nil => cases hid
  | cons event events ih =>
    rcases List.mem_append.1 hid with hnow | hlater
    -- who gets a connection holds it, and more numbers are given out later
    · obtain ⟨lease, hlease, rfl⟩ := exists_lease_of_handed (Option.mem_toList.1 hnow)
      have hstock := mem_stock.2 (.inr (.inl hlease))
      have hgiven := id_lt_of_mem_stock (h.step event) hstock
      have hrun := nextConnection_run config (s.step config event).1 events
      show _ < ((s.step config event).1.run config events).pool.nextConnection
      omega
    · exact ih (h.step event) hlater

/-- After a run, the `acquireCount` of a record counts the `handles` that were made for its
connection. -/
theorem counts_of_run (config : Config) (destination : Destination) (events : List Event) :
    ∀ e ∈ ((fresh destination).run config events).records,
      e.info.acquireCount = ((fresh destination).handles config events).count e.info.id := by
  have hfresh : Reachable config (fresh destination) := .fresh destination
  -- on the last event
  induction events using List.reverseRecOn with
  | nil => exact nofun
  | append_singleton events event ih =>
    intro e he
    rw [run_concat] at he
    obtain ⟨before, horigin, hupdates⟩ := step_updates (hfresh.run events) event e he
    rw [hupdates.acquireCount, handles, chronicle_concat, List.count_append]
    congr 1
    cases horigin with
    | held hbefore =>
      rw [hupdates.id]
      exact ih before hbefore
    | arrived hcreated harrives =>
      -- nobody can have got a connection whose number is only given out now
      refine (List.count_eq_zero.2 fun hmem => ?_).symm
      have hlt := lt_of_mem_handles hfresh hmem
      rw [hupdates.id] at hlt
      exact Nat.lt_irrefl _ hlt

/-! ## The instants in the records -/

/-- `LooksInOrder events`: the clock never goes back from one of the `looks` at it to the next. -/
def LooksInOrder (events : List Event) : Prop := (events.flatMap Event.looks).Pairwise (· ≤ ·)

theorem LooksInOrder.of_concat (h : LooksInOrder (events ++ [event])) : LooksInOrder events := by
  rw [LooksInOrder, List.flatMap_append] at h
  exact (List.pairwise_append.1 h).1

/-- What was seen in the course of earlier events is not later than what is seen at the last one. -/
theorem LooksInOrder.le_last (h : LooksInOrder (events ++ [event])) {last : Instant}
    (hlast : last ∈ event.looks) : ∀ look ∈ events.flatMap Event.looks, look ≤ last := by
  rw [LooksInOrder, List.flatMap_append, List.flatMap_singleton] at h
  exact fun look hlook => (List.pairwise_append.1 h).2.2 look hlook last hlast

/-- `ParkedOnArrival config start events info`: the connection was opened for the queue and parked
at once, and has not been parked since. Its record says that it was given back at the first look at
the clock, and opened at the second. -/
def ParkedOnArrival (config : Config) (start : Site) (events : List Event) (info : Metadata) :
    Prop :=
  ∃ before opening conn m after,
    events = before ++ .openedForQueue opening conn m info.createdAt :: after ∧
    info.id = (start.run config before).pool.nextConnection ∧ info.lastReleasedAt = m.now ∧
    info.id ∈ (start.run config
      (before ++ [.openedForQueue opening conn m info.createdAt])).pool.idle.map (·.info.id)

theorem ParkedOnArrival.concat {before after : Metadata}
    (h : ParkedOnArrival config start events before) (hid : after.id = before.id)
    (hcreated : after.createdAt = before.createdAt)
    (hreleased : after.lastReleasedAt = before.lastReleasedAt) (event : Event) :
    ParkedOnArrival config start (events ++ [event]) after := by
  obtain ⟨first, opening, conn, m, later, rfl, hnumber, hfirst, hidle⟩ := h
  rw [ParkedOnArrival, hid, hcreated, hreleased]
  exact ⟨first, opening, conn, m, later ++ [event], by simp, hnumber, hfirst, hidle⟩

/-- `WellDated config start events now info`: the connection was opened before it was last given
back, unless it was `ParkedOnArrival`, and neither is in the future. -/
structure WellDated (config : Config) (start : Site) (events : List Event) (now : Instant)
    (info : Metadata) : Prop where
  /-- `createdAt` is not after `lastReleasedAt`, unless the connection was `ParkedOnArrival`. -/
  ordered : info.createdAt ≤ info.lastReleasedAt ∨ ParkedOnArrival config start events info
  /-- It was not opened in the future. -/
  created : info.createdAt ≤ now
  /-- It was not given back in the future. -/
  released : info.lastReleasedAt ≤ now

/-- When the `LooksInOrder` never go beyond `now`, the records are `WellDated` by `now`. -/
theorem dates_of_run (config : Config) (destination : Destination) (events : List Event)
    (horder : LooksInOrder events) (hnow : ∀ look ∈ events.flatMap Event.looks, look ≤ now) :
    ∀ e ∈ ((fresh destination).run config events).records,
      WellDated config (fresh destination) events now e.info := by
  have hfresh : Reachable config (fresh destination) := .fresh destination
  -- on the last event, for any instant that is not before it
  induction events using List.reverseRecOn generalizing now with
  | nil => exact nofun
  | append_singleton events event ih =>
    intro e he
    rw [run_concat] at he
    rw [List.flatMap_append, List.flatMap_singleton, List.forall_mem_append] at hnow
    obtain ⟨hearlier, hlast⟩ := hnow
    obtain ⟨before, horigin, hupdates⟩ := step_updates (hfresh.run events) event e he
    rcases hupdates.lastReleasedAt with hkept | ⟨⟨m, hmoment, hparked⟩, hidle⟩
    · -- the record keeps its dates, or it is new and has one date only
      cases horigin with
      | held hbefore =>
        obtain ⟨hordered, hcreated, hreleased⟩ := ih horder.of_concat hearlier before hbefore
        refine ⟨?_, hupdates.createdAt ▸ hcreated, hkept ▸ hreleased⟩
        rcases hordered with hle | hexcept
        · rw [hupdates.createdAt, hkept]
          exact .inl hle
        · exact .inr (hexcept.concat hupdates.id hupdates.createdAt hkept event)
      | arrived hcreated harrives =>
        have hle := hlast _ (Event.mem_looks_of_created? hcreated)
        exact ⟨.inl (by rw [hupdates.createdAt, hkept]; exact Int.le_refl _),
          hupdates.createdAt ▸ hle, hkept ▸ hle⟩
    · have hlook : m.now ∈ event.looks := Event.mem_looks_of_moment? hmoment
      have hreleased : e.info.lastReleasedAt ≤ now := hparked ▸ hlast _ hlook
      cases horigin with
      | held hbefore =>
        -- the event is not before those at which the record was written
        have hdated := ih horder.of_concat (horder.le_last hlook) before hbefore
        have hordered : e.info.createdAt ≤ e.info.lastReleasedAt := by
          rw [hupdates.createdAt, hparked]
          exact hdated.created
        exact ⟨.inl hordered, Int.le_trans hordered hreleased, hreleased⟩
      | @arrived conn created hcreated harrives =>
        have hopened : e.info.createdAt = created := hupdates.createdAt
        refine ⟨?_, hopened ▸ hlast _ (Event.mem_looks_of_created? hcreated), hreleased⟩
        -- of the two events at which connections arrive, one looks at the clock twice
        cases event with
        | opened opening conn' n =>
          cases hcreated
          cases hmoment
          exact .inl (by rw [hopened, hparked]; exact Int.le_refl _)
        | openedForQueue opening conn' n created' =>
          cases hcreated
          cases hmoment
          refine .inr ⟨events, opening, conn', m, [], by rw [hopened], hupdates.id, hparked, ?_⟩
          rw [hopened, run_concat]
          exact hidle
        | _ => cases hcreated

/-! ## The records tell what happened -/

/-- `Truthful config start events`: the records of a site tell what happened in the course of
events. -/
structure Truthful (config : Config) (start : Site) (events : List Event) : Prop where
  /-- The `admissions` are what the transport handed over, numbered from one in that order. -/
  admitted : (start.admissions config events).map Entry.tag =
    (List.range' 1 (start.taken config events).length).zip (start.taken config events)
  /-- No two `admissions` have one number. -/
  distinct : ((start.admissions config events).map (·.info.id)).Nodup
  /-- Whatever is in `records` was admitted. -/
  known : ∀ e ∈ (start.run config events).records,
    e.info.id ∈ (start.admissions config events).map (·.info.id)
  /-- No connection is twice in `records`. -/
  single : ((start.run config events).records.map (·.info.id)).Nodup
  /-- What is idle, with a caller, or being closed is recorded as such. -/
  states : (start.run config events).Labelled
  /-- So is all that was ever to be closed. -/
  closed : ∀ e ∈ start.closesIn config events, e.info.state = .closed
  /-- The `acquireCount` of a record counts the `handles` that were made for its connection. -/
  counts : ∀ e ∈ (start.run config events).records,
    e.info.acquireCount = (start.handles config events).count e.info.id
  /-- With the `LooksInOrder`, the records are `WellDated`: a connection was opened before it was
  last given back, unless it was `ParkedOnArrival`, and neither is in the future. -/
  dates : LooksInOrder events → ∀ now, (∀ look ∈ events.flatMap Event.looks, look ≤ now) →
    ∀ e ∈ (start.run config events).records, WellDated config start events now e.info
  /-- With the `LooksInOrder` and a clock that stands still while a connection for the queue is
  taken in, every connection was opened before it was last given back. -/
  still : LooksInOrder events →
    (∀ opening conn m created, .openedForQueue opening conn m created ∈ events →
      created = m.now) →
    ∀ e ∈ (start.run config events).records, e.info.createdAt ≤ e.info.lastReleasedAt

/-- Some instant is not before any of finitely many. -/
theorem exists_bound (instants : List Instant) : ∃ now : Instant, ∀ t ∈ instants, t ≤ now := by
  induction instants with
  | nil => exact ⟨default, nofun⟩
  | cons first rest ih =>
    obtain ⟨now, hnow⟩ := ih
    refine ⟨⟨max first.nanos now.nanos⟩, List.forall_mem_cons.2 ⟨Int.le_max_left _ _, ?_⟩⟩
    exact fun t ht => Int.le_trans (hnow t ht) (Int.le_max_right _ _)

/-- Where the clock stands still while a connection for the queue is taken in, parking it on arrival
does no harm. -/
theorem createdAt_le_of_still (config : Config) (destination : Destination) {events : List Event}
    (horder : LooksInOrder events)
    (hstill : ∀ opening conn m created, .openedForQueue opening conn m created ∈ events →
      created = m.now) :
    ∀ e ∈ ((fresh destination).run config events).records,
      e.info.createdAt ≤ e.info.lastReleasedAt := by
  intro e he
  obtain ⟨now, hnow⟩ := exists_bound (events.flatMap Event.looks)
  rcases (dates_of_run config destination events horder hnow e he).ordered with
    hle | ⟨before, opening, conn, m, after, hevents, -, hreleased, -⟩
  · exact hle
  · rw [hstill opening conn m e.info.createdAt (by simp [hevents]), hreleased]
    exact Int.le_refl _

/-- The records of a pool are `Truthful` after every run, whatever way a connection took. -/
theorem records_tell_truth (config : Config) (destination : Destination) (events : List Event) :
    Truthful config (fresh destination) events := by
  have hfresh : Reachable config (fresh destination) := .fresh destination
  have htags := admissions_tags hfresh events
  have hrun := hfresh.run events
  refine ⟨htags, ?_, fun e he => ?_, (records_numbered hrun).nodup, labelled_of_reachable hrun,
    fun e => state_of_mem_closesIn, counts_of_run config destination events,
    fun horder now hnow => dates_of_run config destination events horder hnow,
    fun horder hstill => createdAt_le_of_still config destination horder hstill⟩
  · have hnumbers := congrArg (List.map Prod.fst) htags
    rw [List.map_map, List.map_fst_zip (by simp)] at hnumbers
    have hrange : ((fresh destination).admissions config events).map (·.info.id) =
        List.range' 1 ((fresh destination).taken config events).length := hnumbers
    rw [hrange]
    exact List.nodup_range'
  · -- a new site has no records
    rcases mem_admissions_of_mem_records he with hbefore | hadmitted
    · cases hbefore
    · exact hadmitted

/-- One caller gives the only connection back while two wait. The first of them gives up without
having read what was sent to it, and the second gets the connection. -/
def passedOn : List Event :=
  crowded ++ [.acquire (.atMillis 1), .release (.atMillis 2) 1, .cancel (.atMillis 3) 1,
    .poll (.atMillis 4) 2]

/-- What the first who waits did not read is not counted: the connection was got twice, and its
record says so. -/
theorem records_tell_truth_passedOn :
    LooksInOrder passedOn ∧ (∀ look ∈ passedOn.flatMap Event.looks, look ≤ .ofMillis 4) ∧
    (fresh (.ofAddress "db:1")).handles .oneSlot passedOn = [1, 1] ∧
    ((fresh (.ofAddress "db:1")).run .oneSlot passedOn).leases.map (·.info.acquireCount) = [2] ∧
    Truthful .oneSlot (fresh (.ofAddress "db:1")) passedOn ∧
    ∀ e ∈ ((fresh (.ofAddress "db:1")).run .oneSlot passedOn).records,
      WellDated .oneSlot (fresh (.ofAddress "db:1")) passedOn (.ofMillis 4) e.info ∧
      e.info.createdAt ≤ e.info.lastReleasedAt := by
  have horder : LooksInOrder passedOn := by
    show List.Pairwise _ _
    decide
  have hnow : ∀ look ∈ passedOn.flatMap Event.looks, look ≤ .ofMillis 4 := by decide
  have htruth := records_tell_truth .oneSlot (.ofAddress "db:1") passedOn
  have hstill : ∀ opening conn m created,
      .openedForQueue opening conn m created ∈ passedOn → created = m.now := by
    simp [passedOn, crowded]
  exact ⟨horder, hnow, by decide, by decide, htruth,
    fun e he => ⟨htruth.dates horder _ hnow e he, htruth.still horder hstill e he⟩⟩

/-- The connection that somebody waits for cannot be opened, another is opened for the queue, and
nobody waits any more when it comes. It is parked at the instant at which the transport answered,
and its record is made a nanosecond later. -/
def parkedOnArrival : List Event :=
  [.acquire (.atMillis 0), .acquire (.atMillis 0), .openingFailed 1 (.refused "db:1"),
    .cancel (.atMillis 1) 1,
    .openedForQueue 2 ⟨1, "db:1"⟩ (.atMillis 2) ((Instant.ofMillis 2).add ⟨1⟩)]

/-- A connection that is idle is recorded as given back before it was opened, on a clock that never
goes back. -/
theorem givenBack_before_opened :
    LooksInOrder parkedOnArrival ∧
    ((fresh (.ofAddress "db:1")).run .oneSlot parkedOnArrival).pool.idle.map (·.info.id) = [1] ∧
    ∀ e ∈ ((fresh (.ofAddress "db:1")).run .oneSlot parkedOnArrival).pool.idle,
      ¬ e.info.createdAt ≤ e.info.lastReleasedAt := by
  refine ⟨?_, by decide, by decide⟩
  show List.Pairwise _ _
  decide

end Site

end ConnectionPool
