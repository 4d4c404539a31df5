import ConnectionPool.Proofs.Provider.Accounting
import ConnectionPool.Proofs.Provider.Conservation
import Mathlib.Data.List.Flatten

/-!
# Who has which connection

A provider at work is watched together with a record of what has become of the connections that it
was given: which were handed over by the transport, for which the transport was called to close
them, which have been closed, and which were taken for good. At every moment each connection that
was handed over is in one place, and the record and the pools say which.

* `Kept`: what the record and the pools say adds up, whatever the connections are.
* `Settled`: if the transport never hands over a connection twice, each is in exactly one place, and
  the transport is called to close it at most once, when no pool and no caller has it any more.
-/

namespace ConnectionPool

/-- A `Place`: where a connection is. -/
inductive Place where
  /-- Idle in the pool of a site, under its number there. -/
  | idle (site connection : Nat)
  /-- In the hands of a caller. -/
  | handle (site connection : Nat)
  /-- On its way to an acquisition that has not read it. -/
  | channel (acquisition : Nat)
  /-- Being closed. -/
  | closing (site connection : Nat)
  /-- Closed. -/
  | closed
  /-- With a caller who took it out of its pool for good. -/
  | detached
deriving DecidableEq

/-- The connection is being closed or has been closed. -/
def Place.isOfClose : Place → Bool
  | .closing _ _ | .closed => true
  | .idle _ _ | .handle _ _ | .channel _ | .detached => false

/-- `Custody`: a provider at work, and what has become of the connections that it was given. -/
structure Custody where
  /-- The provider. -/
  provider : Provider
  /-- The connections that the transport handed over to a pool. -/
  received : List Connection
  /-- The connections for which the transport was called to close them. -/
  closeCalls : List Connection
  /-- The connections that have been closed. -/
  closed : List Connection
  /-- The connections that callers took out of their pools for good. -/
  detached : List Connection

namespace Provider

/-- The connections on their way to acquisitions that have not read them. -/
def channels (index : Nat) (s : Site) (p : Provider) : List (Place × Connection) :=
  p.acquisitions.filterMap fun known =>
    ((known.2.requestAt index).bind s.sent?).map fun e => (.channel known.1, e.conn)

/-- Where the connections of a site are: idle, with callers, in the channels, or being closed. -/
def sitePlaces (index : Nat) (s : Site) (p : Provider) : List (Place × Connection) :=
  s.pool.idle.map (fun e => (.idle index e.info.id, e.conn)) ++
    s.leases.map (fun e => (.handle index e.info.id, e.conn)) ++
    p.channels index s ++
    s.closings.map (fun e => (.closing index e.info.id, e.conn))

end Provider

namespace Custody

variable {config : Config} {w : Custody}

/-- A provider before its first acquisition, which has been given nothing. -/
def start (config : Config) : Custody :=
  { provider := .ofConfig config, received := [], closeCalls := [], closed := [], detached := [] }

/-- What an event makes of a provider and its record, by the `flow` of the event and the effects
that it asks for. -/
def step (w : Custody) (event : Provider.Event) : Custody :=
  { provider := (w.provider.step event).1
    received := w.received ++ (w.provider.flow event).arrived
    closeCalls := w.closeCalls ++ Provider.closeCalls (w.provider.step event).2
    closed := w.closed ++ (w.provider.flow event).closed
    detached := w.detached ++ (w.provider.flow event).detached }

/-- What a list of events makes of a provider and its record. -/
def run (w : Custody) (events : List Provider.Event) : Custody := events.foldl step w

/-- `Reachable config w`: a list of events leads to `w`. -/
inductive Reachable (config : Config) : Custody → Prop
  | start : Reachable config (.start config)
  | step {w : Custody} (event : Provider.Event) :
      Reachable config w → Reachable config (w.step event)

theorem Reachable.run (h : Reachable config w) (events : List Provider.Event) :
    Reachable config (w.run events) := by
  induction events generalizing w with
  | nil => exact h
  | cons event events ih => exact ih (h.step event)

/-- The provider whose record is kept is a `Reachable` one. -/
theorem Reachable.provider (h : Reachable config w) : Provider.Reachable config w.provider := by
  induction h with
  | start => exact .start
  | step event _ ih => exact ih.step event

/-- All places, with the connections that are there. -/
def places (w : Custody) : List (Place × Connection) :=
  (w.provider.sites.zipIdx.flatMap fun (s, index) => w.provider.sitePlaces index s) ++
    (w.detached.map (.detached, ·) ++ w.closed.map (.closed, ·))

/-- `Kept w`: what the record and the pools say adds up. -/
structure Kept (w : Custody) : Prop where
  /-- What was handed over is held by a pool, was detached or has been closed. -/
  received : (w.provider.held ++ (w.detached ++ w.closed)).Perm w.received
  /-- What the transport was called to close is being closed or has been closed. -/
  closeCalls : (w.provider.beingClosed ++ w.closed).Perm w.closeCalls

/-- Every `step` keeps the record in agreement with the pools. -/
theorem Kept.step (h : w.Kept) (hsound : Provider.Sound config w.provider)
    (event : Provider.Event) : (w.step event).Kept := by
  obtain ⟨hheld, hclosed⟩ := Provider.step_conserves hsound event
  obtain ⟨hreceived, hcalls⟩ := h
  rw [List.perm_iff_count] at *
  -- the record takes down the flow and the calls, which the pools conserve
  constructor
  · rw [List.perm_iff_count]
    intro conn
    have := hheld conn
    have := hreceived conn
    simp only [Custody.step, List.count_append] at *
    omega
  · rw [List.perm_iff_count]
    intro conn
    have := hclosed conn
    have := hcalls conn
    simp only [Custody.step, List.count_append] at *
    omega

theorem kept_of_reachable (h : Reachable config w) : w.Kept := by
  induction h with
  | start => exact ⟨.refl _, .refl _⟩
  | step event hreachable ih =>
    exact ih.step (Provider.sound_of_reachable hreachable.provider) event

/-! ## Places -/

/-- `sitePlaces` have the `holdings` of the site. -/
theorem sitePlaces_perm {p : Provider} (h : Provider.Reachable config p) {index : Nat} {s : Site}
    (hs : p.sites[index]? = some s) :
    ((p.sitePlaces index s).map Prod.snd).Perm (s.holdings.map Prod.snd) := by
  -- what is unread is what is in the inbox, one connection for one acquisition
  have hchannels : (p.channels index s).map Prod.snd = (p.unread index s).map Entry.conn := by
    rw [Provider.channels, Provider.unread, List.map_filterMap, List.map_filterMap]
    refine List.filterMap_congr fun known _ => ?_
    cases (known.2.requestAt index).bind s.sent? <;> rfl
  have hunread := (Provider.unread_perm h hs).map Entry.conn
  have hidle : ∀ (place : Entry → Place) (entries : List Entry),
      (entries.map fun e => (place e, e.conn)).map Prod.snd = entries.map Entry.conn := by
    intro place entries
    rw [List.map_map]
    rfl
  have htags : ∀ entries : List Entry,
      (entries.map Entry.tag).map Prod.snd = entries.map Entry.conn := by
    intro entries
    rw [List.map_map]
    rfl
  simp only [Provider.sitePlaces, Site.holdings, List.map_append, hidle, htags, hchannels]
  exact (hunread.append_left _).append_right _

/-- `places` have what was `received`. -/
theorem places_perm (h : Reachable config w) : (w.places.map Prod.snd).Perm w.received := by
  have hsites : ((w.provider.sites.zipIdx.flatMap fun (s, index) =>
      w.provider.sitePlaces index s).map Prod.snd).Perm w.provider.held := by
    rw [List.map_flatMap, Provider.held]
    -- the index of a site is needed for its places only
    nth_rewrite 2 [← List.zipIdx_map_fst 0 w.provider.sites]
    rw [List.flatMap_map]
    refine List.Perm.flatMap_left _ ?_
    rintro ⟨s, index⟩ hmem
    exact sitePlaces_perm h.provider (List.mk_mem_zipIdx_iff_getElem?.1 hmem)
  have houtside : (w.detached.map (Place.detached, ·) ++ w.closed.map (Place.closed, ·)).map
      Prod.snd = w.detached ++ w.closed := by
    simp [Function.comp_def]
  rw [places, List.map_append, houtside]
  exact (hsites.append_right _).trans (kept_of_reachable h).received

/-- What is `beingClosed` is `held`. -/
theorem beingClosed_sublist (p : Provider) : p.beingClosed.Sublist p.held := by
  refine List.Sublist.flatMap_right _ fun s _ => ?_
  have hclosings : s.closings.map Entry.conn = (s.closings.map Entry.tag).map Prod.snd := by
    rw [List.map_map]
    rfl
  rw [hclosings, Site.holdings]
  exact (List.sublist_append_right _ _).map Prod.snd

/-- What is among the `closeCalls` is in a place that `isOfClose`. -/
theorem exists_place_of_closeCall (h : Reachable config w) {conn : Connection}
    (hconn : conn ∈ w.closeCalls) :
    ∃ place : Place, place.isOfClose = true ∧ (place, conn) ∈ w.places := by
  have hmem := (kept_of_reachable h).closeCalls.symm.subset hconn
  rcases List.mem_append.1 hmem with hclosing | hclosed
  · obtain ⟨s, hs, hclosing⟩ := List.mem_flatMap.1 hclosing
    obtain ⟨e, he, rfl⟩ := List.mem_map.1 hclosing
    obtain ⟨index, hindex⟩ := List.mem_iff_getElem?.1 hs
    refine ⟨.closing index e.info.id, rfl, List.mem_append_left _ ?_⟩
    refine List.mem_flatMap.2 ⟨(s, index), List.mk_mem_zipIdx_iff_getElem?.2 hindex, ?_⟩
    exact List.mem_append_right _ (List.mem_map_of_mem he)
  · refine ⟨.closed, rfl, List.mem_append_right _ (List.mem_append_right _ ?_)⟩
    exact List.mem_map_of_mem hclosed

/-- `Settled w`: every connection is in one place, and is closed at most once. -/
structure Settled (w : Custody) : Prop where
  /-- What was handed over is in exactly one place. -/
  place : ∀ conn ∈ w.received, ∃! place, (place, conn) ∈ w.places
  /-- No place holds a connection that was not handed over. -/
  received : ∀ place conn, (place, conn) ∈ w.places → conn ∈ w.received
  /-- The transport is called at most once to close a connection. -/
  once : w.closeCalls.Nodup
  /-- What the transport was called to close is nowhere but being closed or closed. -/
  closing : ∀ conn ∈ w.closeCalls, ∀ place, (place, conn) ∈ w.places → place.isOfClose = true

/-- If no connection is `received` twice, the record is `Settled`: every connection is in one place
and is closed at most once. -/
theorem settled_of_reachable (h : Reachable config w) (hdistinct : w.received.Nodup) :
    w.Settled := by
  have hplaces := places_perm h
  obtain ⟨hreceived, hcalls⟩ := kept_of_reachable h
  have hnodup : (w.places.map Prod.snd).Nodup := hplaces.nodup_iff.2 hdistinct
  -- each connection stands once in the list of places
  have hone : ∀ place other conn, (place, conn) ∈ w.places → (other, conn) ∈ w.places →
      place = other := by
    intro place other conn hplace hother
    exact congrArg Prod.fst (List.inj_on_of_nodup_map hnodup hplace hother rfl)
  refine ⟨fun conn hconn => ?_, fun place conn hplace => ?_, ?_, fun conn hconn place hplace => ?_⟩
  · obtain ⟨⟨place, conn'⟩, hplace, rfl⟩ := List.mem_map.1 (hplaces.symm.subset hconn)
    exact ⟨place, hplace, fun other hother => hone other place _ hother hplace⟩
  · exact hplaces.subset (List.mem_map.2 ⟨(place, conn), hplace, rfl⟩)
  · refine hcalls.nodup_iff.1 ?_
    -- the calls are those being closed or closed, which are part of what was received
    have hsub : (w.provider.beingClosed ++ w.closed).Sublist
        (w.provider.held ++ (w.detached ++ w.closed)) :=
      (beingClosed_sublist w.provider).append (List.sublist_append_right _ _)
    exact (hreceived.nodup_iff.2 hdistinct).sublist hsub
  · obtain ⟨closing, hclosing, hmem⟩ := exists_place_of_closeCall h hconn
    rw [hone place closing conn hplace hmem]
    exact hclosing

end Custody

end ConnectionPool
