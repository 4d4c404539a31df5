import ConnectionPool.Proofs.Site.Holdings
import ConnectionPool.Provider.Disposal

/-!
# The moves of a provider

Every change of a provider is a sequence of moves, each of which is one event at one site together
with what it means for the acquisition it belongs to, or concerns no site at all. What is true of a
provider because every change keeps it true is shown move by move: `Moves.invariant`.

A move says what goes in and out of the pools' hands on the way, which is its `Flow`. Which events
at which sites may be part of a change is a parameter, so that what a change cannot do is kept in
sight as well.
-/

namespace ConnectionPool

namespace Site.Event

/-- The event is an act of somebody whose acquisition is unfinished. -/
def isOfCaller : Event → Bool
  | .acquire _ | .opened _ _ _ | .openingFailed _ _ | .abandon _ | .poll _ _ | .cancel _ _ => true
  | _ => false

end Site.Event

namespace Provider

/-- A `Flow`: the connections that go in and out of the pools' hands. -/
structure Flow where
  /-- Those that the transport hands over. -/
  arrived : List Connection
  /-- Those that callers take for good. -/
  detached : List Connection
  /-- Those that have been closed. -/
  closed : List Connection

namespace Flow

/-- Nothing goes in or out. -/
def none : Flow := ⟨[], [], []⟩

/-- What goes in and out on the way through two changes. -/
def append (first second : Flow) : Flow :=
  ⟨first.arrived ++ second.arrived, first.detached ++ second.detached,
    first.closed ++ second.closed⟩

/-- The `Flow` of a site's event: its `arrivals`, and its `departures` by where they go. -/
def ofSite (s : Site) (event : Site.Event) : Flow where
  arrived := s.arrivals event
  detached := if event.isCloseFinished then [] else (s.departures event).map Prod.snd
  closed := if event.isCloseFinished then (s.departures event).map Prod.snd else []

theorem append_assoc (first second third : Flow) :
    (first.append second).append third = first.append (second.append third) := by
  simp [append]

@[simp]
theorem append_none (flow : Flow) : flow.append none = flow := by
  simp [append, none]

end Flow

/-- The connections that the surroundings are asked to close, with their sites. -/
def closesOf (effects : List Effect) : List (Nat × Entry) :=
  effects.filterMap fun
    | .site index (.close e) => some (index, e)
    | _ => Option.none

/-- The calls of the transport that the surroundings are asked for, with their sites. -/
def callsOf (effects : List Effect) : List (Nat × Site.Effect) :=
  effects.filterMap fun
    | .site index effect => if effect.isCall then some (index, effect) else Option.none
    | _ => Option.none

@[simp]
theorem callsOf_append (first second : List Effect) :
    callsOf (first ++ second) = callsOf first ++ callsOf second :=
  List.filterMap_append

@[simp]
theorem callsOf_site (index : Nat) (effects : List Site.Effect) :
    callsOf (effects.map (.site index)) = (effects.filter (·.isCall)).map (index, ·) := by
  induction effects with
  | nil => rfl
  | cons effect effects ih => cases effect <;> simpa [callsOf, Site.Effect.isCall] using ih

/-- Where `callsOf` is empty, no connection is closed. -/
theorem closesOf_eq_nil {effects : List Effect} (h : callsOf effects = []) :
    closesOf effects = [] := by
  simp only [callsOf, closesOf, List.filterMap_eq_nil_iff] at h ⊢
  intro effect heffect
  have hquiet := h effect heffect
  split
  · simp [Site.Effect.isCall] at hquiet
  · rfl

@[simp]
theorem closesOf_append (first second : List Effect) :
    closesOf (first ++ second) = closesOf first ++ closesOf second :=
  List.filterMap_append

@[simp]
theorem closesOf_site (index : Nat) (effects : List Site.Effect) :
    closesOf (effects.map (.site index)) = (Site.closesOf effects).map (index, ·) := by
  induction effects with
  | nil => rfl
  | cons effect effects ih =>
    cases effect <;> simpa [closesOf, Site.closesOf] using ih

/-- The site at an index after an event. -/
def setSite (index : Nat) (s : Site) (p : Provider) : Provider :=
  { p with sites := p.sites.set index s }

/-- An acquisition goes on as given, or is over. -/
def proceed (id : Nat) (next : Option Acquisition) (p : Provider) : Provider :=
  match next with
  | .none => p.finishAcquisition id
  | some progress => p.advanceAcquisition id progress

end Provider

/-- The site that an acquisition has come to. -/
def Acquisition.site? : Acquisition → Option Nat
  | .fresh _ => none
  | .opening _ site _ | .queued site _ _ => some site

/-- How an acquisition goes on with what it was given. -/
def Acquisition.ofTicket (d : Destination) (site : Nat) :
    Except PoolError Site.Ticket → Option Acquisition
  | .ok (.opening number) => some (.opening d site number)
  | .ok (.request request deadline) => some (.queued site request deadline)
  | .ok (.lease _) | .error _ => none

namespace Provider

/-- What a first poll gives, by what the site gives. -/
def Progress.ofTicket (d : Destination) (site : Nat) : Except PoolError Site.Ticket → Progress
  | .error error => .finished (.error error)
  | .ok (.lease connection) => .finished (.ok ⟨site, connection⟩)
  | .ok (.opening _) => .connecting d
  | .ok (.request request deadline) => .waiting site request deadline

/-- `Proceeds config site s known event next`: the acquisition goes on from `known` to `next` with
an event at the site. -/
inductive Proceeds (config : Config) (site : Nat) (s : Site) :
    Acquisition → Site.Event → Option Acquisition → Prop
  /-- The acquisition is polled for the first time. -/
  | begin (m : Moment) (d : Destination) :
      Proceeds config site s (.fresh d) (.acquire m)
        (Acquisition.ofTicket d site (s.acquire config m).1)
  /-- Whoever waits learns the outcome. -/
  | learn (m : Moment) (request : Nat) (deadline : Instant)
      (houtcome : (s.poll config m request).1 ≠ none) :
      Proceeds config site s (.queued site request deadline) (.poll m request) none
  /-- Whoever waits gives up. -/
  | cancel (m : Moment) (request : Nat) (deadline : Instant) :
      Proceeds config site s (.queued site request deadline) (.cancel m request) none
  /-- The transport opened the connection. -/
  | opened (m : Moment) (d : Destination) (opening : Nat) (conn : Connection) :
      Proceeds config site s (.opening d site opening) (.opened opening conn m) none
  /-- The transport could not open the connection. -/
  | failed (d : Destination) (opening : Nat) (failure : ConnectFailure) :
      Proceeds config site s (.opening d site opening) (.openingFailed opening failure) none
  /-- Whoever waits for the connection gives up. -/
  | abandon (d : Destination) (opening : Nat) :
      Proceeds config site s (.opening d site opening) (.abandon opening) none

/-- Two callers swap the connections that they hold. -/
def swap (first second : SiteConnection) (p : Provider) : Provider :=
  match p.lease? first, p.lease? second with
  | some one, some other => (p.exchange first other.conn).exchange second one.conn
  | _, _ => p

/-- `setSite` leaves the other sites as they are. -/
theorem getElem?_setSite {p : Provider} {site : Nat} {s : Site} (t : Site)
    (hs : p.sites[site]? = some s) (other : Nat) :
    (p.setSite site t).sites[other]? = if other = site then some t else p.sites[other]? := by
  have hlt := (List.getElem?_eq_some_iff.1 hs).1
  by_cases hother : other = site
  · subst hother
    rw [if_pos rfl]
    exact List.getElem?_set_self hlt
  · rw [if_neg hother]
    exact List.getElem?_set_ne (Ne.symm hother)

/-! ### What these leave alone -/

variable (p : Provider)

@[simp]
theorem proceed_config (id : Nat) (next : Option Acquisition) :
    (p.proceed id next).config = p.config := by
  cases next <;> rfl

@[simp]
theorem proceed_sites (id : Nat) (next : Option Acquisition) :
    (p.proceed id next).sites = p.sites := by
  cases next <;> rfl

@[simp]
theorem proceed_registry (id : Nat) (next : Option Acquisition) :
    (p.proceed id next).registry = p.registry := by
  cases next <;> rfl

@[simp]
theorem proceed_nextAcquisition (id : Nat) (next : Option Acquisition) :
    (p.proceed id next).nextAcquisition = p.nextAcquisition := by
  cases next <;> rfl

/-- `exchange` changes nothing where there is no such site. -/
theorem exchange_cases (lease : SiteConnection) (conn : Connection) :
    (p.sites[lease.site]? = none ∧ p.exchange lease conn = p) ∨
    ∃ s, p.sites[lease.site]? = some s ∧
      p.exchange lease conn = p.setSite lease.site (s.exchange lease.connection conn) := by
  unfold exchange changeSite
  cases hs : p.sites[lease.site]? with
  | none => exact .inl ⟨rfl, rfl⟩
  | some s => exact .inr ⟨s, rfl, rfl⟩

/-- `swap` is two exchanges, if both callers hold what they say. -/
theorem swap_cases (first second : SiteConnection) :
    p.swap first second = p ∨
    ∃ one other, p.lease? first = some one ∧ p.lease? second = some other ∧
      p.swap first second = (p.exchange first other.conn).exchange second one.conn := by
  unfold swap
  cases hone : p.lease? first with
  | none => exact .inl rfl
  | some one =>
    cases hother : p.lease? second with
    | none => exact .inl rfl
    | some other => exact .inr ⟨one, other, rfl, rfl, rfl⟩

/-- What `exchange` keeps, `swap` keeps. -/
theorem swap_invariant {motive : Provider → Prop} (hp : motive p)
    (exchange : ∀ p lease conn, motive p → motive (p.exchange lease conn))
    (first second : SiteConnection) : motive (p.swap first second) := by
  -- the second exchange starts from the provider after the first
  obtain heq | ⟨one, other, -, -, heq⟩ := swap_cases p first second <;> rw [heq]
  · exact hp
  · exact exchange _ _ _ (exchange _ _ _ hp)

@[simp]
theorem exchange_acquisitions (lease : SiteConnection) (conn : Connection) :
    (p.exchange lease conn).acquisitions = p.acquisitions := by
  obtain ⟨-, heq⟩ | ⟨s, -, heq⟩ := exchange_cases p lease conn <;> rw [heq]
  rfl

@[simp]
theorem exchange_nextAcquisition (lease : SiteConnection) (conn : Connection) :
    (p.exchange lease conn).nextAcquisition = p.nextAcquisition := by
  obtain ⟨-, heq⟩ | ⟨s, -, heq⟩ := exchange_cases p lease conn <;> rw [heq]
  rfl

/-- `Rebooks p q`: on the way from `p` to `q`, neither sites nor acquisitions change, and no site is
registered. -/
structure Rebooks (p q : Provider) : Prop where
  /-- The configuration stays. -/
  config : q.config = p.config
  /-- The sites stay. -/
  sites : q.sites = p.sites
  /-- The acquisitions stay. -/
  acquisitions : q.acquisitions = p.acquisitions
  /-- Nobody asks for a connection. -/
  nextAcquisition : q.nextAcquisition = p.nextAcquisition
  /-- Sites may be unregistered. -/
  registry : q.registry.Sublist p.registry

/-- `Actors`: which acquisition acts in which event at which site, if it is an act of one. -/
abbrev Actors := Option Nat → Nat → Site.Event → Prop

/-- `Move allowed p flow c`: one part of a change, in which the events at sites are `allowed`. -/
inductive Move (allowed : Actors) : Provider → Flow → Change → Prop
  /-- Neither sites nor acquisitions change. -/
  | books {p q : Provider} {effects : List Effect} (hbooks : Rebooks p q)
      (hquiet : callsOf effects = []) : Move allowed p .none (q, effects)
  /-- A site is made and registered. -/
  | found {p : Provider} {effects : List Effect} (d : Destination)
      (hquiet : callsOf effects = []) :
      Move allowed p .none
        ({ p with sites := p.sites ++ [.fresh d], registry := p.registry ++ [(d, p.sites.length)] },
          effects)
  /-- Somebody asks for a connection. -/
  | ask {p : Provider} (d : Destination) : Move allowed p .none ((p.acquire d).2, [])
  /-- An acquisition is over that no site knows of. -/
  | forget {p : Provider} {id : Nat} {known : Acquisition}
      (hknown : p.acquisitions.lookup id = some known)
      (hsite : ∀ site, known.site? = some site → p.sites[site]? = Option.none) :
      Move allowed p .none (p.finishAcquisition id, [])
  /-- Something happens at a site that is not an act of somebody who waits. -/
  | site {p : Provider} {index : Nat} {s : Site} {event : Site.Event}
      (hallowed : allowed none index event) (hs : p.sites[index]? = some s)
      (hcaller : event.isOfCaller = false) (hexchange : event.isExchange = false) :
      Move allowed p (.ofSite s event) (p.setSite index (s.step p.config event).1,
        (s.step p.config event).2.map (.site index))
  /-- Somebody whose acquisition is unfinished acts. -/
  | act {p : Provider} {id index : Nat} {s : Site} {event : Site.Event} {known : Acquisition}
      {next : Option Acquisition} (hallowed : allowed (some id) index event)
      (hknown : p.acquisitions.lookup id = some known) (hs : p.sites[index]? = some s)
      (hnext : Proceeds p.config index s known event next) :
      Move allowed p (.ofSite s event) ((p.setSite index (s.step p.config event).1).proceed id next,
        (s.step p.config event).2.map (.site index))
  /-- Callers swap connections. -/
  | swap {p : Provider} (first second : SiteConnection) :
      Move allowed p .none (p.swap first second, [])

/-- `Moves`: one `Move` after another. -/
inductive Moves (allowed : Actors) : Provider → Flow → Change → Prop
  | nil (p : Provider) : Moves allowed p .none (p, [])
  | cons {p : Provider} {first rest : Flow} {c d : Change} :
      Move allowed p first c → Moves allowed c.1 rest d →
        Moves allowed p (first.append rest) (d.1, c.2 ++ d.2)

namespace Moves

variable {allowed : Actors} {p : Provider} {flow first rest : Flow} {c d : Change}

/-- A single `Move`. -/
theorem single (h : Move allowed p flow c) : Moves allowed p flow c := by
  have hmoves := Moves.cons h (.nil c.1)
  rw [Flow.append_none, List.append_nil] at hmoves
  exact hmoves

/-- `Moves` may follow `Moves`. -/
theorem trans (h : Moves allowed p first c) (hrest : Moves allowed c.1 rest d) :
    Moves allowed p (first.append rest) (d.1, c.2 ++ d.2) := by
  -- on the first moves, as the flows and effects of the rest are appended to theirs
  induction h with
  | nil p => exact hrest
  | cons hmove _ ih =>
    have hmoves := Moves.cons hmove (ih hrest)
    rw [← List.append_assoc, ← Flow.append_assoc] at hmoves
    exact hmoves

/-- `Moves` may be followed by a change that `Rebooks`. -/
theorem thenBooks (h : Moves allowed p flow c) {q : Provider} {effects : List Effect}
    (hbooks : Rebooks c.1 q) (hquiet : callsOf effects = []) :
    Moves allowed p flow (q, c.2 ++ effects) := by
  have hmoves := h.trans (.single (.books hbooks hquiet))
  rw [Flow.append_none] at hmoves
  exact hmoves

/-- After `Moves` the provider may be one that `Rebooks`. -/
theorem rebook (h : Moves allowed p flow c) {q : Provider} (hbooks : Rebooks c.1 q) :
    Moves allowed p flow (q, c.2) := by
  have hmoves := h.thenBooks hbooks (callsOf_append [] [])
  rw [List.append_nil, List.append_nil] at hmoves
  exact hmoves

/-- What every `Move` keeps holds after `Moves`. -/
theorem invariant {motive : Provider → Prop}
    (move : ∀ p flow c, motive p → Move allowed p flow c → motive c.1) (hp : motive p)
    (h : Moves allowed p flow c) : motive c.1 := by
  induction h with
  | nil p => exact hp
  | cons hmove _ ih => exact ih (move _ _ _ hp hmove)

end Moves

end Provider

end ConnectionPool
