import ConnectionPool.Site.Acquire
import ConnectionPool.Site.Drain

/-!
# Providers

A provider keeps one pool for each destination and makes it at the first acquisition. Every pool
ever made is a site of the provider, and stays at its index; the registry says which of them serve
their destination now. A provider also knows its unfinished acquisitions and its disposals.

As for a site, a change yields the new provider and a list of effects in order. Disposals are in
`Provider.Disposal`.
-/

namespace ConnectionPool

/-- What happens in a provider that is worth a line in the event log. -/
inductive ProviderEvent where
  /-- The provider was made. -/
  | created (maxConnections maxPending : Limit) (acquireTimeout : Duration)
  /-- The whole provider is being disposed. -/
  | disposing (pools : Nat)
  /-- The whole provider is disposed. -/
  | disposed
  /-- The pool of one destination is being disposed. -/
  | disposingPool (destination : Destination)
deriving DecidableEq

/-- A connection of a pool: the site, and its number there. -/
structure SiteConnection where
  /-- The site. -/
  site : Nat
  /-- The number of the connection in its pool. -/
  connection : Nat
deriving DecidableEq, Inhabited

/-- How far an unfinished acquisition has come. -/
inductive Acquisition where
  /-- It has not been polled. -/
  | fresh (destination : Destination)
  /-- A connection is being opened for it, in a slot of a site. -/
  | opening (destination : Destination) (site opening : Nat)
  /-- It waits in the queue. -/
  | queued (site request : Nat) (deadline : Instant)
deriving DecidableEq

/-- A disposal, as it is known to those who wait for it. -/
inductive Disposal where
  /-- There was nothing to dispose. -/
  | nothing
  /-- The disposal of the whole provider. -/
  | whole
  /-- The disposal of one destination, by its index. -/
  | single (index : Nat)
deriving DecidableEq, Inhabited

/-- How far the disposal of the whole provider has come. -/
inductive WholeDisposal where
  /-- It has not been polled. -/
  | unpolled
  /-- It waits for the sites of the present round that have not ended. -/
  | running (sites : List Nat)
  /-- It is over. -/
  | finished
deriving DecidableEq

/-- The disposal of one destination. -/
structure SingleDisposal where
  /-- The site that served the destination when the disposal was asked for. -/
  site : Nat
  /-- The disposal is over. -/
  finished : Bool
deriving DecidableEq

/-- A provider with one pool for each destination. -/
structure Provider where
  /-- The settings shared by all pools. -/
  config : Config
  /-- Every pool ever made, in order. -/
  sites : List Site
  /-- Which site serves which destination, in the order of registration. -/
  registry : List (Destination × Nat)
  /-- Somebody holds the provider itself. -/
  isHeld : Bool
  /-- The provider accepts no further acquisitions. -/
  isDisposed : Bool
  /-- The unfinished acquisitions. -/
  acquisitions : List (Nat × Acquisition)
  /-- The number of the next acquisition. -/
  nextAcquisition : Nat
  /-- The disposal of the whole provider. -/
  wholeDisposal : WholeDisposal
  /-- The disposals of single destinations, in the order in which they were asked for. -/
  singleDisposals : List SingleDisposal

namespace Provider

/-- What a change of a provider asks of its surroundings. -/
inductive Effect where
  /-- Something that a site asks for. -/
  | site (index : Nat) (effect : Site.Effect)
  /-- Write an event to the log. -/
  | note (event : ProviderEvent)
  /-- Start the sweeps of a site. -/
  | startSweep (site : Nat)
  /-- Start a task that polls the disposal until it is over. -/
  | startDisposal (disposal : Disposal)
  /-- Let the disposal be woken when the wait for the site's end is. -/
  | watchDrain (site : Nat) (disposal : Disposal)
  /-- Wake whoever waits for the disposal. -/
  | wakeDisposal (disposal : Disposal)
deriving DecidableEq

/-- A new provider and what the change asks of its surroundings, in order. -/
abbrev Change := Provider × List Effect

/-- One change after another. -/
def Change.andThen (c : Change) (next : Provider → Change) : Change :=
  ((next c.1).1, c.2 ++ (next c.1).2)

/-- The provider after two changes is what the second makes of the provider after the first. -/
@[simp]
theorem Change.andThen_fst (c : Change) (next : Provider → Change) :
    (c.andThen next).1 = (next c.1).1 := rfl

/-- The effects of two changes follow one another. -/
@[simp]
theorem Change.andThen_snd (c : Change) (next : Provider → Change) :
    (c.andThen next).2 = c.2 ++ (next c.1).2 := rfl

/-- A provider before its first acquisition. -/
def ofConfig (config : Config) : Provider :=
  { config, sites := [], registry := [], isHeld := true, isDisposed := false, acquisitions := [],
    nextAcquisition := 0, wholeDisposal := .unpolled, singleDisposals := [] }

/-- The event of making the provider. -/
def creationEvent (config : Config) : ProviderEvent :=
  .created config.maxConnections config.maxPending config.acquireTimeout

/-- Change one site. -/
def changeSite (index : Nat) (change : Site → Site.Change) (p : Provider) : Change :=
  match p.sites[index]? with
  | none => (p, [])
  | some s => ({ p with sites := p.sites.set index (change s).1 }, (change s).2.map (.site index))

/-- Change one site and report on it; `absent` is the report where there is no such site. -/
def changeSiteReporting (index : Nat) (absent : α) (change : Site → α × Site.Change)
    (p : Provider) : α × Change :=
  ((p.sites[index]?.map fun s => (change s).1).getD absent,
    p.changeSite index fun s => (change s).2)

/-- The site that serves a destination now. -/
def siteOf? (d : Destination) (p : Provider) : Option Nat := p.registry.lookup d

/-- The site serves its destination now. -/
def isRegistered (site : Nat) (p : Provider) : Bool := p.registry.any (·.2 == site)

/-- The site no longer serves its destination. Another site for the same destination is not
affected. -/
def unregister (site : Nat) (p : Provider) : Provider :=
  { p with registry := p.registry.eraseP (·.2 == site) }

/-- The counters of the pool that serves a destination. -/
def status? (d : Destination) (p : Provider) : Option Status := do
  let site ← p.sites[← p.siteOf? d]?
  return site.pool.status p.config

/-- Something keeps the provider alive: its holder, an unfinished acquisition, or a disposal under
way. -/
def isAlive (p : Provider) : Bool :=
  p.isHeld || !p.acquisitions.isEmpty || p.singleDisposals.any (!·.finished) ||
    match p.wholeDisposal with
    | .running _ => true
    | .unpolled | .finished => false

/-- Something keeps the pool of a site alive. -/
def isSiteAlive (site : Nat) (p : Provider) : Bool :=
  p.sites[site]?.any Site.isHeld || (p.isRegistered site && p.isAlive)

/-- The provider as a record. -/
def describe (p : Provider) : String :=
  Text.variant "Pooled" (Text.record "PooledConnectionProvider"
    [("config", p.config.describe), ("pools", toString p.registry.length),
      ("disposed", Text.truth p.isDisposed)])

/-! ## Acquiring -/

/-- Ask for a connection. Nothing happens until the acquisition is polled. -/
def acquire (d : Destination) (p : Provider) : Nat × Provider :=
  (p.nextAcquisition,
    { p with acquisitions := p.acquisitions ++ [(p.nextAcquisition, .fresh d)],
             nextAcquisition := p.nextAcquisition + 1 })

/-- The acquisition is over. -/
def finishAcquisition (id : Nat) (p : Provider) : Provider :=
  { p with acquisitions := p.acquisitions.eraseP (·.1 == id) }

/-- The acquisition has come further. -/
def advanceAcquisition (id : Nat) (progress : Acquisition) (p : Provider) : Provider :=
  { p with acquisitions := p.acquisitions.map fun (other, known) =>
      (other, if other == id then progress else known) }

/-- The site that serves the destination, which is made if there is none. -/
def siteFor (d : Destination) (p : Provider) : Nat × Change :=
  match p.siteOf? d with
  | some site => (site, p, [])
  | none =>
    -- sites are never removed, so their number is the next index
    let site := p.sites.length
    (site,
      { p with sites := p.sites ++ [.fresh d], registry := p.registry ++ [(d, site)] },
      (if p.config.sweepInterval.isSome then [.startSweep site] else []) ++
        [.site site (.note (.created p.config.maxConnections))])

/-- What polling an acquisition gives. -/
inductive Progress where
  /-- The acquisition is over. -/
  | finished (result : Except PoolError SiteConnection)
  /-- The acquisition waits for the transport to open a connection. -/
  | connecting (destination : Destination)
  /-- The acquisition waits in the queue of a site, under the request's number. -/
  | waiting (site request : Nat) (deadline : Instant)

/-- Begin an acquisition at its site. -/
def enter (m : Moment) (id : Nat) (d : Destination) (site : Nat) (p : Provider) :
    Progress × Change :=
  let (ticket, acquired) := p.changeSiteReporting site (.error .poolClosed)
    (Site.acquire p.config m)
  match ticket with
  | .error error => (.finished (.error error), acquired.1.finishAcquisition id, acquired.2)
  | .ok (.lease connection) =>
    (.finished (.ok ⟨site, connection⟩), acquired.1.finishAcquisition id, acquired.2)
  | .ok (.opening opening) =>
    (.connecting d, acquired.1.advanceAcquisition id (.opening d site opening), acquired.2)
  | .ok (.request request deadline) =>
    (.waiting site request deadline,
      acquired.1.advanceAcquisition id (.queued site request deadline), acquired.2)

/-- Refuse an acquisition that has found its site. A disposal may have missed the site, which is
shut down here. -/
def turnAway (id site : Nat) (p : Provider) : Progress × Change :=
  let shut := p.changeSite site Site.shutDown
  (.finished (.error .poolClosed), shut.1.finishAcquisition id, shut.2)

/-- Go on with an acquisition that has found its site, if acquisitions are still accepted. -/
def join (m : Moment) (id : Nat) (d : Destination) (site : Nat) (p : Provider) :
    Progress × Change :=
  if p.isDisposed then p.turnAway id site else p.enter m id d site

/-- Poll an acquisition for the first time. Whether acquisitions are accepted is looked at before
the site is found and again afterwards. -/
def start (m : Moment) (id : Nat) (d : Destination) (p : Provider) : Progress × Change :=
  if p.isDisposed then (.finished (.error .poolClosed), p.finishAcquisition id, [])
  else
    let (site, found) := p.siteFor d
    let (progress, joined) := found.1.join m id d site
    (progress, joined.1, found.2 ++ joined.2)

/-- Poll an acquisition that waits in the queue of a site. -/
def pollQueued (m : Moment) (id site request : Nat) (deadline : Instant) (p : Provider) :
    Progress × Change :=
  let (outcome, change) := p.changeSiteReporting site (some (.error .poolClosed))
    (Site.poll p.config m request)
  match outcome with
  | none => (.waiting site request deadline, change)
  | some result =>
    (.finished (result.map (⟨site, ·⟩)), change.1.finishAcquisition id, change.2)

/-- Poll an acquisition. An acquisition that is over cannot be polled again. -/
def poll (m : Moment) (id : Nat) (p : Provider) : Progress × Change :=
  match p.acquisitions.lookup id with
  | none => (.finished (.error .poolClosed), p, [])
  | some (.fresh d) => p.start m id d
  | some (.opening d _ _) => (.connecting d, p, [])
  | some (.queued site request deadline) => p.pollQueued m id site request deadline

/-- The transport opened the connection that an acquisition waits for. -/
def opened (m : Moment) (id : Nat) (conn : Connection) (p : Provider) :
    Except PoolError SiteConnection × Change :=
  match p.acquisitions.lookup id with
  | some (.opening _ site opening) =>
    let (result, change) := p.changeSiteReporting site (.error .poolClosed)
      (Site.opened opening conn m)
    (result.map (⟨site, ·⟩), change.1.finishAcquisition id, change.2)
  | _ => (.error .poolClosed, p, [])

/-- The transport could not open the connection that an acquisition waits for. -/
def openingFailed (id : Nat) (failure : ConnectFailure) (p : Provider) : PoolError × Change :=
  match p.acquisitions.lookup id with
  | some (.opening _ site opening) =>
    let (error, change) := p.changeSiteReporting site .poolClosed
      (Site.openingFailed p.config opening failure)
    (error, change.1.finishAcquisition id, change.2)
  | _ => (.poolClosed, p, [])

/-- Give an unfinished acquisition up. -/
def abandon (m : Moment) (id : Nat) (p : Provider) : Change :=
  let change : Change := match p.acquisitions.lookup id with
    | none | some (.fresh _) => (p, [])
    | some (.opening _ site opening) => p.changeSite site (Site.abandon p.config opening)
    | some (.queued site request _) => p.changeSite site (Site.cancel p.config m request)
  (change.1.finishAcquisition id, change.2)

/-! ## Connections in the hands of callers -/

/-- The connection that a caller holds. -/
def lease? (lease : SiteConnection) (p : Provider) : Option Entry :=
  p.sites[lease.site]?.bind (Site.lease? lease.connection)

/-- A caller gives a connection back. -/
def release (m : Moment) (lease : SiteConnection) (p : Provider) : Change :=
  p.changeSite lease.site (Site.release p.config m lease.connection)

/-- A caller takes a connection out of its pool for good. -/
def detach (lease : SiteConnection) (p : Provider) : Option Connection × Change :=
  p.changeSiteReporting lease.site none (Site.detach p.config lease.connection)

/-- A caller puts another connection in the place of the one it holds. -/
def exchange (lease : SiteConnection) (conn : Connection) (p : Provider) : Provider :=
  (p.changeSite lease.site fun s => (s.exchange lease.connection conn, [])).1

/-! ## The pools' own work -/

/-- The transport opened a connection for the queue of a site, whose record is made at `created`. -/
def openedForQueue (m : Moment) (site opening : Nat) (conn : Connection) (created : Instant)
    (p : Provider) : Change :=
  p.changeSite site (Site.openedForQueue p.config opening conn m created)

/-- The transport could not open a connection for the queue of a site. -/
def openingForQueueFailed (m : Moment) (site opening : Nat) (failure : ConnectFailure)
    (p : Provider) : Change :=
  p.changeSite site (Site.openingForQueueFailed p.config opening failure m)

/-- A connection of a site has been closed. -/
def closeFinished (site connection : Nat) (p : Provider) : Change :=
  p.changeSite site (Site.closeFinished connection)

/-- Sweep a site. -/
def sweep (m : Moment) (site : Nat) (p : Provider) : Change :=
  p.changeSite site fun s => (s.sweep p.config m).2

/-- The sweeps of a site have ended. -/
def sweepEnded (site : Nat) (p : Provider) : Change :=
  p.changeSite site fun s => (s, [.note .sweepStopped])

/-- Nobody holds the provider any more. -/
def letGo (p : Provider) : Provider := { p with isHeld := false }

end Provider

end ConnectionPool
