import ConnectionPool.Provider

/-!
# Disposals

The disposal of the whole provider is one, however often it is asked for; the disposal of a
destination is one for each time it is asked for. A disposal makes progress only when it is polled,
and all who wait for it share its progress.

The whole provider is disposed in rounds: all registered pools are shut down, each is unregistered
when it has ended, and a further round follows if pools are registered then.
-/

namespace ConnectionPool.Provider

/-- The wait for the end of a site is over. -/
def hasEnded (site : Nat) (p : Provider) : Bool := p.sites[site]?.all (·.drain == .finished)

/-- A disposal looks whether a site has ended. A site that has ended is no longer registered. -/
def awaitEnd (m : Moment) (disposal : Disposal) (site : Nat) (p : Provider) : Change :=
  if p.hasEnded site then (p.unregister site, [])
  else
    let change := Change.andThen (p, [.watchDrain site disposal])
      (changeSite site (Site.pollDrain p.config m))
    if change.1.hasEnded site then (change.1.unregister site, change.2) else change

/-- Shut several sites down and look which of them have not ended. -/
def endSites (m : Moment) (p : Provider) : List Nat → List Nat × Change
  | [] => ([], p, [])
  | site :: rest =>
    let looked := (p.changeSite site Site.shutDown).andThen (awaitEnd m .whole site)
    let (left, change) := endSites m looked.1 rest
    ((if looked.1.hasEnded site then left else site :: left), change.1, looked.2 ++ change.2)

/-- The disposal of the whole provider is over. -/
def endWholeDisposal (p : Provider) : Change :=
  ({ p with wholeDisposal := .finished }, [.note .disposed, .wakeDisposal .whole])

/-- Shut the given sites down. When all have ended, go on with those registered since, for at most
`rounds` further rounds; when there are none, the disposal is over. -/
def disposeRound (m : Moment) : Nat → List Nat → Provider → Change
  | rounds, sites, p =>
    let (left, change) := endSites m p sites
    if !left.isEmpty then ({ change.1 with wholeDisposal := .running left }, change.2)
    else
      -- pools that came to be registered while the others ended
      let next := change.1.registry.map (·.2)
      if next.isEmpty then change.andThen endWholeDisposal
      else match rounds with
        | 0 => ({ change.1 with wholeDisposal := .running next }, change.2)
        | rounds + 1 => change.andThen (disposeRound m rounds next)

/-- Poll the disposal of the whole provider. A provider that nothing keeps alive has nothing left
to dispose. -/
def pollWholeDisposal (m : Moment) (p : Provider) : Change :=
  match p.wholeDisposal with
  | .finished => (p, [])
  | .unpolled =>
    if p.isAlive then
      Change.andThen
        ({ p with isDisposed := true }, [.note (.disposing p.registry.length)])
        (disposeRound m p.registry.length (p.registry.map (·.2)))
    else ({ p with wholeDisposal := .finished }, [.wakeDisposal .whole])
  | .running sites => disposeRound m p.registry.length sites p

/-- Poll the disposal of one destination. -/
def pollSingleDisposal (m : Moment) (index : Nat) (p : Provider) : Change :=
  match p.singleDisposals[index]? with
  | none | some ⟨_, true⟩ => (p, [])
  | some ⟨site, false⟩ =>
    let change := p.awaitEnd m (.single index) site
    if change.1.hasEnded site then
      change.andThen fun p =>
        ({ p with singleDisposals := p.singleDisposals.set index ⟨site, true⟩ },
          [.wakeDisposal (.single index)])
    else change

/-- The disposal is over. -/
def isDisposalFinished (disposal : Disposal) (p : Provider) : Bool :=
  match disposal with
  | .nothing => true
  | .whole => p.wholeDisposal == .finished
  | .single index => p.singleDisposals[index]?.all (·.finished)

/-- Poll a disposal. -/
def pollDisposal (m : Moment) (disposal : Disposal) (p : Provider) : Change :=
  match disposal with
  | .nothing => (p, [])
  | .whole => p.pollWholeDisposal m
  | .single index => p.pollSingleDisposal m index

/-- Accept no further acquisitions and start the disposal of the whole provider. -/
def dispose (p : Provider) : Change := ({ p with isDisposed := true }, [.startDisposal .whole])

/-- Shut down and unregister each of the given sites. -/
def abandonSites (p : Provider) : List Nat → Change
  | [] => (p, [])
  | site :: rest =>
    let shut := p.changeSite site Site.shutDown
    Change.andThen (shut.1.unregister site, shut.2) (abandonSites · rest)

/-- Accept no further acquisitions and, since nothing can be started that would wait for the end,
shut down and unregister every pool at once. -/
def disposeAtOnce (p : Provider) : Change :=
  abandonSites { p with isDisposed := true } (p.registry.map (·.2))

/-- Shut down the pool of one destination, and start to wait for its end. -/
def disposeWhen (d : Destination) (p : Provider) : Disposal × Change :=
  match p.siteOf? d with
  | none => (.nothing, p, [])
  | some site =>
    let disposal := Disposal.single p.singleDisposals.length
    (disposal,
      (Change.andThen (p, [.note (.disposingPool d)]) (changeSite site Site.shutDown)).andThen
        fun p =>
          ({ p with singleDisposals := p.singleDisposals ++ [⟨site, false⟩] },
            [.startDisposal disposal]))

end ConnectionPool.Provider
