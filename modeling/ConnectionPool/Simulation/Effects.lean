import ConnectionPool.Provider.Disposal
import ConnectionPool.Simulation

/-!
# Effects at work

A change of the provider asks for effects: events to write, tasks to start, sleepers to wake. Here
they are carried out, in order, after the change is made. Carrying them out does not change the
provider again.
-/

namespace ConnectionPool.Simulation

/-- Wake the task that waits for a request of a site. -/
def wakeRequest (site request : Nat) : Sim Unit := do
  let s ← get
  match s.supply with
  | .direct _ => pure ()
  | .pooled p =>
    let waiting := p.acquisitions.find? fun (_, progress) =>
      match progress with
      | .queued knownSite knownRequest _ => knownSite == site && knownRequest == request
      | _ => false
    match waiting.bind fun (acquisition, _) => s.waiterOf? acquisition with
    | some id => enqueue id
    | none => pure ()

/-- Wake the task that sweeps a site. -/
def wakeSweep (site : Nat) : Sim Unit := do
  let sweeping := (← get).tasks.find? fun task =>
    match task.job with
    | .sweep known _ => known == site
    | _ => false
  match sweeping with
  | some task => enqueue task.id
  | none => pure ()

/-- Do what a change of a site asks for. -/
def performSite (p : Provider) (site : Nat) : Site.Effect → Sim Unit
  | .note event =>
    match p.sites[site]? with
    | some known => trace (event.line p.config.name known.destination)
    | none => pure ()
  | .wake request => wakeRequest site request
  | .close e => discard (spawn (.close e.conn (some ⟨site, e.info.id⟩) none))
  | .openForQueue opening => discard (spawn (.openForQueue site opening))
  | .stopSweep => wakeSweep site
  | .wakeDrain => wakeDrain site
  | .setGraceTimer none => clearTimer (.grace site)
  | .setGraceTimer (some graceEnd) =>
    discard (sleepUntil (.grace site) graceEnd (.drain site))

/-- Do what a change of a provider asks for. -/
def perform (p : Provider) : Provider.Effect → Sim Unit
  | .site index effect => performSite p index effect
  | .note event => trace (event.line p.config.name)
  | .startSweep site => discard (spawn (.sweep site none))
  | .startDisposal disposal => discard (spawn (.dispose disposal none false))
  | .watchDrain site disposal => watchDrain site disposal
  | .wakeDisposal disposal => wakeDisposal disposal

/-- Change the provider, if it keeps pools, and do what the change asks for. -/
def changeReporting (absent : α) (change : Moment → Provider → α × Provider.Change) : Sim α := do
  let s ← get
  match s.supply with
  | .direct _ => return absent
  | .pooled p =>
    let (report, changed, effects) := change s.moment p
    set { s with supply := .pooled changed }
    effects.forM (perform changed)
    return report

/-- Change the provider, if it keeps pools, and do what the change asks for. -/
def change (change : Moment → Provider → Provider.Change) : Sim Unit :=
  changeReporting () fun m p => ((), change m p)

/-- Change the provider, if it keeps no pools. -/
def changeDirect (change : Direct → α × Direct) (absent : α) : Sim α := do
  let s ← get
  match s.supply with
  | .pooled _ => return absent
  | .direct p =>
    let (report, changed) := change p
    set { s with supply := .direct changed }
    return report

end ConnectionPool.Simulation
