import ConnectionPool.Duration
import ConnectionPool.Instant
import ConnectionPool.Text.Printable
import ConnectionPool.Text.Blank
import ConnectionPool.Text.Numeral
import ConnectionPool.Text.Quoted
import ConnectionPool.SipHash
import ConnectionPool.Error
import ConnectionPool.Limit
import ConnectionPool.Destination
import ConnectionPool.Config
import ConnectionPool.Config.Defaults
import ConnectionPool.Status
import ConnectionPool.Connection
import ConnectionPool.Pool
import ConnectionPool.Site
import ConnectionPool.Site.Release
import ConnectionPool.Site.Acquire
import ConnectionPool.Site.Drain
import ConnectionPool.Provider
import ConnectionPool.Provider.Disposal
import ConnectionPool.Direct
import ConnectionPool.EventLog
import ConnectionPool.Transport
import ConnectionPool.Gate
import ConnectionPool.Sweep
import ConnectionPool.Simulation
import ConnectionPool.Simulation.Effects
import ConnectionPool.Simulation.Connecting
import ConnectionPool.Simulation.Acquiring
import ConnectionPool.Simulation.Tasks
import ConnectionPool.Simulation.Time
import ConnectionPool.Scenario
import ConnectionPool.Proofs.Lists
import ConnectionPool.Proofs.Site.Parts
import ConnectionPool.Proofs.Site.Cases
import ConnectionPool.Proofs.Site.Run
import ConnectionPool.Proofs.Site.Queue
import ConnectionPool.Proofs.Site.Balance
import ConnectionPool.Proofs.Site.Openings
import ConnectionPool.Proofs.Site.Service
import ConnectionPool.Proofs.Site.Requests
import ConnectionPool.Proofs.Site.Holdings
import ConnectionPool.Proofs.Site.Demand
import ConnectionPool.Proofs.Site.Fairness
import ConnectionPool.Proofs.Provider.Moves
import ConnectionPool.Proofs.Provider.Run
import ConnectionPool.Proofs.Provider.Links
import ConnectionPool.Proofs.Provider.Accounting
import ConnectionPool.Proofs.Provider.Conservation
import ConnectionPool.Proofs.Provider.Custody
import ConnectionPool.Proofs.Provider.Bench
import ConnectionPool.Proofs.Site.Waiting
import ConnectionPool.Proofs.Provider.Waiters
import ConnectionPool.Proofs.Provider.Resolution
import ConnectionPool.Proofs.Site.Threads
import ConnectionPool.Proofs.Site.Places
import ConnectionPool.Proofs.Site.Crossings
import ConnectionPool.Proofs.Site.Outcomes
import ConnectionPool.Proofs.Site.Returns
import ConnectionPool.Proofs.Site.Order
import ConnectionPool.Proofs.Site.Closed
import ConnectionPool.Proofs.Site.Wakeup
import ConnectionPool.Proofs.Site.Grace
import ConnectionPool.Proofs.Provider.Disposals
import ConnectionPool.Proofs.Provider.Departures
import ConnectionPool.Proofs.Provider.Retirement
import ConnectionPool.Proofs.Site.Bare
import ConnectionPool.Proofs.Provider.Entrances
import ConnectionPool.Proofs.Provider.Finality
import ConnectionPool.Proofs.Provider.Unwinding
import ConnectionPool.Proofs.Provider.Succession
import ConnectionPool.Proofs.Site.Freshness
import ConnectionPool.Proofs.Provider.Abandonment
import ConnectionPool.Proofs.Rank
import ConnectionPool.Proofs.Site.Refusals
import ConnectionPool.Proofs.Site.Cancellation
import ConnectionPool.Proofs.Site.Staleness
import ConnectionPool.Proofs.Site.Failures
import ConnectionPool.Proofs.Site.HandOver
import ConnectionPool.Proofs.Site.Claims
import ConnectionPool.Proofs.Site.Eviction
import ConnectionPool.Proofs.Provider.Cancellation
import ConnectionPool.Proofs.Provider.Failures
import ConnectionPool.Proofs.Provider.Projection
import ConnectionPool.Proofs.Provider.Separation
import ConnectionPool.Proofs.Provider.Confinement
import ConnectionPool.Proofs.Provider.Independence
import ConnectionPool.Proofs.Provider.Upkeep
import ConnectionPool.Proofs.Simulation.Carried
import ConnectionPool.Proofs.Simulation.Tameness
import ConnectionPool.Proofs.Simulation.Sweeping
import ConnectionPool.Proofs.Simulation.Rounds
import ConnectionPool.Proofs.Scenario.Upkeep
import ConnectionPool.Proofs.Scenario.Staleness
import ConnectionPool.Proofs.Config.Defaults
import ConnectionPool.Proofs.Config.Settings
import ConnectionPool.Proofs.Scenario.Deadlines
import ConnectionPool.Proofs.Transport.Books
import ConnectionPool.Proofs.Scenario.Tightening
import ConnectionPool.Proofs.Site.Records
