import ComponentHost.Host.Watch
import ComponentHost.Json.Status
import ComponentHost.Main
import ComponentHost.Report.Failure
import ComponentHost.Proofs.Ledger.Conservation
import ComponentHost.Proofs.Ledger.ClosingSequence
import ComponentHost.Proofs.Ledger.AlarmGuard
import ComponentHost.Proofs.Ledger.WaiterAddress
import ComponentHost.Proofs.Post.Mailbox
import ComponentHost.Proofs.Host.Outline
import ComponentHost.Proofs.Host.Act.Messaging
import ComponentHost.Proofs.Host.Component.LifecycleSteps
import ComponentHost.Proofs.Host.Act.Exchanges
import ComponentHost.Proofs.Host.Act.Roster
import ComponentHost.Proofs.Host.Component.OverlappedStop
import ComponentHost.Proofs.Host.Component.ShutdownRoster
import ComponentHost.Proofs.Host.Exchange.AlarmGuard
import ComponentHost.Proofs.Host.Actor.HookWork
import ComponentHost.Proofs.Host.Actor.Steps
import ComponentHost.Proofs.Host.Act.Actors
import ComponentHost.Proofs.Host.Act.Calls
import ComponentHost.Proofs.Host.Exchange.RequestDeadline
import ComponentHost.Proofs.Host.Actor.Mailboxes
import ComponentHost.Proofs.Host.Actor.WorkInHand
import ComponentHost.Proofs.Host.Actor.Stop
import ComponentHost.Proofs.Host.Actor.HookOrder
import ComponentHost.Proofs.Host.Actor.Conduct
import ComponentHost.Proofs.Host.Act.Lifecycle
import ComponentHost.Proofs.Host.Component.RosterSeats
import ComponentHost.Proofs.Host.Component.StopCleanup
import ComponentHost.Proofs.Host.Act.Listing
import ComponentHost.Proofs.Host.Component.Membership
import ComponentHost.Proofs.Host.Component.Routes
import ComponentHost.Proofs.Host.Component.SpawnSteps
import ComponentHost.Proofs.Host.Component.OverlappingSpawns
import ComponentHost.Proofs.Host.Component.SpawnWinner
import ComponentHost.Proofs.Host.Mail.InTransit
import ComponentHost.Proofs.Host.Exchange.OutcomeAddress
import ComponentHost.Proofs.Host.ClosedHost
import ComponentHost.Proofs.Host.Act.OwnSteps
import ComponentHost.Proofs.Host.Exchange.Targets
import ComponentHost.Proofs.Host.Component.ShutdownSteps
import ComponentHost.Proofs.Host.Component.ShutdownDrain
import ComponentHost.Proofs.Ledger.Delivery
import ComponentHost.Proofs.Ledger.Conclusions
import ComponentHost.Proofs.Ledger.AlarmLog
import ComponentHost.Proofs.Ledger.Clearing
import ComponentHost.Proofs.Ledger.Interchange
import ComponentHost.Proofs.Host.Schedule
import ComponentHost.Proofs.Host.Exchange.AlarmRuns
import ComponentHost.Proofs.Host.Exchange.SweepAndCleanup
import ComponentHost.Proofs.Host.Component.MailboxCapacity
import ComponentHost.Proofs.Host.Component.FailedSpawn
import ComponentHost.Proofs.Host.Exchange.RequestOutcome
import ComponentHost.Proofs.Host.Actor.OwedOutcomes
import ComponentHost.Proofs.Host.Actor.GuestCalls
import ComponentHost.Proofs.Host.Exchange.Conclusions
import ComponentHost.Proofs.Host.Exchange.RequestFailure
import ComponentHost.Proofs.Host.Component.Restart
import ComponentHost.Proofs.Host.Mail.Postings
import ComponentHost.Proofs.Host.Mail.PostingRuns
import ComponentHost.Proofs.Host.Mail.Counters
import ComponentHost.Proofs.Host.Exchange.ResponseCounter
import ComponentHost.Proofs.Post.LineOrder
import ComponentHost.Proofs.Host.Mail.WaitingSenders
import ComponentHost.Proofs.Host.Mail.Destination
import ComponentHost.Proofs.Guest.Reply
import ComponentHost.Proofs.Host.Actor.RequestDispatch
import ComponentHost.Proofs.Host.AtRest
import ComponentHost.Proofs.Host.Component.OrderStart
import ComponentHost.Proofs.Host.Component.LoneSpawn
import ComponentHost.Proofs.Host.Component.LoneSpawnRun
import ComponentHost.Proofs.Command.Startup
import ComponentHost.Proofs.Guest.Deadline
import ComponentHost.Proofs.Guest.Accounts
import ComponentHost.Proofs.Json.Lexical
import ComponentHost.Proofs.Json.RoundTrip
import ComponentHost.Proofs.Toml.Keys
import ComponentHost.Proofs.Toml.Decode
import ComponentHost.Proofs.Config.Schema
import ComponentHost.Proofs.Config.RoundTrip
import ComponentHost.Proofs.Config.Partial
