import PathSpace.Logging.Directive
import PathSpace.Redaction.Redactor
import PathSpace.Scenario.Drill
import PathSpace.Scenario.Run
import PathSpace.Settings.Overlay
import PathSpace.Proofs.Address.Glob
import PathSpace.Proofs.Address.Path
import PathSpace.Proofs.Address.Selector
import PathSpace.Proofs.Address.Wildcard
import PathSpace.Proofs.Address.Filling
import PathSpace.Proofs.Gathering.Aggregator
import PathSpace.Proofs.Collections.List
import PathSpace.Proofs.Collections.SortedMap
import PathSpace.Proofs.Time.Order
import PathSpace.Proofs.Datum.Samples
import PathSpace.Proofs.Fault.Computation
import PathSpace.Proofs.Storing.MemoryStore
import PathSpace.Proofs.Listening.Answers
import PathSpace.Proofs.Listening.Custody
import PathSpace.Proofs.Listening.HandleTable
import PathSpace.Proofs.Listening.HandleMap
import PathSpace.Proofs.Routing.Operations
import PathSpace.Proofs.Routing.Failures
import PathSpace.Proofs.Network.Boards
import PathSpace.Proofs.Network.Events
import PathSpace.Proofs.Network.Desk
import PathSpace.Proofs.Network.Seat
import PathSpace.Proofs.Network.Audiences
import PathSpace.Proofs.Network.Runs
import PathSpace.Proofs.Network.Hosts
import PathSpace.Proofs.Network.Subscriptions
import PathSpace.Proofs.Network.Conversations
import PathSpace.Proofs.Network.Still
import PathSpace.Proofs.Network.Plain
import PathSpace.Proofs.Network.Gathered
import PathSpace.Proofs.Network.Asking
import PathSpace.Proofs.Network.Getting
import PathSpace.Proofs.Network.Upkeep
import PathSpace.Proofs.Network.LastWrites
import PathSpace.Proofs.Network.Sites
import PathSpace.Proofs.Network.Books
import PathSpace.Proofs.Network.Chores
import PathSpace.Proofs.Network.Agreement
import PathSpace.Proofs.Network.Refusals
import PathSpace.Proofs.Network.Visits
import PathSpace.Proofs.Network.Failures
import PathSpace.Proofs.Network.Traffic
import PathSpace.Proofs.Storing.Newest
import PathSpace.Proofs.Gathering.ArrivalOrder
import PathSpace.Proofs.Network.Resolution
import PathSpace.Proofs.Text.Utf8
import PathSpace.Proofs.Decimal.Integer
import PathSpace.Proofs.Address.Properties
import PathSpace.Proofs.Datum.Rereading
import PathSpace.Proofs.Network.View
import PathSpace.Proofs.Listening.Sweep
import PathSpace.Proofs.Listening.Probing
import PathSpace.Proofs.Listening.Stage
import PathSpace.Proofs.Listening.Containment
import PathSpace.Proofs.Gathering.Snapshot
import PathSpace.Proofs.Address.Segments
import PathSpace.Proofs.Network.TearingDown
import PathSpace.Proofs.Address.Placing
import PathSpace.Proofs.Gathering.Condensing
import PathSpace.Proofs.Time.DateTime
import PathSpace.Proofs.Datum.Registering
import PathSpace.Proofs.Datum.Decoding
import PathSpace.Proofs.Network.Dropping
import PathSpace.Proofs.Network.Readings
import PathSpace.Proofs.Network.Series
import PathSpace.Proofs.Redaction.Fields
import PathSpace.Proofs.Redaction.Tokens
import PathSpace.Proofs.Redaction.Locators
