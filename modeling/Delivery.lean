import Delivery.Charts.Editor
import Delivery.Config.Telemetry
import Delivery.History.Queries
import Delivery.Proofs.Charts.Atomicity
import Delivery.Proofs.Charts.Drafts
import Delivery.Proofs.Charts.Editing
import Delivery.Proofs.Charts.Isolation
import Delivery.Proofs.Charts.Latest
import Delivery.Proofs.Charts.Metrics
import Delivery.Proofs.Charts.Numbering
import Delivery.Proofs.Charts.Ranking
import Delivery.Proofs.Charts.Refusals
import Delivery.Proofs.Charts.Upgrades
import Delivery.Proofs.Charts.Values
import Delivery.Proofs.Concord
import Delivery.Proofs.Domain.RoundTrip
import Delivery.Proofs.Domain.Version
import Delivery.Proofs.FanOut.Batches
import Delivery.Proofs.FanOut.Coverage
import Delivery.Proofs.FanOut.Reports
import Delivery.Proofs.FanOut.Schedules
import Delivery.Proofs.History.Deployments
import Delivery.Proofs.History.Inheritance
import Delivery.Proofs.History.RunLookup
import Delivery.Proofs.History.Trail
import Delivery.Proofs.History.UpgradeTrail
import Delivery.Proofs.Json.Paths
import Delivery.Proofs.Locks
import Delivery.Proofs.Provenance.Compact
import Delivery.Proofs.Provenance.Revisions
import Delivery.Proofs.Store.Buckets
import Delivery.Proofs.Store.Confined
import Delivery.Proofs.Store.Overrides
import Delivery.Proofs.Store.Ranks
import Delivery.Proofs.Store.Trail
import Delivery.Proofs.Webhook.Accounts
import Delivery.Proofs.Webhook.Authentication
import Delivery.Proofs.Webhook.Deliveries
import Delivery.Proofs.Webhook.External
import Delivery.Proofs.Webhook.Grants
import Delivery.Proofs.Webhook.Redelivery
import Delivery.Proofs.Webhook.Success
import Delivery.Proofs.Webhook.Topology
import Delivery.Proofs.Webhook.Triggers
import Delivery.Proofs.Webhook.Writes
import Delivery.Rehearsal.Fixtures
import Delivery.Rehearsal.Samples
import Delivery.Rehearsal.Script
import Delivery.Rehearsal.Session
import Delivery.Webhook.ApiKey
import Delivery.Webhook.Ingestion
import Delivery.Proofs.Charts.Deltas
import Delivery.Proofs.Text.Base64
import Delivery.Proofs.Text.Decimal
import Delivery.Proofs.Text.Pieces
import Delivery.Proofs.Webhook.ApiKeys
import Delivery.Proofs.Binary64.Rounding
import Delivery.Proofs.Binary64.Shortest
import Delivery.Proofs.Json.Skipped
import Delivery.Proofs.Json.Numerals
import Delivery.Proofs.Json.Spelling
import Delivery.Proofs.Json.Followed
import Delivery.Proofs.Json.Passing
import Delivery.Proofs.Json.Views
import Delivery.Proofs.Provenance.Meaning
import Delivery.Proofs.Charts.Families
import Delivery.Proofs.Store.Batches
import Delivery.Proofs.Store.Deployed
import Delivery.Proofs.Store.Sequences
