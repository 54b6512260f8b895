import Nq.Sql.Table
import Nq.Sql.Real
import Nq.Sql.Query
import Nq.Sql.Replace
import Nq.Sql.Commits
import Nq.Text.Percent
import Nq.Text.Words
import Nq.Findings.Finding
import Nq.Db.Schema
import Nq.Declarations.Declaration
import Nq.Declarations.Hygiene
import Nq.Publish.Batch
import Nq.Publish.Publish
import Nq.Publish.Serve
import Nq.Detect.Views
import Nq.Detect.Current
import Nq.Detect.Trend
import Nq.Detect.Witness
import Nq.Detect.Checks
import Nq.Lifecycle.Upsert
import Nq.Lifecycle.Masking
import Nq.Lifecycle.Update
import Nq.Lifecycle.Spec
import Nq.Lifecycle.Rows
import Nq.Import.Ingest
import Nq.Testimony.Coverage
import Nq.Lifecycle.Run
import Nq.Lifecycle.Persistence
import Nq.Lifecycle.Outage
import Nq.Lifecycle.Gaps
import Nq.Lifecycle.Suppression
import Nq.Lifecycle.Provenance
import Nq.Lifecycle.Reassertion
import Nq.Lifecycle.Work
import Nq.Detect.Distinct
import Nq.Detect.Fresh
import Nq.Publish.ScrapeTarget
import Nq.Publish.Histories
import Nq.Detect.Edges
import Nq.Coverage.Rules
import Nq.Coverage.Reconcile
import Nq.Coverage.Converge
import Nq.Coverage.Lookup
import Nq.Query.Gate
import Nq.Operator.Retirement
import Nq.Notify.Pending
import Nq.Notify.Storm
import Nq.Operator.Actions
import Nq.Operator.Steps
import Nq.Operator.Sticks
import Nq.Operator.Chain
import Nq.Store.Tables
import Nq.Store.Publish
import Nq.Store.Retention
import Nq.Store.Runs
import Nq.Store.Replaced
import Nq.Store.Admissible
import Nq.Store.Accepts
import Nq.Store.Pull
import Nq.Collections.Ordered
import Nq.Inquiry.Artifacts
import Nq.Text.Find
import Nq.Inquiry.Digest
import Nq.Codes.Delimited
import Nq.Collections.Checks
import Nq.Inquiry.Profile
import Nq.Inquiry.Request
import Nq.Inquiry.Ratchet
import Nq.Inquiry.Content
import Nq.Inquiry.Intent
import Nq.Inquiry.Execute
import Nq.Tls.Probe
import Nq.Inquiry.Target
import Nq.Inquiry.Sealing
import Nq.Reliance.Receipt
import Nq.Reliance.Decide
import Nq.Reliance.Evaluate
import Nq.Text.Canonical
import Nq.Inquiry.Canonical
import Nq.Receipts.Registry
import Nq.Receipts.Sound
import Nq.Collections.Latest
import Nq.Receipts.Check
import Nq.Receipts.Replay
import Nq.Receipts.Honest
import Nq.Receipts.Forged
import Nq.Dns.Message
import Nq.Dns.Probe
import Nq.Dns.Response
import Nq.Dns.Question
import Nq.Preflight.Result
import Nq.Preflight.WalState
import Nq.Preflight.WalSustained
import Nq.Preflight.DnsState
import Nq.Preflight.DiskState
import Nq.Preflight.IngestState
import Nq.Preflight.ServiceState
import Nq.Preflight.Grounded
import Nq.Preflight.Narrowing
import Nq.Preflight.Latest
import Nq.LeasePresence.Transport
import Nq.Inquiry.Rendered
import Nq.Inquiry.Report
import Nq.Inquiry.Cycle
import Nq.Inquiry.Activity
import Nq.Projection.Decode
import Nq.Projection.Dossier
import Nq.Files.Tree
import Nq.Projection.Import
import Nq.Projection.Testimony
import Nq.Files.Footprint
import Nq.Files.Lexical
import Nq.Projection.Confinement
import Nq.Projection.Snapshots
import Nq.Sentinel.Watch
import Nq.Sentinel.Alerts
import Nq.Sentinel.Healthy
import Nq.Lifecycle.Hysteresis
import Nq.Lifecycle.Flicker
import Nq.Text.Lines
import Nq.Metrics.Exposition
import Nq.Metrics.RoundTrip
import Nq.Logs.Collect
import Nq.Logs.Window
import Nq.Export.Snapshot
import Nq.Export.Watermark
import Nq.Export.Admissibility
import Nq.Dashboard.Controls
import Nq.Dashboard.Standing
import Nq.Inquiry.Reseal
import Nq.Lifecycle.Collector
import Nq.Receipts.Window
import Nq.Reliance.Reasons
import Nq.Reliance.Strictness
import Nq.Collections.Buckets
import Nq.Notify.Rollup
import Nq.Tls.Leaf
import Nq.Dns.Limits
import Nq.LeasePresence.Leases
import Nq.Projection.Premises
import Nq.Files.Contents
import Nq.Projection.Kept
import Nq.Lifecycle.Peak
import Nq.Lifecycle.Lineage
import Nq.Publish.Digest
import Nq.LeasePresence.KeaControl
import Nq.Receipts.Anchored
import Nq.Lifecycle.Maintenance
import Nq.Declarations.Conflict
import Nq.Dashboard.Dominance
import Nq.Regime.Badge
import Nq.DeclaredDeny.Policy
import Nq.DeclaredDeny.Rules
import Nq.Detect.SavedChecks
import Nq.Metrics.Survival
import Nq.Regime.CoOccurrence
import Nq.Lifecycle.Arguments
import Nq.Export.Key
import Nq.Testimony.Heartbeat
import Nq.Testimony.Resolution
import Nq.Sentinel.Publisher
import Nq.Db.Startup
import Nq.Agent.Provenance
