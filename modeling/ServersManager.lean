import ServersManager.Library.Pool
import ServersManager.Library.Notices
import ServersManager.Library.Table
import ServersManager.Library.JsonText
import ServersManager.Library.ShellWords
import ServersManager.DockerPs
import ServersManager.DockerRun
import ServersManager.Library.ShellSplice
import ServersManager.Bootstrap
import ServersManager.DockerInspect
import ServersManager.CaptureRebuild
import ServersManager.ServicesSync
import ServersManager.Rollback
import ServersManager.RollbackRun
import ServersManager.RollbackProtocol
import ServersManager.RollbackDelivery
import ServersManager.DockerListing
import ServersManager.ContainerCommands
import ServersManager.HealthCheck
import ServersManager.DomainCheck
import ServersManager.Insights
import ServersManager.InsightEdges
import ServersManager.Removal
import ServersManager.HostVerification
import ServersManager.Library.History
import ServersManager.SyncMirror
import ServersManager.Outage
import ServersManager.SnapshotHistory
import ServersManager.Redeployment
import ServersManager.Cooldown
import ServersManager.Transitions
import ServersManager.RollbackRequest
import ServersManager.RollbackAudit
import ServersManager.RollbackOutcome
import ServersManager.Library.Ledger
import ServersManager.Registration
import ServersManager.CertificateRecords
import ServersManager.Library.Trace
import ServersManager.ApiClient
import ServersManager.BrowserSessions
import ServersManager.Library.Schema
import ServersManager.LogMigration
import ServersManager.Library.Registry
import ServersManager.Tenancy
import ServersManager.TenantAlerts
import ServersManager.InsightScope
import ServersManager.AlertRules
import ServersManager.AlertServing
import ServersManager.AlertedChecks
import ServersManager.AlertCompleteness
import ServersManager.ListingAccounts
import ServersManager.ImageReferences
import ServersManager.CertificateStatus
import ServersManager.Library.Patterns
import ServersManager.IpAddress
import ServersManager.OpenSshKey
import ServersManager.CryptoService
import ServersManager.Library.Conversation
import ServersManager.AlertIsolation
import ServersManager.PressHold
import ServersManager.DomainFold
import ServersManager.Library.ReadCommitted
import ServersManager.SnapshotTransactions
import ServersManager.Library.Custody
import ServersManager.RollbackQueue
import ServersManager.RollbackExclusion
import ServersManager.RollbackSequence
import ServersManager.FailedRollbacks
import ServersManager.ServiceIdentity
import ServersManager.Library.Chronicle
import ServersManager.AuthSessions
import ServersManager.Library.Knowledge
import ServersManager.ServiceImages
import ServersManager.FixedImages
import ServersManager.CloudAccounts
import ServersManager.Library.Spacing
import ServersManager.CheckTriggers
