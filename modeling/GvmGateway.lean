import GvmGateway.Library.FiniteMap
import GvmGateway.Library.Calendar
import GvmGateway.Library.Calls
import GvmGateway.Library.Decimal
import GvmGateway.Library.FixedWindow
import GvmGateway.Library.InputLoop
import GvmGateway.Library.Mealy
import GvmGateway.Library.TransitionSystem
import GvmGateway.Rest.Shutdown
import GvmGateway.Rest.ShutdownTheorems
import GvmGateway.Rest.ShutdownStart
import GvmGateway.Rest.PeerAddr
import GvmGateway.Rest.PeerAddrTheorems
import GvmGateway.Rest.AuthPolicy
import GvmGateway.Rest.RateLimit
import GvmGateway.Rest.RateLimitWindows
import GvmGateway.Rest.RateLimitQuota
import GvmGateway.Rest.RateLimitRequests
import GvmGateway.Rest.Tasks
import GvmGateway.Rest.TaskTheorems
import GvmGateway.Domain.Error
import GvmGateway.Domain.Inputs
import GvmGateway.Domain.Session
import GvmGateway.Domain.Time
import GvmGateway.Domain.SessionTheorems
import GvmGateway.Domain.SessionRuns
import GvmGateway.Domain.SessionInspection
import GvmGateway.Domain.TimeTheorems
import GvmGateway.App.Jobs
import GvmGateway.App.Gateway
import GvmGateway.App.SessionLifecycle
import GvmGateway.App.SessionTeardown
import GvmGateway.App.ExportJobs
import GvmGateway.App.SessionHolds
import GvmGateway.Gvmd.SessionClient
import GvmGateway.Gvmd.SessionClientTheorems
import GvmGateway.Gvmd.SharedSession
import GvmGateway.App.JobIsolation
import GvmGateway.App.JobRetention
import GvmGateway.Gvmd.Filters
import GvmGateway.Gvmd.FilterTheorems
import GvmGateway.Library.Pages
import GvmGateway.Gvmd.PageTheorems
import GvmGateway.Gvmd.Lists
import GvmGateway.Gvmd.ListTheorems
import GvmGateway.Gvmd.NvtTheorems
import GvmGateway.Gvmd.Tasks
import GvmGateway.Gvmd.TaskTheorems
import GvmGateway.Gvmd.ScanConfigs
import GvmGateway.Gvmd.KindTheorems
import GvmGateway.Gvmd.Identity
import GvmGateway.Gvmd.IdentityTheorems
import GvmGateway.App.ReportExport
import GvmGateway.App.ReportExportTheorems
import GvmGateway.App.PageLoopTheorems
import GvmGateway.Rest.BasicAuth
import GvmGateway.Rest.BasicAuthSteps
import GvmGateway.Rest.BasicExports
import GvmGateway.Rest.BasicSessions
import GvmGateway.App.Service
import GvmGateway.App.SessionOwners
import GvmGateway.App.AuditTrail
import GvmGateway.Domain.SessionClock
import GvmGateway.App.SessionClocks
import GvmGateway.Server.Drain
import GvmGateway.Server.DrainTheorems
import GvmGateway.Server.TlsListener
import GvmGateway.Library.Threads
import GvmGateway.Domain.Credentials
import GvmGateway.Gvmd.Errors
import GvmGateway.Gvmd.Credentials
import GvmGateway.Gvmd.Connections
import GvmGateway.Gvmd.ConnectionPrograms
import GvmGateway.Gvmd.ConnectionTheorems
import GvmGateway.Rest.Credentials
import GvmGateway.Rest.CredentialTheorems
import GvmGateway.Rest.Problems
import GvmGateway.Rest.Security
import GvmGateway.Server.Requests
import GvmGateway.Server.RequestTheorems
import GvmGateway.Library.FixedWindowBursts
import GvmGateway.Rest.RateLimitBursts
import GvmGateway.Server.RequestQuota
import GvmGateway.Library.Json
import GvmGateway.Library.JsonSchema
import GvmGateway.Rest.OpenApi
import GvmGateway.Rest.NullableSchemas
import GvmGateway.Rest.NullableSchemaTheorems
import GvmGateway.Rest.OpenApiSchemas
import GvmGateway.Rest.OpenApiSecurity
