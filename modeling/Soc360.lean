import Soc360.Store.Machine
import Soc360.Store.Table
import Soc360.Store.Ledger
import Soc360.Store.Gather
import Soc360.Store.Scoped
import Soc360.Store.Confined
import Soc360.Store.Expiring
import Soc360.Store.Network
import Soc360.Store.ReadCommitted
import Soc360.Scans.Config
import Soc360.Scans.State
import Soc360.Scans.Lifecycle
import Soc360.Scans.Transactions
import Soc360.Scans.Isolation
import Soc360.Scans.Validity
import Soc360.Scans.Schemas
import Soc360.Scans.AtMostOnce
import Soc360.Scans.Quota
import Soc360.Auth.Denylist
import Soc360.Auth.BatchRevocation
import Soc360.Auth.TokenLifetime
import Soc360.Auth.Tracking
import Soc360.Events.Consumer
import Soc360.Auth.Flows
import Soc360.Auth.Transactions
import Soc360.Auth.SessionCap
import Soc360.Auth.LockOrder
import Soc360.Auth.Rotation
import Soc360.Auth.Resurrection
import Soc360.Auth.PasswordChange
import Soc360.Auth.Credentials
import Soc360.Scans.Completion
import Soc360.Events.Retries
import Soc360.Locks.DistLock
import Soc360.Locks.Ownership
import Soc360.Locks.Registry
import Soc360.Users.Service
import Soc360.Users.Deactivation
import Soc360.Users.Policy
import Soc360.Users.Emails
import Soc360.Tenants.Service
import Soc360.Tenants.Plans
import Soc360.Tenants.Deactivation
import Soc360.Text.Regex
import Soc360.Text.Python
import Soc360.Assets.Service
import Soc360.Assets.Validity
import Soc360.Vulnerabilities.Service
import Soc360.Vulnerabilities.Closing
import Soc360.Enrichment.Queries
import Soc360.Enrichment.Prompts
import Soc360.Enrichment.Service
import Soc360.Enrichment.Runs
import Soc360.Enrichment.LateRuns
import Soc360.Reports.Service
import Soc360.Tenancy.Database
import Soc360.Tenancy.NonInterference
import Soc360.Auth.RateLimit
import Soc360.Auth.Lockouts
import Soc360.Auth.Unlocking
import Soc360.Frontend.Session
import Soc360.Frontend.SignOut
import Soc360.Frontend.RefreshRound
import Soc360.Text.Trim
import Soc360.Text.Documents
import Soc360.Text.Doubles
import Soc360.Text.JavaScript
import Soc360.Frontend.Forms
import Soc360.Frontend.Lossless
import Soc360.Store.UnitOfWork
import Soc360.Events.Publishing
import Soc360.Events.Plans
import Soc360.Events.Deliveries
import Soc360.Auth.LoginEvents
import Soc360.Payloads.Loaded
import Soc360.Payloads.Requests
import Soc360.Payloads.Users
import Soc360.Payloads.Tenants
import Soc360.Payloads.Crashes
import Soc360.Text.Joined
import Soc360.Vulnerabilities.Identity
import Soc360.Text.Pattern
import Soc360.Store.Firsts
import Soc360.Nmap.Findings
import Soc360.Nmap.Markers
import Soc360.Vulnerabilities.Upserts
import Soc360.Nmap.Mentions
import Soc360.Nmap.Scores
import Soc360.Ip.Blocks
import Soc360.Ip.Addresses
import Soc360.Ip.Boundaries
import Soc360.Text.Numerals
import Soc360.Ip.Texts
import Soc360.Ip.RoundTrips
import Soc360.Scans.Policy
import Soc360.Scans.Targets
import Soc360.Scans.Commands
import Soc360.Assets.Canonical
import Soc360.Ip.Widths
import Soc360.Assets.Widths
import Soc360.Store.Slots
import Soc360.Enrichment.Providers
import Soc360.Enrichment.Isolation
import Soc360.Text.Substitution
import Soc360.Enrichment.Citations
import Soc360.Enrichment.Occurrences
import Soc360.Vulnerabilities.Reported
import Soc360.Enrichment.PromptShape
import Soc360.Scans.JsonValues
import Soc360.Payloads.Patches
import Soc360.Tenants.Settings
import Soc360.Store.Paging
import Soc360.Tenancy.Pagination
import Soc360.Text.Hyphens
import Soc360.Payloads.Slugs
import Soc360.Store.Attempts
import Soc360.Nmap.Integers
import Soc360.Nmap.Parser
import Soc360.Store.Chunks
import Soc360.Nmap.Runner
import Soc360.Pii.Addresses
import Soc360.Pii.UserAgents
import Soc360.Text.Whole
import Soc360.Frontend.AssetValues
import Soc360.Frontend.Accepted
import Soc360.Dashboard.Summary
import Soc360.Dashboard.Cache
import Soc360.Tenancy.RowPolicies
import Soc360.Assets.Export
import Soc360.Nmap.Lifecycle
import Soc360.Enrichment.Retries
import Soc360.Frontend.Redirects
