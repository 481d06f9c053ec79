import AssetPilot.Lib.Table
import AssetPilot.Lib.Transaction
import AssetPilot.Lib.System
import AssetPilot.Models.Enums
import AssetPilot.Models.Rows
import AssetPilot.Core.Exceptions
import AssetPilot.Core.Session
import AssetPilot.Repositories.Base
import AssetPilot.Repositories.Tables
import AssetPilot.Services.DeviceLogService
import AssetPilot.Services.AssignmentService
import AssetPilot.Services.RequestService
import AssetPilot.Services.ShippingService
import AssetPilot.Services.SupportService
import AssetPilot.Services.ExtensionService
import AssetPilot.Services.InventoryService
import AssetPilot.Core.Security
import AssetPilot.Services.UserService
import AssetPilot.Schemas.Payloads
import AssetPilot.Operations
import AssetPilot.Custody.Model
import AssetPilot.Custody.Laws
import AssetPilot.Custody.Ownership
import AssetPilot.Custody.People
import AssetPilot.Custody.Tickets
import AssetPilot.Custody.View
import AssetPilot.Custody.Refinement
import AssetPilot.Invariants.Store
import AssetPilot.Invariants.OneClaim
import AssetPilot.Invariants.Ownership
import AssetPilot.Invariants.People
import AssetPilot.Invariants.Tickets
import AssetPilot.Invariants.Shipping
import AssetPilot.Invariants.EndedRequests
import AssetPilot.Lib.Replay
import AssetPilot.Invariants.Timeline
import AssetPilot.Lib.Interleaving
import AssetPilot.Concurrency.UnitOfWork
import AssetPilot.Concurrency.Consistency
import AssetPilot.Concurrency.Commits
import AssetPilot.Concurrency.Allocation
import AssetPilot.Concurrency.Decisions
import AssetPilot.Concurrency.Serialisation
import AssetPilot.Invariants.Audit
import AssetPilot.Invariants.Ranges
import AssetPilot.Effects.Inversion
import AssetPilot.Invariants.ManagerGate
import AssetPilot.Custody.Lifecycle
import AssetPilot.Invariants.Closings
import AssetPilot.Invariants.Dangling
import AssetPilot.Invariants.Lifecycle
import AssetPilot.Invariants.Coherence
import AssetPilot.Lib.Weakest
import AssetPilot.Repositories.Outcomes
import AssetPilot.Invariants.Answers
import AssetPilot.Core.Identifiers
import AssetPilot.Core.Verification
import AssetPilot.Auth.System
import AssetPilot.Auth.Escalation
import AssetPilot.Auth.Refresh
import AssetPilot.Invariants.Suggestions
import AssetPilot.Invariants.Failures
import AssetPilot.Custody.Returns
import AssetPilot.Effects.Items
import AssetPilot.Effects.Returns
import AssetPilot.Invariants.Categories
import AssetPilot.Invariants.ClientDevices
import AssetPilot.Invariants.Escalations
import AssetPilot.Invariants.QueueDecisions
import AssetPilot.Listings.Outbound
import AssetPilot.Listings.Pages
import AssetPilot.Listings.Returns
import AssetPilot.Listings.Search
import AssetPilot.Listings.Timeline
import AssetPilot.Auth.RoundTrip
import AssetPilot.Effects.Log
import AssetPilot.Invariants.Edits
import AssetPilot.Invariants.Equipped
import AssetPilot.Listings.Dashboard
import AssetPilot.Listings.LongestFree
import AssetPilot.Lib.Evolution
import AssetPilot.Effects.Users
import AssetPilot.Invariants.History
import AssetPilot.Api.Responses
import AssetPilot.Api.Routers
import AssetPilot.Api.System
import AssetPilot.Api.Privileges
import AssetPilot.Api.Answers
import AssetPilot.Invariants.Documented
import AssetPilot.Invariants.Acts
import AssetPilot.Repositories.Details
import AssetPilot.Services.Views
import AssetPilot.Listings.ItemDetail
import AssetPilot.Listings.WorkLists
import AssetPilot.Invariants.Offers
import AssetPilot.Concurrency.Creations
import AssetPilot.Lib.Latch
import AssetPilot.Concurrency.Extensions
import AssetPilot.Concurrency.Deactivation
import AssetPilot.Invariants.Progress
import AssetPilot.Invariants.Recovery
import AssetPilot.Lib.Coupling
import AssetPilot.Secrecy.Stores
import AssetPilot.Secrecy.Users
import AssetPilot.Secrecy.Services
import AssetPilot.Secrecy.System
import AssetPilot.Secrecy.Views
