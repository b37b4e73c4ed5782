import Towerdesk.Lib.Outcome
import Towerdesk.Lib.Table
import Towerdesk.Lib.Run
import Towerdesk.Lib.ReadWrite
import Towerdesk.Common
import Towerdesk.Tenancy
import Towerdesk.Directory
import Towerdesk.AccessControl
import Towerdesk.Portals
import Towerdesk.Maintenance.Constants
import Towerdesk.Maintenance.Policy
import Towerdesk.Maintenance.Request
import Towerdesk.Maintenance.Store
import Towerdesk.Maintenance.Triage
import Towerdesk.Maintenance.Entry
import Towerdesk.Maintenance.Intake
import Towerdesk.Maintenance.Assignment
import Towerdesk.Maintenance.Approval
import Towerdesk.Maintenance.Operation
import Towerdesk.Maintenance.Steps
import Towerdesk.Maintenance.Scene
import Towerdesk.Maintenance.Gate
import Towerdesk.Lib.Ledger
import Towerdesk.Maintenance.AuditTrail
import Towerdesk.Maintenance.Coherence
import Towerdesk.Maintenance.Queues
import Towerdesk.Maintenance.Frozen
import Towerdesk.Maintenance.Decisions
import Towerdesk.Maintenance.Terminal
import Towerdesk.Leases.Forms
import Towerdesk.Lib.Constraint
import Towerdesk.Lib.Transaction
import Towerdesk.Leases.History
import Towerdesk.Leases.Store
import Towerdesk.Leases.Contracts
import Towerdesk.Leases.MoveRequests
import Towerdesk.Leases.Operation
import Towerdesk.Leases.Changes
import Towerdesk.Leases.Scene
import Towerdesk.Leases.ActivePerUnit
import Towerdesk.Leases.CompositeStates
import Towerdesk.Leases.Books
import Towerdesk.Leases.Plans
import Towerdesk.Leases.OpenRequests
import Towerdesk.Lib.Replay
import Towerdesk.Leases.HistoryReplay
import Towerdesk.Leases.Period
import Towerdesk.Leases.Intervals
import Towerdesk.Leases.EjariLock
import Towerdesk.Lib.Faults
import Towerdesk.Leases.Termination
import Towerdesk.Leases.MoveInRaces
import Towerdesk.Lib.Base64
import Towerdesk.Lib.IsoDate
import Towerdesk.Lib.Keyset
import Towerdesk.Delivery.Task
import Towerdesk.Delivery.Listing
import Towerdesk.Delivery.Services
import Towerdesk.Delivery.Stranding
import Towerdesk.Delivery.Fanout
import Towerdesk.Access.Scopes
import Towerdesk.Access.Guard
import Towerdesk.Access.Isolation
import Towerdesk.Parking.Routes
import Towerdesk.Leases.ReviewAuthority
import Towerdesk.Maintenance.OwnerRecipients
import Towerdesk.Lib.Span
import Towerdesk.Units.Forms
import Towerdesk.Units.Service
import Towerdesk.Units.Ownership
import Towerdesk.Parking.Allocations
import Towerdesk.Parking.Grants
import Towerdesk.Users.Provisioning
import Towerdesk.Residency.Operation
import Towerdesk.Residency.SlotCalendar
import Towerdesk.Residency.EndedOccupancies
import Towerdesk.Lib.ReadCommitted
import Towerdesk.Residency.ParkingRaces
import Towerdesk.Delivery.Handover
import Towerdesk.Delivery.Retry
import Towerdesk.Delivery.RetryRaces
import Towerdesk.Lib.Program
import Towerdesk.Lib.RowLocks
import Towerdesk.Auth.Store
import Towerdesk.Auth.Repo
import Towerdesk.Auth.Redemption
import Towerdesk.Auth.SingleUse
import Towerdesk.Auth.Service
import Towerdesk.Owners.AccessGrants
import Towerdesk.Lib.Trail
import Towerdesk.Owners.GrantTrail
import Towerdesk.Owners.Operation
import Towerdesk.Owners.GrantRuns
import Towerdesk.Residents.InviteList
import Towerdesk.Residents.InviteRuns
import Towerdesk.Auth.Rotation
import Towerdesk.Messaging.Authority
import Towerdesk.Messaging.OwnerContacts
import Towerdesk.Lib.CursorPages
import Towerdesk.Lib.CursorText
import Towerdesk.Lib.Watermark
import Towerdesk.Messaging.Listing
import Towerdesk.Messaging.Unread
import Towerdesk.Messaging.ReadMarks
import Towerdesk.Access.RoleStore
import Towerdesk.Access.Roles
import Towerdesk.Access.UserAccess
import Towerdesk.Access.PlatformKeys
import Towerdesk.Access.RoleEdits
import Towerdesk.Access.RoleDeletion
import Towerdesk.Notifications.PushReceipts
import Towerdesk.Notifications.Starvation
import Towerdesk.Lib.JsonText
import Towerdesk.Residents.ResidentList
import Towerdesk.Residents.ResidentSearch
import Towerdesk.Visitors.Service
import Towerdesk.Visitors.Arrivals
import Towerdesk.Lib.SealedText
import Towerdesk.Parties.Identifiers
import Towerdesk.Parties.Provisioning
import Towerdesk.Parties.Exactness
import Towerdesk.Providers.Service
import Towerdesk.Providers.Standing
import Towerdesk.Providers.Moves
import Towerdesk.Providers.Recipients
import Towerdesk.Providers.Acceptance
import Towerdesk.Maintenance.BuildingCalls
import Towerdesk.Maintenance.StaffConfinement
import Towerdesk.Maintenance.Estimates
import Towerdesk.Maintenance.Threads
import Towerdesk.Maintenance.InternalNotes
import Towerdesk.Maintenance.UnreadComments
import Towerdesk.Leases.MoveButtons
import Towerdesk.Maintenance.DecisionNotices
import Towerdesk.Delivery.PushOnce
import Towerdesk.Lib.Cycles
import Towerdesk.Maintenance.Emissions
import Towerdesk.Maintenance.Reminders
import Towerdesk.Leases.Settlement
import Towerdesk.Providers.Withdrawal
import Towerdesk.Units.Csv
import Towerdesk.Lib.LivePages
import Towerdesk.Lib.TimeFeed
import Towerdesk.Notifications.Feed
import Towerdesk.Broadcasts.Visibility
import Towerdesk.Leases.Timeline
import Towerdesk.Lib.NullableKeyset
import Towerdesk.Residents.OccupancyPages
import Towerdesk.Lib.Numeral
import Towerdesk.Units.ImportRows
import Towerdesk.Units.DryRun
import Towerdesk.Parking.SlotImport
import Towerdesk.Lib.Regroup
import Towerdesk.Maintenance.RequesterContext
import Towerdesk.Maintenance.TenancyContext
import Towerdesk.Maintenance.Enrichment
import Towerdesk.Broadcasts.Targeting
import Towerdesk.Lib.Turns
import Towerdesk.Providers.Administrators
import Towerdesk.Lib.Places
import Towerdesk.Parking.ImportLines
import Towerdesk.Dashboard.Activity
import Towerdesk.Lib.LocalTime
import Towerdesk.Lib.TopOf
import Towerdesk.Lib.Tally
import Towerdesk.Dashboard.Overview
import Towerdesk.Access.Reprovisioning
import Towerdesk.Users.SecondCall
import Towerdesk.Units.SecondImport
import Towerdesk.Parking.SecondSlotImport
import Towerdesk.Units.BulkCreate
import Towerdesk.Leases.AccessItems
import Towerdesk.Leases.ItemFeed
import Towerdesk.Notifications.Realtime
import Towerdesk.Notifications.Mirror
import Towerdesk.Notifications.Kept
import Towerdesk.Auth.Validation
import Towerdesk.Notifications.Gateway
import Towerdesk.Delivery.Devices
import Towerdesk.Owners.Portfolio
import Towerdesk.Owners.PortfolioRuns
import Towerdesk.Parties.Resolution
import Towerdesk.Access.BuildingRoutes
import Towerdesk.Access.Tenants
