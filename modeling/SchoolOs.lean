import SchoolOs.Runs
import SchoolOs.Context
import SchoolOs.TenantConsistency
import SchoolOs.RlsBackstop
import SchoolOs.Iam
import SchoolOs.PlatformRoles
import SchoolOs.Confinement
import SchoolOs.Escalation
import SchoolOs.TokenFamilies
import SchoolOs.Lockout
import SchoolOs.PasswordSessions
import SchoolOs.Serial
import SchoolOs.LoginAnswers
import SchoolOs.Suspension
import SchoolOs.Grants
import SchoolOs.RowOrders
import SchoolOs.Recipients
import SchoolOs.Channels
import SchoolOs.Handlers
import SchoolOs.FanOut
import SchoolOs.Dispatcher
import SchoolOs.Batches
import SchoolOs.DeadLetters
import SchoolOs.Processes
import SchoolOs.Workers
import SchoolOs.OutboxClaims
import SchoolOs.ResetRaces
import SchoolOs.ResetStatements
import SchoolOs.LoginStatements
import SchoolOs.FailedLogins
import SchoolOs.SchoolModels
import SchoolOs.DoubleBookings
import SchoolOs.ConflictReports
import SchoolOs.PublishGate
import SchoolOs.PublishStatements
import SchoolOs.PublishRaces
import SchoolOs.Academics
import SchoolOs.Enrollments
import SchoolOs.Placement
import SchoolOs.EnrollmentTimeline
import SchoolOs.EnrollmentStatements
import SchoolOs.EnrollmentRaces
import SchoolOs.Attendance
import SchoolOs.Ownership
import SchoolOs.SchoolPeople
import SchoolOs.References
import SchoolOs.TenantClosure
import SchoolOs.Pagination
import SchoolOs.AuditVisibility
import SchoolOs.Chains
import SchoolOs.PersonMerges
import SchoolOs.AcademicCalendar
import SchoolOs.CurrentYear
import SchoolOs.TermBounds
import SchoolOs.AttendanceLifecycle
import SchoolOs.AttendanceMarks
import SchoolOs.RollOfDay
import SchoolOs.Handled
import SchoolOs.HardDeletes
import SchoolOs.Parents
import SchoolOs.Prechecks
import SchoolOs.KeyRequests
import SchoolOs.UniqueKeys
import SchoolOs.AssignmentRaces
import SchoolOs.Transactions
import SchoolOs.MarkingStatements
import SchoolOs.FrozenRecords
import SchoolOs.Flags
import SchoolOs.Guardians
import SchoolOs.PrimaryGuardians
import SchoolOs.Announcements
import SchoolOs.AggregateVersions
import SchoolOs.Scripts
import SchoolOs.VersionedRows
import SchoolOs.VersionedScripts
import SchoolOs.VersionedRecords
import SchoolOs.AnnouncementScripts
import SchoolOs.LostUpdates
import SchoolOs.StaleWriters
import SchoolOs.PublishedOnce
import SchoolOs.Contests
import SchoolOs.CreateScripts
import SchoolOs.ParentLinks
import SchoolOs.Creates
import SchoolOs.RaceLosers
import SchoolOs.AuditEncodings
import SchoolOs.CsvHelpers
import SchoolOs.Savepoints
import SchoolOs.Imports
import SchoolOs.ImportRows
import SchoolOs.ImportAccounts
import SchoolOs.Registers
import SchoolOs.SlotConflicts
import SchoolOs.Audiences
import SchoolOs.GrantGuards
import SchoolOs.BulkUpserts
import SchoolOs.Keysets
import SchoolOs.Documents
import SchoolOs.ServedDocuments
import SchoolOs.RateLimits
import SchoolOs.PageWalks
import SchoolOs.SpecialLists
import SchoolOs.Base64
import SchoolOs.JsonTexts
import SchoolOs.IsoTexts
import SchoolOs.Cursors
import SchoolOs.Numerals
import SchoolOs.Backoff
import SchoolOs.MemoryWindows
import SchoolOs.UlidOrder
import SchoolOs.MembershipEnds
import SchoolOs.Reconciling
import SchoolOs.RoleGrants
import SchoolOs.PermissionRegistry
import SchoolOs.DeploymentConvergence
import SchoolOs.WhiteSpace
import SchoolOs.CsvWriter
import SchoolOs.Exports
import SchoolOs.ExportRoundTrip
import SchoolOs.Reimports
import SchoolOs.Transfers
import SchoolOs.RegisterMoves
import SchoolOs.Reports
import SchoolOs.ReportJobs
import SchoolOs.AttendanceSummary
import SchoolOs.ReportFiles
import SchoolOs.Inboxes
import SchoolOs.Yields
import SchoolOs.PeopleEffects
import SchoolOs.Contacts
import SchoolOs.ContactOwners
import SchoolOs.ParentSides
import SchoolOs.OwnedRows
import SchoolOs.SchoolRequests
import SchoolOs.Within
import SchoolOs.Isolation
