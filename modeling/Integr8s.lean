import Integr8s.Lib.RelyGuarantee
import Integr8s.Lib.UntilGoal
import Integr8s.Lib.PythonText
import Integr8s.Lib.PythonBytes
import Integr8s.Lib.Collection
import Integr8s.Lib.ExpiringStore
import Integr8s.Lib.SortedSet
import Integr8s.Lib.PriorityQueue
import Integr8s.Domain.Execution
import Integr8s.Domain.Events
import Integr8s.Domain.Idempotency
import Integr8s.Db.ExecutionRepository
import Integr8s.Proofs.ExecutionLifecycle
import Integr8s.Domain.Exceptions
import Integr8s.Infrastructure.QueueStore
import Integr8s.Infrastructure.World
import Integr8s.Domain.Runtimes
import Integr8s.Services.ExecutionQueue
import Integr8s.Services.ResultProcessor
import Integr8s.Proofs.AnnouncedEnd
import Integr8s.Services.Idempotency
import Integr8s.Dlq.Manager
import Integr8s.Events.Middlewares
import Integr8s.Events.Handlers
import Integr8s.Proofs.KeyCheck
import Integr8s.Proofs.KeyExclusion
import Integr8s.Proofs.HandledEvents
import Integr8s.Domain.Pods
import Integr8s.Services.EventMapper
import Integr8s.Proofs.PodOutput
import Integr8s.Scripts.Entrypoint
import Integr8s.Proofs.OutputFraming
import Integr8s.Services.UserSettings
import Integr8s.Proofs.SettingsUpdates
import Integr8s.Proofs.QueueCaps
import Integr8s.Proofs.QueueRefinement
import Integr8s.Proofs.CountedSlots
import Integr8s.Proofs.LetterSteps
import Integr8s.Proofs.StrandedLetters
import Integr8s.Proofs.BoundedRetries
import Integr8s.Domain.Notifications
import Integr8s.Infrastructure.Outcomes
import Integr8s.Infrastructure.NotificationStore
import Integr8s.Services.Notifications
import Integr8s.Proofs.ReadNotifications
import Integr8s.Infrastructure.AdminSettingsStore
import Integr8s.Services.RuntimeSettings
import Integr8s.Proofs.SettingsCache
import Integr8s.Proofs.LoginLockout
import Integr8s.Proofs.AwaitedCommands
import Integr8s.Proofs.LostRequests
import Integr8s.Proofs.FailedSubmissions
import Integr8s.Proofs.SchedulingRounds
import Integr8s.Proofs.SchedulingPasses
import Integr8s.Proofs.WorkConserving
import Integr8s.Proofs.NothingLost
import Integr8s.Lib.SlidingLog
import Integr8s.Lib.TokenBucket
import Integr8s.Services.RateLimit
import Integr8s.Proofs.TokenBound
import Integr8s.Proofs.RetryAfter
import Integr8s.Proofs.AlwaysAnswers
import Integr8s.Proofs.UsageReport
import Integr8s.Proofs.SettingsHistory
import Integr8s.Proofs.SettingsRestore
import Integr8s.Proofs.PodReports
import Integr8s.Db.NotificationRepository
import Integr8s.Proofs.TagFilter
import Integr8s.Lib.DecodedSize
import Integr8s.Lib.JsonText
import Integr8s.Events.Transport
import Integr8s.Proofs.MessageSize
import Integr8s.Proofs.PriorityAgreement
import Integr8s.Proofs.ThrottleBound
import Integr8s.Proofs.UserFilters
import Integr8s.Proofs.CsrfValidation
import Integr8s.Proofs.SettingsVersions
import Integr8s.Proofs.Deletions
import Integr8s.Proofs.AdmittedLimits
import Integr8s.Proofs.EnforcedLimits
import Integr8s.Proofs.ReplayAccounts
import Integr8s.Proofs.LogRedaction
import Integr8s.Proofs.RedactionEffects
import Integr8s.Proofs.AssignedSecrets
import Integr8s.Proofs.StreamContents
import Integr8s.Proofs.MissedEnds
import Integr8s.Proofs.ScriptIsolation
import Integr8s.Proofs.EventReading
import Integr8s.Proofs.LatestRun
import Integr8s.Proofs.IdempotentRequests
