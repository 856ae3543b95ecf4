import Tca.Absorption
import Tca.AccountRisk
import Tca.AccountRiskRuns
import Tca.AccountTable
import Tca.AppLifespan
import Tca.AppTeardown
import Tca.BackupDirectory
import Tca.BackupRetention
import Tca.Base64
import Tca.BatchedQueues
import Tca.BearerAccess
import Tca.BootstrapToken
import Tca.BotConfig
import Tca.BotConfigSecrecy
import Tca.BotDeliveries
import Tca.BotDeliveryLoop
import Tca.BotDeliveryRuns
import Tca.BotDeliveryStarvation
import Tca.BoundParameters
import Tca.BoundedPagination
import Tca.CandidateReduction
import Tca.CandidateSelection
import Tca.ChannelGroups
import Tca.ChannelPurge
import Tca.ChannelUpdates
import Tca.CivilCalendar
import Tca.ClusterPartition
import Tca.ClusterRepair
import Tca.CommittedCalls
import Tca.CredentialVault
import Tca.CursorJson
import Tca.DecisionLog
import Tca.DecisionLogRuns
import Tca.DecisionPersistence
import Tca.DecisionRetention
import Tca.DedupeClusterAssignment
import Tca.DedupeClusterMerge
import Tca.DedupeMergeConfluence
import Tca.DedupeOperations
import Tca.DedupeStrategies
import Tca.DeliveryMessages
import Tca.DynamicSettings
import Tca.EmbeddedUrls
import Tca.EncodedTables
import Tca.EnvelopeEncryption
import Tca.FixedWidthText
import Tca.FloatRange
import Tca.FloodWaits
import Tca.FoldedWords
import Tca.ForeignKeyDeletion
import Tca.FullTextIndex
import Tca.GroupAssignment
import Tca.GuardedRuns
import Tca.HashNormalForm
import Tca.HtmlCuts
import Tca.HtmlEntities
import Tca.HtmlTruncation
import Tca.InsertionLogs
import Tca.InterleavedCalls
import Tca.IsoTimestamps
import Tca.ItemRemovalRounds
import Tca.ItemUpserts
import Tca.JsonRoundTrip
import Tca.JsonTexts
import Tca.KekSalt
import Tca.KeyRotation
import Tca.KeyRotationMarks
import Tca.KeyRotationRaces
import Tca.KeyRotationResume
import Tca.KeyedTables
import Tca.KeysetPages
import Tca.LockstepCalls
import Tca.MarkupGrammar
import Tca.MessageSweeps
import Tca.NetlocReading
import Tca.NotificationHistory
import Tca.NotificationInbox
import Tca.PercentEncoding
import Tca.PollEligibility
import Tca.PollReadiness
import Tca.PollSelection
import Tca.PollingCalls
import Tca.PollingStore
import Tca.PosixPaths
import Tca.PublicationOrder
import Tca.PythonIntegers
import Tca.PythonJson
import Tca.PythonObjects
import Tca.PythonTexts
import Tca.PythonValues
import Tca.RepresentativeRanking
import Tca.RepresentativeRuns
import Tca.RetentionCutoffs
import Tca.RetentionPrune
import Tca.RetentionRuns
import Tca.RetentionSettings
import Tca.RowRanking
import Tca.RowTriggers
import Tca.SchedulerEnvelope
import Tca.SchedulerRange
import Tca.SchedulerSpacing
import Tca.SchedulerTicks
import Tca.SessionCookies
import Tca.SettingTexts
import Tca.SettingsTable
import Tca.SigningKeys
import Tca.SlidingWindows
import Tca.SortedJson
import Tca.SortedSets
import Tca.SourceChannelNames
import Tca.SqlLike
import Tca.StorageSchema
import Tca.StrategyChain
import Tca.StrategyChainSemantics
import Tca.StrategyOutputs
import Tca.TableRows
import Tca.TeardownTimeouts
import Tca.TelegramLogin
import Tca.TelegramLoginCredentials
import Tca.TelegramLoginStatus
import Tca.TextNormalization
import Tca.ThreadQuery
import Tca.TimestampText
import Tca.Transactions
import Tca.UiThreadPages
import Tca.UnicodeTables
import Tca.UnlockPassphrase
import Tca.UrlCanonicalization
import Tca.UrlEquivalence
import Tca.UrlIdempotence
import Tca.UrlSplitting
import Tca.UrlWrappers
import Tca.Utf8
import Tca.WriterQueue
import Tca.WriterQueueClosing
import Tca.WriterQueueCompletions
import Tca.WriterQueueGuarantees
import Tca.WriterQueueInvariant
import Tca.WriterQueueRuns
import Tca.WriterQueueTurns
