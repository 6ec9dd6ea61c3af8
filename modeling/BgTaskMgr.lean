import BgTaskMgr.Lib.KeyedMap
import BgTaskMgr.Lib.RelatedMaps
import BgTaskMgr.Lib.MapLoop
import BgTaskMgr.Lib.StepSystem
import BgTaskMgr.Lib.Histories
import BgTaskMgr.Lib.Bitmask
import BgTaskMgr.Lib.Regroup
import BgTaskMgr.Lib.MarkedQueue
import BgTaskMgr.Lib.Separated
import BgTaskMgr.Lib.Wire
import BgTaskMgr.Lib.WireFields
import BgTaskMgr.Lib.NumberText
import BgTaskMgr.Lib.Json
import BgTaskMgr.Lib.Stopwatch
import BgTaskMgr.Lib.Obituaries
import BgTaskMgr.Common.ErrCode
import BgTaskMgr.Common.JsonValue
import BgTaskMgr.Common.CloudConfig
import BgTaskMgr.Common.ConfigRejection
import BgTaskMgr.Common.ConfigFiles
import BgTaskMgr.Transient.PkgDelaySuspendInfo
import BgTaskMgr.Transient.DecisionMaker
import BgTaskMgr.Transient.Accounting
import BgTaskMgr.Transient.Manager
import BgTaskMgr.Transient.Readiness
import BgTaskMgr.Transient.StoreConsistency
import BgTaskMgr.Transient.Requests
import BgTaskMgr.Transient.Effects
import BgTaskMgr.Transient.AccountingRules
import BgTaskMgr.Transient.ProcessesInFront
import BgTaskMgr.Transient.Pausing
import BgTaskMgr.Transient.Ledger
import BgTaskMgr.Transient.EventStream
import BgTaskMgr.Transient.Timers
import BgTaskMgr.Transient.IdReuse
import BgTaskMgr.Transient.FreshIds
import BgTaskMgr.Transient.Warnings
import BgTaskMgr.Transient.Quota
import BgTaskMgr.Transient.ReadComparison
import BgTaskMgr.Transient.QuotaReads
import BgTaskMgr.Transient.RequestWindow
import BgTaskMgr.Transient.RemainingDelay
import BgTaskMgr.Efficiency.Record
import BgTaskMgr.Efficiency.RecordJson
import BgTaskMgr.Efficiency.Manager
import BgTaskMgr.Efficiency.Representation
import BgTaskMgr.Efficiency.Mirror
import BgTaskMgr.Efficiency.Persistence
import BgTaskMgr.Efficiency.Timeouts
import BgTaskMgr.Efficiency.Grants
import BgTaskMgr.Efficiency.SavedRecords
import BgTaskMgr.Efficiency.CpuLevels
import BgTaskMgr.Efficiency.ResourceQuery
import BgTaskMgr.Efficiency.GrantedTasks
import BgTaskMgr.Efficiency.LevelGrants
import BgTaskMgr.Efficiency.AppResets
import BgTaskMgr.Continuous.Record
import BgTaskMgr.Continuous.RecordJson
import BgTaskMgr.Continuous.Notification
import BgTaskMgr.Continuous.State
import BgTaskMgr.Continuous.Prompt
import BgTaskMgr.Continuous.Requests
import BgTaskMgr.Continuous.Events
import BgTaskMgr.Continuous.Service
import BgTaskMgr.Continuous.Changes
import BgTaskMgr.Continuous.Decomposition
import BgTaskMgr.Continuous.TaskIds
import BgTaskMgr.Continuous.Isolation
import BgTaskMgr.Continuous.Mirror
import BgTaskMgr.Continuous.Sweep
import BgTaskMgr.Continuous.Deletion
import BgTaskMgr.Continuous.Numbering
import BgTaskMgr.Continuous.Stopping
import BgTaskMgr.Continuous.Sending
import BgTaskMgr.Continuous.Republishing
import BgTaskMgr.Continuous.DelayTasks
import BgTaskMgr.Continuous.Notices
import BgTaskMgr.Continuous.NoticeEffects
import BgTaskMgr.Continuous.Reactivation
import BgTaskMgr.Continuous.Orphans
import BgTaskMgr.Continuous.TaskModes
import BgTaskMgr.Continuous.BackgroundStarts
import BgTaskMgr.Continuous.SuspensionMirror
import BgTaskMgr.Continuous.TaskFile
import BgTaskMgr.Continuous.AppStops
import BgTaskMgr.Continuous.TidyRuns
import BgTaskMgr.Continuous.Visibility
import BgTaskMgr.Continuous.StartExits
import BgTaskMgr.Continuous.AudioStart
import BgTaskMgr.Continuous.UpdateAtomicity
import BgTaskMgr.Continuous.ContextStops
import BgTaskMgr.Continuous.ForeignCalls
import BgTaskMgr.Continuous.AvSession
import BgTaskMgr.Continuous.Grouping
import BgTaskMgr.Continuous.AuthGrants
import BgTaskMgr.Continuous.NoticeIds
import BgTaskMgr.Continuous.TaskKeys
import BgTaskMgr.Continuous.LabelParts
import BgTaskMgr.Continuous.AuthCleanup
import BgTaskMgr.Continuous.AuthRestore
import BgTaskMgr.Continuous.InnerStops
import BgTaskMgr.Continuous.TaskLimit
import BgTaskMgr.Continuous.ModeQuery
import BgTaskMgr.Continuous.TaskQueries
import BgTaskMgr.Interfaces.Parcels
import BgTaskMgr.Interfaces.Truncation
import BgTaskMgr.Interfaces.PlainParcels
import BgTaskMgr.Efficiency.Readiness
import BgTaskMgr.Core.Service
import BgTaskMgr.Continuous.AuthFrame
import BgTaskMgr.Core.Startup
import BgTaskMgr.Core.Subscriptions
import BgTaskMgr.Core.Registration
import BgTaskMgr.Core.Privacy
import BgTaskMgr.Continuous.Hearing
import BgTaskMgr.Lib.Observers
import BgTaskMgr.Transient.Listings
import BgTaskMgr.Lib.Register
import BgTaskMgr.Continuous.AuthRegister
import BgTaskMgr.Transient.Isolation
import BgTaskMgr.Plugin.Adapters
import BgTaskMgr.Plugin.BgtaskPluginMgr
import BgTaskMgr.Plugin.ResourceSubscriptions
import BgTaskMgr.Plugin.Players
import BgTaskMgr.Core.Policies
import BgTaskMgr.Continuous.AuthTransfer
