import RelayPool.Runs
import RelayPool.Circuit.Cooldown
import RelayPool.Circuit.Race
import RelayPool.Circuit.Streak
import RelayPool.Circuit.Late
import RelayPool.Circuit.Restart
import RelayPool.Circuit.Gate
import RelayPool.Routing.Capacity
import RelayPool.Generation.Mirror
import RelayPool.Attribution.Alike
import RelayPool.Protocol.Handover
import RelayPool.Migration.Restarts
import RelayPool.Streaming.Cuts
import RelayPool.Streaming.ChatCuts
import RelayPool.Streaming.ChatEvents
import RelayPool.Routing.Canonical
import RelayPool.Routing.Fallback
import RelayPool.Routing.RankLimit
import RelayPool.Routing.Budget
import RelayPool.Routing.Replay
import RelayPool.Routing.Denials
import RelayPool.Routing.Listing
import RelayPool.Alerting.Ledger
import RelayPool.Alerting.Ingress
import RelayPool.Alerting.Reconcile
import RelayPool.Alerting.Settling
import RelayPool.Alerting.Fence
import RelayPool.Alerting.Accounting
import RelayPool.Alerting.Recovering
import RelayPool.Operations.Counting
import RelayPool.Cutover.Consistent
import RelayPool.Collectors.SingleFlight
import RelayPool.Background.Scheduling
import RelayPool.Attempts.Sound
import RelayPool.FirstRun.Restarts
import RelayPool.Attempts.Idempotent
import RelayPool.Search
import RelayPool.Wildcard
import RelayPool.Mapping.Overlap
import RelayPool.Routing.Affinity
import RelayPool.Bytes
import RelayPool.Mapping.Validation
import RelayPool.Mapping.Shadowing
import RelayPool.Mapping.Fence
import RelayPool.Routing.Promotion
import RelayPool.Routing.Raising
import RelayPool.Routing.Holding
import RelayPool.Portable.Bounds
import RelayPool.Portable.Inspections
import RelayPool.Rounding
import RelayPool.Quality.Weight
import RelayPool.Quality.Projection
import RelayPool.Quality.Summary
import RelayPool.Plans
import RelayPool.Upgrade.Planner
import RelayPool.Quality.Scores
import RelayPool.Quality.Exact
import RelayPool.Upgrade.Agreement
import RelayPool.Windows
import RelayPool.Monitoring.Zones
import RelayPool.Monitoring.Midnights
import RelayPool.Streaming.UsageObserver
import RelayPool.Streaming.UsageCuts
import RelayPool.Collection.Lawful
import RelayPool.Collection.Authorization
import RelayPool.Monitoring.LiveExecutions
import RelayPool.Monitoring.Accounted
import RelayPool.OrderedSets
import RelayPool.Monitoring.Scheduler
import RelayPool.Monitoring.DueIndex
import RelayPool.Collection.Coordinator
import RelayPool.Collection.Admission
import RelayPool.JsonText
import RelayPool.Protocol.Complexity
import RelayPool.Splits
import RelayPool.Protocol.Fallback
import RelayPool.Protocol.Conversion
import RelayPool.Policies.Versions
import RelayPool.Policies.Upgrades
import RelayPool.Protocol.Precommit
import RelayPool.Base64
import RelayPool.Formats
import RelayPool.Portable.Manifest
import RelayPool.Portable.Frames
import RelayPool.Portable.Acceptance
import RelayPool.Portable.Canonical
import RelayPool.Protocol.Memory
