import BambooAgent.Tickets.ClaimRuns
import BambooAgent.Tickets.Fencing
import BambooAgent.Tickets.Approvals
import BambooAgent.Tickets.Cancellation
import BambooAgent.Tickets.Revisions
import BambooAgent.Tickets.Totality
import BambooAgent.Compression.Thresholds
import BambooAgent.Compression.CacheSavings
import BambooAgent.Compression.ToolChains
import BambooAgent.Compression.RetrievalAgreement
import BambooAgent.Tickets.TokenSubmissions
import BambooAgent.Tickets.StoreReopening
import BambooAgent.Sessions.Commits
import BambooAgent.Sessions.Questions
import BambooAgent.Sessions.SummaryWrites
import BambooAgent.Sessions.AdmissionMemory
import BambooAgent.Sessions.ChildWaits
import BambooAgent.Inboxes.Conservation
import BambooAgent.ProviderTranscripts.Replay
import BambooAgent.Permissions.ToolRules
import BambooAgent.Permissions.Wrappers
import BambooAgent.Permissions.Precedence
import BambooAgent.Permissions.OneShots
import BambooAgent.Broker.Retention
import BambooAgent.Broker.Batches
import BambooAgent.Broker.Frames
import BambooAgent.Broker.Stranding
import BambooAgent.Broker.FencedRuns
import BambooAgent.Actors.Projects
import BambooAgent.Actors.Availability
import BambooAgent.Hosts.Exclusivity
import BambooAgent.Workflows.JournalRuns
import BambooAgent.Broker.Correlation
import BambooAgent.Mutations.Receipts
import BambooAgent.Configs.Histories
import BambooAgent.Configs.Patches
import BambooAgent.Schedules.ScheduledRuns
import BambooAgent.Schedules.Misfires
import BambooAgent.Ready.Revocation
import BambooAgent.Ready.RetryHistories
import BambooAgent.Composition.Waiting
import BambooAgent.ToolCalls.Routing
import BambooAgent.Workflows.ContractSoundness
import BambooAgent.Workflows.Nesting
import BambooAgent.Sessions.Restoring
import BambooAgent.Sessions.PostureHistories
import BambooAgent.Observers.Feed
import BambooAgent.Library.Wildcards
import BambooAgent.Permissions.ToolRules
import BambooAgent.Permissions.Wrappers
