import GolutraAgent.Runtime.PendingTurnSafety
import GolutraAgent.Store.TaskIndex
import GolutraAgent.Store.LeaseFencing
import GolutraAgent.Client.CommandIdempotency
import GolutraAgent.Store.ArtifactSystem
import GolutraAgent.Client.GovernanceSafety
import GolutraAgent.Store.ForkCopy
import GolutraAgent.Runtime.CheckpointRestore
import GolutraAgent.Client.DelegationCrash
import GolutraAgent.Release.DeploymentJournal
import GolutraAgent.Supervisor.ControlRejection
import GolutraAgent.Supervisor.EpochEnds
import GolutraAgent.Supervisor.PromotionSafety
import GolutraAgent.Supervisor.DisclosureLimits
import GolutraAgent.Memory.RetrievalExactness
import GolutraAgent.Memory.Contradictions
import GolutraAgent.Evolution.Skills
import GolutraAgent.AppServer.AttachmentSafety
import GolutraAgent.Runtime.CheckpointRefusal
import GolutraAgent.Runtime.ShellBudget
import GolutraAgent.Client.QueuedTurnPayload
import GolutraAgent.Tools.ModelPatch
import GolutraAgent.Core.Question
import GolutraAgent.Context.Attribution
import GolutraAgent.Runtime.ValidationFreshness
import GolutraAgent.Store.ThreadPaging
import GolutraAgent.Policy.ReadOnlyCommands
import GolutraAgent.Tools.ReadWindow
import GolutraAgent.Tools.ArgumentDisplay
import GolutraAgent.Tools.FileEdits
import GolutraAgent.Config.ProviderTransaction
import GolutraAgent.Plugin.Store
