import ProofAgent.System
import ProofAgent.RunQueue.Growth
import ProofAgent.RunQueue.Idempotency
import ProofAgent.RunQueue.Cancellation
import ProofAgent.RunQueue.Fairness
import ProofAgent.RunQueue.Blocking
import ProofAgent.RunQueue.ReadBack
import ProofAgent.RunQueue.Recovery
import ProofAgent.RunQueue.FailureAccounting
import ProofAgent.Tasks.Lifecycle
import ProofAgent.Tasks.RoundTrip
import ProofAgent.Budget.Accounting
import ProofAgent.Base.JsonText
import ProofAgent.Base.Effect
import ProofAgent.ControlledReact.Termination
import ProofAgent.ControlledReact.AnswerOrigin
import ProofAgent.ControlledReact.ToolCallCap
import ProofAgent.WorkerRoles.Ownership
import ProofAgent.FormalPublication.CommandHistories
import ProofAgent.Deployment.Abort
import ProofAgent.TaskState.Clearing
import ProofAgent.Security.ParallelRequests
import ProofAgent.Security.SessionContinuity
import ProofAgent.Security.SessionOwnership
import ProofAgent.Policy.ReviewStrictness
import ProofAgent.Knowledge.ContextExpansion
import ProofAgent.Assets.VersionHistory
import ProofAgent.Egress.RestrictedClients
import ProofAgent.Release.DecisionLaws
import ProofAgent.BusinessActions.AtMostOnce
import ProofAgent.Control.AnswerAttribution
import ProofAgent.ControlledReact.ToolDigests
import ProofAgent.ControlledReact.ToolTaskOrder
import ProofAgent.ControlledReact.WaitingQuestion
import ProofAgent.RunQueue.Deadlines
import ProofAgent.Delivery.CancellationReported
import ProofAgent.Security.AuthoritySnapshots
import ProofAgent.Memory.StoreAgreement
import ProofAgent.Tasks.GoalAssessment
import ProofAgent.Control.IndependentSources
import ProofAgent.Knowledge.ClaimBinding
import ProofAgent.Answers.LiteralAnswers
import ProofAgent.Answers.RepairedAnswers
import ProofAgent.Answers.BusinessRoundTrip
import ProofAgent.Answers.Citations
import ProofAgent.Answers.QuotedBlocks
import ProofAgent.Answers.ContextKept
import ProofAgent.Answers.NumberTokens
import ProofAgent.Answers.CanonicalNumbers
import ProofAgent.Answers.NumberReadings
import ProofAgent.Answers.CanonicalTexts
import ProofAgent.Base.Parts
import ProofAgent.Base.DecimalDigits
import ProofAgent.Control.NothingLost
import ProofAgent.Agents.Lifecycle
import ProofAgent.Observability.ArtifactHistories
import ProofAgent.Knowledge.CitedPassages
import ProofAgent.Tools.UntrustedWeb
