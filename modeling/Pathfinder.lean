import Pathfinder.Guarantees.LeaseFencing
import Pathfinder.Guarantees.CancelHonoured
import Pathfinder.Guarantees.BoundedClaims
import Pathfinder.Guarantees.RunCreation
import Pathfinder.Guarantees.CorrectableLineage
import Pathfinder.Guarantees.NumericProvenance
import Pathfinder.Guarantees.RoundPreferences
import Pathfinder.Guarantees.PublishableRevisions
import Pathfinder.Guarantees.VersionLineage
import Pathfinder.Guarantees.SessionCorrections
import Pathfinder.Guarantees.LifecycleConformance
import Pathfinder.Guarantees.ApprovalCoherence
import Pathfinder.Guarantees.SingleLiveAction
import Pathfinder.Guarantees.EventStream
import Pathfinder.Guarantees.ProjectLinks
import Pathfinder.Guarantees.PreferenceTargets
import Pathfinder.Guarantees.UsablePreferences
import Pathfinder.Guarantees.AttemptAccounting
import Pathfinder.Guarantees.ToolAccounting
import Pathfinder.Guarantees.PatchFrame
import Pathfinder.Guarantees.CoveragePropagation
import Pathfinder.Guarantees.ActionableDrafts
import Pathfinder.Guarantees.AgentLoopDiscipline
import Pathfinder.Guarantees.EvidenceAddressability
import Pathfinder.Guarantees.FactLineage
import Pathfinder.Guarantees.TimestampOrder
import Pathfinder.Guarantees.RunBudgets
import Pathfinder.Guarantees.TexSafety
import Pathfinder.Guarantees.StyledImport
import Pathfinder.Guarantees.DocumentChunks
import Pathfinder.Guarantees.EmbeddableChunks
import Pathfinder.Guarantees.PersistableSources
import Pathfinder.Guarantees.CandidateCoherence
import Pathfinder.Guarantees.ArtifactIdentity
import Pathfinder.Guarantees.ImportFixpoint
import Pathfinder.Guarantees.ImportCompleteness
import Pathfinder.Guarantees.FactGrounding
import Pathfinder.Guarantees.DocumentIdentity
import Pathfinder.Guarantees.ContextBudget
import Pathfinder.Guarantees.ToolOutputs
import Pathfinder.Guarantees.SecretFiles
import Pathfinder.Guarantees.SnapshotIdentity
import Pathfinder.Guarantees.ModelPrivacy
import Pathfinder.Guarantees.LogRedaction
import Pathfinder.Guarantees.ExpiryProgress
import Pathfinder.Guarantees.RequirementGrounding
import Pathfinder.Guarantees.SearchNormalization
import Pathfinder.Guarantees.CanonicalBinding
import Pathfinder.Guarantees.PortalAgreement
import Pathfinder.Guarantees.PublishableGenerations
import Pathfinder.Guarantees.ResearchBudget
import Pathfinder.Guarantees.ResearchGrounding
import Pathfinder.Guarantees.ResumeCommands
