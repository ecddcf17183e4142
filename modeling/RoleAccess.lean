import RoleAccess.Audit.Step
import RoleAccess.Policy.Call
import RoleAccess.Request.NamedValidation
import RoleAccess.Rulebook.Drafting
import RoleAccess.Rulebook.Lemmas
import RoleAccess.Proofs.Compilation
import RoleAccess.Proofs.Inquiry
import RoleAccess.Proofs.ModelDecision
import RoleAccess.Proofs.ModelMeaning
import RoleAccess.Proofs.States
import RoleAccess.Proofs.OpinionOrder
import RoleAccess.Proofs.Scopes
import RoleAccess.Proofs.OwnRules
import RoleAccess.Proofs.DeletedRecords
import RoleAccess.Proofs.Reading
import RoleAccess.Proofs.Batches
import RoleAccess.Proofs.Operations
import RoleAccess.Proofs.Routes
import RoleAccess.Proofs.RuleLog
import RoleAccess.Proofs.Updates
import RoleAccess.Proofs.Answers
import RoleAccess.Proofs.MoreRoles
import RoleAccess.Proofs.Documents
import RoleAccess.Proofs.LastWrites
import RoleAccess.Proofs.PlainDocuments
import RoleAccess.Proofs.CanonicalText
import RoleAccess.Proofs.Records
import RoleAccess.Proofs.CurrentIds
import RoleAccess.Proofs.Rulings
import RoleAccess.Proofs.Auditing
import RoleAccess.Proofs.Tidiness
import RoleAccess.Proofs.SameDecisions
import RoleAccess.Proofs.Fingerprints
import RoleAccess.Proofs.MoreRules
import RoleAccess.Proofs.Paths
import RoleAccess.Proofs.RuleTexts
import RoleAccess.Proofs.Grammar
import RoleAccess.Proofs.WellFormed
import RoleAccess.Proofs.AfterCalls
import RoleAccess.Proofs.TypedQueries
import RoleAccess.Proofs.Notes
import RoleAccess.Proofs.ModelNotes
import RoleAccess.Proofs.Replays
import RoleAccess.Proofs.ModuleMeaning
import RoleAccess.Proofs.AlikeValues
import RoleAccess.Proofs.SealedRecords
import RoleAccess.Proofs.StateSets
import RoleAccess.Proofs.ScopeChecks
import RoleAccess.Proofs.StrictChecks
import RoleAccess.Proofs.Drafts
import RoleAccess.Proofs.Elsewhere
import RoleAccess.Proofs.RecordLives
import RoleAccess.Proofs.FullPaths
import RoleAccess.Proofs.LevelChecks
