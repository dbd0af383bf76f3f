import JavaAudit.Language
import JavaAudit.Main
import JavaAudit.Optimization.Check
import JavaAudit.Optimization.RuleSet
import JavaAudit.Outline
import JavaAudit.Proofs.AppendedStatements
import JavaAudit.Proofs.BatchRuns
import JavaAudit.Proofs.BoundsChecks
import JavaAudit.Proofs.CanonicalText
import JavaAudit.Proofs.CategoryFindings
import JavaAudit.Proofs.CommentedScopes
import JavaAudit.Proofs.CredentialLiterals
import JavaAudit.Proofs.Dereferences
import JavaAudit.Proofs.DisplacedContexts
import JavaAudit.Proofs.DisplacedOutlines
import JavaAudit.Proofs.DisplacedRules
import JavaAudit.Proofs.Displacement
import JavaAudit.Proofs.DivisorLiterals
import JavaAudit.Proofs.DoubleRange
import JavaAudit.Proofs.EnclosingMethods
import JavaAudit.Proofs.EndlessLoops
import JavaAudit.Proofs.FindingLines
import JavaAudit.Proofs.FlaggedLines
import JavaAudit.Proofs.InsertedComments
import JavaAudit.Proofs.IntegerLiterals
import JavaAudit.Proofs.Interspersed
import JavaAudit.Proofs.IssueOrder
import JavaAudit.Proofs.LineDecisions
import JavaAudit.Proofs.LineDeductions
import JavaAudit.Proofs.LocationIndependence
import JavaAudit.Proofs.MemberSummaries
import JavaAudit.Proofs.MethodBodies
import JavaAudit.Proofs.MethodHeaders
import JavaAudit.Proofs.MethodKeys
import JavaAudit.Proofs.MethodPasses
import JavaAudit.Proofs.Nesting
import JavaAudit.Proofs.Ownership
import JavaAudit.Proofs.QueryConcatenation
import JavaAudit.Proofs.ReceiverUses
import JavaAudit.Proofs.Refusals
import JavaAudit.Proofs.RegroupedSums
import JavaAudit.Proofs.RelaxedLimits
import JavaAudit.Proofs.RenamedKeys
import JavaAudit.Proofs.RenderedParts
import JavaAudit.Proofs.RenderedUses
import JavaAudit.Proofs.ReportConsistency
import JavaAudit.Proofs.RuleIsolation
import JavaAudit.Proofs.RuleVisits
import JavaAudit.Proofs.RunningAverage
import JavaAudit.Proofs.SampleTrees
import JavaAudit.Proofs.ScopeCoherence
import JavaAudit.Proofs.ScoreMonotonicity
import JavaAudit.Proofs.ScoreRange
import JavaAudit.Proofs.Segmentation
import JavaAudit.Proofs.SelfConcatenation
import JavaAudit.Proofs.SettingEntries
import JavaAudit.Proofs.SettingsReading
import JavaAudit.Proofs.StackedWalks
import JavaAudit.Proofs.StrictOptimization
import JavaAudit.Proofs.StrictReading
import JavaAudit.Proofs.StrictSecurity
import JavaAudit.Proofs.TokenGaps
import JavaAudit.Proofs.TypeScores
import JavaAudit.Proofs.UnfailingRules
import JavaAudit.Proofs.UnusedLocals
import JavaAudit.Proofs.WholeNames
import JavaAudit.Quality.Issue
import JavaAudit.Rendering
import JavaAudit.Security.RuleSet
import JavaAudit.Text.Search
import JavaAudit.Tree.Preorder
import JavaAudit.Tree.Site
