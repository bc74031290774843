import PropertyAssignment.Assignment.Building
import PropertyAssignment.Assignment.Lowering
import PropertyAssignment.Code.Comparison
import PropertyAssignment.Code.Execution
import PropertyAssignment.Code.Mentions
import PropertyAssignment.Code.Paths
import PropertyAssignment.Code.Printing
import PropertyAssignment.Proofs.BaseNameShape
import PropertyAssignment.Proofs.BuildOutcome
import PropertyAssignment.Proofs.CodeReading
import PropertyAssignment.Proofs.ContainerClassification
import PropertyAssignment.Proofs.ContainerEvaluation
import PropertyAssignment.Proofs.ContainerMemory
import PropertyAssignment.Proofs.ContainerSharing
import PropertyAssignment.Proofs.ContainerUpdate
import PropertyAssignment.Proofs.DottedName
import PropertyAssignment.Proofs.EvaluationEffects
import PropertyAssignment.Proofs.ExpressionReading
import PropertyAssignment.Proofs.FreshName
import PropertyAssignment.Proofs.GuardReach
import PropertyAssignment.Proofs.ImplementationType
import PropertyAssignment.Proofs.ImportCollection
import PropertyAssignment.Proofs.ImportCoverage
import PropertyAssignment.Proofs.ImportHistory
import PropertyAssignment.Proofs.ImportLookup
import PropertyAssignment.Proofs.ImportOrder
import PropertyAssignment.Proofs.ImportUnion
import PropertyAssignment.Proofs.NameAllocation
import PropertyAssignment.Proofs.NameHygiene
import PropertyAssignment.Proofs.NameIndependence
import PropertyAssignment.Proofs.NodePreconditions
import PropertyAssignment.Proofs.NullSafety
import PropertyAssignment.Proofs.PathEvaluation
import PropertyAssignment.Proofs.ReachedStatement
import PropertyAssignment.Proofs.RepeatedEvaluation
import PropertyAssignment.Proofs.RepeatedUpdate
import PropertyAssignment.Proofs.ScopeEffect
import PropertyAssignment.Proofs.SelectionByType
import PropertyAssignment.Proofs.SelectionRoutes
import PropertyAssignment.Proofs.TypeIdentity
import PropertyAssignment.Proofs.ValuePlacement
import PropertyAssignment.Proofs.VariableRenaming
import PropertyAssignment.SourceValue
