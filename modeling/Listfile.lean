import Listfile.Json.Writer
import Listfile.Main
import Listfile.Proofs.Alignment
import Listfile.Proofs.CanonicalPaths
import Listfile.Proofs.Conversion
import Listfile.Proofs.Linking
import Listfile.Proofs.Overrides
import Listfile.Proofs.Resolution
import Listfile.Snapshot.Encode
import Listfile.Proofs.RelativePaths
import Listfile.Proofs.Braces
import Listfile.Proofs.EnvironmentReferences
import Listfile.Proofs.JoinedPaths
import Listfile.Proofs.Placement
import Listfile.Proofs.Accounting
import Listfile.Proofs.Isolation
import Listfile.Proofs.RequestOrder
import Listfile.Proofs.ConfigurationIndependence
import Listfile.Proofs.NamedProjects
import Listfile.Proofs.ProjectOrder
import Listfile.Proofs.FileOrder
import Listfile.Proofs.PrecompiledHeaders
import Listfile.Proofs.ProjectSets
import Listfile.Proofs.ExtractedSettings
import Listfile.Proofs.SnapshotDocuments
import Listfile.Proofs.BalancedDescriptors
import Listfile.Proofs.QuotedArguments
import Listfile.Proofs.OpenMacros
import Listfile.Proofs.RelocatedDirectories
import Listfile.Proofs.FailingRuns
import Listfile.Proofs.MacroChains
import Listfile.Proofs.PchGroups
import Listfile.Proofs.EmptyValues
import Listfile.Proofs.DeclaredArguments
import Listfile.Proofs.ProjectChecks
import Listfile.Proofs.NormalForms
import Listfile.Proofs.InnerPaths
import Listfile.Proofs.WrittenDirectories
import Listfile.Proofs.MacroReplacement
import Listfile.Proofs.EquivalentSettings
import Listfile.Proofs.GroupedItems
