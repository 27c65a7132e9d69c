import ClassRecovery.Json.Text
import ClassRecovery.Node.Equality
import ClassRecovery.Node.Stored
import ClassRecovery.Chain
import ClassRecovery.Checked
import ClassRecovery.Interleaving
import ClassRecovery.Proofs.RoundTrip
import ClassRecovery.Proofs.GuardChains
import ClassRecovery.Proofs.Alternatives
import ClassRecovery.Proofs.Concatenation
import ClassRecovery.Proofs.InterfaceContents
import ClassRecovery.Proofs.StaticFlags
import ClassRecovery.Proofs.RenumberedScripts
import ClassRecovery.Proofs.Accounts
import ClassRecovery.Proofs.Interleavings
import ClassRecovery.Proofs.PathCauses
import ClassRecovery.Proofs.Bounds
import ClassRecovery.Proofs.Ownership
import ClassRecovery.Proofs.DeclarationShape
import ClassRecovery.Proofs.DisjointAttempts
import ClassRecovery.Proofs.StrictAlternatives
import ClassRecovery.Proofs.ConstructorCapture
import ClassRecovery.InPlace
import ClassRecovery.Proofs.PassLength
import ClassRecovery.Proofs.RoleHistories
import ClassRecovery.Proofs.SpliceEffect
import ClassRecovery.Node.Spelling
import ClassRecovery.Proofs.StoredGrammar
import ClassRecovery.Proofs.StoredTrees
import ClassRecovery.Proofs.RootRemoval
