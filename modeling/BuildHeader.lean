import BuildHeader.Literal.Decode
import BuildHeader.Main
import BuildHeader.Proofs.DebugBuilds
import BuildHeader.Proofs.FailedPublishing
import BuildHeader.Proofs.RequestHistory
import BuildHeader.Proofs.Reruns
import BuildHeader.Proofs.HeaderLines
import BuildHeader.Proofs.SuccessfulPublishing
import BuildHeader.Proofs.AddedSwitches
import BuildHeader.Proofs.DryRuns
import BuildHeader.Proofs.TokenReading
import BuildHeader.Proofs.Acceptance
import BuildHeader.Proofs.LogIndependence
import BuildHeader.Proofs.LogLevels
import BuildHeader.Proofs.Editions
import BuildHeader.Proofs.TreePublishing
import BuildHeader.Proofs.FailingWalks
import BuildHeader.Proofs.ForetoldPublishing
import BuildHeader.Proofs.IndependentPublishing
import BuildHeader.Proofs.FragmentQuoting
import BuildHeader.Proofs.TruthfulLog
import BuildHeader.Proofs.CanonicalLiterals
import BuildHeader.Proofs.CStrings
import BuildHeader.Proofs.SealedHeaders
import BuildHeader.Proofs.LowercaseCopies
import BuildHeader.Proofs.DirectoryMacros
import BuildHeader.Proofs.RequestOrder
import BuildHeader.Proofs.ErrorMessages
