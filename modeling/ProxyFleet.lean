import ProxyFleet.Controller
import ProxyFleet.Proofs.RecordOrder
import ProxyFleet.Proofs.Checks
import ProxyFleet.Proofs.ListenHalves
import ProxyFleet.Proofs.DeclaredFiles
import ProxyFleet.Proofs.EntryPaths
import ProxyFleet.Proofs.Places
import ProxyFleet.Proofs.Reconciling
import ProxyFleet.Proofs.SectionNames
import ProxyFleet.Proofs.CalledFiles
import ProxyFleet.Proofs.Selection
import ProxyFleet.Proofs.NamedFiles
import ProxyFleet.Proofs.StoreValues
import ProxyFleet.Proofs.Fingerprints
import ProxyFleet.Proofs.Statuses
import ProxyFleet.Proofs.OneLine
import ProxyFleet.Proofs.StatementLines
import ProxyFleet.Proofs.ReadOrder
import ProxyFleet.Proofs.Cancelling
import ProxyFleet.Proofs.Claiming
import ProxyFleet.Proofs.Attribution
import ProxyFleet.Proofs.SectionOrder
import ProxyFleet.Proofs.Remembering
import ProxyFleet.Proofs.Validity
import ProxyFleet.Proofs.Rounding
import ProxyFleet.Proofs.DurationText
import ProxyFleet.Proofs.Lossless
import ProxyFleet.Proofs.ReadBack
import ProxyFleet.Proofs.Counting
import ProxyFleet.Proofs.Reporting
import ProxyFleet.Proofs.DurationGrammar
import ProxyFleet.Proofs.WholeTerms
import ProxyFleet.Proofs.TimeoutStatements
import ProxyFleet.Proofs.HostPatterns
import ProxyFleet.Proofs.PatternAnchors
import ProxyFleet.Proofs.CertificateLists
import ProxyFleet.Proofs.ListOrder
import ProxyFleet.Proofs.EnvironmentFile
import ProxyFleet.Proofs.LineWords
import ProxyFleet.Proofs.Confinement
import ProxyFleet.Proofs.OldOrNew
import ProxyFleet.Proofs.DocumentSections
import ProxyFleet.Proofs.RoundedSeconds
import ProxyFleet.Proofs.SharedPaths
import ProxyFleet.Proofs.SelectorLaws
import ProxyFleet.Proofs.StatementGroups
