import ApiLint.Main
import ApiLint.Proofs.Nodes
import ApiLint.Proofs.Exemption
import ApiLint.Proofs.StableSort
import ApiLint.Proofs.ReportViews
import ApiLint.Proofs.Building
import ApiLint.Proofs.Validation
import ApiLint.Proofs.RegistrationOrder
import ApiLint.Proofs.Cursor
import ApiLint.Proofs.JsonText
import ApiLint.Proofs.Scalars
import ApiLint.Proofs.FlowReading
import ApiLint.Proofs.JsonPlaces
import ApiLint.Proofs.JsonSourceMap
import ApiLint.Proofs.EntryKeys
import ApiLint.Proofs.Skipping
import ApiLint.Proofs.Startup
import ApiLint.Proofs.Failures
import ApiLint.Proofs.Workers
import ApiLint.Proofs.Locations
import ApiLint.Proofs.Assignments
import ApiLint.Proofs.SettingsInForce
import ApiLint.Proofs.MarkerAddition
import ApiLint.Proofs.BundledChecks
import ApiLint.Proofs.MarkedDocuments
import ApiLint.Proofs.ExitCode
import ApiLint.Proofs.BlockText
import ApiLint.Proofs.BlockLines
import ApiLint.Proofs.BlockReading
import ApiLint.Proofs.BlockSourceMap
import ApiLint.Proofs.TextPlaces
import ApiLint.Proofs.WellFormedMaps
import ApiLint.Proofs.Resolution
import ApiLint.Proofs.Addresses
import ApiLint.Proofs.CaseFolding
import ApiLint.Proofs.PatternSearch
import ApiLint.Proofs.VersionedUris
import ApiLint.Proofs.SingularArrays
import ApiLint.Proofs.LastWords
import ApiLint.Proofs.HoledText
import ApiLint.Proofs.BlockScalars
import ApiLint.Proofs.IdleLines
import ApiLint.Proofs.LoadedDocuments
import ApiLint.Proofs.Respelling
import ApiLint.Proofs.FoldedItems
