import SocAssembly.CommandLine.Execution
import SocAssembly.Main
import SocAssembly.Proofs.BusWords
import SocAssembly.Proofs.PlatformRuns
import SocAssembly.Proofs.RegistrationOrder
import SocAssembly.Proofs.Resolving
import SocAssembly.Proofs.Appending
import SocAssembly.Proofs.Selection
import SocAssembly.Proofs.Wiring
import SocAssembly.Proofs.Identifiers
import SocAssembly.Proofs.DesignNames
import SocAssembly.Proofs.ScriptReading
import SocAssembly.Proofs.HeaderRecovery
import SocAssembly.Proofs.Registration
import SocAssembly.Proofs.OneElaboration
import SocAssembly.Proofs.FirstFit
import SocAssembly.Proofs.RecordedParents
import SocAssembly.Proofs.BoardIndependence
import SocAssembly.Proofs.FailedRuns
import SocAssembly.Proofs.FixedFaults
import SocAssembly.Proofs.AttachmentFaults
import SocAssembly.Proofs.EndpointPages
import SocAssembly.Proofs.WindowAlignment
import SocAssembly.Proofs.Asking
import SocAssembly.Proofs.Dictionaries
import SocAssembly.Proofs.PinAssignment
import SocAssembly.Proofs.Alternates
import SocAssembly.Proofs.PlatformChanges
import SocAssembly.Proofs.Interrupts
import SocAssembly.Proofs.PortReferences
import SocAssembly.Proofs.HeaderComments
import SocAssembly.Proofs.Acceptance
import SocAssembly.Proofs.FirmwareRegions
import SocAssembly.Proofs.LinkerReading
import SocAssembly.Proofs.DeviceWords
import SocAssembly.Proofs.WordMachine
import SocAssembly.Proofs.WordRuns
import SocAssembly.Proofs.WordPlacing
import SocAssembly.Proofs.WordDesigns
import SocAssembly.Proofs.AutomaticOrder
import SocAssembly.Proofs.CatalogueExtension
import SocAssembly.Proofs.GrowingTrees
import SocAssembly.Proofs.ArtifactFiles
import SocAssembly.Proofs.PreparedFiles
import SocAssembly.Proofs.BlockTiling
import SocAssembly.Proofs.DeviceFlags
import SocAssembly.Proofs.MapReading
