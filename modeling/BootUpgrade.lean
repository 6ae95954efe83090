import BootUpgrade.Lib.Chunks
import BootUpgrade.Lib.Dialogue
import BootUpgrade.Lib.Intervals
import BootUpgrade.Lib.LittleEndian
import BootUpgrade.Lib.Memory
import BootUpgrade.Lib.Procedures
import BootUpgrade.Lib.PyText
import BootUpgrade.Lib.PyValues
import BootUpgrade.Lib.Raises
import BootUpgrade.Lib.Residue
import BootUpgrade.Lib.Runs
import BootUpgrade.Lib.Search
import BootUpgrade.Lib.Selection
import BootUpgrade.Lib.Serving
import BootUpgrade.Lib.Words
import BootUpgrade.Common.Crc16
import BootUpgrade.Common.Crc32
import BootUpgrade.Common.PayloadFlags
import BootUpgrade.Common.Protocol
import BootUpgrade.Common.StalePayload
import BootUpgrade.Common.Wire
import BootUpgrade.Metadata.Alike
import BootUpgrade.Metadata.Journal
import BootUpgrade.Metadata.Record
import BootUpgrade.Metadata.Rescan
import BootUpgrade.Metadata.Scan
import BootUpgrade.Metadata.Specification
import BootUpgrade.Metadata.Torn
import BootUpgrade.F28377D.Commands
import BootUpgrade.F28377D.FlashArray
import BootUpgrade.F28377D.Port
import BootUpgrade.F28377D.Sectors
import BootUpgrade.FlashService.Accepted
import BootUpgrade.FlashService.Machine
import BootUpgrade.FlashService.PayloadFlags
import BootUpgrade.FlashService.Port
import BootUpgrade.FlashService.Service
import BootUpgrade.FlashService.SessionCounts
import BootUpgrade.FlashService.StalePayload
import BootUpgrade.FlashService.Step
import BootUpgrade.FlashService.VerifiedContent
import BootUpgrade.FlashService.VerifyGate
import BootUpgrade.Core.Algorithm
import BootUpgrade.Core.CrcGate
import BootUpgrade.Core.HeldLoad
import BootUpgrade.Core.LoadedWords
import BootUpgrade.Core.Loading
import BootUpgrade.Core.Machine
import BootUpgrade.Core.PayloadFlags
import BootUpgrade.Core.Ram
import BootUpgrade.Core.Receive
import BootUpgrade.Core.Resident
import BootUpgrade.Core.Response
import BootUpgrade.Core.Resync
import BootUpgrade.Core.Run
import BootUpgrade.Core.Service
import BootUpgrade.Core.StalePayload
import BootUpgrade.Core.Step
import BootUpgrade.Core.Validation
import BootUpgrade.Host.Admissible
import BootUpgrade.Host.BootProtocolClient
import BootUpgrade.Host.Chunking
import BootUpgrade.Host.Client
import BootUpgrade.Host.Completion
import BootUpgrade.Host.Firmware
import BootUpgrade.Host.FlashImage
import BootUpgrade.Host.FlashOperations
import BootUpgrade.Host.Frame
import BootUpgrade.Host.FrameReader
import BootUpgrade.Host.Hex2000
import BootUpgrade.Host.MemoryOps
import BootUpgrade.Host.OperationResult
import BootUpgrade.Host.PacketList
import BootUpgrade.Host.Packets
import BootUpgrade.Host.PreparedService
import BootUpgrade.Host.ProgrammedContent
import BootUpgrade.Host.RamImage
import BootUpgrade.Host.RamPackets
import BootUpgrade.Host.Reconnect
import BootUpgrade.Host.Recovery
import BootUpgrade.Host.ServiceImage
import BootUpgrade.Host.ServiceRuntime
import BootUpgrade.Host.Transfer
import BootUpgrade.Host.TransferAccepted
import BootUpgrade.Host.TransferClean
import BootUpgrade.Host.TransferSession
import BootUpgrade.System.ArrayJournal
import BootUpgrade.System.AttachedService
import BootUpgrade.System.BootAgreement
import BootUpgrade.System.BootPrediction
import BootUpgrade.System.BoundedResponse
import BootUpgrade.System.Containment
import BootUpgrade.System.Device
import BootUpgrade.System.FlashErase
import BootUpgrade.System.FlashProgram
import BootUpgrade.System.FlashTransfer
import BootUpgrade.System.FlashUpgrade
import BootUpgrade.System.FrameCodec
import BootUpgrade.System.IdentityBinding
import BootUpgrade.System.ImageLoading
import BootUpgrade.System.JournalMoves
import BootUpgrade.System.JournalRun
import BootUpgrade.System.LateResponse
import BootUpgrade.System.Link
import BootUpgrade.System.MemoryRead
import BootUpgrade.System.OwnResponse
import BootUpgrade.System.PayloadFlags
import BootUpgrade.System.RamEvidence
import BootUpgrade.System.RamLoading
import BootUpgrade.System.RamRun
import BootUpgrade.System.Reading
import BootUpgrade.System.RecordAppend
import BootUpgrade.System.RecordReport
import BootUpgrade.System.Rescan
import BootUpgrade.System.ServiceAttach
import BootUpgrade.System.ServiceHeader
import BootUpgrade.System.SimulatorAppends
import BootUpgrade.System.SimulatorRefinement
import BootUpgrade.System.StalePayload
import BootUpgrade.System.VerifiedImage
import BootUpgrade.System.WorkingAppends
import BootUpgrade.System.WorkingFlash
import BootUpgrade.Gui.Connecting
import BootUpgrade.Gui.ConnectionCommandExecutor
import BootUpgrade.Gui.ConnectionResources
import BootUpgrade.Gui.Controller
import BootUpgrade.Gui.ControllerEvents
import BootUpgrade.Gui.ControllerFaults
import BootUpgrade.Gui.ControllerModels
import BootUpgrade.Gui.ControllerResults
import BootUpgrade.Gui.ControllerRuns
import BootUpgrade.Gui.Evidence
import BootUpgrade.Gui.Freshness
import BootUpgrade.Gui.ImagePreparation
import BootUpgrade.Gui.MetadataReadback
import BootUpgrade.Gui.MetadataSnapshot
import BootUpgrade.Gui.PersistenceModels
import BootUpgrade.Gui.PersistenceRestore
import BootUpgrade.Gui.PersistenceRoundTrip
import BootUpgrade.Gui.PersistenceStores
import BootUpgrade.Gui.QtConnectionMaintenance
import BootUpgrade.Gui.RuntimeBackend
import BootUpgrade.Gui.RuntimeModels
import BootUpgrade.Gui.RuntimePolicies
import BootUpgrade.Simulator.Core
import BootUpgrade.Simulator.Journal
import BootUpgrade.User.Boot
