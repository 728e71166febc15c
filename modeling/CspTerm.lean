import CspTerm.Lib.Run
import CspTerm.Lib.Descriptors
import CspTerm.Lib.Lines
import CspTerm.Lib.Radix
import CspTerm.Lib.RoundRobin
import CspTerm.Lib.CString
import CspTerm.Lib.Hex
import CspTerm.Lib.Numeral
import CspTerm.Lib.Calendar
import CspTerm.Lib.Ring
import CspTerm.Lib.Json
import CspTerm.Lib.FieldWidth
import CspTerm.Lib.Gregorian
import CspTerm.Lib.Interleaving
import CspTerm.Lib.Cells
import CspTerm.Lib.Crc
import CspTerm.Lib.ByteStuffing
import CspTerm.Lib.Demux
import CspTerm.Lib.Serial
import CspTerm.Lib.SelectiveRepeat
import CspTerm.Lib.BlockStream
import CspTerm.Lib.Sha1
import CspTerm.Lib.StreamCipher
import CspTerm.Lib.Cidr
import CspTerm.Lib.Fifo
import CspTerm.Archive.Timestamp
import CspTerm.Archive.Proofs.TimestampProofs
import CspTerm.Archive.FileNames
import CspTerm.Archive.Proofs.FileNamesProofs
import CspTerm.Rotator.SerialRotator
import CspTerm.Rotator.Proofs.SerialRotatorProofs
import CspTerm.Rotator.Wire
import CspTerm.Rotator.Proofs.WireProofs
import CspTerm.Rotator.SerialPort
import CspTerm.Radio.Doppler
import CspTerm.Radio.Proofs.DopplerProofs
import CspTerm.Radio.Predict
import CspTerm.Radio.Proofs.PredictProofs
import CspTerm.Radio.TleUpdate
import CspTerm.Radio.Proofs.TleUpdateProofs
import CspTerm.Radio.TleStore
import CspTerm.Radio.Proofs.TleStoreProofs
import CspTerm.Radio.Link
import CspTerm.Radio.Console
import CspTerm.Radio.Frequencies
import CspTerm.Radio.Proofs.FrequenciesProofs
import CspTerm.Radio.ConcurrentSelection
import CspTerm.Radio.Proofs.ConcurrentSelectionProofs
import CspTerm.Station
import CspTerm.Gui.State
import CspTerm.Gui.Commands
import CspTerm.Gui.Proofs.CommandsProofs
import CspTerm.Gui.LineBuffer
import CspTerm.Gui.Proofs.LineBufferProofs
import CspTerm.Gui.ClientBuffer
import CspTerm.Gui.Proofs.ClientBufferProofs
import CspTerm.Csp.Types
import CspTerm.Csp.Conn
import CspTerm.Csp.Sendto
import CspTerm.Csp.Router
import CspTerm.Csp.Proofs.ConnProofs
import CspTerm.Csp.Proofs.RouterProofs
import CspTerm.Csp.Proofs.OpeningsProofs
import CspTerm.Csp.Memory
import CspTerm.Csp.Crc32
import CspTerm.Csp.Proofs.Crc32Proofs
import CspTerm.Csp.Kiss
import CspTerm.Csp.Proofs.KissProofs
import CspTerm.Csp.Proofs.KissResyncProofs
import CspTerm.Csp.Can
import CspTerm.Csp.Proofs.CanProofs
import CspTerm.Csp.Proofs.CanSafetyProofs
import CspTerm.Csp.Rdp
import CspTerm.Csp.Proofs.RdpProofs
import CspTerm.Csp.Proofs.RdpSystemProofs
import CspTerm.Csp.Sfp
import CspTerm.Csp.Proofs.SfpProofs
import CspTerm.Csp.Sha1
import CspTerm.Csp.Proofs.Sha1Proofs
import CspTerm.Csp.Security
import CspTerm.Csp.Proofs.SecurityProofs
import CspTerm.Csp.Rtable
import CspTerm.Csp.Proofs.RtableProofs
import CspTerm.Csp.Proofs.RtableTextProofs
import CspTerm.Csp.Queue
import CspTerm.Csp.Proofs.QueueProofs
import CspTerm.Csp.Qfifo
import CspTerm.Csp.Proofs.QfifoProofs
import CspTerm.Csp.Buffer
import CspTerm.Csp.Proofs.BufferProofs
import CspTerm.Uplink.McsFile
import CspTerm.Uplink.SendPacket
import CspTerm.Uplink.Requests
import CspTerm.Uplink.TcpServer
import CspTerm.Uplink.Ownership
import CspTerm.Uplink.HeaderFields
import CspTerm.Uplink.Proofs.McsFileProofs
import CspTerm.Uplink.Proofs.SendPacketProofs
import CspTerm.Uplink.Proofs.OwnershipProofs
import CspTerm.Uplink.Proofs.HeaderFieldsProofs
import CspTerm.Uplink.Proofs.McsUplinkProofs
import CspTerm.Uplink.Proofs.TcpServerProofs
import CspTerm.Uplink.FileErrors
import CspTerm.Uplink.Proofs.FileErrorsProofs
import CspTerm.Uplink.Archive
import CspTerm.Uplink.Proofs.ArchiveProofs
import CspTerm.Downlink.ReceivePacket
import CspTerm.Downlink.Proofs.ReceivePacketProofs
import CspTerm.Downlink.DownlinkClient
import CspTerm.Downlink.Proofs.DownlinkClientProofs
import CspTerm.Gui.Backend
import CspTerm.Gui.Snapshot
import CspTerm.Gui.HandleCommand
import CspTerm.Gui.Session
import CspTerm.Gui.Grammar
import CspTerm.Gui.Framing
import CspTerm.Gui.HeaderFields
import CspTerm.Gui.Proofs.EmergencyProofs
import CspTerm.Gui.Proofs.GrammarProofs
import CspTerm.Gui.Proofs.StatusTextProofs
import CspTerm.Gui.Proofs.FramingProofs
import CspTerm.Gui.Proofs.EventsProofs
import CspTerm.Gui.Proofs.HeaderFieldsProofs
import CspTerm.Gui.RotatorReports
import CspTerm.Gui.Proofs.RotatorReportsProofs
import CspTerm.Gui.ClientTable
import CspTerm.Gui.Proofs.ClientTableProofs
import CspTerm.Gui.UplinkSummary
import CspTerm.Gui.Proofs.UplinkSummaryProofs
import CspTerm.Gui.PassReports
import CspTerm.Gui.Proofs.PassReportsProofs
import CspTerm.Gui.Numerals
import CspTerm.Gui.Proofs.NumeralsProofs
import CspTerm.Gui.FrequencyReports
import CspTerm.Gui.Proofs.FrequencyReportsProofs
import CspTerm.Gui.HexPayload
import CspTerm.Gui.Proofs.HexPayloadProofs
import CspTerm.Downlink.Descriptions
import CspTerm.Downlink.Proofs.DescriptionsProofs
import CspTerm.Downlink.CrcCheck
import CspTerm.Downlink.Proofs.CrcCheckProofs
import CspTerm.Downlink.StatusPublisher
import CspTerm.Downlink.Proofs.StatusPublisherProofs
import CspTerm.Header.Itoa
import CspTerm.Header.GenerateCspHeader
import CspTerm.Header.Proofs.GenerateCspHeaderProofs
import CspTerm.Header.ItoaMemory
import CspTerm.Header.Proofs.ItoaProofs
import CspTerm.Downlink.McsSocket
import CspTerm.Downlink.Proofs.McsSocketProofs
import CspTerm.Station.Descriptors
import CspTerm.Station.Proofs.DescriptorsProofs
import CspTerm.Server.Handlers
import CspTerm.Server.TaskServer
import CspTerm.Server.Ownership
import CspTerm.Server.Proofs.HandlersProofs
import CspTerm.Server.Proofs.TaskServerProofs
import CspTerm.Server.Proofs.OwnershipProofs
