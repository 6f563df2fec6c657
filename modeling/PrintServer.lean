import PrintServer.Lib.Runs
import PrintServer.Lib.Ring
import PrintServer.Lib.IppGrammar
import PrintServer.Lib.FirstBest
import PrintServer.Lib.Json
import PrintServer.ChunkSize
import PrintServer.BodyDecode
import PrintServer.Backend
import PrintServer.Ledger
import PrintServer.IppJob
import PrintServer.IppDocument
import PrintServer.IppTruncation
import PrintServer.PjlDetector
import PrintServer.RawServer
import PrintServer.RawRing
import PrintServer.RawMoves
import PrintServer.RawPassthrough
import PrintServer.RawStaging
import PrintServer.IppRequest
import PrintServer.IppAttributes
import PrintServer.HeaderValue
import PrintServer.IppService
import PrintServer.IppWriter
import PrintServer.PrinterAttributes
import PrintServer.PrinterResponse
import PrintServer.IppMoves
import PrintServer.IppChanges
import PrintServer.JobStates
import PrintServer.IppResponse
import PrintServer.JobTarget
import PrintServer.Loop
import PrintServer.ReportedTimes
import PrintServer.ConfigServer
import PrintServer.ClockShift
import PrintServer.Drain
import PrintServer.JobCount
import PrintServer.OneJob
import PrintServer.JobOutcome
import PrintServer.DocumentFormat
import PrintServer.Rejected
import PrintServer.CancelJob
import PrintServer.PrintingEnds
import PrintServer.UsbStream
import PrintServer.StreamFifo
import PrintServer.StreamRing
import PrintServer.StreamWake
import PrintServer.StreamReset
import PrintServer.StreamFlush
import PrintServer.UsbClient
import PrintServer.BulkOut
import PrintServer.BulkOutLoss
import PrintServer.BulkOutSerial
import PrintServer.BulkWriteAll
import PrintServer.Sending
import PrintServer.SendOnce
import PrintServer.Conversation
import PrintServer.JobBytes
import PrintServer.Lib.Timer
import PrintServer.Pipe
import PrintServer.Transferred
import PrintServer.WifiService
