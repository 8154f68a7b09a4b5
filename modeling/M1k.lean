import M1k.Library.Runs
import M1k.Sampling.Handler
import M1k.Sampling.Schedule
import M1k.Usb.Endpoint
import M1k.Streaming.State
import M1k.Streaming.Machine
import M1k.Streaming.Effects
import M1k.Streaming.Wiring
import M1k.Streaming.TimerSession
import M1k.Streaming.Trigger
import M1k.Streaming.Session
import M1k.Streaming.Alignment
import M1k.Streaming.Pointers
import M1k.Streaming.FrameOrder
import M1k.Streaming.Transfers
import M1k.Streaming.Directions
import M1k.Streaming.InDelivery
import M1k.Streaming.InIsolation
import M1k.Streaming.OutBuffers
import M1k.Streaming.OutDelivery
import M1k.Streaming.ShortPackets
import M1k.Streaming.OutBanks
import M1k.Streaming.OutIsolation
import M1k.Streaming.BusyFlags
import M1k.Streaming.Resync
import M1k.Library.Ledger
import M1k.Streaming.Accounting
import M1k.Library.Records
import M1k.Usb.Descriptors
import M1k.Streaming.Configuration
import M1k.Library.Bytes
import M1k.Library.Transmit
import M1k.Library.HexText
import M1k.Dac.Writers
import M1k.Dac.Frames
import M1k.Flashing.SamBa
import M1k.Control.Request
import M1k.Control.Standard
import M1k.Control.Flash
import M1k.Control.Endpoint
import M1k.Control.MemorySafety
import M1k.Control.Stages
import M1k.Control.AllOrNothing
import M1k.Control.Replies
import M1k.Control.RoundTrip
import M1k.Control.ReadLengths
import M1k.Control.History
import M1k.Control.Refusals
import M1k.Control.OnlyWrites
import M1k.Control.FailedStores
import M1k.Control.SerialString
import M1k.Library.Locks
import M1k.Library.Waveform
import M1k.Board.Accesses
import M1k.Board.Requests
import M1k.Library.Refinement
import M1k.Streaming.DeviceState
import M1k.Control.FlashService
import M1k.Board.Modes
import M1k.Board.TwoWire
import M1k.Streaming.Starts
import M1k.Firmware.Machine
import M1k.Firmware.Refinement
import M1k.Firmware.Requests
import M1k.Firmware.Commands
import M1k.Library.Countdown
import M1k.Firmware.Watchdog
import M1k.Flashing.Programming
import M1k.Firmware.Program
import M1k.Library.Packets
import M1k.Usb.Transfers
import M1k.Streaming.RunCall
import M1k.Streaming.FlagEffects
import M1k.Streaming.FlagAgreement
import M1k.Streaming.Atomicity
