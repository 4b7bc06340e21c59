import FrontPanel.Lib.Run
import FrontPanel.Lib.Prog
import FrontPanel.Sio.EcHelper
import FrontPanel.Sio.EcDevice
import FrontPanel.Sio.EcMemory
import FrontPanel.Sio.EcContexts
import FrontPanel.Sio.EcSharing
import FrontPanel.Sio.Button
import FrontPanel.Sio.ButtonPress
import FrontPanel.Sio.ButtonBoards
import FrontPanel.Sio.ButtonTeardown
import FrontPanel.Lib.CString
import FrontPanel.Lib.Tiles
import FrontPanel.Sio.Beeper
import FrontPanel.Sio.BeeperCount
import FrontPanel.Sio.BeeperOutput
import FrontPanel.Sio.BeeperTimer
import FrontPanel.Sio.SuperIo
import FrontPanel.Sio.BoardSettings
import FrontPanel.Sio.Fan
import FrontPanel.Sio.FanCommands
import FrontPanel.Lib.LocalArray
import FrontPanel.Sio.ProcBuffers
import FrontPanel.Lib.Bytes
import FrontPanel.Lib.Checksum
import FrontPanel.Lib.Hex
import FrontPanel.Lib.Snprintf
import FrontPanel.Sio.Watchdog
import FrontPanel.Sio.EcFailures
import FrontPanel.Touch.Report
import FrontPanel.Touch.Parser
import FrontPanel.Touch.Reporter
import FrontPanel.Touch.Fingers
import FrontPanel.Touch.Corruption
import FrontPanel.Touch.Bus
import FrontPanel.Touch.ShortCounts
import FrontPanel.Touch.Commands
import FrontPanel.Touch.UpgradeDecision
import FrontPanel.Touch.Flash
import FrontPanel.Touch.FlashImage
import FrontPanel.Touch.Download
import FrontPanel.Touch.FirmwareLoad
import FrontPanel.Touch.EsdCheck
import FrontPanel.Touch.Suspend
import FrontPanel.Touch.Blank
import FrontPanel.Touch.RegisterFile
import FrontPanel.Touch.Dump
import FrontPanel.Touch.DebugFiles
import FrontPanel.Touch.StaleBytes
import FrontPanel.Lib.Ledger
import FrontPanel.Lib.Machine
import FrontPanel.Lib.NorFlash
import FrontPanel.Lib.Threads
import FrontPanel.Lib.Locked
import FrontPanel.Lib.Critical
import FrontPanel.Touch.Binding
import FrontPanel.Led.Mcu
import FrontPanel.Led.FrameCheck
import FrontPanel.Led.Driver
import FrontPanel.Led.Contexts
import FrontPanel.Led.Exchange
import FrontPanel.Led.Handshake
import FrontPanel.Led.Brightness
import FrontPanel.Led.BlinkRate
import FrontPanel.Led.BlinkRequest
import FrontPanel.Led.Color
import FrontPanel.Led.Binding
import FrontPanel.Led.BusScan
import FrontPanel.Led.ReadBack
import FrontPanel.Led.HddLeds
import FrontPanel.Led.Triggers
import FrontPanel.Touch.ProtocolA
import FrontPanel.Touch.PenCheck
import FrontPanel.Touch.FlashChip
import FrontPanel.Lib.Initializer
import FrontPanel.Touch.FirmwareFile
import FrontPanel.Touch.BusThreads
import FrontPanel.Sio.Speaker
import FrontPanel.Sio.SataState
import FrontPanel.Sio.ModuleLoad
import FrontPanel.Sio.EcTransactions
