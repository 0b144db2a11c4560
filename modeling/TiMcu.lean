import TiMcu.Lib.Runs
import TiMcu.FlashFs.Update
import TiMcu.FlashFs.TurnPage
import TiMcu.FlashFs.TurnSafe
import TiMcu.FlashFs.Calls
import TiMcu.FlashFs.FileMap
import TiMcu.FlashFs.PowerCut
import TiMcu.FlashFs.Space
import TiMcu.Lib.Past
import TiMcu.Tbfp.ReTxFsm
import TiMcu.Tbfp.Send
import TiMcu.Tbfp.AckMatch
import TiMcu.Tbfp.SameFrame
import TiMcu.Tbfp.Fresh
import TiMcu.Tbfp.NoLoss
import TiMcu.FlashFs.FreeTail
import TiMcu.Tbfp.Outcome
import TiMcu.Lib.Buffer
import TiMcu.Lib.Framing
import TiMcu.Ubx.Parser
import TiMcu.Ubx.Inside
import TiMcu.Lib.Crc24
import TiMcu.Rtcm3.Parser
import TiMcu.Tbfp.Effects
import TiMcu.Tbfp.Handle
import TiMcu.Tbfp.RoundTrip
import TiMcu.Tbfp.Flow
import TiMcu.Tbfp.Reentry
import TiMcu.Tbfp.Needed
import TiMcu.Rtcm3.Agree
import TiMcu.Rtcm3.Relay
import TiMcu.Lib.Streaks
import TiMcu.Tbfp.Statistics
import TiMcu.Tbfp.Forward
import TiMcu.Lib.Stutter
import TiMcu.Lora.Queue
import TiMcu.Lora.Tunnel
import TiMcu.Tbfp.TryCount
import TiMcu.Ubx.RoundTrip
import TiMcu.Ubx.WaitAck
import TiMcu.Lib.Preamble
import TiMcu.Ubx.Resync
import TiMcu.Lib.OpenTable
import TiMcu.Ubx.Stat
import TiMcu.Ubx.NavInfo
import TiMcu.Ubx.NavData
import TiMcu.Lib.Blocks
import TiMcu.Lib.Gregorian
import TiMcu.Calendar.Convert
import TiMcu.Lib.Budget
import TiMcu.Boot.Driver
import TiMcu.Loader.Update
import TiMcu.Lib.Placement
import TiMcu.Tcan4550.Mram
import TiMcu.Nmea.Parser
import TiMcu.Nmea.Resync
import TiMcu.Lib.FieldWalk
import TiMcu.Nmea.Sentences
import TiMcu.Nmea.FieldsInside
import TiMcu.Lib.FieldLog
import TiMcu.Nmea.Slots
import TiMcu.Nmea.Positions
import TiMcu.Tables.Indices
import TiMcu.Tables.Bounds
import TiMcu.Tables.Paths
import TiMcu.Lib.Fetch
import TiMcu.Tables.WholeFrame
import TiMcu.FlashFs.Count
import TiMcu.FlashFs.Invalidate
import TiMcu.Lib.Checked
import TiMcu.Lib.Words
import TiMcu.Lib.CString
import TiMcu.Lib.Dialog
import TiMcu.Cli.Args
import TiMcu.Telematic.Commands
import TiMcu.Can.Send
import TiMcu.Flash.SpareRegion
import TiMcu.Flash.SectorErase
import TiMcu.Tcan4550.Spi
import TiMcu.Tcan4550.Elements
import TiMcu.Lib.Watch
import TiMcu.Sx1262.Spi
import TiMcu.Sx1262.Quiet
import TiMcu.Sx1262.Commands
import TiMcu.Sx1262.Process
import TiMcu.Sx1262.Gate
import TiMcu.Sx1262.Chip
import TiMcu.Sx1262.Link
import TiMcu.Sx1262.Registers
import TiMcu.Sx1262.Setup
import TiMcu.Radio.Machine
import TiMcu.Radio.Sender
import TiMcu.Radio.Acts
import TiMcu.Radio.Pair
import TiMcu.Can.Bus
