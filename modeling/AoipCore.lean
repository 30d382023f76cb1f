import AoipCore.Ptp.Measurement
import AoipCore.Ptp.Filter
import AoipCore.Ptp.StaleBuffer
import AoipCore.Ptp.Decoding
import AoipCore.Ptp.Rounds
import AoipCore.Ptp.Bias
import AoipCore.Ptp.Requests
import AoipCore.Sap.Announced
import AoipCore.Sap.BuildBounds
import AoipCore.Sap.SearchSafety
import AoipCore.Sap.ConnectionLine
import AoipCore.Rtpdump
import AoipCore.System
import AoipCore.Tone
import AoipCore.Network.Config
import AoipCore.Network.Lifecycle
import AoipCore.Network.Source
import AoipCore.Network.Retry
import AoipCore.MediaClock
import AoipCore.Realtime.Player
import AoipCore.Realtime.Generator
import AoipCore.Memory
import AoipCore.Process.Shutdown
import AoipCore.Tools
