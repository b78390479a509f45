import Greybus.Core.RxQueue
import Greybus.Core.Registration
import Greybus.Core.References
import Greybus.Core.RequestIds
import Greybus.Core.Completion
import Greybus.Core.FailedSends
import Greybus.Core.Timeouts
import Greybus.Core.ResponseSize
import Greybus.Core.Cports
import Greybus.Core.Responses
import Greybus.Core.TapeBounds
import Greybus.Core.Lifecycle
import Greybus.Core.BundleTable
import Greybus.Core.Enqueue
import Greybus.Core.HandlerSearch
import Greybus.Manifest.PatchedBlob
import Greybus.Manifest.PatchRuns
import Greybus.Manifest.PatchBounds
import Greybus.Manifest.Release
import Greybus.Manifest.Rejection
import Greybus.Manifest.WalkBounds
import Greybus.Transport.Multiplex
import Greybus.Transport.MultiplexReceive
import Greybus.Transport.Connections
import Greybus.Transport.Threads
import Greybus.Transport.UartWakeups
import Greybus.Protocols.GpioDirection
import Greybus.Protocols.I2cBuffers
import Greybus.Protocols.SpiLayout
import Greybus.Protocols.Loopback
import Greybus.Protocols.Sdio
import Greybus.Protocols.CameraBounds
import Greybus.Protocols.AudioDivisors
import Greybus.Protocols.AudioData
import Greybus.Protocols.UartReceiver
import Greybus.Protocols.HidReports
import Greybus.Protocols.HidSetReport
import Greybus.Platform.CportMap
import Greybus.Platform.Mikrobus
import Greybus.Platform.W1Gpio
import Greybus.Core.Pairing
import Greybus.Core.Shutdown
import Greybus.Core.TapeSession
import Greybus.Protocols.UartStatus
import Greybus.Protocols.LoopbackRuns
import Greybus.Protocols.Lights
import Greybus.Transport.OverTheWire
import Greybus.Protocols.Pwm
import Greybus.Platform.Service
import Greybus.Platform.SpiDevices
import Greybus.Protocols.HidRequests
import Greybus.Protocols.UartCommands
import Greybus.Protocols.AudioPcm
import Greybus.Protocols.LoopbackTimes
import Greybus.Protocols.AudioPlayback
