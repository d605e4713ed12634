import Ecco9.Run
import Ecco9.GoInt64
import Ecco9.V4.State
import Ecco9.V4.Load
import Ecco9.V4.Rest
import Ecco9.V4.Recovery
import Ecco9.V4.Memory
import Ecco9.Echoself.State
import Ecco9.Echoself.Lifecycle
import Ecco9.Control
import Ecco9.Npu.Hardware
import Ecco9.Npu.Device
import Ecco9.Npu.Calls
import Ecco9.Npu.Telemetry
import Ecco9.Npu.Elite
import Ecco9.Npu.Driver
import Ecco9.Npu.Ontogenesis
import Ecco9.Npu.Heredity
import Ecco9.Npu.Elitism
import Ecco9.Npu.Assessment
import Ecco9.Npu.Model
import Ecco9.Npu.DeadPaths
import Ecco9.Npu.DriverDevices
