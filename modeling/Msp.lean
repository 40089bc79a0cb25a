import Msp.Cpp.EloraAllocatorHistory
import Msp.Cuda.GatedGradient
import Msp.Cuda.GradientKernel
import Msp.Cuda.IndexWidth
import Msp.Daemon.ContainsCi
import Msp.Daemon.FallbackPoint
import Msp.Daemon.IntegrityCheck
import Msp.Daemon.Signatures
import Msp.Daemon.TelemetryServerRun
import Msp.Daemon.ThermalCorruption
import Msp.Daemon.ThermalWatchdog
import Msp.Daemon.WatchdogdOptions
import Msp.Daemon.WatchdogdSocketFile
import Msp.Daemon.WatchdogdThreads
import Msp.GuardedTelemetry
import Msp.Library.BinaryFloat
import Msp.Library.Handles
import Msp.Library.JsonExtension
import Msp.Library.JsonRoundTrip
import Msp.Library.Pairing
import Msp.Library.PythonGrammar
import Msp.Library.PythonUnicode
import Msp.Library.Streams
import Msp.Python.AdapterFile
import Msp.Python.AdapterManagerGuarantees
import Msp.Python.AdapterManagerHistory
import Msp.Python.AdapterManagerTransparency
import Msp.Python.EvictionFrame
import Msp.Python.FailClosed
import Msp.Python.ForwardStream
import Msp.Python.GatedAdapters
import Msp.Python.GradientThrottle
import Msp.Python.GuardedExecutorChild
import Msp.Python.GuardedExecutorOutcome
import Msp.Python.GuardedExecutorRaise
import Msp.Python.GuardedExecutorValue
import Msp.Python.PersistenceMismatch
import Msp.Python.PersistenceRoundTrip
import Msp.Python.PersistenceScale
import Msp.Python.PluginForward
import Msp.Python.ThermalDiscovery
import Msp.Python.ThermalZones
import Msp.ReaderFallback
import Msp.SensorFallback
import Msp.TelemetryDelivery
import Msp.TelemetryProtocol
import Msp.ThermalAgreement
import Msp.Training.AdapterObjects
import Msp.Training.AdapterSession
import Msp.Training.ServedAdapters
import Msp.Training.ThermalTraining
import Msp.Training.TrainAdapter
import Msp.Training.TrainingFrame
import Msp.Training.TransformerBlock
