import IoModule.ForLoop
import IoModule.Dispatch
import IoModule.Casts
import IoModule.Numbered
import IoModule.ChangeFilter
import IoModule.Watermark
import IoModule.Bag
import IoModule.Run
import IoModule.Heap
import IoModule.Tally
import IoModule.Unwinding
import IoModule.Json.Value
import IoModule.Json.Build
import IoModule.Json.Conversion
import IoModule.Json.Text
import IoModule.Json.Number
import IoModule.Utils.Serialization
import IoModule.Utils.ConfigParameters
import IoModule.Utils.DeviceStatus
import IoModule.Utils.DeviceCommand
import IoModule.Utils.ListedActions
import IoModule.Utils.StatusColumns
import IoModule.Utils.StatusSizes
import IoModule.Utils.StatusCalls
import IoModule.Utils.StatusNumbers
import IoModule.Utils.StatusAliases
import IoModule.Utils.Overwriting
import IoModule.Devices.Family
import IoModule.Devices.ModuleManager
import IoModule.Devices.StatusFilter
import IoModule.Devices.Stutter
import IoModule.Devices.ForwardingRule
import IoModule.Devices.ErrorAggregation
import IoModule.Devices.ErrorTally
import IoModule.Devices.Normaliser
import IoModule.Devices.FirstCommand
import IoModule.Devices.Effects
import IoModule.Devices.Exceptions
import IoModule.Devices.OtherDevices
import IoModule.Devices.DocumentedShape
import IoModule.Devices.Sentinels
import IoModule.Devices.Consumers
import IoModule.Devices.Completeness
import IoModule.Devices.Executable
import IoModule.Server.Context
import IoModule.Server.Init
import IoModule.Server.Patterns
import IoModule.Server.Settings
import IoModule.Server.Poll
import IoModule.Server.Registry
import IoModule.Server.Session
import IoModule.Server.Drain
import IoModule.Server.Independence
import IoModule.Server.Failures
import IoModule.Server.HighWater
import IoModule.Server.System
import IoModule.Server.Order
import IoModule.Server.CommandPath
import IoModule.Server.Delivery
import IoModule.Server.Backlog
import IoModule.Server.Relay
import IoModule.Server.Api
import IoModule.Server.Provenance
import IoModule.Server.Memory
import IoModule.Server.Ledger
import IoModule.Server.TestServer
