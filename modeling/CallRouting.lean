import CallRouting.Binding.Compile
import CallRouting.Binding.Error
import CallRouting.Binding.Program
import CallRouting.Binding.Record
import CallRouting.Binding.Source
import CallRouting.Call.Context
import CallRouting.Call.Display
import CallRouting.Call.EndpointStage
import CallRouting.Call.Error
import CallRouting.Call.Event
import CallRouting.Call.Hook
import CallRouting.Call.Input
import CallRouting.Call.Integration
import CallRouting.Call.Registrar
import CallRouting.Call.Resolver
import CallRouting.Call.Stack
import CallRouting.Call.Transmitter
import CallRouting.Decimal.Digits
import CallRouting.Decimal.Double
import CallRouting.Decimal.Shortest
import CallRouting.Document.Basic
import CallRouting.Document.Fields
import CallRouting.Http.Headers
import CallRouting.Http.Request
import CallRouting.Json.Document
import CallRouting.Json.Number
import CallRouting.Json.Place
import CallRouting.Json.Printer
import CallRouting.Json.Reader
import CallRouting.Json.Value
import CallRouting.OrderedMap
import CallRouting.Parameter.Catalog
import CallRouting.Parameter.Value
import CallRouting.Service.Basic
import CallRouting.Service.Text
import CallRouting.Settings.Basic
import CallRouting.Settings.Options
import CallRouting.Settings.Path
import CallRouting.Settings.Store
import CallRouting.Text.Blank
import CallRouting.Text.Quoted
import CallRouting.Text.Visible
import CallRouting.Url.Basic
import CallRouting.Url.Host
import CallRouting.Url.Percent
import CallRouting.Url.Punycode
import CallRouting.Url.Reader
import CallRouting.Warning
import CallRouting.Yaml.Lexer
import CallRouting.Yaml.Node
import CallRouting.Yaml.Place
import CallRouting.Yaml.Plain
import CallRouting.Yaml.Printer
import CallRouting.Yaml.Property
import CallRouting.Yaml.Scalar
import CallRouting.Yaml.Token
import CallRouting.Proofs.Binding.Record
import CallRouting.Proofs.FirstFault
import CallRouting.Proofs.Binding.Acceptance
import CallRouting.Proofs.Binding.Assignments
import CallRouting.Proofs.Binding.Precedence
import CallRouting.Proofs.Call.Hooks
import CallRouting.Proofs.Call.Passage
import CallRouting.Proofs.Call.Transitions
import CallRouting.Proofs.Call.Atomicity
import CallRouting.Proofs.Call.Checks
import CallRouting.Proofs.Call.Registrar
import CallRouting.Proofs.Call.TypedSettings
import CallRouting.Proofs.Settings.Options
import CallRouting.Proofs.Call.Chain
import CallRouting.Proofs.Call.ConfiguredValues
import CallRouting.Proofs.Call.Capabilities
import CallRouting.Proofs.Call.Signal
import CallRouting.Proofs.Call.Cancellation
import CallRouting.Proofs.Call.StackEdits
import CallRouting.Proofs.Json.Layout
import CallRouting.Proofs.Json.Number
import CallRouting.Proofs.Json.Value
import CallRouting.Proofs.Json.Reader
import CallRouting.Proofs.Json.Document
import CallRouting.Proofs.Document.Holding
import CallRouting.Proofs.Json.Place
import CallRouting.Proofs.Service.Text
import CallRouting.Proofs.Settings.Files
import CallRouting.Proofs.Settings.Store
import CallRouting.Proofs.Binding.Independence
import CallRouting.Proofs.Call.Registration
import CallRouting.Proofs.Call.Journey
import CallRouting.Proofs.Binding.TypedAssignments
import CallRouting.Proofs.Call.TypedRecords
import CallRouting.Proofs.Binding.MistypedValues
import CallRouting.Proofs.Binding.Violations
import CallRouting.Proofs.Settings.Acceptance
import CallRouting.Proofs.Binding.Overlaps
import CallRouting.Proofs.Http.Succession
import CallRouting.Proofs.Call.HookOrder
import CallRouting.Proofs.Binding.LastWrites
import CallRouting.Proofs.Settings.HomeOverride
import CallRouting.Proofs.Binding.Transcript
