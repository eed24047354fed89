import CallRouting.Call.Integration

/-!
# The endpoint stage

The stage of an operation's stack that finds the endpoint of a call and points the request at it. It
checks that the request is for HTTP, runs the hooks before the resolution, checks the shape of the
input, binds the parameters, asks the resolver, applies the endpoint and runs the hooks after the
resolution. Whatever fails ends the call, and before an endpoint is applied nothing but the hooks
has changed the request.
-/

namespace CallRouting.Call

/-- The endpoint stage of an operation. -/
structure EndpointStage where
  /-- The program that binds the parameters. -/
  program : Binding.Program
  /-- What resolves endpoints. -/
  resolver : Option Resolver
  /-- The values of client parameters. -/
  clientContext : OrderedMap ParameterValue
  /-- The sources of built-in values. -/
  builtIns : List BuiltInSource
  /-- The hooks. -/
  hooks : Hooks

namespace EndpointStage

/-- The name of the stage in a stack. -/
def stageId : String := "ResolveEndpointV2"

/-- The name of the stage that it comes after. -/
def anchorId : String := "ResolveEndpoint"

/-- Checks the shape of the input, if the program reads it. -/
def checkInput (program : Binding.Program) : Pass Unit := fun x ↦
  match program.inputShape with
  | none => ⟨x, [], .ok ()⟩
  | some shape =>
    if x.input.shape = shape then ⟨x, [.reached .inputValidated], .ok ()⟩
    else ⟨x, [], .error (.inputShape shape x.input.shape)⟩

/-- The resolver, if the client has one. -/
def requireResolver : Option Resolver → Pass Resolver
  | none => .fail .missingResolver
  | some r => .answer r

/-- Takes the values of a source. -/
def takeSupply (source : BuiltInSource) : Pass (OrderedMap ParameterValue) := fun x ↦
  let s := source.supply x.context
  ⟨{ x with context := x.context.cancelIf s.cancels }, .supplied s.values :: s.notes.map .note,
    .ok s.values⟩

/-- Takes the values of sources, one after the other. -/
def takeSupplies : List BuiltInSource → Pass Binding.BuiltInValues
  | [] => .answer []
  | s :: rest => do
    let values ← takeSupply s
    let others ← takeSupplies rest
    return values :: others

/-- The built-in values, if the program takes any. -/
def takeBuiltIns (s : EndpointStage) : Pass Binding.BuiltInValues :=
  if s.program.takesBuiltIns then takeSupplies s.builtIns else .answer []

/-- Binds the parameters, and warns of what was passed over. -/
def bindParameters (s : EndpointStage) (builtIns : Binding.BuiltInValues) :
    Pass Binding.Record := fun x ↦
  ⟨x, (s.program.warnings builtIns s.clientContext x.input).map .warning,
    match s.program.resolve builtIns s.clientContext x.input with
    | .error e => .error (.binding e)
    | .ok record => .ok record⟩

/-- Points the request at an endpoint. -/
def applyEndpoint (e : Http.Endpoint) : Pass Unit := fun x ↦
  ⟨{ x with request := e.apply x.request }, [], .ok ()⟩

/-- Everything that the stage does with a request for HTTP. -/
def pass (s : EndpointStage) : Pass Unit := do
  s.hooks.run .pre
  checkInput s.program
  let resolver ← requireResolver s.resolver
  Pass.log (.reached .resolverChecked)
  let builtIns ← s.takeBuiltIns
  Pass.log (.reached .builtinsApplied)
  let record ← s.bindParameters builtIns
  Pass.log (.reached .paramsBound)
  let endpoint ← resolver.pass record
  Pass.log (.reached .endpointResolved)
  applyEndpoint endpoint
  Pass.log (.reached .requestMutated)
  s.hooks.run .post

/-- What the stage did with a call: the call after it, what happened, and why it failed, if it
did. -/
structure Result where
  /-- The call after the stage. -/
  call : Call
  /-- What happened. -/
  log : List Event
  /-- Why the stage failed, if it did. -/
  failure : Option EndpointError

/-- Takes a call through the stage. -/
def run (s : EndpointStage) (call : Call) : Result :=
  match call.transport with
  | .other typeName =>
    ⟨call, [.reached .start, .failed .transport], some (.transportType typeName)⟩
  | .http request =>
    let step := s.pass ⟨call.context, request, call.input⟩
    let after : Call := ⟨step.exchange.context, .http step.exchange.request, step.exchange.input⟩
    let log := .reached .start :: .reached .transportValidated :: step.log
    match step.result with
    | .error e => ⟨after, log ++ [.failed e.kind], some e⟩
    | .ok () => ⟨after, log ++ [.reached .done], none⟩

/-- The stage of an operation for a client with options. -/
def ofOptions (program : Binding.Program) (options : ClientOptions)
    (builtIns : List BuiltInSource) (hooks : Hooks) : EndpointStage :=
  ⟨program, options.resolver, options.clientContext, builtIns, hooks⟩

end EndpointStage

end CallRouting.Call
