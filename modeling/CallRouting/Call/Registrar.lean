import CallRouting.Binding.Compile
import CallRouting.Call.Stack

/-!
# Attaching endpoint stages

A registrar compiles a service once for a list of integrations, and builds the endpoint stage of an
operation for each client. The stage goes right after its anchor in the stack of the operation. An
operation of a service without endpoint rules has no endpoint stage.
-/

namespace CallRouting.Call

/-- What endpoint stages are built from. -/
structure Registrar where
  /-- The service. -/
  service : Service
  /-- The integrations. -/
  integrations : List Integration
  /-- The programs of the service. -/
  compiled : Binding.Compiled

/-- A stage that was built, and what the handlers of built-in parameters have to say about it. -/
structure Built where
  /-- The stage. -/
  stage : EndpointStage
  /-- What the handlers have to say. -/
  notes : List Json.Value

namespace Registrar

/-- The registrar of a service. -/
def new (service : Service) (integrations : List Integration) :
    Except Binding.CompileError Registrar :=
  (Binding.compile service integrations).map fun compiled ↦ ⟨service, integrations, compiled⟩

/-- Sets up the handlers of built-in parameters, if the program takes built-in values. -/
def setUps (r : Registrar) (program : Binding.Program) (options : ClientOptions) : List SetUp :=
  if program.takesBuiltIns then
    (Integration.handlers r.integrations).map fun h ↦ h.setUp program.catalog options
  else []

/-- Builds the endpoint stage of an operation; there is none without endpoint rules. -/
def build (r : Registrar) (operation : String) (options : ClientOptions) :
    Except StackError (Option Built) :=
  match r.service.operation? operation with
  | none => .error (.unknownOperation r.service.name operation)
  | some model =>
    match r.compiled.program? operation with
    | none => .ok none
    | some program =>
      let setUps := r.setUps program options
      .ok <| some
        ⟨.ofOptions program options (setUps.map SetUp.source)
            (.ofIntegrations r.integrations options r.service model),
          setUps.flatMap SetUp.notes⟩

/-- Attaches the endpoint stage of an operation to a stack, and answers whether there is one. -/
def register (r : Registrar) (operation : String) (options : ClientOptions) (stack : Stack) :
    Stack × Except StackError Bool :=
  match r.build operation options with
  | .error e => (stack, .error e)
  | .ok none => (stack, .ok false)
  | .ok (some built) =>
    let inserted := stack.insert (.ofEndpointStage built.stage) EndpointStage.anchorId .after
    (inserted.1, inserted.2.map fun () ↦ true)

end Registrar

end CallRouting.Call
