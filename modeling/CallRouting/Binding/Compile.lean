import CallRouting.Binding.Error
import CallRouting.Call.Integration

/-!
# Compiling the bindings of a service

A service is compiled into one program for each operation, once all its declarations are found to be
sound. The checks go through the catalog, then the client parameters, then the operations, and the
first fault refuses the service. A service without endpoint rules has no programs.

Sources that aim at one parameter of an operation overlap. That is allowed, since the order of
precedence decides, but it is reported.
-/

namespace CallRouting.Binding

/-- A parameter that more than one source of an operation aims at. -/
structure Overlap where
  /-- The operation. -/
  operation : String
  /-- The parameter. -/
  parameter : String
  /-- The sources, in the order of precedence. -/
  sources : List Source
  deriving DecidableEq, Repr

/-- The programs of a service. -/
structure Compiled where
  /-- The name of the service. -/
  service : String
  /-- The programs, by operation. -/
  programs : OrderedMap Program
  /-- The overlaps, operation by operation. -/
  overlaps : List Overlap
  /-- What there is to warn of. -/
  warnings : List Warning
  deriving DecidableEq

/-- Checks the parameters of a catalog one after the other, after those with the names `seen`. -/
def checkParameters (service : String) :
    List String → List Parameter → Except CompileError Unit
  | _, [] => .ok ()
  | seen, p :: rest =>
    if !isParameterName p.name then .error (.invalidParameterName service p.name)
    else if p.name ∈ seen then .error (.duplicateParameter service p.name)
    else checkParameters service (p.name :: seen) rest

/-- Checks client parameters one after the other, and answers those that are not built-in. -/
def checkClientParameters (service : String) (catalog : Catalog) :
    List (String × ClientParameter) → Except CompileError (List String)
  | [] => .ok []
  | (name, client) :: rest =>
    match catalog.get? name with
    | none => .error (.unknownParameter service name .clientContext)
    | some declared =>
      -- built-in values come from elsewhere, so the declared type does not matter
      if declared.isBuiltIn then checkClientParameters service catalog rest
      else if client.type ≠ declared.type then
        .error (.clientContextType service name client.type declared.type)
      else (checkClientParameters service catalog rest).map (name :: ·)

/-- Checks that a parameter may be aimed at: it is declared and not built-in. -/
def checkTarget (scope : String) (catalog : Catalog) (parameter : String) (source : Source) :
    Except CompileError Unit :=
  match catalog.get? parameter with
  | none => .error (.unknownParameter scope parameter source)
  | some declared =>
    if declared.isBuiltIn then .error (.builtInTarget scope parameter source) else .ok ()

/-- Checks that parameters may be aimed at, one after the other. -/
def checkTargets (scope : String) (catalog : Catalog) (source : Source) :
    List String → Except CompileError Unit
  | [] => .ok ()
  | p :: rest =>
    match checkTarget scope catalog p source with
    | .error e => .error e
    | .ok () => checkTargets scope catalog source rest

/-- The parameter that a step aims at, if it aims at one. -/
def Step.target? : Step → Option String
  | .builtIns => none
  | .clientContext p => some p
  | .inputContext _ p => some p
  | .staticContext p _ => some p

/-- A table of sources by parameter, after one more step has added its source under the parameter
that it aims at. -/
def addSource (table : OrderedMap (List Source)) (s : Step) : OrderedMap (List Source) :=
  match s.target? with
  | none => table
  | some p => table.insert p ((table.get? p).getD [] ++ [s.source])

/-- What is gathered for an operation while its declarations are gone through. -/
structure Draft where
  /-- The steps. -/
  steps : List Step
  /-- The parameters that the steps aim at, each with the sources of the steps for it. -/
  targets : OrderedMap (List Source)

namespace Draft

/-- A draft without steps. -/
def empty : Draft := ⟨[], OrderedMap.empty⟩

/-- The draft with one more step. -/
def push (d : Draft) (s : Step) : Draft := ⟨d.steps ++ [s], addSource d.targets s⟩

/-- The draft with the steps of bound members. Each parameter is checked before its step is made. -/
def pushMembers (scope : String) (catalog : Catalog) :
    List (String × String) → Draft → Except CompileError Draft
  | [], d => .ok d
  | (member, parameter) :: rest, d =>
    match checkTarget scope catalog parameter .inputContext with
    | .error e => .error e
    | .ok () => pushMembers scope catalog rest (d.push (.inputContext member parameter))

/-- The draft with the steps of fixed values, in the order of the catalog. -/
def pushStatics (operation : String) (values : OrderedMap Json.Value) :
    List Parameter → Draft → Except CompileError Draft
  | [], d => .ok d
  | p :: rest, d =>
    match values.get? p.name with
    | none => pushStatics operation values rest d
    | some raw =>
      match ParameterValue.ofJson p.type raw with
      | .error cause => .error (.staticType operation p.name cause)
      | .ok v => pushStatics operation values rest (d.push (.staticContext p.name v))

/-- The overlaps of an operation: the parameters with several sources. -/
def overlaps (d : Draft) (operation : String) : List Overlap :=
  (d.targets.entries.filter fun e ↦ 1 < e.2.length).map fun e ↦ ⟨operation, e.1, e.2⟩

end Draft

/-- Goes through the declarations of an operation, given the client parameters that are not
built-in. -/
def draftOperation (service : String) (catalog : Catalog) (client : List String)
    (operation : Operation) : Except CompileError Draft :=
  let scope := service ++ "." ++ operation.name
  let opening := if catalog.hasBuiltIns then Draft.empty.push .builtIns else .empty
  let configured := client.foldl (fun d p ↦ d.push (.clientContext p)) opening
  match configured.pushMembers scope catalog operation.bindings with
  | .error e => .error e
  | .ok bound =>
    match checkTargets scope catalog .staticContext operation.staticParams.keys with
    | .error e => .error e
    | .ok () => bound.pushStatics operation.name operation.staticParams catalog.parameters

/-- The shape that the input of a call must have: that of the operation, if a member is bound. -/
def inputShapeOf (operation : Operation) : Option String :=
  if operation.hasBindings then operation.input.map InputShape.name else none

/-- The program of an operation and its overlaps. -/
def compileOperation (service : String) (catalog : Catalog) (client : List String)
    (operation : Operation) : Except CompileError (Program × List Overlap) :=
  (draftOperation service catalog client operation).map fun d ↦
    (.ofSteps operation.name catalog (inputShapeOf operation) d.steps, d.overlaps operation.name)

/-- The programs and overlaps of operations, one after the other. -/
def compileOperations (service : String) (catalog : Catalog) (client : List String) :
    List Operation → Except CompileError (List (Program × List Overlap))
  | [] => .ok []
  | o :: rest =>
    match compileOperation service catalog client o with
    | .error e => .error e
    | .ok c => (compileOperations service catalog client rest).map (c :: ·)

/-- What there is to warn of in a service that is sound. -/
def compileWarnings (catalog : Catalog) (handlers : List Call.BuiltInHandler)
    (overlaps : List Overlap) : List Warning :=
  (if catalog.hasBuiltIns && handlers.isEmpty then [.builtInsUnsupplied] else [])
    ++ overlaps.map fun o ↦ .overlap o.parameter

/-- Compiles a service for a client with integrations. -/
def compile (service : Service) (integrations : List Call.Integration) :
    Except CompileError Compiled :=
  match service.catalog? with
  | none => .ok ⟨service.name, OrderedMap.empty, [], []⟩
  | some catalog =>
    match checkParameters service.name [] catalog.parameters with
    | .error e => .error e
    | .ok () =>
      match checkClientParameters service.name catalog service.clientParameters.entries with
      | .error e => .error e
      | .ok client =>
        match compileOperations service.name catalog client service.operations with
        | .error e => .error e
        | .ok compiled =>
          let overlaps := compiled.flatMap Prod.snd
          let handlers := Call.Integration.handlers integrations
          .ok
            { service := service.name
              programs := OrderedMap.ofList (compiled.map fun c ↦ (c.1.operation, c.1))
              overlaps := overlaps
              warnings := compileWarnings catalog handlers overlaps }

/-- The program of an operation. -/
def Compiled.program? (c : Compiled) (operation : String) : Option Program :=
  c.programs.get? operation

end CallRouting.Binding
