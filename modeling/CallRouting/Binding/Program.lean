import CallRouting.Binding.Record
import CallRouting.Call.Input

/-!
# Assignment programs

The program of an operation is a list of steps in the order of precedence. For a call it is run on
the built-in values, the client's configuration and the input of the call: each step gives
assignments, and the record is what they leave.

A run fails at the first value that is not of the type of its parameter, even if a later step would
replace it. A built-in value for a parameter that is not built-in is passed over instead.
-/

namespace CallRouting.Binding

open Call (Input)

/-- A step of a program. -/
inductive Step where
  /-- Takes all built-in values. -/
  | builtIns
  /-- Takes the client's value for a parameter. -/
  | clientContext (parameter : String)
  /-- Takes a member of the input. -/
  | inputContext (member parameter : String)
  /-- Takes a value that the operation fixes. -/
  | staticContext (parameter : String) (value : ParameterValue)
  deriving DecidableEq, Repr

/-- The source of a step's assignments. -/
def Step.source : Step → Source
  | builtIns => .builtIn
  | clientContext _ => .clientContext
  | inputContext _ _ => .inputContext
  | staticContext _ _ => .staticContext

/-- Why a run of a program fails. -/
inductive Failure where
  /-- A value of the client is not of the type of its parameter. -/
  | mistyped (parameter : String) (origin : Source) (expected found : ValueType)
  /-- A member of the input is not of the type of the parameter that it supplies. -/
  | invalidMember (member parameter : String) (cause : TypeMismatch)
  deriving DecidableEq, Repr

/-- The text of a failure. -/
def Failure.message : Failure → String
  | mistyped parameter origin expected found =>
    origin.name ++ " value for parameter '" ++ parameter ++ "' is a " ++ found.name
      ++ ", expected " ++ expected.name
  | invalidMember member parameter cause =>
    "input member '" ++ member ++ "' cannot supply parameter '" ++ parameter ++ "': "
      ++ cause.message

/-- The program of an operation. -/
structure Program where
  /-- The name of the operation. -/
  operation : String
  /-- The parameters of the service. -/
  catalog : Catalog
  /-- The shape that the input of a call must have, if the program reads the input. -/
  inputShape : Option String
  /-- The steps, in the order in which they are run. -/
  steps : List Step
  deriving DecidableEq

/-- The built-in values that a call runs with: one map for each source of them. -/
abbrev BuiltInValues : Type := List (OrderedMap ParameterValue)

namespace Program

/-- A program whose steps are brought into the order of precedence; steps of one source keep their
order. -/
def ofSteps (operation : String) (catalog : Catalog) (inputShape : Option String)
    (steps : List Step) : Program :=
  ⟨operation, catalog, inputShape, steps.mergeSort fun a b ↦ a.source.rank ≤ b.source.rank⟩

/-- Whether the program takes built-in values. -/
def takesBuiltIns (p : Program) : Bool := p.steps.contains .builtIns

/-- Whether a name is that of a built-in parameter. -/
def isBuiltIn (p : Program) (parameter : String) : Bool :=
  match p.catalog.get? parameter with
  | none => false
  | some declared => declared.isBuiltIn

/-- Checks a value against the type of a parameter; any value will do for an unknown one. -/
def checkType (p : Program) (parameter : String) (value : ParameterValue) (origin : Source) :
    Except Failure Unit :=
  match p.catalog.get? parameter with
  | none => .ok ()
  | some declared =>
    if value.type = declared.type then .ok ()
    else .error (.mistyped parameter origin declared.type value.type)

/-- The assignments of built-in values, which are looked at one after the other. -/
def builtInAssignments (p : Program) :
    List (String × ParameterValue) → Except Failure (List Assignment)
  | [] => .ok []
  | (parameter, value) :: rest =>
    if p.isBuiltIn parameter then
      match p.checkType parameter value .builtIn with
      | .error e => .error e
      | .ok () => (p.builtInAssignments rest).map (⟨parameter, some value, .builtIn⟩ :: ·)
    else p.builtInAssignments rest

/-- The assignment of a value that the client is configured with. -/
def clientAssignment (p : Program) (client : OrderedMap ParameterValue) (parameter : String) :
    Except Failure Assignment :=
  match client.get? parameter with
  | none => .ok ⟨parameter, none, .clientContext⟩
  | some value =>
    (p.checkType parameter value .clientContext).map fun _ ↦
      ⟨parameter, some value, .clientContext⟩

/-- The value that a member of the input gives a parameter: none if it is absent or null. -/
def inputValue (p : Program) (input : Input) (member parameter : String) :
    Except Failure (Option ParameterValue) :=
  match input.member? member with
  | none | some .null => .ok none
  | some raw =>
    match p.catalog.get? parameter with
    | none => .ok none
    | some declared =>
      match ParameterValue.ofJson declared.type raw with
      | .ok value => .ok (some value)
      | .error cause => .error (.invalidMember member parameter cause)

/-- The assignments of a step. -/
def stepAssignments (p : Program) (builtIns : BuiltInValues) (client : OrderedMap ParameterValue)
    (input : Input) : Step → Except Failure (List Assignment)
  | .builtIns => p.builtInAssignments (builtIns.flatMap OrderedMap.entries)
  | .clientContext parameter => (p.clientAssignment client parameter).map ([·])
  | .inputContext member parameter =>
    (p.inputValue input member parameter).map fun v ↦ [⟨parameter, v, .inputContext⟩]
  | .staticContext parameter value => .ok [⟨parameter, some value, .staticContext⟩]

/-- The assignments of a list of steps, one step after the other. -/
def assignmentsOf (p : Program) (builtIns : BuiltInValues) (client : OrderedMap ParameterValue)
    (input : Input) : List Step → Except Failure (List Assignment)
  | [] => .ok []
  | step :: rest =>
    match p.stepAssignments builtIns client input step with
    | .error e => .error e
    | .ok l => (p.assignmentsOf builtIns client input rest).map (l ++ ·)

/-- The assignments of a run. -/
def assignments (p : Program) (builtIns : BuiltInValues) (client : OrderedMap ParameterValue)
    (input : Input) : Except Failure (List Assignment) :=
  p.assignmentsOf builtIns client input p.steps

/-- The record of a run. -/
def resolve (p : Program) (builtIns : BuiltInValues) (client : OrderedMap ParameterValue)
    (input : Input) : Except Failure Record :=
  (p.assignments builtIns client input).map (Record.materialize p.catalog)

/-- The names that are passed over among built-in values, up to the first value that makes a run
fail. -/
def passedOver (p : Program) : List (String × ParameterValue) → List String
  | [] => []
  | (parameter, value) :: rest =>
    if p.isBuiltIn parameter then
      match p.checkType parameter value .builtIn with
      | .error _ => []
      | .ok () => p.passedOver rest
    else parameter :: p.passedOver rest

/-- The names that a run passes over among the built-in values. -/
def ignoredBuiltIns (p : Program) (builtIns : BuiltInValues) : List String :=
  if p.takesBuiltIns then p.passedOver (builtIns.flatMap OrderedMap.entries) else []

/-- What there is to warn of in a run: what it passes over, and what its record has no place for. -/
def warnings (p : Program) (builtIns : BuiltInValues) (client : OrderedMap ParameterValue)
    (input : Input) : List Warning :=
  (p.ignoredBuiltIns builtIns).map .builtInIgnored
    ++ match p.assignments builtIns client input with
      | .error _ => []
      | .ok l => Record.warnings p.catalog l

end Program

end CallRouting.Binding
