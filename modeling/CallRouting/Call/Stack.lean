import CallRouting.Call.EndpointStage

/-!
# The stack of an operation

A call goes through the stages of a stack in order and then to a handler, which sends it. A stage
acts on the call and then either ends it or lets it go on; what comes back from the rest of the
stack goes through the stage once more. Every stage has a name, and no name occurs twice.

Stages are put at an end of the stack, or right beside another stage. A change answers with the
stack that it leaves, whether it is made or refused.
-/

namespace CallRouting.Call

/-- What a call that succeeds ends with. -/
structure Output where
  /-- What the handler answered, if anything. -/
  result : Option Json.Value
  /-- Annotations of the output. -/
  metadata : Metadata
  deriving DecidableEq

/-- How a call ended: what was left of it, what happened, and its output. -/
structure Outcome where
  /-- The call as it was left. -/
  call : Call
  /-- What happened. -/
  log : List Event
  /-- The output, or why the call failed. -/
  result : Except PipelineError Output

/-- What takes a call to its end. -/
abbrev Handler : Type := Call → Outcome

/-- Whether a stage lets a call go on. -/
inductive Decision where
  /-- The call goes on. -/
  | proceed
  /-- The call ends here. -/
  | finish (result : Except PipelineError Output)

/-- What a stage did with a call on its way in. -/
structure Turn where
  /-- The call after it. -/
  call : Call
  /-- What happened. -/
  log : List Event
  /-- Whether the call goes on. -/
  decision : Decision

/-- A stage of a stack. -/
structure Middleware where
  /-- The name. -/
  id : String
  /-- What it does on the way in. -/
  act : Call → Turn
  /-- What it does with what comes back from the rest of the stack. -/
  unwind : Call → Except PipelineError Output → Outcome

namespace Middleware

/-- Takes a call through a stage and what comes after it. -/
def handle (m : Middleware) (next : Handler) : Handler := fun call ↦
  let turn := m.act call
  match turn.decision with
  | .finish result => ⟨turn.call, .entered m.id :: turn.log, result⟩
  | .proceed =>
    -- the rest of the stack runs between the way in and the way out
    let inner := next turn.call
    let outer := m.unwind inner.call inner.result
    ⟨outer.call, .entered m.id :: turn.log ++ inner.log ++ outer.log, outer.result⟩

/-- The endpoint stage as a stage of a stack. -/
def ofEndpointStage (s : EndpointStage) : Middleware where
  id := EndpointStage.stageId
  act call :=
    let result := s.run call
    ⟨result.call, result.log,
      match result.failure with
      | none => .proceed
      | some e => .finish (.error (.endpoint e))⟩
  unwind call result := ⟨call, [], result⟩

end Middleware

/-- Takes a call through stages and to a handler. -/
def runStages (handler : Handler) : List Middleware → Handler
  | [], call =>
    let o := handler call
    { o with log := .handled :: o.log }
  | m :: rest, call => m.handle (runStages handler rest) call

/-- Why a stack or a registrar refuses a change. -/
inductive StackError where
  /-- There is a stage of that name. -/
  | duplicateStage (id : String)
  /-- There is no stage to put another one beside. -/
  | anchorNotFound (id : String)
  /-- The service has no operation of that name. -/
  | unknownOperation (service operation : String)
  deriving DecidableEq, Repr

/-- The text of a refusal. -/
def StackError.message : StackError → String
  | duplicateStage id => "middleware '" ++ id ++ "' already exists in the serialize step"
  | anchorNotFound id => "anchor middleware '" ++ id ++ "' not found in the serialize step"
  | unknownOperation service operation =>
    "operation '" ++ operation ++ "' is not part of service '" ++ service ++ "'"

/-- An end of a stack. -/
inductive Position where
  /-- Before all stages. -/
  | first
  /-- After all stages. -/
  | last
  deriving DecidableEq, Repr

/-- A side of a stage. -/
inductive Side where
  /-- Right before it. -/
  | before
  /-- Right after it. -/
  | after
  deriving DecidableEq, Repr

/-- The stack of an operation. -/
structure Stack where
  /-- The name of the operation. -/
  operation : String
  /-- The stages, in the order in which a call goes through them. -/
  stages : List Middleware

namespace Stack

/-- A stack without stages. -/
def new (operation : String) : Stack := ⟨operation, []⟩

/-- The names of the stages, in order. -/
def ids (s : Stack) : List String := s.stages.map Middleware.id

/-- Whether there is a stage of a name. -/
def contains (s : Stack) (id : String) : Bool := s.ids.contains id

/-- Puts a stage at an end. -/
def add (s : Stack) (m : Middleware) (position : Position) : Stack × Except StackError Unit :=
  if s.contains m.id then (s, .error (.duplicateStage m.id))
  else
    match position with
    | .first => ({ s with stages := m :: s.stages }, .ok ())
    | .last => ({ s with stages := s.stages ++ [m] }, .ok ())

/-- Puts a stage beside the first stage of a name. -/
def insertBeside (m : Middleware) (anchor : String) (side : Side) :
    List Middleware → Option (List Middleware)
  | [] => none
  | a :: rest =>
    if a.id = anchor then
      match side with
      | .before => some (m :: a :: rest)
      | .after => some (a :: m :: rest)
    else (insertBeside m anchor side rest).map (a :: ·)

/-- Puts a stage right beside another one. -/
def insert (s : Stack) (m : Middleware) (anchor : String) (side : Side) :
    Stack × Except StackError Unit :=
  if s.contains m.id then (s, .error (.duplicateStage m.id))
  else
    match insertBeside m anchor side s.stages with
    | none => (s, .error (.anchorNotFound anchor))
    | some stages => ({ s with stages := stages }, .ok ())

/-- Takes the first stage of a name out of a list. -/
def takeOut (id : String) : List Middleware → Option (Middleware × List Middleware)
  | [] => none
  | m :: rest =>
    if m.id = id then some (m, rest) else (takeOut id rest).map fun x ↦ (x.1, m :: x.2)

/-- Takes the stage of a name out, if there is one. -/
def remove (s : Stack) (id : String) : Stack × Option Middleware :=
  match takeOut id s.stages with
  | none => (s, none)
  | some (m, stages) => ({ s with stages := stages }, some m)

/-- Takes a call through the stack and to a handler. -/
def run (s : Stack) (handler : Handler) (call : Call) : Outcome := runStages handler s.stages call

end Stack

end CallRouting.Call
