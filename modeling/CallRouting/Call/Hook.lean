import CallRouting.Call.Event

/-!
# Hooks

A hook is run by the endpoint stage before or after the endpoint is resolved. It leaves a context
and a request, whatever it makes of those that it finds, and it may fail; what it did before it
failed stays. Hooks run one after the other, each on what the one before left, up to the first that
fails.
-/

namespace CallRouting.Call

/-- What a hook did. -/
structure Reaction where
  /-- The context after it. -/
  context : Context
  /-- The request after it. -/
  request : Http.Request
  /-- What it has to say. -/
  notes : List Json.Value
  /-- Why it failed, if it did. -/
  failure : Option Cause

/-- A hook: what it does with a context and a request. -/
structure Hook where
  /-- The name. -/
  name : String
  /-- What it does. -/
  run : Context → Http.Request → Reaction

/-- The hooks of an operation. -/
structure Hooks where
  /-- Those that run before the endpoint is resolved. -/
  pre : List Hook
  /-- Those that run after the endpoint was applied. -/
  post : List Hook

namespace Hooks

/-- No hooks. -/
def empty : Hooks := ⟨[], []⟩

/-- Whether there are no hooks. -/
def isEmpty (h : Hooks) : Bool := h.pre.isEmpty && h.post.isEmpty

/-- The hooks of a phase. -/
def ofPhase (h : Hooks) : Phase → List Hook
  | .pre => h.pre
  | .post => h.post

end Hooks

/-- What a part of the endpoint stage works on. -/
structure Exchange where
  /-- The context. -/
  context : Context
  /-- The request, which is for HTTP. -/
  request : Http.Request
  /-- The input. -/
  input : Input
  deriving DecidableEq

/-- The exchange after a hook. -/
def Exchange.after (x : Exchange) (r : Reaction) : Exchange :=
  { x with context := r.context, request := r.request }

/-- How a part of the endpoint stage ended: what it left, what happened, and its answer. What was
left and what happened are there also if it failed. -/
structure Step (α : Type) where
  /-- What it left. -/
  exchange : Exchange
  /-- What happened. -/
  log : List Event
  /-- Its answer. -/
  result : Except EndpointError α

/-- A part of the endpoint stage. -/
def Pass (α : Type) : Type := Exchange → Step α

namespace Pass

variable {α β : Type}

/-- Answers at once. -/
def answer (a : α) : Pass α := fun x ↦ ⟨x, [], .ok a⟩

/-- Fails at once. -/
def fail (e : EndpointError) : Pass α := fun x ↦ ⟨x, [], .error e⟩

/-- Goes on with the answer of a part, unless that failed. -/
def andThen (p : Pass α) (f : α → Pass β) : Pass β := fun x ↦
  match p x with
  | ⟨y, log, .error e⟩ => ⟨y, log, .error e⟩
  | ⟨y, log, .ok a⟩ => ⟨(f a y).exchange, log ++ (f a y).log, (f a y).result⟩

instance : Monad Pass where
  pure := answer
  bind := andThen

/-- Notes something in the log. -/
def log (e : Event) : Pass Unit := fun x ↦ ⟨x, [e], .ok ()⟩

end Pass

/-- Runs a hook. -/
def Hook.pass (h : Hook) (phase : Phase) : Pass Unit := fun x ↦
  let r := h.run x.context x.request
  ⟨x.after r, .hook phase h.name :: r.notes.map .note,
    match r.failure with
    | none => .ok ()
    | some cause => .error (.hook h.name phase cause)⟩

/-- Runs hooks one after the other, up to the first that fails. -/
def runHooks (phase : Phase) : List Hook → Pass Unit
  | [] => .answer ()
  | h :: rest => do
    h.pass phase
    runHooks phase rest

/-- Runs the hooks of a phase. -/
def Hooks.run (h : Hooks) (phase : Phase) : Pass Unit := runHooks phase (h.ofPhase phase)

end CallRouting.Call
