import CallRouting.Binding.Program

/-!
# Failures of calls

A call fails in the endpoint stage, in another stage of the stack, or in the handler at its end. A
failure that comes from outside carries its cause: a message, and what was said about it on the way
up. The text of a failure shows the last thing said.
-/

namespace CallRouting.Call

/-- Why something outside the library failed. -/
structure Cause where
  /-- What went wrong. -/
  message : String
  /-- What was said about it on the way up, in that order. -/
  contexts : List String
  deriving DecidableEq, Repr

namespace Cause

/-- A cause that nothing more is said about. -/
def plain (message : String) : Cause := ⟨message, []⟩

/-- The cause and what was said about it, the last thing first. -/
def chain (c : Cause) : List String := (c.message :: c.contexts).reverse

/-- The last thing said. -/
def text (c : Cause) : String := c.contexts.getLast?.getD c.message

end Cause

/-- What a failure has to do with. -/
inductive FailureKind where
  /-- The request or the input is not of the expected sort. -/
  | transport
  /-- A value of the client is of the wrong type. -/
  | configuration
  /-- There is no resolver. -/
  | resolver
  /-- The resolver failed. -/
  | resolution
  /-- A hook failed. -/
  | hook
  /-- The call was canceled. -/
  | canceled
  deriving DecidableEq, Repr

/-- When a hook runs. -/
inductive Phase where
  /-- Before the endpoint is resolved. -/
  | pre
  /-- After the endpoint was applied. -/
  | post
  deriving DecidableEq, Repr

/-- The name of a phase in messages. -/
def Phase.name : Phase → String
  | pre => "pre-resolution"
  | post => "post-resolution"

/-- Why the endpoint stage fails. -/
inductive EndpointError where
  /-- The request is not for HTTP. -/
  | transportType (observed : String)
  /-- The input does not have the shape that the operation reads. -/
  | inputShape (expected observed : String)
  /-- The parameters cannot be bound. -/
  | binding (failure : Binding.Failure)
  /-- The client has no resolver. -/
  | missingResolver
  /-- The resolver failed. -/
  | unresolved (cause : Cause)
  /-- A hook failed. -/
  | hook (name : String) (phase : Phase) (cause : Cause)
  /-- The call was canceled. -/
  | canceled
  deriving DecidableEq, Repr

namespace EndpointError

/-- What a failure has to do with. -/
def kind : EndpointError → FailureKind
  | transportType _ => .transport
  | inputShape _ _ => .transport
  | binding (.invalidMember _ _ _) => .transport
  | binding (.mistyped _ _ _ _) => .configuration
  | missingResolver => .resolver
  | unresolved _ => .resolution
  | hook _ _ _ => .hook
  | canceled => .canceled

/-- The text of a failure. -/
def message : EndpointError → String
  | transportType observed => "unknown transport type " ++ observed
  | inputShape expected observed =>
    "unknown input type " ++ observed ++ ", expected " ++ expected
  | binding failure => failure.message
  | missingResolver => "expected endpoint resolver to not be nil"
  | unresolved cause => "failed to resolve service endpoint, " ++ cause.text
  | hook name phase cause =>
    phase.name ++ " hook '" ++ name ++ "' failed: " ++ cause.text
  | canceled => "endpoint resolution canceled"

/-- The texts of what a failure comes from, nearest first. -/
def causes : EndpointError → List String
  | unresolved cause => cause.chain
  | hook _ _ cause => cause.chain
  | _ => []

end EndpointError

/-- Why a call fails. -/
inductive PipelineError where
  /-- The endpoint stage, or a handler that needs what it checks, failed. -/
  | endpoint (e : EndpointError)
  /-- Another stage failed. -/
  | middleware (stage : String) (cause : Cause)
  /-- The handler failed. -/
  | handler (cause : Cause)
  deriving DecidableEq, Repr

namespace PipelineError

/-- The text of a failure. -/
def message : PipelineError → String
  | endpoint e => e.message
  | middleware stage cause => "middleware '" ++ stage ++ "' failed: " ++ cause.text
  | handler cause => "request handler failed: " ++ cause.text

/-- The texts of what a failure comes from, nearest first. -/
def causes : PipelineError → List String
  | endpoint e => e.causes
  | middleware _ cause => cause.chain
  | handler cause => cause.chain

end PipelineError

end CallRouting.Call
