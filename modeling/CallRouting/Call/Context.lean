import CallRouting.Call.Input
import CallRouting.Http.Request
import CallRouting.OrderedMap

/-!
# Calls

What a call carries through the stack: its context, a request of some transport, and its input. The
context has the name of the operation, metadata that everyone may read and add to, and a signal that
cancels the call. The signal is meant to go one way: it is given, and not taken back.
-/

namespace CallRouting.Call

/-- Annotations in the order in which their keys were first set. -/
abbrev Metadata : Type := OrderedMap Json.Value

/-- The context of a call. -/
structure Context where
  /-- The name of the operation. -/
  operation : String
  /-- The annotations. -/
  metadata : Metadata
  /-- Whether the call is canceled. -/
  canceled : Bool
  deriving DecidableEq

namespace Context

/-- The context of a new call. -/
def new (operation : String) : Context := ⟨operation, OrderedMap.empty, false⟩

/-- The context after an annotation. -/
def annotate (c : Context) (key : String) (value : Json.Value) : Context :=
  { c with metadata := c.metadata.insert key value }

/-- The context with the signal given if `now` holds; a signal that was given stays. -/
def cancelIf (c : Context) (now : Bool) : Context := { c with canceled := c.canceled || now }

@[simp] theorem canceled_cancelIf (c : Context) (now : Bool) :
    (c.cancelIf now).canceled = (c.canceled || now) := rfl

end Context

/-- A request of some transport. -/
inductive Transport where
  /-- A request for HTTP. -/
  | http (request : Http.Request)
  /-- A request of another type, of which only the name is known. -/
  | other (typeName : String)
  deriving DecidableEq, Repr

end CallRouting.Call

namespace CallRouting

/-- A call on its way through the stack. -/
structure Call where
  /-- The context. -/
  context : Call.Context
  /-- The request. -/
  transport : Call.Transport
  /-- The input. -/
  input : Call.Input
  deriving DecidableEq

end CallRouting
