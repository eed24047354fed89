import CallRouting.Call.Context
import CallRouting.Call.Error
import CallRouting.Warning

/-!
# What happens during a call

The log of a call: which stages were entered, how far the endpoint stage got, which capabilities of
the client were asked and what they answered. Events stand in the order in which they happened.
-/

namespace CallRouting.Call

/-- How far the endpoint stage got. -/
inductive State where
  /-- The stage was entered. -/
  | start
  /-- The request is for HTTP. -/
  | transportValidated
  /-- The input has the shape that the operation reads. -/
  | inputValidated
  /-- There is a resolver. -/
  | resolverChecked
  /-- The built-in values are there. -/
  | builtinsApplied
  /-- The parameters are bound. -/
  | paramsBound
  /-- The resolver answered with an endpoint. -/
  | endpointResolved
  /-- The endpoint was applied to the request. -/
  | requestMutated
  /-- The stage is through. -/
  | done
  deriving DecidableEq, Repr

/-- Something that happened during a call. -/
inductive Event where
  /-- A stage of the stack was entered. -/
  | entered (stage : String)
  /-- The endpoint stage reached a state. -/
  | reached (state : State)
  /-- The endpoint stage failed. -/
  | failed (kind : FailureKind)
  /-- A hook ran. -/
  | hook (phase : Phase) (name : String)
  /-- A source of built-in values supplied some. -/
  | supplied (values : OrderedMap ParameterValue)
  /-- The resolver was asked about a record. -/
  | asked (record : Binding.Record)
  /-- There is something to warn of. -/
  | warning (w : Warning)
  /-- The handler at the end of the stack was entered. -/
  | handled
  /-- A request was given to the client for HTTP. -/
  | sent (request : Http.Request)
  /-- A capability of the client has something to say. -/
  | note (what : Json.Value)
  deriving DecidableEq

end CallRouting.Call
