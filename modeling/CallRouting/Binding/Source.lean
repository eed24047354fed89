import CallRouting.Parameter.Value

/-!
# Sources of parameter values

There are four kinds of declarations that give a parameter its value. A later one in the order
below takes precedence over an earlier one for the same parameter.
-/

namespace CallRouting.Binding

/-- What gives a parameter its value. -/
inductive Source where
  /-- The state of the client. -/
  | builtIn
  /-- A value that the client is configured with. -/
  | clientContext
  /-- A member of the input of a call. -/
  | inputContext
  /-- A value that the operation fixes. -/
  | staticContext
  deriving DecidableEq, Repr

namespace Source

/-- The place of a source in the order of precedence. -/
def rank : Source → Nat
  | builtIn => 0
  | clientContext => 1
  | inputContext => 2
  | staticContext => 3

/-- The name of a source in messages. -/
def name : Source → String
  | builtIn => "built-in"
  | clientContext => "client context"
  | inputContext => "input context"
  | staticContext => "static context"

end Source

/-- A value for a parameter, from a source. Without a value the parameter is cleared. -/
structure Assignment where
  /-- The parameter. -/
  parameter : String
  /-- The value, if there is one. -/
  value : Option ParameterValue
  /-- Where it comes from. -/
  source : Source
  deriving DecidableEq, Repr

end CallRouting.Binding
