import CallRouting.OrderedMap
import CallRouting.Parameter.Catalog

/-!
# Services

A service has a catalog of endpoint parameters, which stands in its endpoint rules, and three kinds
of declarations that aim at a parameter of the catalog:

* client context: parameters that a client is configured with once;
* members of an operation's input that are bound to a parameter;
* static values that an operation fixes.

Nothing here is checked; `Binding.compile` says which services are accepted.
-/

namespace CallRouting

/-- A parameter that a client may be configured with. -/
structure ClientParameter where
  /-- The type of its values. -/
  type : ValueType
  /-- A description for readers of the model. -/
  documentation : Option String
  deriving DecidableEq, Repr

/-- The endpoint rules of a service. Only the catalog has a meaning here; the rules themselves are
kept as they are. -/
structure EndpointRules where
  /-- The version of the rules. -/
  version : Option String
  /-- The endpoint parameters. -/
  parameters : Catalog
  /-- The rules. -/
  rules : Json.Value
  deriving DecidableEq, Repr

/-- A member of an operation's input. -/
structure InputMember where
  /-- The name of the member. -/
  name : String
  /-- The parameter that it supplies, if any. -/
  contextParam : Option String
  deriving DecidableEq, Repr

/-- The shape of an operation's input. -/
structure InputShape where
  /-- The name that the input of a call must have. -/
  name : String
  /-- The members. -/
  members : List InputMember
  deriving DecidableEq, Repr

/-- An operation of a service. -/
structure Operation where
  /-- The name. -/
  name : String
  /-- The input, if there is one. -/
  input : Option InputShape
  /-- The values that the operation fixes, by parameter. -/
  staticParams : OrderedMap Json.Value
  deriving DecidableEq

/-- A service. -/
structure Service where
  /-- The name. -/
  name : String
  /-- The endpoint rules; a service without them has no endpoint to resolve. -/
  endpointRules : Option EndpointRules
  /-- The parameters that a client may be configured with. -/
  clientParams : Option (OrderedMap ClientParameter)
  /-- The operations. -/
  operations : List Operation
  deriving DecidableEq

namespace InputShape

/-- The bound members with their parameters, in the order of the members. -/
def bindings (s : InputShape) : List (String × String) :=
  s.members.filterMap fun m ↦ m.contextParam.map fun p ↦ (m.name, p)

end InputShape

namespace Operation

/-- The bound members of the input with their parameters, in the order of the members. -/
def bindings (o : Operation) : List (String × String) :=
  match o.input with
  | none => []
  | some shape => shape.bindings

/-- Whether a member of the input is bound to a parameter. -/
def hasBindings (o : Operation) : Bool := !o.bindings.isEmpty

end Operation

namespace Service

/-- The catalog, if the service has endpoint rules. -/
def catalog? (s : Service) : Option Catalog := s.endpointRules.map EndpointRules.parameters

/-- The first operation with a name. -/
def operation? (s : Service) (name : String) : Option Operation :=
  s.operations.find? fun o ↦ o.name = name

/-- The parameters that a client may be configured with; none if the service does not say. -/
def clientParameters (s : Service) : OrderedMap ClientParameter :=
  s.clientParams.getD OrderedMap.empty

/-- Whether a client may be configured with a parameter. -/
def isClientParameter (s : Service) (name : String) : Bool := s.clientParameters.contains name

end Service

end CallRouting
