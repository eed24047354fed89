import CallRouting.Settings.Options

/-!
# Integrations

An integration may offer three capabilities: a handler of built-in parameters, a hook before the
resolution of an endpoint, and a hook after it. A handler is set up once for each stage that is
built, with the catalog and the options of the client, and gives a source that supplies built-in
values for each call.

The integration for client settings supplies, for each built-in parameter, the value that the
options hold under its identifier.
-/

namespace CallRouting.Call

/-- What a source of built-in values did for a call. -/
structure Supply where
  /-- The values, by parameter. -/
  values : OrderedMap ParameterValue
  /-- Whether it canceled the call. -/
  cancels : Bool
  /-- What it has to say. -/
  notes : List Json.Value

/-- A source of built-in values: what it does with the context of a call. -/
structure BuiltInSource where
  /-- What it does. -/
  supply : Context → Supply

/-- The source that always supplies the same values. -/
def BuiltInSource.fixed (values : OrderedMap ParameterValue) : BuiltInSource :=
  ⟨fun _ ↦ ⟨values, false, []⟩⟩

/-- A handler that was set up. -/
structure SetUp where
  /-- The source of the values. -/
  source : BuiltInSource
  /-- What the handler has to say. -/
  notes : List Json.Value

/-- A handler of built-in parameters: how it is set up. -/
structure BuiltInHandler where
  /-- The name. -/
  name : String
  /-- Sets the handler up. -/
  setUp : Catalog → ClientOptions → SetUp

/-- The values of the built-in parameters that the options hold a value for. -/
def settingsValues (catalog : Catalog) (options : ClientOptions) : OrderedMap ParameterValue :=
  OrderedMap.ofList <| catalog.builtIns.filterMap fun p ↦
    (p.builtIn.bind options.builtIns.get?).map fun v ↦ (p.name, v)

/-- The handler that supplies what the options hold. -/
def settingsHandler : BuiltInHandler :=
  ⟨"client-settings", fun catalog options ↦ ⟨.fixed (settingsValues catalog options), []⟩⟩

/-- An integration and the capabilities that it offers. -/
structure Integration where
  /-- The name. -/
  name : String
  /-- The handler of built-in parameters. -/
  handler : Option BuiltInHandler
  /-- The hook before the resolution, for a client of a service. -/
  preHook : ClientOptions → Service → Option Hook
  /-- The hook after the resolution, for an operation of a service. -/
  postHook : ClientOptions → Service → Operation → Option Hook

namespace Integration

/-- An integration that offers nothing. -/
def plain (name : String) : Integration := ⟨name, none, fun _ _ ↦ none, fun _ _ _ ↦ none⟩

/-- The integration for client settings. -/
def clientSettings : Integration := { plain "client-settings" with handler := some settingsHandler }

/-- The integrations of a client that names none. -/
def default : List Integration := [clientSettings]

/-- The handlers that integrations offer, in their order. -/
def handlers (l : List Integration) : List BuiltInHandler := l.filterMap handler

end Integration

/-- The hooks that integrations offer for an operation, in their order. -/
def Hooks.ofIntegrations (l : List Integration) (options : ClientOptions) (service : Service)
    (operation : Operation) : Hooks :=
  ⟨l.filterMap fun i ↦ i.preHook options service,
    l.filterMap fun i ↦ i.postHook options service operation⟩

end CallRouting.Call
