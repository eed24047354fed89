import CallRouting.Call.Resolver
import CallRouting.Service.Basic
import CallRouting.Settings.Basic

/-!
# Options of a client

The options of a client are its settings after they were checked against a service: typed values of
client parameters, typed values of built-in identifiers, and the resolver, which settings cannot
hold.

A client parameter must be one that the service has, and its value must be of the type that the
catalog gives the name, or else of the type that the client parameter is declared with. A built-in
value must be of the type of the first built-in parameter that uses its identifier; an identifier
that no parameter uses is passed over. A null value leaves unset what it stands for.
-/

namespace CallRouting

/-- The options of a client. -/
structure ClientOptions where
  /-- The values of client parameters, by name. -/
  clientContext : OrderedMap ParameterValue
  /-- The values of built-in parameters, by identifier. -/
  builtIns : OrderedMap ParameterValue
  /-- What resolves endpoints, if anything. -/
  resolver : Option Call.Resolver

/-- Why settings are refused. -/
inductive SettingsError where
  /-- The service has no client parameter of that name. -/
  | unknownClientContext (service parameter : String)
  /-- The value is not of the type of what it is for. -/
  | invalidValue (parameter : String) (cause : TypeMismatch)
  deriving DecidableEq, Repr

/-- The text of a refusal. -/
def SettingsError.message : SettingsError → String
  | unknownClientContext service parameter =>
    "service '" ++ service ++ "' has no client context parameter named '" ++ parameter ++ "'"
  | invalidValue parameter cause => "invalid value for '" ++ parameter ++ "': " ++ cause.message

namespace ClientOptions

/-- Options with nothing set. -/
def empty : ClientOptions := ⟨OrderedMap.empty, OrderedMap.empty, none⟩

/-- The options with a value for a client parameter. -/
def withClientContext (o : ClientOptions) (name : String) (v : ParameterValue) : ClientOptions :=
  { o with clientContext := o.clientContext.insert name v }

/-- The options with a value for a built-in identifier. -/
def withBuiltIn (o : ClientOptions) (identifier : String) (v : ParameterValue) : ClientOptions :=
  { o with builtIns := o.builtIns.insert identifier v }

end ClientOptions

/-- The type that the value of a client parameter must have: that of the catalog, or else the one
that it is declared with. Nothing if the service has no such client parameter. -/
def Service.clientContextType? (s : Service) (name : String) : Option ValueType :=
  match s.clientParameters.get? name with
  | none => none
  | some declared =>
    match s.catalog?.bind fun c ↦ c.get? name with
    | some p => some p.type
    | none => some declared.type

/-- The type of the first built-in parameter that uses an identifier. -/
def Service.builtInType? (s : Service) (identifier : String) : Option ValueType :=
  match s.catalog? with
  | none => none
  | some c => (c.builtIns.find? fun p ↦ p.builtIn = some identifier).map Parameter.type

/-- Checks the settings of client parameters one after the other. -/
def readClientContext (s : Service) :
    List (String × Json.Value) → OrderedMap ParameterValue →
      Except SettingsError (OrderedMap ParameterValue)
  | [], values => .ok values
  | (name, raw) :: rest, values =>
    match s.clientContextType? name with
    | none => .error (.unknownClientContext s.name name)
    | some type =>
      if raw = .null then readClientContext s rest values
      else
        match ParameterValue.ofJson type raw with
        | .error cause => .error (.invalidValue name cause)
        | .ok v => readClientContext s rest (values.insert name v)

/-- Checks the settings of built-in identifiers one after the other. -/
def readBuiltIns (s : Service) :
    List (String × Json.Value) → OrderedMap ParameterValue →
      Except SettingsError (OrderedMap ParameterValue)
  | [], values => .ok values
  | (identifier, raw) :: rest, values =>
    match s.builtInType? identifier with
    | none => readBuiltIns s rest values
    | some type =>
      if raw = .null then readBuiltIns s rest values
      else
        match ParameterValue.ofJson type raw with
        | .error cause => .error (.invalidValue identifier cause)
        | .ok v => readBuiltIns s rest (values.insert identifier v)

/-- The options that settings are for a service. -/
def ClientOptions.ofSettings (service : Service) (settings : Settings) :
    Except SettingsError ClientOptions :=
  match readClientContext service settings.clientContext.entries OrderedMap.empty with
  | .error e => .error e
  | .ok clientContext =>
    match readBuiltIns service settings.builtIns.entries OrderedMap.empty with
    | .error e => .error e
    | .ok builtIns => .ok ⟨clientContext, builtIns, none⟩

end CallRouting
