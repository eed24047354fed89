import CallRouting.Call.Registrar

/-!
# What is shown of clients and calls

The texts by which options, hooks, stages, stacks, registrars and outputs are shown to whoever looks
into a client: the name of the type, and its fields in order. What has no text of its own, such as a
resolver, is shown by whether it is there or how many there are.
-/

namespace CallRouting

open Text (quoted bracketed braced record)

/-- A truth value as it is shown. -/
def shownBool (b : Bool) : String := if b then "true" else "false"

/-- A map as it is shown. -/
def shownMap (entries : List (String × String)) : String :=
  braced (entries.map fun e ↦ quoted e.1 ++ ": " ++ e.2)

/-- A list of names as it is shown. -/
def shownNames (names : List String) : String := bracketed (names.map quoted)

/-- A type and what it holds, as they are shown. -/
def wrapped (name content : String) : String := name ++ "(" ++ content ++ ")"

/-- The value of a parameter as it is shown with its type. -/
def ParameterValue.shown : ParameterValue → String
  | .string s => wrapped "String" (quoted s)
  | .boolean b => wrapped "Boolean" (shownBool b)

namespace Json

mutual

/-- An untyped value as it is shown with its type. -/
def Value.shown : Value → String
  | .null => "Null"
  | .bool b => wrapped "Bool" (shownBool b)
  | .number n => wrapped "Number" (String.ofList n.render)
  | .string s => wrapped "String" (quoted s)
  | .array items => "Array " ++ bracketed (shownItems items)
  | .object members => "Object " ++ shownMap (shownMembers members)

/-- Items as they are shown. -/
def shownItems : List Value → List String
  | [] => []
  | v :: rest => v.shown :: shownItems rest

/-- Members as they are shown. -/
def shownMembers : List (String × Value) → List (String × String)
  | [] => []
  | (n, v) :: rest => (n, v.shown) :: shownMembers rest

end

end Json

/-- Values of parameters as they are shown. -/
def shownValues (m : OrderedMap ParameterValue) : String :=
  shownMap (m.map ParameterValue.shown).entries

/-- The options of a client as they are shown. -/
def ClientOptions.shown (o : ClientOptions) : String :=
  record "ClientOptions"
    [("client_context", shownValues o.clientContext), ("builtins", shownValues o.builtIns),
      ("has_endpoint_resolver", shownBool o.resolver.isSome)]

namespace Call

/-- Hooks as they are shown. -/
def Hooks.shown (h : Hooks) : String :=
  record "HookRegistry"
    [("pre", shownNames (h.pre.map Hook.name)), ("post", shownNames (h.post.map Hook.name))]

/-- An endpoint stage as it is shown. -/
def EndpointStage.shown (s : EndpointStage) : String :=
  record "EndpointStage"
    [("operation", quoted s.program.operation), ("has_resolver", shownBool s.resolver.isSome),
      ("client_context", shownValues s.clientContext),
      ("builtins", toString s.builtIns.length), ("hooks", s.hooks.shown)]

/-- A registrar as it is shown. -/
def Registrar.shown (r : Registrar) : String :=
  record "EndpointStageRegistrar"
    [("service", quoted r.service.name),
      ("integrations", shownNames (r.integrations.map Integration.name)),
      ("operations", shownNames r.compiled.programs.keys)]

/-- A stack as it is shown. -/
def Stack.shown (s : Stack) : String :=
  record "MiddlewareStack"
    [("operation", quoted s.operation),
      ("serialize", record "SerializeStep" [("stages", shownNames s.ids)])]

/-- An output as it is shown. -/
def Output.shown (o : Output) : String :=
  record "SerializeOutput"
    [("has_result", shownBool o.result.isSome),
      ("metadata",
        record "Metadata" [("entries", shownMap (o.metadata.map Json.Value.shown).entries)])]

end Call

end CallRouting
