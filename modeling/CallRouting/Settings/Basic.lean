import CallRouting.Document.Fields
import CallRouting.Json.Printer

/-!
# Settings of a client

What a client is configured with on disk: untyped values for client parameters by name, and for
built-in parameters by identifier. Nothing is checked here except that a file has no other fields.
An empty map is not written.
-/

namespace CallRouting

/-- The settings of a client. -/
structure Settings where
  /-- Values of client parameters, by name. -/
  clientContext : OrderedMap Json.Value
  /-- Values of built-in parameters, by identifier. -/
  builtIns : OrderedMap Json.Value
  deriving DecidableEq

namespace Settings

/-- Settings that say nothing. -/
def empty : Settings := ⟨OrderedMap.empty, OrderedMap.empty⟩

/-- The fields of settings. -/
def fields {ν ε : Type} [Document ν ε] :
    Fields ν ε [OrderedMap Json.Value, OrderedMap Json.Value] :=
  .optional "clientContext" OrderedMap.empty <| .optional "builtins" OrderedMap.empty .done

instance : Decode Settings :=
  ⟨fun v ↦ (fields.read .refused v).map fun (clientContext, builtIns, _) ↦
    ⟨clientContext, builtIns⟩⟩

/-- A field that is written only if the map has entries. -/
def fieldIfAny (name : String) (m : OrderedMap Json.Value) : List (String × Json.Value) :=
  if m.isEmpty then [] else [(name, .object m.entries)]

/-- The untyped form of settings. -/
def toJson (s : Settings) : Json.Value :=
  .object (fieldIfAny "clientContext" s.clientContext ++ fieldIfAny "builtins" s.builtIns)

end Settings

end CallRouting
