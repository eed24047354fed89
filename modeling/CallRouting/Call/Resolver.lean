import CallRouting.Call.Hook

/-!
# Resolvers

A resolver finds the endpoint of a call from the record of its parameters. The client is configured
with it. While it works it may cancel the call; then its answer counts only if it is a failure. A
resolver that does not answer is abandoned when the call is canceled.
-/

namespace CallRouting.Call

/-- How a resolver ends. -/
inductive Answer where
  /-- It answers, and may have canceled the call before. -/
  | answered (cancels : Bool) (result : Except Cause Http.Endpoint)
  /-- It had not answered when the call was canceled. -/
  | abandoned

/-- What a resolver did. -/
structure Resolution where
  /-- What it has to say. -/
  notes : List Json.Value
  /-- How it ended. -/
  answer : Answer

/-- A resolver: how it ends for a context and a record. -/
structure Resolver where
  /-- What it does. -/
  resolve : Context → Binding.Record → Resolution

/-- The resolver that always answers with one endpoint. -/
def Resolver.fixed (e : Http.Endpoint) : Resolver := ⟨fun _ _ ↦ ⟨[], .answered false (.ok e)⟩⟩

/-- Asks a resolver for the endpoint of a record, unless the call is canceled. -/
def Resolver.pass (r : Resolver) (record : Binding.Record) : Pass Http.Endpoint := fun x ↦
  if x.context.canceled then ⟨x, [], .error .canceled⟩
  else
    let did := r.resolve x.context record
    let log := .asked record :: did.notes.map .note
    match did.answer with
    | .abandoned => ⟨{ x with context := x.context.cancelIf true }, log, .error .canceled⟩
    | .answered cancels result =>
      ⟨{ x with context := x.context.cancelIf cancels }, log,
        match result with
        | .error cause => .error (.unresolved cause)
        -- a failure tells more than that the call was canceled; an endpoint comes too late
        | .ok endpoint => if cancels then .error .canceled else .ok endpoint⟩

end CallRouting.Call
