import CallRouting.Call.Stack

/-!
# Sending a request

The handler that gives the request of a call to a client for HTTP. A request of another transport
fails the call, and a call that is canceled sends nothing.
-/

namespace CallRouting.Call

/-- A client for HTTP: the status of the answer to a request, or why there is none. -/
abbrev HttpClient : Type := Http.Request → Except Cause Nat

/-- The output for an answer: its status is the result, and an annotation. -/
def statusOutput (status : Nat) : Output :=
  let value : Json.Value := .number (.whole status)
  ⟨some value, OrderedMap.empty.insert "http.status" value⟩

/-- Sends the request of a call. -/
def transmit (client : HttpClient) : Handler := fun call ↦
  match call.transport with
  | .other typeName => ⟨call, [], .error (.endpoint (.transportType typeName))⟩
  | .http request =>
    if call.context.canceled then ⟨call, [], .error (.endpoint .canceled)⟩
    else
      ⟨call, [.sent request],
        match client request with
        | .error cause => .error (.handler cause)
        | .ok status => .ok (statusOutput status)⟩

end CallRouting.Call
