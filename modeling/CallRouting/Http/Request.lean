import CallRouting.Http.Headers
import CallRouting.Url.Reader

/-!
# Requests and endpoints

An endpoint is the address of a service for one call: a URL and header fields. Applying it to a
request replaces the URL as a whole, and for every name that the endpoint has fields of it replaces
the request's fields of that name. Nothing else of the request changes.
-/

namespace CallRouting.Http

/-- A request. -/
structure Request where
  /-- The method. -/
  method : String
  /-- The URL. -/
  url : Url
  /-- The header fields. -/
  headers : Headers
  deriving DecidableEq, Repr

/-- The address of a service for one call. -/
structure Endpoint where
  /-- The URL. -/
  url : Url
  /-- The header fields that a request to it has. -/
  headers : Headers
  deriving DecidableEq, Repr

/-- The endpoint at a URL, without header fields. -/
def Endpoint.read (s : String) : Except Url.Error Endpoint :=
  (Url.read s).map fun url ↦ ⟨url, Headers.empty⟩

/-- The endpoint with one more header field. -/
def Endpoint.withHeader (e : Endpoint) (name value : String) : Endpoint :=
  { e with headers := e.headers.append name value }

/-- Points a request at an endpoint. -/
def Endpoint.apply (e : Endpoint) (r : Request) : Request :=
  { r with url := e.url, headers := r.headers.override e.headers }

end CallRouting.Http
