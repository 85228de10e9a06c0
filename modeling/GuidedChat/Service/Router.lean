import GuidedChat.Service.ChatRoute
import GuidedChat.Service.Site

/-! The whole service: a route for each flow, a health check, and the site if there is
one. Pages of any origin may use it, so every response says so, and every preflight is
granted in the same words. A response whose length is known states it. -/

namespace GuidedChat

structure Service where
  model : Relay.Model
  site : Option Service.Site := none

namespace Service

inductive Route
  | health
  | chat (persona : Persona)
  | other

namespace Route

def ofPath (path : String) : Route :=
  if path = "/healthz" then health
  else
    match Persona.all.find? (·.flow.endpoint = path) with
    | some persona => chat persona
    | none => other

def allow? : Route → Option String
  | health => some "GET,HEAD"
  | chat _ => some "POST"
  | other => none

def takes (route : Route) (method : String) : Bool :=
  match route with
  | health => method = "GET" || method = "HEAD"
  | chat _ => method = "POST"
  | other => true

end Route

def allowHeader (route : Route) : List (String × String) :=
  (route.allow?.map fun methods => ("allow", methods)).toList

def health : Http.Response :=
  { status := 200, headers := [("content-type", plainText)], frames := [Utf8.encode "ok"] }

/-- The answer to a request before any page may read it. -/
def respond (service : Service) (route : Route) (request : Http.Request) :
    Called Relay.Call Http.Response :=
  if route.takes request.method then
    match route with
    | .health => ⟨[], health⟩
    | .chat persona => chat service.model persona request.body
    | .other =>
      match service.site with
      | some site => ⟨[], site.serve request⟩
      | none => ⟨[], { status := 404 }⟩
  else ⟨[], { status := 405, headers := allowHeader route }⟩

/-- What a page is told before it asks. -/
def preflight (route : Route) : Http.Response :=
  { status := 200
    headers := allowHeader route ++ [("access-control-allow-methods", "GET,POST"),
      ("access-control-allow-headers", "content-type")] }

def openToAll (response : Http.Response) : Http.Response :=
  { response with
    headers := response.headers ++ [("access-control-allow-origin", "*"),
      ("vary", "origin, access-control-request-method, access-control-request-headers")] }

/-- States the length of a body where it is known and has not been stated. -/
def withLength (response : Http.Response) : Http.Response :=
  if response.streamed || (response.headers.lookup "content-length").isSome then response
  else
    { response with
      headers := response.headers ++ [("content-length", toString response.bytes.length)] }

/-- The health check has no body for a request that asks for headers only; a site sees to
that itself, and nothing else answers such a request with a body. -/
def withoutBody (route : Route) (request : Http.Request) (response : Http.Response) :
    Http.Response :=
  match route with
  | .health => if request.method = "HEAD" then { response with frames := [] } else response
  | _ => response

def handle (service : Service) (request : Http.Request) : Called Relay.Call Http.Response :=
  let route := Route.ofPath request.path
  let answer :=
    if request.method = "OPTIONS" then ⟨[], preflight route⟩
    else service.respond route request
  ⟨answer.calls, withoutBody route request (withLength (openToAll answer.result))⟩

end Service

end GuidedChat
