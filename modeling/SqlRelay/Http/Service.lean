import SqlRelay.Access.Bearer
import SqlRelay.Gateway
import SqlRelay.Http.Message
import SqlRelay.Http.ObjectPath
import SqlRelay.Json.Reader
/-!
# The service

The service answers requests.  The method says what is done with the object that the path names:
scripts are executed, and rows of tables are listed, fetched, inserted, updated and deleted.  A
request is authorized before its parameters are read.  Every response carries the version and the
configured headers; where other origins are let in, requests for options are answered before all
that.

Main results:

- Definition `Service.dispatch` is the answer of the relay itself.
- Definition `Service.answer` is the answer with all that stands around it.
- Theorem `callOf_head`: a request for headers only is not allowed.
-/

namespace SqlRelay

/-- Why a request is not carried out. -/
inductive RequestError where
  | relay (cause : RelayError)
  | noRowKey
  | method (name : String)
  | tooLong
  | notJson
  | notObject
  deriving DecidableEq, Repr

namespace RequestError

/-- The outcome of an error. -/
def status : RequestError → Status
  | .relay cause =>
    match cause.category with
    | .notFound => .notFound
    | .unauthorized => .unauthorized
    | .badRequest => .badRequest
    | .internal => .internalError
  | .method _ => .methodNotAllowed
  | .noRowKey | .tooLong | .notJson | .notObject => .badRequest

/-- The wording of an error. -/
def message : RequestError → String
  | .relay cause => cause.message
  | .noRowKey => "row key is required"
  | .method name => "method " ++ name ++ " not allowed"
  | .tooLong => "failed to read request body: length limit exceeded"
  | .notJson => "invalid JSON body"
  | .notObject => "request body must be a JSON object"

end RequestError

namespace Response

/-- A response without a body. -/
def bare (status : Status) : Response := ⟨status, [], ""⟩

/-- A response with a JSON body. -/
def json (status : Status) (value : Json) : Response :=
  ⟨status, [("content-type", Utf8.encode "application/json")], value.compact⟩

/-- The response to a request that is not carried out. -/
def ofError (e : RequestError) : Response :=
  json e.status (.object [("error", .text e.message)])

end Response

/-! ## What a request asks for -/

/-- What a request wants: to execute a script, or to act on a table. -/
inductive Call where
  | script
  | table (action : TableAction)
  deriving DecidableEq, Repr

/-- The privilege that a call needs. -/
def Call.operation : Call → Operation
  | .script => .exec
  | .table action => action.operation

/-- The call of a method, with the key of a row if the path has one. -/
def callOf (method : String) (key : Option String) : Except RequestError Call :=
  match method, key with
  | "PATCH", _ => .ok .script
  | "GET", none => .ok (.table .list)
  | "GET", some key => .ok (.table (.get key))
  | "POST", _ => .ok (.table .insert)
  | "PUT", some key => .ok (.table (.update key))
  | "DELETE", some key => .ok (.table (.delete key))
  | "PUT", none => .error .noRowKey
  | "DELETE", none => .error .noRowKey
  | other, _ => .error (.method other)

/-- A request for headers only is not allowed. -/
theorem callOf_head (key : Option String) : callOf "HEAD" key = .error (.method "HEAD") := by
  cases key <;> rfl

/-- The pairs of a query, decoded. -/
def queryPairs (query : Option String) : List (String × String) :=
  (Text.formPairs (Utf8.encode (query.getD ""))).map
    (fun pair => (Utf8.lossy pair.1, Utf8.lossy pair.2))

/-- The blanks that an empty body may hold. -/
def isBodyBlank (b : UInt8) : Bool :=
  b == 0x20 || b == 0x09 || b == 0x0A || b == 0x0C || b == 0x0D

/-- The members of a body of at most `limit` bytes; a blank body has none. -/
def bodyMembers (limit : Nat) (body : List UInt8) : Except RequestError (List (String × Json)) :=
  if limit < body.length then .error .tooLong
  else if body.all isBodyBlank then .ok []
  else
    match Json.ofBytes? body with
    | some (.object members) => .ok members
    | some _ => .error .notObject
    | none => .error .notJson

/-- The parameters of a request. -/
def Request.parameters (r : Request) (limit : Nat) : Except RequestError Parameters :=
  match bodyMembers limit r.body with
  | .error e => .error e
  | .ok members => .ok (Parameters.merge (queryPairs r.uri.query) members)

/-- The headers that can be read as text, by name; of several values the last counts. -/
def Request.textHeaders (r : Request) : Fields String :=
  Fields.ofList (r.headers.filterMap
    (fun h => (Request.valueText? h.2).map (fun text => (h.1, text))))

/-- The facts that scripts can use. -/
def Request.metadata (r : Request) : Metadata where
  host := (r.header? "host").getD (r.uri.host.getD "")
  remoteAddress := (r.peer.map SocketAddress.hostText).getD ""
  method := r.method
  path := r.uri.path
  query := r.uri.query.getD ""
  headers := r.textHeaders

/-- The token of a request; no header gives an empty one. -/
def Request.token (r : Request) : String :=
  ((r.header? "authorization").map bearerToken).getD ""

/-- What a request asks to be authorized for. -/
def Request.access (r : Request) (path : ObjectPath) (operation : Operation) : AccessRequest where
  database := path.database
  object := path.object
  operation := operation
  token := r.token
  origin := r.header? "origin"
  referer := r.header? "referer"

/-! ## The service -/

/-- The gateway with the settings of the web side. -/
structure Service where
  gateway : Gateway
  bodyLimit : Nat
  cors : Bool
  extraHeaders : Headers

namespace Service

/-- The name of the version header. -/
def versionHeader : String := "sqlgate-server-version"

/-- The version. -/
def version : String := "0.1.0"

/-- The first segment of the path that clears a token. -/
def clearingName : String := ".clear-tokens"

/-- The version header and the configured headers that are valid; among names that differ in case
only the last one counts. -/
def headersOf (configured : Fields String) : Headers :=
  configured.foldl (fun hs field =>
    let value := Utf8.encode field.2
    if Request.isHeader (field.1, value) then hs.set (Text.lowered field.1) value else hs)
    [(versionHeader, Utf8.encode version)]

/-- The service of a gateway and the settings of the web side. -/
def ofConfig (gateway : Gateway) (bodyLimit : Nat) (web : WebConfig) : Service :=
  ⟨gateway, bodyLimit, web.cors, headersOf web.headers⟩

/-- An action that answers a request. -/
abbrev Handler := Action RequestError GatewayState

/-- A task of the gateway as part of an answer. -/
def relay {α : Type} (task : Gateway.Task α) : Handler α :=
  Action.mapError .relay task

/-- Whether a request clears its token. -/
def clears (s : Service) (r : Request) (path : ObjectPath) : Bool :=
  path.database == clearingName && s.gateway.caching && !r.token.isEmpty

/-- Carries out an authorized call. -/
def carryOut (s : Service) (around : Surroundings) (r : Request) (path : ObjectPath) (call : Call)
    (ps : Parameters) : Handler Response :=
  match call with
  | .script => do
    let output ← relay (s.gateway.execute around path.database path.object ps r.metadata)
    match output.json? with
    | some value => pure (.json .ok value)
    | none => pure (.bare .noContent)
  | .table action => do
    pure (.json .ok (← relay (s.gateway.useTable around path.database path.object action ps)))

/-- Authorizes a call and carries it out. -/
def handle (s : Service) (around : Surroundings) (r : Request) : Handler Response := do
  let path := ObjectPath.ofText r.uri.path
  if r.method == "OPTIONS" then pure (.bare .ok)
  else if s.clears r path then
    let _ ← relay (Gateway.clearToken r.token)
    pure (.json .ok (.object [("success", .text "token cleared")]))
  else
    let call ← Action.ofExcept (callOf r.method path.key)
    relay (s.gateway.authorize around (r.access path call.operation))
    let ps ← Action.ofExcept (r.parameters s.bodyLimit)
    s.carryOut around r path call ps

/-- The answer of the relay itself. -/
def dispatch (s : Service) (around : Surroundings) (r : Request) (state : GatewayState) :
    Response × GatewayState :=
  match s.handle around r state with
  | (.ok response, next) => (response, next)
  | (.error e, next) => (.ofError e, next)

/-- The path that tells whether the service is up. -/
def healthPath : String := "/healthz"

/-- The methods that the path answers. -/
def healthMethods : Headers := [("allow", Utf8.encode "GET,HEAD")]

/-- Tells that the service is up; only the headers of that are sent for `HEAD`. -/
def health (method : String) : Response :=
  let up := Response.json .ok (.object [("status", .text "ok")])
  if method == "GET" then up
  else if method == "HEAD" then { up with body := "" }
  else ⟨.methodNotAllowed, healthMethods, ""⟩

/-- A response with the version and the configured headers. -/
def withExtraHeaders (s : Service) (response : Response) : Response :=
  { response with
    headers := s.extraHeaders.foldl (fun hs h => hs.set h.1 h.2) response.headers }

/-- The answer to one path or the other, with the headers of every response. -/
def routed (s : Service) (around : Surroundings) (r : Request) (state : GatewayState) :
    Response × GatewayState :=
  let (response, next) :=
    if r.uri.path == healthPath then (health r.method, state) else s.dispatch around r state
  (s.withExtraHeaders response, next)

/-- The headers on which the answer to other origins depends. -/
def varying : List UInt8 :=
  Utf8.encode "origin, access-control-request-method, access-control-request-headers"

/-- A header that repeats one of the request. -/
def mirrored (r : Request) (name asked : String) : Headers :=
  ((r.headers.value? asked).map (fun value => (name, value))).toList

/-- The answer to a request for options of another origin. -/
def preflight (r : Request) : Response :=
  ⟨.ok,
    [("access-control-allow-credentials", Utf8.encode "true"), ("vary", varying)] ++
      mirrored r "access-control-allow-origin" "origin" ++
      mirrored r "access-control-allow-methods" "access-control-request-method" ++
      mirrored r "access-control-allow-headers" "access-control-request-headers" ++
      (if r.uri.path == healthPath then healthMethods else []), ""⟩

/-- A response that another origin may read. -/
def shared (r : Request) (response : Response) : Response :=
  let allowed := (("access-control-allow-credentials", Utf8.encode "true") ::
    mirrored r "access-control-allow-origin" "origin")
  { response with
    headers := allowed.foldl (fun hs h => hs.set h.1 h.2) (response.headers.add "vary" varying) }

/-- The answer to a request. -/
def answer (s : Service) (around : Surroundings) (r : Request) (state : GatewayState) :
    Response × GatewayState :=
  if s.cors then
    if r.method == "OPTIONS" then (preflight r, state)
    else
      let (response, next) := s.routed around r state
      (shared r response, next)
  else s.routed around r state

end Service
end SqlRelay
