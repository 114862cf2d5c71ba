import SqlRelay.Configuration.Reader
import SqlRelay.Http.Service
/-!
# Starting up

Variables say where the configuration is, on which address the service listens, whether scripts are
compiled anew for each call, and how long a body may be.  The service is ready when the
configuration is read, the address is known and the gateway is built.

Main results:

- Definition `Settings.ofVariables` reads the variables.
- Definition `Startup.prepare` gets everything ready or says what is wrong.
-/

namespace SqlRelay

/-- Where an address is set. -/
inductive AddressSource where
  | variable
  | configuration
  deriving DecidableEq, Repr

/-- Why the service does not start. -/
inductive StartupError where
  | address (source : AddressSource)
  | unreadable (path : String) (cause : FileFault)
  | configuration
  | gateway (cause : RelayError)
  deriving DecidableEq, Repr

/-- The wordings of an error and of the errors behind it. -/
def StartupError.chain : StartupError → List String
  | .address .variable => ["invalid SQLGATE_HTTP_ADDR", "invalid socket address syntax"]
  | .address .configuration => ["invalid web.http_addr", "invalid socket address syntax"]
  | .unreadable path cause => ["failed to read " ++ path, cause.message]
  | .configuration => (RelayError.misconfigured .malformed).chain
  | .gateway cause => "failed to load sqlgate configuration" :: cause.chain

/-- The wording of an error with all behind it. -/
def StartupError.message (e : StartupError) : String :=
  ": ".intercalate e.chain

/-- What the variables say. -/
structure Settings where
  configPath : String
  address : Option SocketAddress
  recompile : Bool
  bodyLimit : Nat

namespace Settings

/-- The file of the configuration unless a variable names another one. -/
def standardPath : String := "sqlgate.json"

/-- The address unless another one is set. -/
def standardAddress : String := "127.0.0.1:8080"

/-- The longest body unless a variable says otherwise. -/
def standardBodyLimit : Nat := 2 * 1024 * 1024

/-- The address in a variable, if it is set. -/
def addressOf (raw : Option String) : Except StartupError (Option SocketAddress) :=
  match raw with
  | none => .ok none
  | some text =>
    match SocketAddress.ofText? text.toList with
    | some a => .ok (some a)
    | none => .error (.address .variable)

/-- Reads the variables. -/
def ofVariables (environment : Fields String) : Except StartupError Settings :=
  match addressOf (environment.get? "SQLGATE_HTTP_ADDR") with
  | .error e => .error e
  | .ok address =>
    .ok {
      configPath := (environment.get? "SQLGATE_CONFIG").getD standardPath
      address := address
      recompile := ((environment.get? "SQLGATE_ENV").map Text.lowered) == some "dev"
      bodyLimit := ((environment.get? "SQLGATE_BODY_LIMIT_BYTES").bind
        (fun text => Parameter.naturalOfText? text.toList)).getD standardBodyLimit }

/-- The address to listen on: that of the variable, of the configuration, or the standard one. -/
def listenAddress (s : Settings) (configured : Option String) : Except StartupError SocketAddress :=
  match s.address with
  | some a => .ok a
  | none =>
    let text := (configured.filter (fun t => !(Text.trimmed t).isEmpty)).getD standardAddress
    match SocketAddress.ofText? (Text.trim text.toList) with
    | some a => .ok a
    | none => .error (.address .configuration)

end Settings

/-- The variables that set up the service. -/
def Settings.variableNames : List String :=
  ["SQLGATE_CONFIG", "SQLGATE_HTTP_ADDR", "SQLGATE_ENV", "SQLGATE_BODY_LIMIT_BYTES"]

/-- The variables that a configuration names. -/
def Configuration.variableNames (c : Configuration) : List String :=
  c.databases.flatMap (fun field =>
    [field.2.kind, field.2.url].filterMap Surroundings.indirection?)

/-- The files that a configuration names. -/
def Configuration.fileNames (c : Configuration) : List String :=
  ((c.scripts.map (fun field => field.2.path)) ++ (c.managed.map (·.queryPath)).toList).filterMap
    Paging.nonBlank?

/-! ## Getting ready -/

/-- A service that can start. -/
structure Ready where
  address : SocketAddress
  service : Service

namespace Startup

/-- Gets everything ready. -/
def prepare (around : Surroundings) : Except StartupError Ready := do
  let settings ← Settings.ofVariables around.environment
  match around.readBytes settings.configPath with
  | .error cause => .error (.unreadable settings.configPath cause)
  | .ok bytes =>
    match Configuration.ofBytes? bytes with
    | none => .error .configuration
    | some config =>
      let address ← settings.listenAddress config.web.address
      match Gateway.ofConfig around config settings.recompile with
      | .error cause => .error (.gateway cause)
      | .ok gateway => .ok ⟨address, .ofConfig gateway settings.bodyLimit config.web⟩

end Startup
end SqlRelay
