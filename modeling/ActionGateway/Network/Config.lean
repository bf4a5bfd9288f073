import ActionGateway.Http.Header

/-!
# Configuration of the network

Where the gateway listens and which limits it keeps. Pages of other origins may use what the gateway
answers if their origin is **allowed**: one of those that are listed, or any if the list holds `*`.
A listed origin that cannot stand in a header allows nothing.
-/

namespace ActionGateway

/-- Where the certificate and the private key of a server are found. -/
structure TlsFiles where
  certificate : String
  privateKey : String
  deriving DecidableEq, Repr

/-- How the gateway stands in its network. The address and the number are where it listens, which no
response depends on. -/
structure NetworkConfig where
  /-- the address at which connections are taken -/
  host : String
  /-- the number under which TCP connections are taken; 0 leaves the choice to the system -/
  tcpPort : Nat
  tls : Option TlsFiles
  /-- the origins that are allowed -/
  corsOrigins : List String
  /-- how long a request may take, in seconds. The limit is kept in the configuration and has no
  effect: time does not pass while a request is answered (see `Gateway`) -/
  requestTimeout : Nat
  /-- the greatest length of a body -/
  maxBodyBytes : Nat
  /-- how long a shutdown waits for the calls in flight, in milliseconds -/
  drainTimeout : Nat
  deriving DecidableEq, Repr

namespace NetworkConfig

/-- The configuration where nothing else is said: pages of any origin are allowed, and a shutdown
waits half a minute. -/
def default : NetworkConfig where
  host := "0.0.0.0"
  tcpPort := 0
  tls := none
  corsOrigins := ["*"]
  requestTimeout := 30
  maxBodyBytes := 10 * 1024 * 1024
  drainTimeout := 30 * 1000

/-- The origins that are listed and can stand in a header. -/
def listedOrigins (config : NetworkConfig) : List Bytes :=
  config.corsOrigins.filterMap HeaderValue.ofString?

/-- What a response says about the origin of its request, if it is allowed. -/
def allowedOrigin? (config : NetworkConfig) (origin : Option Bytes) : Option Bytes :=
  if config.corsOrigins.contains "*" then some (Utf8.encode "*")
  else
    match origin with
    | none => none
    | some origin => if config.listedOrigins.contains origin then some origin else none

end NetworkConfig

end ActionGateway
