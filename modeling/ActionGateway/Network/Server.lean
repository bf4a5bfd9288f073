import ActionGateway.FileTree
import ActionGateway.Lifecycle
import ActionGateway.Network.Config

/-!
# Servers

A server is made, starts to listen, and serves until it is told to shut down; then it waits for the
calls in flight. A server with TLS first reads its certificate and its key. What makes the contents
of the two files **usable** is not said here.
-/

namespace ActionGateway

/-! ## Certificates -/

/-- Why the certificate and the key of a server cannot be loaded. -/
inductive TlsFault
  | unreadable (path : String) (fault : FileFault)
  | unusable
  deriving DecidableEq, Repr

/-- The text of a fault. -/
def TlsFault.message : TlsFault → String
  | unreadable path fault => "failed to read from file \x60" ++ path ++ "\x60: " ++ fault.message
  | unusable => "private key format not supported"

/-- How the certificate and the key of a server are loaded. -/
abbrev TlsLoader := TlsFiles → Except TlsFault Unit

namespace TlsLoader

/-- Reads a file that the server needs. -/
def readFile (files : Place) (path : String) : Except TlsFault Bytes :=
  (files.read path).mapError (.unreadable path)

/-- Reads the certificate, then the key; `usable` says of the contents of both whether a server can
be run with them. -/
def reading (files : Place) (usable : Bytes → Bytes → Bool) : TlsLoader := fun tls =>
  match readFile files tls.certificate with
  | .error fault => .error fault
  | .ok certificate =>
    match readFile files tls.privateKey with
    | .error fault => .error fault
    | .ok key => if usable certificate key then .ok () else .error .unusable

end TlsLoader

/-! ## Serving

Serving ends in one of three ways: at once, if the server does not listen; when its certificate
cannot be loaded; or by a shutdown. -/

/-- Why a server does not serve. -/
inductive ServeFault
  | notStarted
  | tls (fault : TlsFault)
  deriving DecidableEq, Repr

/-- The text of a fault. -/
def ServeFault.message : ServeFault → String
  | notStarted => "start() must be called before serve()"
  | tls fault => "Failed to load TLS certificates: " ++ fault.message

/-- A server and what it has come to. -/
structure Server where
  network : NetworkConfig
  /-- the server has started to listen -/
  listening : Bool
  deriving DecidableEq, Repr

namespace Server

/-- The server that does not listen yet. -/
def new (network : NetworkConfig) : Server :=
  ⟨network, false⟩

/-- The server starts to listen. -/
def start (server : Server) : Server :=
  { server with listening := true }

/-- Whether what the server needs for its connections can be loaded. -/
def loadTls (server : Server) (load : TlsLoader) : Except TlsFault Unit :=
  match server.network.tls with
  | none => .ok ()
  | some files => load files

/-- The server shuts down: it drains, and waits for the calls in flight, of which none ends. -/
def shutDown (server : Server) (lifecycle : Lifecycle) : Lifecycle :=
  (lifecycle.beginDrain.wait server.network.drainTimeout).1

/-- The server serves although it has been told to shut down: what comes of it, and the lifecycle
after it. -/
def serve (server : Server) (load : TlsLoader) (lifecycle : Lifecycle) :
    Except ServeFault Unit × Lifecycle :=
  if server.listening then
    match server.loadTls load with
    | .ok () => (.ok (), server.shutDown lifecycle.setReady)
    -- The lifecycle is set before the certificate is loaded.
    | .error fault => (.error (.tls fault), lifecycle.setReady)
  else (.error .notStarted, lifecycle)

end Server

end ActionGateway
