import VpnBridge.Core.Interaction
import VpnBridge.Server.Config

/-!
# Request handlers

One proxied flow on the server side, from its first byte to its relay: the VM
agent's `handle`, and the proxy server's `handle_request` behind its QUIC entry
`handle_stream` and its gRPC entry `open`.  A handler is an interactive program:
name lookups, sockets, the tunnel and the timers are operations whose answers
the environment chooses, so a theorem about all runs covers every resolver
result and every outcome of every bind, dial and write.

The two servers carry separate copies of this code.  `Endpoint` collects the
points in which the copies differ, the shared text is defined once over it, and
each server's functions are its instances.
-/

namespace VpnBridge.Server

open VpnBridge.Interaction VpnBridge.Net VpnBridge.Proto

/-! ## Operations -/

/-- What a relay did: the bytes it put on the tunnel, and how it ended. -/
structure Relayed where
  sent : List UInt8
  result : Except IoError Unit

/-- `TunnelFrame` of the gRPC service. -/
structure TunnelFrame where
  payload : List UInt8
  deriving DecidableEq

/-- `tonic::Status`: a code and a message. -/
inductive GrpcStatus where
  | deadlineExceeded (message : String)
  | invalidArgument (message : String)
  deriving DecidableEq

inductive ServerOp where
  /-- Wait, `timeoutSecs` long, for the request on the inbound byte stream. -/
  | awaitRequest (timeoutSecs : ℕ)
  /-- Wait for the first message of a gRPC call. -/
  | firstMessage (timeoutSecs : ℕ)
  /-- Start the two pump tasks of a gRPC call. -/
  | spawnPumps
  | lookupHost (host : String) (port : UInt16)
  | timeoutLookupHost (deadlineMs : ℕ) (host : String) (port : UInt16)
  /-- `TcpSocket::new_v4` or `TcpSocket::new_v6`. -/
  | tcpSocket (ipv4 : Bool)
  | tcpBind (source : SocketAddr)
  /-- The `connect` of a dial, the one place where its deadline can strike. -/
  | tcpConnect (deadlineMs : ℕ) (peer : SocketAddr)
  | udpBind (source : SocketAddr)
  | udpConnect (peer : SocketAddr)
  | send (bytes : List UInt8)
  | flush
  | shutdown
  /-- Relay a TCP flow, the tunnel delivering `inbound` from here on. -/
  | relayTcp (idleSecs : Option ℕ) (inbound : List UInt8)
  | relayUdp (idleSecs : ℕ) (inbound : List UInt8)
  | upstreamShutdown
  deriving DecidableEq

/-- The byte streams in these answers are all that the peer ever delivers. -/
@[reducible]
def ServerAnswer : ServerOp → Type
  | .awaitRequest _ => Timed (Except IoError (List UInt8))
  | .firstMessage _ => Timed (Except String (Option TunnelFrame))
  | .spawnPumps => List TunnelFrame
  | .lookupHost _ _ => Except IoError (List SocketAddr)
  | .timeoutLookupHost _ _ _ => Timed (Except IoError (List SocketAddr))
  | .tcpSocket _ => Except IoError Unit
  | .tcpBind _ => Except IoError Unit
  | .tcpConnect _ _ => Timed (Except IoError Unit)
  | .udpBind _ => Except IoError Unit
  | .udpConnect _ => Except IoError Unit
  | .send _ => Except IoError Unit
  | .flush => Except IoError Unit
  | .shutdown => Except IoError Unit
  | .relayTcp _ _ => Relayed
  | .relayUdp _ _ => Relayed
  | .upstreamShutdown => Except IoError Unit

instance (op : ServerOp) : Inhabited (ServerAnswer op) :=
  match op with
  | .awaitRequest _ => ⟨.elapsed⟩
  | .firstMessage _ => ⟨.elapsed⟩
  | .spawnPumps => ⟨[]⟩
  | .lookupHost _ _ => ⟨.ok []⟩
  | .timeoutLookupHost _ _ _ => ⟨.elapsed⟩
  | .tcpConnect _ _ => ⟨.elapsed⟩
  | .relayTcp _ _ => ⟨[], .ok ()⟩
  | .relayUdp _ _ => ⟨[], .ok ()⟩
  | .tcpSocket _ => ⟨.ok ()⟩
  | .tcpBind _ => ⟨.ok ()⟩
  | .udpBind _ => ⟨.ok ()⟩
  | .udpConnect _ => ⟨.ok ()⟩
  | .send _ => ⟨.ok ()⟩
  | .flush => ⟨.ok ()⟩
  | .shutdown => ⟨.ok ()⟩
  | .upstreamShutdown => ⟨.ok ()⟩

abbrev ServerProg := Prog ServerOp ServerAnswer

/-- A server task whose failures end it. -/
abbrev Handler := ExceptT IoError ServerProg

abbrev ServerEvent := Event ServerAnswer

/-- Issue one operation. -/
def issue (op : ServerOp) : ServerProg (ServerAnswer op) :=
  Prog.perform op

/-- The tunnel as a byte sink. -/
instance : AsyncWrite ServerProg where
  writeAll bytes := ExceptT.mk (issue (.send bytes))
  flush := ExceptT.mk (issue .flush)

/-! ## The shared text -/

/-- Where the two servers differ. -/
structure Endpoint where
  token : String
  permits : IpAddr → Bool
  bindIp : Option IpAddr
  connectTimeoutMs : ℕ
  /-- The message that refuses a wrong token. -/
  authMessage : String
  /-- Refuse a request. -/
  reject : Status → String → Handler Unit
  lookup : String → UInt16 → ServerProg (Timed (Except IoError (List SocketAddr)))
  relayTcp : List UInt8 → Handler Unit
  relayUdp : List UInt8 → Handler Unit

namespace Endpoint

variable (server : Endpoint)

def resolve : Address → ServerProg (Timed (Except IoError (List SocketAddr)))
  | .ip addr => pure (.ready (.ok [addr]))
  | .domain host port => server.lookup host port

/-- The source address that a dial binds first, when the families agree. -/
def bindSource (addr : SocketAddr) : ServerProg (Except IoError Unit) :=
  match server.bindIp with
  | some ip =>
      if ip.isIpv4 = addr.isIpv4 then
        issue (.tcpBind (.new ip 0))
      else
        pure (.ok ())
  | none => pure (.ok ())

/-- `timeout(dial, dial_tcp(cfg, addr))`. -/
def dialTcp (addr : SocketAddr) : ServerProg (Timed (Except IoError Unit)) := do
  match ← issue (.tcpSocket addr.isIpv4) with
  | .error failure => return .ready (.error failure)
  | .ok () =>
      match ← server.bindSource addr with
      | .error failure => return .ready (.error failure)
      | .ok () => issue (.tcpConnect server.connectTimeoutMs addr)

/-- The dial loop of `serve_tcp`: the first candidate that connects, or the text
of the last failure. -/
def dialCandidates : List SocketAddr → Option String →
    ServerProg (Except (Option String) SocketAddr)
  | [], lastError => pure (.error lastError)
  | candidate :: candidates, _ => do
      match ← server.dialTcp candidate with
      | .ready (.ok ()) => return .ok candidate
      | .ready (.error failure) => dialCandidates candidates (some failure.message)
      | .elapsed =>
          dialCandidates candidates
            (some ("connect to " ++ candidate.display ++ " timed out"))

def serveTcp (inbound : List UInt8) (candidates : List SocketAddr) : Handler Unit := do
  match ← ExceptT.lift (server.dialCandidates candidates none) with
  | .error lastError =>
      server.reject .unreachable (lastError.getD "connect failed")
  | .ok _ => do
      Response.ok.writeTo
      server.relayTcp inbound

/-- The local address of the UDP socket towards `addr`. -/
def udpSource (addr : SocketAddr) : SocketAddr :=
  let unspecified : SocketAddr :=
    if addr.isIpv4 then
      .new (.v4 ⟨List.Vector.replicate 4 0⟩) 0
    else
      .new (.v6 ⟨List.Vector.replicate 16 0⟩) 0
  match server.bindIp with
  | some ip => if ip.isIpv4 = addr.isIpv4 then .new ip 0 else unspecified
  | none => unspecified

def serveUdp (inbound : List UInt8) (addr : SocketAddr) : Handler Unit := do
  match ← ExceptT.lift (issue (.udpBind (server.udpSource addr))) with
  | .error failure => server.reject .serverError s!"bind failed: {failure.message}"
  | .ok () =>
      match ← ExceptT.lift (issue (.udpConnect addr)) with
      | .error failure =>
          server.reject .unreachable s!"connect failed: {failure.message}"
      | .ok () => do
          Response.ok.writeTo
          server.relayUdp inbound

/-- What follows a resolution: the policy, then the command. -/
def serveResolved (request : Request) (inbound : List UInt8)
    (candidates : List SocketAddr) : Handler Unit :=
  match candidates.filter fun addr => server.permits addr.ip with
  | [] => server.reject .forbidden "destination not allowed"
  | first :: others =>
      match request.cmd with
      | .connectTcp => server.serveTcp inbound (first :: others)
      | .bindUdp => server.serveUdp inbound first

def handleRequest (request : Request) (inbound : List UInt8) : Handler Unit :=
  if tokenMatches server.token request.token then do
    match ← ExceptT.lift (server.resolve request.target) with
    | .ready (.ok []) => server.reject .unreachable "name resolved to nothing"
    | .ready (.ok candidates) => server.serveResolved request inbound candidates
    | .ready (.error failure) =>
        server.reject .unreachable s!"resolve failed: {failure.message}"
    | .elapsed => server.reject .unreachable "resolve timed out"
  else
    server.reject .authFailed server.authMessage

/-- Read the request off a byte stream under a timer, then serve it with the
bytes that follow. -/
def handleStream (timeoutSecs : ℕ) (timeoutMessage : String) : Handler Unit := do
  match ← ExceptT.lift (issue (.awaitRequest timeoutSecs)) with
  | .elapsed => throw ⟨.timedOut, timeoutMessage⟩
  | .ready (.error failure) => throw failure
  | .ready (.ok stream) =>
      match Request.readFrom.run stream with
      | .error failure => throw failure
      | .ok (request, inbound) => server.handleRequest request inbound

end Endpoint

/-- Send a refusal and leave closing to the end of the task. -/
def refuse (status : Status) (message : String) : Handler Unit :=
  (Response.err status message).writeTo

/-- Hand a TCP flow over; the answer says how its relay ended. -/
def relayTcp (idleSecs : Option ℕ) (inbound : List UInt8) : Handler Unit :=
  ExceptT.mk do
    let relayed ← issue (.relayTcp idleSecs inbound)
    return relayed.result

def relayUdp (idleSecs : ℕ) (inbound : List UInt8) : Handler Unit :=
  ExceptT.mk do
    let relayed ← issue (.relayUdp idleSecs inbound)
    return relayed.result

/-! ## VM agent -/

namespace Vm

variable {Net : Type} [IpNetwork Net]

def handshakeTimeoutSecs : ℕ := 10

def lookup (host : String) (port : UInt16) :
    ServerProg (Timed (Except IoError (List SocketAddr))) := do
  return .ready (← issue (.lookupHost host port))

/-- `copy_bidirectional`, then the shutdown of the upstream. -/
def relayTcp (inbound : List UInt8) : Handler Unit := do
  Server.relayTcp none inbound
  let _ ← ExceptT.lift (issue .upstreamShutdown)
  return ()

def endpoint (cfg : VmConfig Net) : Endpoint where
  token := cfg.token
  permits := cfg.permits
  bindIp := cfg.bindIp
  connectTimeoutMs := cfg.connectTimeoutMs
  authMessage := "bad token"
  reject := refuse
  lookup := lookup
  relayTcp := relayTcp
  relayUdp inbound := Server.relayUdp cfg.udpTimeoutSecs inbound

def handle (cfg : VmConfig Net) : Handler Unit :=
  (endpoint cfg).handleStream handshakeTimeoutSecs "handshake timed out"

end Vm

/-! ## Proxy server -/

namespace Proxy

variable {Net : Type} [IpNetwork Net]

def requestTimeoutSecs : ℕ := 10

/-- Send a refusal and close the sending side. -/
def reject (status : Status) (message : String) : Handler Unit := do
  refuse status message
  ExceptT.mk (issue .shutdown)

def endpoint (cfg : ServerConfig Net) : Endpoint where
  token := cfg.token
  permits := cfg.permits
  bindIp := cfg.bindIp
  connectTimeoutMs := cfg.connectTimeoutMs
  authMessage := "invalid token"
  reject := reject
  lookup host port := issue (.timeoutLookupHost cfg.dnsTimeoutMs host port)
  relayTcp inbound := Server.relayTcp (some cfg.tcpIdleTimeoutSecs) inbound
  relayUdp inbound := Server.relayUdp cfg.udpTimeoutSecs inbound

def handleRequest (cfg : ServerConfig Net) (request : Request)
    (inbound : List UInt8) : Handler Unit :=
  (endpoint cfg).handleRequest request inbound

/-- The QUIC entry. -/
def handleStream (cfg : ServerConfig Net) : Handler Unit :=
  (endpoint cfg).handleStream requestTimeoutSecs "request timed out"

/-- The gRPC entry: the request is read from the first frame alone, and the pump
feeds the handler the payloads of the frames after it. -/
def grpcOpen (cfg : ServerConfig Net) : ExceptT GrpcStatus ServerProg Unit := do
  match ← ExceptT.lift (issue (.firstMessage requestTimeoutSecs)) with
  | .elapsed => throw (.deadlineExceeded "proxy request timed out")
  | .ready (.error failure) =>
      throw (.invalidArgument s!"reading proxy request: {failure}")
  | .ready (.ok none) => throw (.invalidArgument "missing proxy request")
  | .ready (.ok (some first)) =>
      match Request.readFrom.run first.payload with
      | .error failure =>
          throw (.invalidArgument s!"invalid proxy request: {failure.message}")
      | .ok (request, _) => do
          let frames ← ExceptT.lift (issue .spawnPumps)
          -- The spawned handler's own result is only logged.
          let _ ← ExceptT.lift
            (handleRequest cfg request (frames.flatMap TunnelFrame.payload)).run
          return ()

end Proxy

end VpnBridge.Server
