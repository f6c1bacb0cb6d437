import VpnBridge.Core.Interaction
import VpnBridge.Proto.Wire

/-!
# The host's tunnel client

`Client::open` connects to the VM agent and completes the handshake under one
timer, the handshake being a request written and a response read.  The byte
stream that a successful `open` returns stands for the connection, read up to
the end of the response.
-/

namespace VpnBridge.Host

open VpnBridge.Interaction VpnBridge.Net VpnBridge.Proto

structure ServerConfig where
  address : SocketAddr
  token : String
  connectTimeoutMs : ℕ
  reconnectIntervalMs : ℕ
  tcpNodelay : Bool

/-- The `server` section of the host's configuration tests, with its defaults. -/
def ServerConfig.sample : ServerConfig where
  address := .new (.v4 ⟨⟨[127, 0, 0, 1], rfl⟩⟩) 17321
  token := ""
  connectTimeoutMs := 5000
  reconnectIntervalMs := 10000
  tcpNodelay := true

inductive TunnelOp where
  /-- The connect loop, which only a connection ends. -/
  | connect (dialMs retryMs : ℕ) (agent : SocketAddr)
  | setNodelay
  | send (bytes : List UInt8)
  | flush
  /-- Read from the tunnel; the answer is all that it ever delivers. -/
  | receive
  deriving DecidableEq

@[reducible]
def TunnelAnswer : TunnelOp → Type
  | .connect _ _ _ => Unit
  | .setNodelay => Except IoError Unit
  | .send _ => Timed (Except IoError Unit)
  | .flush => Timed (Except IoError Unit)
  | .receive => Timed (List UInt8)

abbrev TunnelProg := Prog TunnelOp TunnelAnswer

abbrev TunnelEvent := Event TunnelAnswer

/-- Issue one operation. -/
def issue (op : TunnelOp) : TunnelProg (TunnelAnswer op) :=
  Prog.perform op

/-- What runs under the timer of the handshake. -/
abbrev Timeout := ExceptT Unit TunnelProg

instance : AsyncWrite Timeout where
  writeAll bytes := ExceptT.mk (ExceptT.mk do
    let answer ← issue (.send bytes)
    return answer.toExcept)
  flush := ExceptT.mk (ExceptT.mk do
    let answer ← issue .flush
    return answer.toExcept)

/-- The bytes that the response is read from. -/
def receive : ExceptT IoError Timeout (List UInt8) :=
  ExceptT.mk (ExceptT.mk do
    let answer ← issue .receive
    return answer.toExcept.map .ok)

/-- The response, and what is left to read after it. -/
def handshake (request : Request) : ExceptT IoError Timeout (Response × List UInt8) := do
  request.writeTo
  let stream ← receive
  match Response.readFrom.run stream with
  | .error failure => throw failure
  | .ok (response, rest) => return (response, rest)

/-- The first half of `Client::open`: a connection to the agent. -/
def connectAgent (cfg : ServerConfig) : TunnelProg Unit := do
  issue (.connect cfg.connectTimeoutMs cfg.reconnectIntervalMs cfg.address)
  if cfg.tcpNodelay then
    let _ ← issue .setNodelay
    return ()
  else
    return ()

/-- `Client::open`; `open` is a word of the language. -/
def openTunnel (cfg : ServerConfig) (cmd : Cmd) (target : Address) :
    ExceptT AnyhowError TunnelProg (List UInt8) := do
  ExceptT.lift (connectAgent cfg)
  match ← ExceptT.lift (handshake ⟨cmd, cfg.token, target⟩).run.run with
  | .error () =>
      throw [s!"timed out during handshake for {target.display}", "deadline has elapsed"]
  | .ok (.error failure) =>
      throw [s!"handshake for {target.display}", failure.message]
  | .ok (.ok (response, rest)) =>
      if response.status ≠ .ok then
        throw [s!"VM agent refused {target.display}: {response.detail}"]
      else
        return rest

end VpnBridge.Host
