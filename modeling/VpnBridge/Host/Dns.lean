import VpnBridge.Core.Pool
import VpnBridge.Core.TransitionSystem
import VpnBridge.Host.Handshake
import VpnBridge.Proto.Datagram

/-!
# The DNS forwarder

`dns::serve` receives queries into one buffer and spawns a task for each; the
tasks run at the same time, and every attempt of a task has a tunnel of its own.
An operation of a task is on the tunnel that it opened last.
-/

namespace VpnBridge.Host

open VpnBridge.ByteReader VpnBridge.Interaction VpnBridge.Net VpnBridge.Proto
open VpnBridge.TransitionSystem

structure DnsConfig where
  listen : SocketAddr
  upstream : List SocketAddr
  timeoutMs : ℕ

/-- Enough for any UDP DNS response. -/
def dnsBuf : ℕ := 4096

inductive DnsOp where
  /-- An operation of `Client::open`. -/
  | tunnel (op : TunnelOp)
  | write (bytes : List UInt8)
  | flush
  /-- Wait until `read_datagram` has what it reads, under a timer. -/
  | datagram (deadlineMs : ℕ)
  | sendTo (answer : List UInt8) (dest : SocketAddr)
  deriving DecidableEq

@[reducible]
def DnsAnswer : DnsOp → Type
  | .tunnel op => TunnelAnswer op
  | .write _ => Except IoError Unit
  | .flush => Except IoError Unit
  | .datagram _ => Timed (Except IoError Unit)
  | .sendTo _ _ => Except IoError Unit

abbrev DnsProg := Prog DnsOp DnsAnswer

abbrev DnsEvent := Event DnsAnswer

/-- Issue one operation. -/
def ask (op : DnsOp) : DnsProg (DnsAnswer op) :=
  Prog.perform op

instance : AsyncWrite DnsProg where
  writeAll bytes := ExceptT.mk (ask (.write bytes))
  flush := ExceptT.mk (ask .flush)

/-- `Client::open` in a task. -/
def openUpstream (client : ServerConfig) (upstream : SocketAddr) :
    ExceptT AnyhowError DnsProg (List UInt8) :=
  ExceptT.mk ((openTunnel client .bindUdp (.ip upstream)).run.embed .tunnel)

/-- `write_datagram(..).await?`. -/
def sendQuery (query : List UInt8) : ExceptT AnyhowError DnsProg Unit := do
  match ← ExceptT.lift (writeDatagram query : ExceptT IoError DnsProg Unit).run with
  | .error failure => throw [failure.message]
  | .ok () => return ()

/-- `read_datagram` under its timer, off what the tunnel delivers. -/
def awaitAnswer (upstream : SocketAddr) (stream : List UInt8) (deadlineMs : ℕ) :
    ExceptT AnyhowError DnsProg (List UInt8) := do
  match ← ExceptT.lift (ask (.datagram deadlineMs)) with
  | .elapsed => throw [s!"timed out waiting for {upstream.display}", "deadline has elapsed"]
  | .ready (.error failure) => throw [failure.message]
  | .ready (.ok ()) =>
      match (readDatagram []).run stream with
      | .error failure => throw [failure.message]
      | .ok ((length, buf), _) => return buf.take length

def queryOne (client : ServerConfig) (upstream : SocketAddr) (query : List UInt8)
    (deadlineMs : ℕ) : ExceptT AnyhowError DnsProg (List UInt8) := do
  let stream ← openUpstream client upstream
  sendQuery query
  awaitAnswer upstream stream deadlineMs

/-- The loop of `resolve`. -/
def resolveFrom (client : ServerConfig) (query : List UInt8) (deadlineMs : ℕ) :
    Option AnyhowError → List SocketAddr → DnsProg (Except AnyhowError (List UInt8))
  | lastErr, [] => pure (.error (lastErr.getD ["no upstream resolver configured"]))
  | _, upstream :: upstreams => do
      match ← (queryOne client upstream query deadlineMs).run with
      | .ok answer => return .ok answer
      | .error error => resolveFrom client query deadlineMs (some error) upstreams

def resolve (cfg : DnsConfig) (client : ServerConfig) (query : List UInt8) :
    DnsProg (Except AnyhowError (List UInt8)) :=
  resolveFrom client query cfg.timeoutMs none cfg.upstream

/-- The task of one query. -/
def answerQuery (cfg : DnsConfig) (client : ServerConfig) (query : List UInt8)
    (sender : SocketAddr) : DnsProg Unit := do
  match ← resolve cfg client query with
  | .error _ => return ()
  | .ok answer =>
      let _ ← ask (.sendTo answer sender)
      return ()

/-! ## The forwarder -/

structure Forwarder where
  /-- The buffer that every query is received into. -/
  buf : List UInt8
  tasks : List (DnsProg Unit)

inductive ForwarderEvent where
  | received (sender : SocketAddr) (datagram : List UInt8)
  | recvFailed (failure : IoError)
  /-- One of the tasks goes on. -/
  | task (id : ℕ) (event : DnsEvent)

namespace Forwarder

def start : Forwarder where
  buf := List.replicate dnsBuf 0
  tasks := []

/-- `recv_from`: how much of the datagram fits, and the buffer after it. -/
def recvFrom (buf datagram : List UInt8) : ℕ × List UInt8 :=
  let length := min datagram.length buf.length
  (length, datagram.take length ++ buf.drop length)

def step (cfg : DnsConfig) (client : ServerConfig) (forwarder : Forwarder) :
    ForwarderEvent → Option Forwarder
  | .received sender datagram =>
      let (length, buf) := recvFrom forwarder.buf datagram
      let query := buf.take length
      some ⟨buf, forwarder.tasks ++ [answerQuery cfg client query sender]⟩
  | .recvFailed _ => some forwarder
  | .task id event =>
      (advanceAt forwarder.tasks id event).map fun tasks => { forwarder with tasks }

end Forwarder

/-- `serve` up to its loop; `bound` is how binding its socket went. -/
def serve (cfg : DnsConfig) (bound : Except IoError Unit) : Except AnyhowError Forwarder :=
  if cfg.upstream.isEmpty then
    throw ["dns.upstream is empty"]
  else
    match bound with
    | .error failure =>
        throw [s!"binding DNS forwarder on {cfg.listen.display}", failure.message]
    | .ok () => return .start

end VpnBridge.Host
