import VpnBridge.Client.Config
import VpnBridge.Core.TransitionSystem
import Mathlib.Logic.Function.Basic

/-!
# The proxy client's transports

`TransportClient::open` with the `QuicClient` and `GrpcClient` calls under it,
as a transition system.  Any number of opens run at once.  Each is suspended at
one of the points where the source awaits something, and what it awaits comes
as the input of a step.  Between two such points an open runs alone, except
that reading the clock for a new window is a step of its own: another thread
may run between that and the lock.

A closed connection and a passing millisecond are steps of the environment.
-/

namespace VpnBridge.Client

open VpnBridge.Net VpnBridge.Proto VpnBridge.TransitionSystem

/-- `Instant`, in milliseconds. -/
abbrev Time := ℕ

/-- One call of `TransportClient::open`. -/
abbrev FlowId := ℕ

/-- One QUIC connection; every handshake makes a new one. -/
abbrev ConnId := ℕ

inductive FlowTransport where
  | quic
  | grpc
  deriving DecidableEq

inductive QuicOpenError where
  | unavailable (error : AnyhowError)
  | rejected (error : AnyhowError)

/-- The three calls of `GrpcClient::open`. -/
inductive GrpcRole where
  /-- QUIC is disabled. -/
  | only
  /-- The window suppresses QUIC. -/
  | first
  /-- QUIC was unavailable. -/
  | fallback
  deriving DecidableEq

/-- Where an open is suspended.  `since` is when the timer of that wait was set,
`conn` the connection the open obtained. -/
inductive OpenPoint where
  /-- Before the window is read. -/
  | checkWindow
  | grpcOpening (role : GrpcRole) (since : Time)
  | grpcResponse (role : GrpcRole) (since : Time)
  /-- Before the window is cleared for a gRPC attempt that came first. -/
  | clearAfterGrpc
  /-- Before `connection` has the lock of the slot. -/
  | lockSlot
  /-- In `connection`, with the lock. -/
  | connecting (since : Time)
  | openStream (conn : ConnId)
  | writeRequest (conn : ConnId)
  | awaitResponse (conn : ConnId) (since : Time)
  /-- Before `invalidate` has the lock of the slot. -/
  | invalidate (conn : ConnId) (error : AnyhowError)
  /-- QUIC was unavailable, and the clock has not been read. -/
  | unavailable
  /-- Before the window is written for a failure observed then. -/
  | recordWindow (observed : Time)
  /-- Before the window is cleared for a QUIC success. -/
  | clearAfterQuic
  | done (result : Except AnyhowError FlowTransport)

structure OpenCall where
  cmd : Cmd
  target : Address
  point : OpenPoint

inductive ConnState where
  | unused
  | live
  | closed
  deriving DecidableEq

/-- What the opens share: the clock, and the two mutexes of the client. -/
structure Shared where
  now : Time
  fallbackUntil : Option Time
  /-- `QuicClient::connection`. -/
  slot : Option ConnId
  /-- The open that keeps the slot locked while it connects. -/
  slotHolder : Option FlowId
  connections : ConnId → ConnState

structure State where
  shared : Shared
  opens : FlowId → Option OpenCall

/-- `TransportClient::new`, at any clock. -/
def State.new (now : Time) : State where
  shared := ⟨now, none, none, none, fun _ => .unused⟩
  opens := fun _ => none

/-- What a suspended open waits for. -/
inductive Input where
  /-- The lock is free, or nothing was awaited. -/
  | proceed
  /-- The awaited operation succeeded. -/
  | ready
  | failed (error : AnyhowError)
  | elapsed
  /-- The connect call was accepted. -/
  | connecting
  | connected (conn : ConnId)
  | response (response : Response)

inductive Event where
  | tick (delta : ℕ)
  | close (conn : ConnId)
  | start (flow : FlowId) (cmd : Cmd) (target : Address)
  | resume (flow : FlowId) (input : Input)

/-- The open that goes on, and with what. -/
def Event.resumed : Event → Option (FlowId × Input)
  | .resume flow input => some (flow, input)
  | _ => none

/-! ## Shared state -/

namespace Shared

/-- `fallback_until.is_some_and(|until| Instant::now() < until)`. -/
def quicSuppressed (shared : Shared) : Bool :=
  shared.fallbackUntil.any fun deadline => shared.now < deadline

/-- The connection of the slot, unless it has a close reason. -/
def liveSlot (shared : Shared) : Option ConnId :=
  shared.slot.filter fun conn => shared.connections conn = .live

/-- A handshake completed: the slot holds the new connection, and its lock is
free again. -/
def connect (shared : Shared) (conn : ConnId) : Shared where
  now := shared.now
  fallbackUntil := shared.fallbackUntil
  slot := some conn
  slotHolder := none
  connections := Function.update shared.connections conn .live

def close (shared : Shared) (conn : ConnId) : Shared :=
  { shared with connections := Function.update shared.connections conn .closed }

end Shared

/-! ## The calls -/

/-- `Request::write_to` as a check; a token that does not fit stops it. -/
def encodeRequest (cfg : ClientConfig) (cmd : Cmd) (target : Address) :
    Except IoError Unit :=
  (writeToVec (Request.mk cmd cfg.token target).writeTo []).1

/-- The error of both transports for a response other than Ok. -/
def refusal (target : Address) (response : Response) : AnyhowError :=
  [s!"proxy refused {target.display}: {response.detail}"]

/-- What `TransportClient::open` does with the result of `GrpcClient::open`. -/
def afterGrpc : GrpcRole → Except AnyhowError Unit → OpenPoint
  | _, .ok () => .done (.ok .grpc)
  | .only, .error error => .done (.error error)
  | .first, .error _ => .clearAfterGrpc
  | .fallback, .error error =>
      .done (.error ("QUIC and gRPC proxy transports are unavailable" :: error))

/-- What `TransportClient::open` does with the result of `QuicClient::open`. -/
def afterQuic (cfg : ClientConfig) : Except QuicOpenError Unit → OpenPoint
  | .ok () => if cfg.grpcEnabled then .clearAfterQuic else .done (.ok .quic)
  | .error (.rejected error) => .done (.error error)
  | .error (.unavailable error) =>
      if cfg.grpcEnabled then .unavailable else .done (.error error)

/-- `GrpcClient::open` up to its first wait. -/
def grpcOpen (cfg : ClientConfig) (now : Time) (cmd : Cmd) (target : Address)
    (role : GrpcRole) : OpenPoint :=
  match encodeRequest cfg cmd target with
  | .error failure =>
      afterGrpc role (.error ["encoding gRPC proxy request", failure.message])
  | .ok () => .grpcOpening role now

/-- The end of `GrpcClient::open`. -/
def grpcAnswered (target : Address) (role : GrpcRole) (response : Response) : OpenPoint :=
  if response.status ≠ .ok then
    afterGrpc role (.error (refusal target response))
  else
    afterGrpc role (.ok ())

/-- The end of `QuicClient::open`. -/
def quicAnswered (cfg : ClientConfig) (target : Address) (response : Response) : OpenPoint :=
  if response.status ≠ .ok then
    afterQuic cfg (.error (.rejected (refusal target response)))
  else
    afterQuic cfg (.ok ())

/-- `TransportClient::open` up to its first wait. -/
def entryPoint (cfg : ClientConfig) (now : Time) (cmd : Cmd) (target : Address) : OpenPoint :=
  if !cfg.quicEnabled then
    if !cfg.grpcEnabled then
      .done (.error ["gRPC transport is disabled"])
    else
      grpcOpen cfg now cmd target .only
  else if !cfg.grpcEnabled then
    .lockSlot
  else
    .checkWindow

/-- `tokio::time::timeout` may fire from its deadline on. -/
def timedOut (cfg : ClientConfig) (since now : Time) : Bool :=
  since + cfg.connectTimeoutMs ≤ now

/-- `Elapsed`, under the context that the source gives it. -/
def elapsedError (context : String) : AnyhowError :=
  [context, "deadline has elapsed"]

/-! ## Steps -/

/-- One step of an open: from where it is suspended to where it next is. -/
def resumePoint (cfg : ClientConfig) (flow : FlowId) (call : OpenCall) (shared : Shared)
    (input : Input) : Option (Shared × OpenPoint) :=
  match call.point, input with
  | .checkWindow, .proceed =>
      if shared.quicSuppressed then
        some (shared, grpcOpen cfg shared.now call.cmd call.target .first)
      else
        some (shared, .lockSlot)
  -- `GrpcClient::open`
  | .grpcOpening role _, .ready => some (shared, .grpcResponse role shared.now)
  | .grpcOpening role _, .failed error =>
      some (shared, afterGrpc role
        (.error (s!"opening gRPC fallback stream for {call.target.display}" :: error)))
  | .grpcOpening role since, .elapsed =>
      if timedOut cfg since shared.now then
        some (shared, afterGrpc role (.error (elapsedError
          s!"gRPC fallback connection timed out for {call.target.display}")))
      else
        none
  | .grpcResponse role _, .response response =>
      some (shared, grpcAnswered call.target role response)
  | .grpcResponse role _, .failed error =>
      some (shared, afterGrpc role
        (.error (s!"reading gRPC proxy response for {call.target.display}" :: error)))
  | .grpcResponse role since, .elapsed =>
      if timedOut cfg since shared.now then
        some (shared, afterGrpc role (.error (elapsedError
          s!"gRPC proxy response timed out for {call.target.display}")))
      else
        none
  | .clearAfterGrpc, .proceed => some ({ shared with fallbackUntil := none }, .lockSlot)
  -- `QuicClient::connection`
  | .lockSlot, .proceed =>
      match shared.slotHolder, shared.liveSlot with
      | none, some conn => some (shared, .openStream conn)
      | _, _ => none
  | .lockSlot, .failed error =>
      match shared.slotHolder, shared.liveSlot with
      | none, none =>
          some (shared, afterQuic cfg
            (.error (.unavailable ("starting QUIC connection" :: error))))
      | _, _ => none
  | .lockSlot, .connecting =>
      match shared.slotHolder, shared.liveSlot with
      | none, none => some ({ shared with slotHolder := some flow }, .connecting shared.now)
      | _, _ => none
  | .connecting _, .connected conn =>
      if shared.connections conn = .unused then
        some (shared.connect conn, .openStream conn)
      else
        none
  | .connecting _, .failed error =>
      some ({ shared with slotHolder := none },
        afterQuic cfg (.error (.unavailable error)))
  | .connecting since, .elapsed =>
      if timedOut cfg since shared.now then
        some ({ shared with slotHolder := none },
          afterQuic cfg (.error (.unavailable (elapsedError "QUIC connection timed out"))))
      else
        none
  -- `QuicClient::open`
  | .openStream conn, .ready => some (shared, .writeRequest conn)
  | .openStream conn, .failed error =>
      some (shared, .invalidate conn ("opening QUIC stream" :: error))
  | .writeRequest conn, .ready =>
      match encodeRequest cfg call.cmd call.target with
      | .ok () => some (shared, .awaitResponse conn shared.now)
      | .error failure =>
          some (shared, .invalidate conn
            [s!"sending QUIC proxy request for {call.target.display}", failure.message])
  | .writeRequest conn, .failed error =>
      match encodeRequest cfg call.cmd call.target with
      | .ok () =>
          some (shared, .invalidate conn
            (s!"sending QUIC proxy request for {call.target.display}" :: error))
      | .error _ => none
  | .awaitResponse _ _, .response response =>
      some (shared, quicAnswered cfg call.target response)
  | .awaitResponse conn _, .failed error =>
      some (shared, .invalidate conn
        (s!"reading QUIC proxy response for {call.target.display}" :: error))
  | .awaitResponse conn since, .elapsed =>
      if timedOut cfg since shared.now then
        some (shared, .invalidate conn (elapsedError
          s!"QUIC proxy response timed out for {call.target.display}"))
      else
        none
  | .invalidate _ error, .proceed =>
      if shared.slotHolder = none then
        some ({ shared with slot := none }, afterQuic cfg (.error (.unavailable error)))
      else
        none
  -- the rest of `TransportClient::open`
  | .unavailable, .proceed => some (shared, .recordWindow shared.now)
  | .recordWindow observed, .proceed =>
      some ({ shared with fallbackUntil := some (observed + cfg.reconnectIntervalMs) },
        grpcOpen cfg shared.now call.cmd call.target .fallback)
  | .clearAfterQuic, .proceed =>
      some ({ shared with fallbackUntil := none }, .done (.ok .quic))
  | _, _ => none

def step (cfg : ClientConfig) (state : State) : Event → Option State
  | .tick delta => some { state with shared.now := state.shared.now + delta }
  | .close conn =>
      if state.shared.connections conn = .live then
        some { state with shared := state.shared.close conn }
      else
        none
  | .start flow cmd target =>
      match state.opens flow with
      | some _ => none
      | none =>
          some { state with
            opens := Function.update state.opens flow
              (some ⟨cmd, target, entryPoint cfg state.shared.now cmd target⟩) }
  | .resume flow input =>
      match state.opens flow with
      | none => none
      | some call =>
          (resumePoint cfg flow call state.shared input).map fun (shared, point) =>
            ⟨shared, Function.update state.opens flow (some { call with point })⟩

/-- A run of the client from its construction. -/
abbrev Run (cfg : ClientConfig) (now : Time) (trace : List (Transition State Event))
    (final : State) : Prop :=
  Execution (step cfg) (State.new now) trace final

/-- A target inside the sample configuration's route, `10.0.0.1:443`. -/
def sampleTarget : Address :=
  .ip (.new (.v4 ⟨⟨[10, 0, 0, 1], rfl⟩⟩) 443)

end VpnBridge.Client
