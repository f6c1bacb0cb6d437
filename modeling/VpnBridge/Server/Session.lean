import VpnBridge.Server.Handler

/-!
# Sessions

How a session can go, in terms of the operations a server issues and their
answers: which addresses it obtains for a request, which of them it dials, and
what it replies.  `Session` is what is proved of every run of the handlers and
what every property of them is proved from.
-/

namespace VpnBridge.Server

open VpnBridge.Interaction VpnBridge.Net VpnBridge.Proto

/-! ## Classes of operations -/

namespace ServerOp

/-- The peer that a connect operation is given. -/
def peer : ServerOp → Option SocketAddr
  | .tcpConnect _ peer => some peer
  | .udpConnect peer => some peer
  | _ => none

/-- The name that an operation resolves. -/
def resolved : ServerOp → Option (String × UInt16)
  | .lookupHost host port => some (host, port)
  | .timeoutLookupHost _ host port => some (host, port)
  | _ => none

/-- The operations that make, bind or connect an upstream socket. -/
def isDial : ServerOp → Bool
  | .tcpSocket _ => true
  | .tcpBind _ => true
  | .tcpConnect _ _ => true
  | .udpBind _ => true
  | .udpConnect _ => true
  | _ => false

/-- The operations that end a response. -/
def isReplyEnd : ServerOp → Bool
  | .flush => true
  | .shutdown => true
  | _ => false

def isSend : ServerOp → Bool
  | .send _ => true
  | _ => false

/-- The operations of an open flow. -/
def isRelay : ServerOp → Bool
  | .relayTcp _ _ => true
  | .relayUdp _ _ => true
  | .upstreamShutdown => true
  | _ => false

/-- The bytes that an operation relays from the tunnel. -/
def inbound : ServerOp → Option (List UInt8)
  | .relayTcp _ inbound => some inbound
  | .relayUdp _ inbound => some inbound
  | _ => none

end ServerOp

/-- The name that an event looked up, and what the resolver said. -/
def lookedUp : ServerEvent →
    Option ((String × UInt16) × Timed (Except IoError (List SocketAddr)))
  | ⟨.lookupHost host port, answer⟩ => some ((host, port), .ready answer)
  | ⟨.timeoutLookupHost _ host port, answer⟩ => some ((host, port), answer)
  | _ => none

/-- The peer that an event connected an upstream socket to. -/
def connected : ServerEvent → Option SocketAddr
  | ⟨.tcpConnect _ peer, .ready (.ok ())⟩ => some peer
  | ⟨.udpConnect peer, .ok ()⟩ => some peer
  | _ => none

/-- A UDP socket could not be bound. -/
def udpBindFailed : ServerEvent → Bool
  | ⟨.udpBind _, .error _⟩ => true
  | _ => false

/-- The bytes that an event puts on the tunnel. -/
def onTunnel : ServerEvent → List UInt8
  | ⟨.send bytes, _⟩ => bytes
  | ⟨.relayTcp _ _, relayed⟩ => relayed.sent
  | ⟨.relayUdp _ _, relayed⟩ => relayed.sent
  | _ => []

/-- All that a run puts on the tunnel, the relay included. -/
def tunnelBytes (trace : List ServerEvent) : List UInt8 :=
  trace.flatMap onTunnel

/-- A write to the tunnel that the peer gets. -/
def delivered : ServerEvent → Prop
  | ⟨.send _, answer⟩ => answer = .ok ()
  | ⟨.flush, answer⟩ => answer = .ok ()
  | ⟨.shutdown, answer⟩ => answer = .ok ()
  | _ => True

/-! ## What a run amounts to -/

/-- `trace` is how the addresses of `target` were obtained. -/
inductive Obtains : Address → List ServerEvent →
    Timed (Except IoError (List SocketAddr)) → Prop where
  | ip (addr : SocketAddr) : Obtains (.ip addr) [] (.ready (.ok [addr]))
  | name {host : String} {port : UInt16} {event : ServerEvent}
      {answer : Timed (Except IoError (List SocketAddr))}
      (hlookup : lookedUp event = some ((host, port), answer)) :
      Obtains (.domain host port) [event] answer

/-- Steps towards an upstream socket for `addr` that connect nothing. -/
def Attempts (addr : SocketAddr) (trace : List ServerEvent) : Prop :=
  ∀ event ∈ trace, event.1.isDial = true ∧ connected event = none ∧
    ∀ peer, event.1.peer = some peer → peer = addr

/-- The addresses tried one after the other, up to the first that connects. -/
inductive Dials : List SocketAddr → List ServerEvent → Option SocketAddr → Prop where
  | nil : Dials [] [] none
  | miss {addr : SocketAddr} {addrs : List SocketAddr}
      {attempt rest : List ServerEvent} {outcome : Option SocketAddr}
      (hattempt : Attempts addr attempt) (hrest : Dials addrs rest outcome) :
      Dials (addr :: addrs) (attempt ++ rest) outcome
  | hit {addr : SocketAddr} {addrs : List SocketAddr}
      {setup : List ServerEvent} {event : ServerEvent}
      (hsetup : Attempts addr setup) (hconnected : connected event = some addr) :
      Dials (addr :: addrs) (setup ++ [event]) (some addr)

/-- `trace` answers the request with `response`, first thing, and relays nothing. -/
def RepliesWith (response : Response) (trace : List ServerEvent) : Prop :=
  ∃ answer rest, trace = ⟨.send response.buf, answer⟩ :: rest ∧
    ∀ event ∈ rest, event.1.isReplyEnd = true

/-- `trace` relays a flow whose tunnel goes on with `inbound`. -/
def RelaysFrom (inbound : List UInt8) (trace : List ServerEvent) : Prop :=
  ∃ event rest, trace = event :: rest ∧
    (∀ other ∈ rest, other.1 = .upstreamShutdown) ∧
    ((∃ idleSecs, event.1 = .relayTcp idleSecs inbound) ∨
      ∃ idleSecs, event.1 = .relayUdp idleSecs inbound)

/-- `trace` sends the Ok response and, unless that failed, relays the flow. -/
def Opens (inbound : List UInt8) (trace : List ServerEvent) : Prop :=
  (RepliesWith .ok trace ∧
    ∃ event ∈ trace, ∃ failure, event = ⟨.send Response.ok.buf, .error failure⟩ ∨
      event = ⟨.flush, .error failure⟩) ∨
  ∃ relay, trace = ⟨.send Response.ok.buf, .ok ()⟩ :: ⟨.flush, .ok ()⟩ :: relay ∧
    RelaysFrom inbound relay

namespace Endpoint

variable (server : Endpoint)

/-- The addresses of a resolution that the policy admits. -/
def allowed (candidates : List SocketAddr) : List SocketAddr :=
  candidates.filter fun addr => server.permits addr.ip

end Endpoint

/-- The addresses a command tries. -/
def attempted (cmd : Cmd) (allowed : List SocketAddr) : List SocketAddr :=
  match cmd with
  | .connectTcp => allowed
  | .bindUdp => allowed.take 1

/-- The status that failed dials are answered with. -/
def dialStatus (dials : List ServerEvent) : Status :=
  if dials.any udpBindFailed then .serverError else .unreachable

/-- What follows the policy: the dials, then a refusal or the flow. -/
inductive Serves (inbound : List UInt8) (addrs : List SocketAddr) :
    List ServerEvent → Response → Prop where
  | undialed {dials reply : List ServerEvent} {message : String}
      (hdials : Dials addrs dials none)
      (hreply : RepliesWith (.err (dialStatus dials) message) reply) :
      Serves inbound addrs (dials ++ reply) (.err (dialStatus dials) message)
  | opened {dials flow : List ServerEvent} {peer : SocketAddr}
      (hdials : Dials addrs dials (some peer)) (hopens : Opens inbound flow) :
      Serves inbound addrs (dials ++ flow) .ok

/-- `Handled server request inbound trace response`: how a request is served, and
the response it gets. -/
inductive Handled (server : Endpoint) (request : Request) (inbound : List UInt8) :
    List ServerEvent → Response → Prop where
  | badToken {trace : List ServerEvent}
      (htoken : tokenMatches server.token request.token = false)
      (hreply : RepliesWith (.err .authFailed server.authMessage) trace) :
      Handled server request inbound trace (.err .authFailed server.authMessage)
  | unresolved {lookup reply : List ServerEvent}
      {answer : Timed (Except IoError (List SocketAddr))} {message : String}
      (htoken : tokenMatches server.token request.token = true)
      (hobtains : Obtains request.target lookup answer)
      (hnothing : ∀ candidates, answer = .ready (.ok candidates) → candidates = [])
      (hreply : RepliesWith (.err .unreachable message) reply) :
      Handled server request inbound (lookup ++ reply) (.err .unreachable message)
  | forbidden {lookup reply : List ServerEvent} {candidates : List SocketAddr}
      {message : String}
      (htoken : tokenMatches server.token request.token = true)
      (hobtains : Obtains request.target lookup (.ready (.ok candidates)))
      (hcandidates : candidates ≠ []) (hallowed : server.allowed candidates = [])
      (hreply : RepliesWith (.err .forbidden message) reply) :
      Handled server request inbound (lookup ++ reply) (.err .forbidden message)
  | served {lookup rest : List ServerEvent} {candidates : List SocketAddr}
      {response : Response}
      (htoken : tokenMatches server.token request.token = true)
      (hobtains : Obtains request.target lookup (.ready (.ok candidates)))
      (hallowed : server.allowed candidates ≠ [])
      (hserves : Serves inbound (attempted request.cmd (server.allowed candidates))
        rest response) :
      Handled server request inbound (lookup ++ rest) response

/-- `Enters trace request inbound rest`: the first events of `trace` decode
`request`, after which the handler serves it as in `rest`, reading `inbound`. -/
inductive Enters : List ServerEvent → Request → List UInt8 → List ServerEvent → Prop where
  | stream {timeoutSecs : ℕ} {stream inbound : List UInt8} {request : Request}
      {rest : List ServerEvent}
      (hread : Request.readFrom.run stream = .ok (request, inbound)) :
      Enters (⟨.awaitRequest timeoutSecs, .ready (.ok stream)⟩ :: rest)
        request inbound rest
  | frame {timeoutSecs : ℕ} {first : TunnelFrame} {leftover : List UInt8}
      {request : Request} {frames : List TunnelFrame} {rest : List ServerEvent}
      (hread : Request.readFrom.run first.payload = .ok (request, leftover)) :
      Enters (⟨.firstMessage timeoutSecs, .ready (.ok (some first))⟩ ::
        ⟨.spawnPumps, frames⟩ :: rest) request (frames.flatMap TunnelFrame.payload) rest

/-- No request could be read, and nothing was done about it. -/
inductive TurnedAway : List ServerEvent → Prop where
  | stream {timeoutSecs : ℕ} {answer : Timed (Except IoError (List UInt8))}
      (hunread : ∀ stream, answer = .ready (.ok stream) →
        ∃ failure, Request.readFrom.run stream = .error failure) :
      TurnedAway [⟨.awaitRequest timeoutSecs, answer⟩]
  | frame {timeoutSecs : ℕ} {answer : Timed (Except String (Option TunnelFrame))}
      (hunread : ∀ first, answer = .ready (.ok (some first)) →
        ∃ failure, Request.readFrom.run first.payload = .error failure) :
      TurnedAway [⟨.firstMessage timeoutSecs, answer⟩]

theorem TurnedAway.not_enters {trace rest : List ServerEvent} {request : Request}
    {inbound : List UInt8} (hturned : TurnedAway trace) :
    ¬ Enters trace request inbound rest := by
  intro henters
  cases hturned with
  | stream hunread =>
      cases henters with
      | stream hread =>
          obtain ⟨failure, herror⟩ := hunread _ rfl
          cases hread.symm.trans herror
  | frame hunread => cases henters

/-- What a whole session amounts to, from its first byte. -/
def Session (server : Endpoint) (trace : List ServerEvent) : Prop :=
  TurnedAway trace ∨ ∃ request inbound rest response,
    Enters trace request inbound rest ∧ Handled server request inbound rest response

end VpnBridge.Server
