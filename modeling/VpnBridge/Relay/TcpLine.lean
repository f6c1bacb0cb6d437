import VpnBridge.Grpc.Hop
import VpnBridge.Relay.Splice
import VpnBridge.Relay.TcpHalfClose

/-!
# A TCP flow from end to end

Between the application and its peer stand two relays: that of the host and that of the
agent over a TCP connection, or that of the proxy client and that of the proxy server
over a QUIC stream or over the gRPC tunnel, which is a part of the line in its own
right.  The relays copy bytes as they come, and whatever fails, fails on its own.
-/

namespace VpnBridge.Relay

open VpnBridge.Grpc VpnBridge.Pipeline VpnBridge.TransitionSystem

/-! ## The relay of the proxy server -/

/-- The destination has been shut down, or is being shut down. -/
def Copy.closed (copy : Copy) : Bool :=
  match copy.phase with
  | .closing => true
  | .finished (.ok _) => true
  | _ => false

theorem Copy.Faithful.of_closed {copy : Copy} (hfaithful : copy.Faithful)
    (hclosed : copy.closed = true) : copy.carried = copy.taken := by
  rw [Copy.Faithful] at hfaithful
  split at hfaithful
  next hphase =>
    rw [Copy.closed, hphase] at hclosed
    cases hclosed
  next hphase =>
    rw [Copy.closed, hphase] at hclosed
    cases hclosed
  next => exact hfaithful

namespace TcpFlow

variable {flow : TcpFlow}

/-- The flow has ended, and not because both sources had. -/
def failed (flow : TcpFlow) : Bool :=
  match flow.ended.map TcpEnd.result with
  | some (.error _) => true
  | _ => false

/-- What the relay has read from its source.  It shuts the destination down as soon as it
sees the end. -/
def taken (flow : TcpFlow) (direction : Direction) : Tape UInt8 :=
  ⟨(flow.copies direction).taken, (flow.copies direction).closed⟩

def carried (flow : TcpFlow) (direction : Direction) : Tape UInt8 :=
  ⟨(flow.copies direction).carried, (flow.copies direction).closed⟩

def stage (way : Way) (flow : TcpFlow) : Stage UInt8 where
  taken := flow.taken (.ofWay way)
  carried := flow.carried (.ofWay way)
  lossy := false
  failed := flow.failed

/-- The flow as a part of a line. -/
def hop (idle begin : ℕ) : Hop UInt8 TcpFlow TcpEvent where
  start := start begin
  step := step idle
  stage := stage
  taken_start _ := rfl
  faithful {trace flow} hrun way := by
    have hfaithful : (flow.copies (.ofWay way)).Faithful := faithful_run hrun (.ofWay way)
    refine ⟨hfaithful.isPrefix, fun hclosed _ => ?_⟩
    change (flow.copies (.ofWay way)).closed = true at hclosed
    rw [stage, taken, carried, hfaithful.of_closed hclosed]

end TcpFlow

/-! ## Lines -/

/-- The host and the agent. -/
def hostLine : Hop UInt8 (Splice × Splice) (SpliceEvent ⊕ SpliceEvent) :=
  Splice.hop.join Splice.hop

/-- The proxy client and the proxy server, over a QUIC stream. -/
def quicLine (idle begin : ℕ) : Hop UInt8 (Splice × TcpFlow) (SpliceEvent ⊕ TcpEvent) :=
  Splice.hop.join (TcpFlow.hop idle begin)

/-- The proxy client and the proxy server, over the gRPC tunnel. -/
def grpcLine (response idle begin : ℕ) :
    Hop UInt8 (Splice × Tunnel × TcpFlow) (SpliceEvent ⊕ TunnelEvent ⊕ TcpEvent) :=
  Splice.hop.join ((Tunnel.hop response).join (TcpFlow.hop idle begin))

/-- Three bytes and the end of the source go through the relay of the proxy client. -/
def sampleTransferEvents : List SpliceEvent :=
  [⟨.upload, .chunk [1, 2, 3]⟩, ⟨.upload, .sourceEnd⟩, ⟨.upload, .take 3⟩, ⟨.upload, .flushed⟩,
    ⟨.upload, .shutdown (.ok ())⟩]

/-- The same through the relay of the proxy server. -/
def sampleCopyEvents : List TcpEvent :=
  [.copy .upload (.chunk [1, 2, 3]), .copy .upload (.take 3), .copy .upload .sourceEnd,
    .copy .upload (.shutdown (.ok ()))]

end VpnBridge.Relay
