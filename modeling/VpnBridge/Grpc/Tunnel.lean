import VpnBridge.Core.TransitionSystem
import VpnBridge.Grpc.Pumps

/-!
# The gRPC tunnel

A lane carries the bytes of one direction: into a pipe, out of it as frames, over
the call, and into the pipe at the other end.  The call delivers the frames in
order, and may break at any time.  A tunnel is two lanes, whose pumps share a
duplex stream at either end, after the request frame has opened the call.
-/

namespace VpnBridge.Grpc

open VpnBridge.BoundedQueue VpnBridge.Server VpnBridge.TransitionSystem

structure Lane where
  outbound : Outbound
  /-- The call has carried the end of the frames. -/
  ended : Bool
  /-- The call is broken in this direction. -/
  failed : Bool
  inbound : Inbound
  deriving DecidableEq

inductive LaneEvent where
  | outbound (event : OutboundEvent)
  /-- The call takes a frame. -/
  | take
  | finish
  | fail
  | inbound (event : InboundEvent)
  deriving DecidableEq

namespace Lane

def start : Lane := ⟨.start, false, false, .start⟩

/-- The channel refuses a frame only after the call has dropped it. -/
def permits (lane : Lane) : OutboundEvent → Bool
  | .sendFailed => lane.failed
  | _ => true

/-- What the call can deliver next: the frames it has taken, in order, then the end;
or an error, once it is broken. -/
def delivers (lane : Lane) : InboundEvent → Bool
  | .message (.frame frame) =>
      lane.outbound.channel.passed[lane.inbound.received.length]? == some frame
  | .message .finished =>
      lane.ended && lane.inbound.received.length == lane.outbound.channel.passed.length
  | .message .failed => lane.failed
  | _ => true

def step (shutsDownOnError : Bool) (lane : Lane) : LaneEvent → Option Lane
  | .outbound event =>
      if lane.permits event = true then do
        let outbound ← lane.outbound.step event
        return { lane with outbound := outbound }
      else none
  | .take =>
      if lane.outbound.channel.queue ≠ [] then
        some { lane with
          outbound := { lane.outbound with channel := lane.outbound.channel.pop 1 } }
      else none
  | .finish =>
      if lane.outbound.channel.queue = [] ∧ lane.outbound.channel.closed = true then
        some { lane with ended := true }
      else none
  | .fail => some { lane with failed := true }
  | .inbound event =>
      if lane.delivers event = true then do
        let inbound ← lane.inbound.step shutsDownOnError event
        return { lane with inbound := inbound }
      else none

/-- The pipe at the beginning of the lane is closed, by either of its ends. -/
def closePipe (lane : Lane) : Lane :=
  { lane with outbound := { lane.outbound with pipe := lane.outbound.pipe.close } }

def dropReader (lane : Lane) : Lane :=
  { lane with inbound := lane.inbound.dropReader }

def dropBridge (lane : Lane) : Lane :=
  { lane with inbound := lane.inbound.dropBridge }

/-- The bytes put into the lane. -/
def written (lane : Lane) : List UInt8 := lane.outbound.pipe.pushed

/-- The bytes taken out of it. -/
def read (lane : Lane) : List UInt8 := lane.inbound.pipe.passed

/-! ## Invariant -/

/-- What holds of a lane in every state. -/
structure Sound (lane : Lane) : Prop where
  outbound : lane.outbound.Sound
  inbound : lane.inbound.Sound
  received : lane.inbound.received <+: lane.outbound.channel.passed
  ended : lane.ended = true →
    lane.outbound.channel.queue = [] ∧ lane.outbound.channel.closed = true
  rejected : ∀ payload, lane.outbound.pump = .rejected payload → lane.failed = true
  complete : lane.inbound.pump = .ended →
    lane.ended = true ∧ lane.inbound.received = lane.outbound.channel.passed
  failed : lane.inbound.pump = .failed → lane.failed = true

variable {shutsDownOnError : Bool} {lane next : Lane}

theorem sound_start : Sound start where
  outbound := Outbound.sound_start
  inbound := Inbound.sound_start
  received := List.nil_prefix
  ended hended := by cases hended
  rejected _ hrejected := by cases hrejected
  complete hended := by cases hended
  failed hfailed := by cases hfailed

theorem sound_outbound {event : OutboundEvent} {outbound : Outbound}
    (hpermits : lane.permits event = true)
    (hstep : lane.outbound.step event = some outbound) (hsound : lane.Sound) :
    { lane with outbound := outbound }.Sound := by
  obtain ⟨hpassed, hclosed⟩ := Outbound.channel_of_step hstep
  refine ⟨Outbound.sound_step hstep hsound.outbound, hsound.inbound, ?_, ?_, ?_, ?_,
    hsound.failed⟩
  · rw [hpassed]
    exact hsound.received
  · intro hended
    obtain ⟨hqueue, hshut⟩ := hsound.ended hended
    obtain ⟨hsame, hstays⟩ := hclosed hshut
    exact ⟨hsame.trans hqueue, hstays⟩
  · intro payload hrejected
    rcases Outbound.rejected_of_step hstep hrejected with rfl | hrejected
    · exact hpermits
    · exact hsound.rejected payload hrejected
  · rw [hpassed]
    exact hsound.complete

theorem sound_inbound {event : InboundEvent} {inbound : Inbound}
    (hdelivers : lane.delivers event = true)
    (hstep : lane.inbound.step shutsDownOnError event = some inbound) (hsound : lane.Sound) :
    { lane with inbound := inbound }.Sound := by
  have hinbound := Inbound.sound_step hstep hsound.inbound
  cases Inbound.does_of_step hstep with
  | frame hpump =>
      refine ⟨hsound.outbound, hinbound, ?_, hsound.ended, hsound.rejected, nofun, nofun⟩
      exact isPrefix_snoc hsound.received (beq_iff_eq.mp hdelivers)
  | finished hpump =>
      obtain ⟨hended, hlength⟩ := Bool.and_eq_true_iff.mp hdelivers
      refine ⟨hsound.outbound, hinbound, hsound.received, hsound.ended, hsound.rejected,
        fun _ => ⟨hended, ?_⟩, nofun⟩
      exact hsound.received.eq_of_length (beq_iff_eq.mp hlength)
  | failed hpump =>
      exact ⟨hsound.outbound, hinbound, hsound.received, hsound.ended, hsound.rejected, nofun,
        fun _ => hdelivers⟩
  | write hpump hpush =>
      exact ⟨hsound.outbound, hinbound, hsound.received, hsound.ended, hsound.rejected, nofun,
        nofun⟩
  | written hpump =>
      exact ⟨hsound.outbound, hinbound, hsound.received, hsound.ended, hsound.rejected, nofun,
        nofun⟩
  | brokenPipe hpump hclosed =>
      exact ⟨hsound.outbound, hinbound, hsound.received, hsound.ended, hsound.rejected, nofun,
        nofun⟩
  | read hcount =>
      exact ⟨hsound.outbound, hinbound, hsound.received, hsound.ended, hsound.rejected,
        hsound.complete, hsound.failed⟩
  | readEof hreader hqueue hclosed =>
      exact ⟨hsound.outbound, hinbound, hsound.received, hsound.ended, hsound.rejected,
        hsound.complete, hsound.failed⟩

theorem sound_step {event : LaneEvent} (hstep : lane.step shutsDownOnError event = some next)
    (hsound : lane.Sound) : next.Sound := by
  cases event with
  | outbound event =>
      obtain ⟨hpermits, hstep⟩ := Option.ite_none_right_eq_some.mp hstep
      obtain ⟨outbound, houtbound, hnext⟩ := Option.bind_eq_some_iff.mp hstep
      cases hnext
      exact sound_outbound hpermits houtbound hsound
  | take =>
      obtain ⟨hqueue, hnext⟩ := Option.ite_none_right_eq_some.mp hstep
      cases hnext
      have hopen : lane.ended ≠ true := fun hended => hqueue (hsound.ended hended).1
      refine ⟨?_, hsound.inbound, hsound.received.trans (List.prefix_append _ _), ?_,
        hsound.rejected, ?_, hsound.failed⟩
      · refine ⟨?_, hsound.outbound.ended, hsound.outbound.finished⟩
        rw [Fifo.pushed_pop]
        exact hsound.outbound.conserved
      · intro hended
        exact absurd hended hopen
      · intro hpump
        exact absurd (hsound.complete hpump).1 hopen
  | finish =>
      obtain ⟨hempty, hnext⟩ := Option.ite_none_right_eq_some.mp hstep
      cases hnext
      exact ⟨hsound.outbound, hsound.inbound, hsound.received, fun _ => hempty, hsound.rejected,
        fun hpump => ⟨rfl, (hsound.complete hpump).2⟩, hsound.failed⟩
  | fail =>
      cases hstep
      exact ⟨hsound.outbound, hsound.inbound, hsound.received, hsound.ended, fun _ _ => rfl,
        hsound.complete, fun _ => rfl⟩
  | inbound event =>
      obtain ⟨hdelivers, hstep⟩ := Option.ite_none_right_eq_some.mp hstep
      obtain ⟨inbound, hinbound, hnext⟩ := Option.bind_eq_some_iff.mp hstep
      cases hnext
      exact sound_inbound hdelivers hinbound hsound

theorem sound_closePipe (hsound : lane.Sound) : lane.closePipe.Sound where
  outbound := {
    conserved := hsound.outbound.conserved
    ended := fun hpump => ⟨(hsound.outbound.ended hpump).1, rfl⟩
    finished := hsound.outbound.finished }
  inbound := hsound.inbound
  received := hsound.received
  ended := hsound.ended
  rejected := hsound.rejected
  complete := hsound.complete
  failed := hsound.failed

theorem sound_dropReader (hsound : lane.Sound) : lane.dropReader.Sound where
  outbound := hsound.outbound
  inbound := Inbound.sound_dropReader hsound.inbound
  received := hsound.received
  ended := hsound.ended
  rejected := hsound.rejected
  complete := hsound.complete
  failed := hsound.failed

theorem sound_dropBridge (hsound : lane.Sound)
    (hfinished : lane.inbound.pump.finished = true) : lane.dropBridge.Sound where
  outbound := hsound.outbound
  inbound := Inbound.sound_dropBridge hsound.inbound hfinished
  received := hsound.received
  ended := hsound.ended
  rejected := hsound.rejected
  complete := hsound.complete
  failed := hsound.failed

/-- What has been read is the beginning of what was written. -/
theorem Sound.read_isPrefix (hsound : lane.Sound) : lane.read <+: lane.written :=
  calc
    lane.inbound.pipe.passed <+: lane.inbound.received.flatMap TunnelFrame.payload :=
      hsound.inbound.read_isPrefix
    _ <+: lane.outbound.channel.passed.flatMap TunnelFrame.payload :=
      hsound.received.flatMap _
    _ <+: lane.outbound.pipe.pushed := hsound.outbound.frames_isPrefix

/-- Unless the call is broken, the end of the stream comes after all that was written. -/
theorem Sound.read_eq (hsound : lane.Sound) (hintact : lane.failed = false)
    (heof : lane.inbound.sawEof = true) : lane.read = lane.written := by
  obtain ⟨-, hended | hfailed⟩ := hsound.inbound.sawEof heof
  · obtain ⟨hdone, hreceived⟩ := hsound.complete hended
    obtain ⟨hchannel, hclosed⟩ := hsound.ended hdone
    -- the channel was closed at the end of the pipe, not by a refused frame
    have hpump : lane.outbound.pump = .ended := by
      have hfinished := hsound.outbound.finished hclosed
      cases hpump : lane.outbound.pump with
      | reading => rw [hpump] at hfinished; cases hfinished
      | sending payload => rw [hpump] at hfinished; cases hfinished
      | ended => rfl
      | rejected payload => cases hintact.symm.trans (hsound.rejected payload hpump)
    have hconserved := hsound.outbound.conserved
    rw [hpump, OutboundPump.held, List.append_nil,
      Fifo.pushed_of_queue_eq_nil hchannel] at hconserved
    rw [read, hsound.inbound.read_eq heof, hreceived, hconserved, written,
      Fifo.pushed_of_queue_eq_nil (hsound.outbound.ended hpump).1]
  · cases hintact.symm.trans (hsound.failed hfailed)

end Lane

/-! ## Both directions -/

/-- The lane from the application to the handler, and the one back. -/
structure Tunnel where
  up : Lane
  down : Lane
  deriving DecidableEq

inductive TunnelEvent where
  | up (event : LaneEvent)
  | down (event : LaneEvent)
  | dropApplication
  | dropHandler
  /-- Both pumps of the client have stopped. -/
  | dropClientBridge
  /-- Both pumps of the proxy server have stopped. -/
  | dropServerBridge
  deriving DecidableEq

namespace Tunnel

/-- The request has opened the call, and the pumps are started. -/
def start : Tunnel := ⟨.start, .start⟩

def step (tunnel : Tunnel) : TunnelEvent → Option Tunnel
  | .up event => do
      let up ← tunnel.up.step GrpcProxy.shutsDownOnError event
      return { tunnel with up := up }
  | .down event => do
      let down ← tunnel.down.step GrpcClient.shutsDownOnError event
      return { tunnel with down := down }
  | .dropApplication => some ⟨tunnel.up.closePipe, tunnel.down.dropReader⟩
  | .dropHandler => some ⟨tunnel.up.dropReader, tunnel.down.closePipe⟩
  | .dropClientBridge =>
      if tunnel.up.outbound.pump.finished = true ∧ tunnel.down.inbound.pump.finished = true then
        some ⟨tunnel.up.closePipe, tunnel.down.dropBridge⟩
      else none
  | .dropServerBridge =>
      if tunnel.down.outbound.pump.finished = true ∧ tunnel.up.inbound.pump.finished = true then
        some ⟨tunnel.up.dropBridge, tunnel.down.closePipe⟩
      else none

/-- Both lanes are sound. -/
def Sound (tunnel : Tunnel) : Prop := tunnel.up.Sound ∧ tunnel.down.Sound

theorem sound_step {tunnel next : Tunnel} {event : TunnelEvent}
    (hstep : tunnel.step event = some next) (hsound : tunnel.Sound) : next.Sound := by
  obtain ⟨hup, hdown⟩ := hsound
  cases event with
  | up event =>
      obtain ⟨up, hlane, hnext⟩ := Option.bind_eq_some_iff.mp hstep
      cases hnext
      exact ⟨Lane.sound_step hlane hup, hdown⟩
  | down event =>
      obtain ⟨down, hlane, hnext⟩ := Option.bind_eq_some_iff.mp hstep
      cases hnext
      exact ⟨hup, Lane.sound_step hlane hdown⟩
  | dropApplication =>
      cases hstep
      exact ⟨Lane.sound_closePipe hup, Lane.sound_dropReader hdown⟩
  | dropHandler =>
      cases hstep
      exact ⟨Lane.sound_dropReader hup, Lane.sound_closePipe hdown⟩
  | dropClientBridge =>
      obtain ⟨⟨-, hfinished⟩, hnext⟩ := Option.ite_none_right_eq_some.mp hstep
      cases hnext
      exact ⟨Lane.sound_closePipe hup, Lane.sound_dropBridge hdown hfinished⟩
  | dropServerBridge =>
      obtain ⟨⟨-, hfinished⟩, hnext⟩ := Option.ite_none_right_eq_some.mp hstep
      cases hnext
      exact ⟨Lane.sound_dropBridge hup hfinished, Lane.sound_closePipe hdown⟩

theorem sound_run {trace : List (Transition Tunnel TunnelEvent)} {tunnel : Tunnel}
    (hrun : Execution step start trace tunnel) : tunnel.Sound :=
  Execution.invariant sound_step hrun ⟨Lane.sound_start, Lane.sound_start⟩

end Tunnel

/-- Either end has read a beginning of what the other has written, and all of it when it
is told that the stream is at its end, unless the call was broken in that direction. -/
theorem tunnel_faithful {trace : List (Transition Tunnel TunnelEvent)} {tunnel : Tunnel}
    (hrun : Execution Tunnel.step .start trace tunnel) :
    (tunnel.up.read <+: tunnel.up.written ∧ tunnel.down.read <+: tunnel.down.written) ∧
      (tunnel.up.failed = false → tunnel.up.inbound.sawEof = true →
        tunnel.up.read = tunnel.up.written) ∧
      (tunnel.down.failed = false → tunnel.down.inbound.sawEof = true →
        tunnel.down.read = tunnel.down.written) := by
  obtain ⟨hup, hdown⟩ := Tunnel.sound_run hrun
  exact ⟨⟨hup.read_isPrefix, hdown.read_isPrefix⟩, hup.read_eq, hdown.read_eq⟩

/-- Three bytes in two frames, up to the end of the stream. -/
def sampleLaneEvents : List LaneEvent :=
  [.outbound (.write [1, 2, 3]), .outbound .shutdown, .outbound (.read 2), .outbound .send,
    .take, .outbound (.read 1), .inbound (.message (.frame ⟨[1, 2]⟩)), .outbound .send,
    .inbound (.write 1), .outbound .readEof, .inbound (.write 1), .take, .finish,
    .inbound .written, .inbound (.read 2), .inbound (.message (.frame ⟨[3]⟩)),
    .inbound (.write 1), .inbound .written, .inbound (.message .finished),
    .inbound (.read 1), .inbound .readEof]

/-- The handler answers before it reads, and drops its streams at the end. -/
theorem tunnel_faithful_sample :
    ∃ trace tunnel, Execution Tunnel.step .start trace tunnel ∧
      tunnel.up.read = [1, 2, 3] ∧ tunnel.down.read = [1, 2, 3] ∧
        tunnel.up.read = tunnel.up.written ∧ tunnel.down.read = tunnel.down.written := by
  have hfacts : (replay Tunnel.step .start (sampleLaneEvents.map .down ++
      sampleLaneEvents.map .up ++ [.dropHandler, .dropServerBridge, .dropApplication])).map
      (fun result => ((result.2.up.read, result.2.up.failed, result.2.up.inbound.sawEof),
        result.2.down.read, result.2.down.failed, result.2.down.inbound.sawEof)) =
      some (([1, 2, 3], false, true), [1, 2, 3], false, true) := by
    decide
  obtain ⟨⟨trace, tunnel⟩, hreplay, hfacts⟩ := Option.map_eq_some_iff.mp hfacts
  simp only [Prod.mk.injEq] at hfacts
  obtain ⟨⟨hup, hupIntact, hupEof⟩, hdown, hdownIntact, hdownEof⟩ := hfacts
  have hrun := execution_of_replay hreplay
  exact ⟨trace, tunnel, hrun, hup, hdown, (tunnel_faithful hrun).2.1 hupIntact hupEof,
    (tunnel_faithful hrun).2.2 hdownIntact hdownEof⟩

end VpnBridge.Grpc
