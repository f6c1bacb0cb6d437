import VpnBridge.Grpc.Hop

/-!
# What the gRPC tunnel holds

A pump reads no more than a buffer of bytes, and goes on only when there is room for
them.  So a writer that is faster than the call has to wait once the pipe and the channel
are full, and the call has to wait for a slow reader.
-/

namespace VpnBridge.Grpc

open VpnBridge.BoundedQueue VpnBridge.Pipeline VpnBridge.Server VpnBridge.TransitionSystem

/-- The pipe, the buffer of the pump and the channel at the beginning of a lane. -/
def senderCapacity : ℕ := pipeCapacity + frameSize + channelCapacity * frameSize

/-- The frame and the pipe at its end. -/
def receiverCapacity : ℕ := frameSize + pipeCapacity

/-! ## One end of a lane -/

/-- A frame that the pump sends holds what one read has given. -/
def Fits (frame : TunnelFrame) : Prop :=
  0 < frame.payload.length ∧ frame.payload.length ≤ frameSize

namespace Outbound

variable {half next : Outbound} {event : OutboundEvent}

/-- The pump sends what it has read, and it reads into one buffer. -/
structure Sized (half : Outbound) : Prop where
  frames : ∀ frame ∈ half.channel.pushed, Fits frame
  sending : ∀ payload, half.pump = .sending payload → Fits ⟨payload⟩
  held : half.pump.held.length ≤ frameSize

theorem sized_start : start.Sized where
  frames _ hframe := absurd hframe List.not_mem_nil
  sending _ hsending := by cases hsending
  held := Nat.zero_le _

theorem count_of_read {count : ℕ} (hstep : half.step (.read count) = some next) :
    0 < count ∧ count ≤ min frameSize half.pipe.queue.length := by
  rw [step] at hstep
  split at hstep
  next => exact (Option.ite_none_right_eq_some.mp hstep).1
  next => cases hstep

theorem sized_step (hstep : half.step event = some next) (hsized : half.Sized) :
    next.Sized := by
  obtain ⟨hframes, hsending, hheld⟩ := hsized
  cases does_of_step hstep with
  | write hpush => exact ⟨hframes, hsending, hheld⟩
  | shutdown => exact ⟨hframes, hsending, hheld⟩
  | @read count hpump =>
      obtain ⟨hcount, hle⟩ := count_of_read hstep
      have hlength : (half.pipe.queue.take count).length = count :=
        List.length_take_of_le (hle.trans (min_le_right _ _))
      have hfits : Fits ⟨half.pipe.queue.take count⟩ := by
        rw [Fits, hlength]
        exact ⟨hcount, hle.trans (min_le_left _ _)⟩
      refine ⟨hframes, fun payload hpayload => ?_, hfits.2⟩
      cases hpayload
      exact hfits
  | readEof hpump hqueue hclosed => exact ⟨hframes, nofun, Nat.zero_le _⟩
  | send hpump hpush =>
      refine ⟨?_, nofun, Nat.zero_le _⟩
      rw [Fifo.pushed_of_push hpush]
      exact List.forall_mem_append.mpr
        ⟨hframes, List.forall_mem_singleton.mpr (hsending _ hpump)⟩
  | sendFailed hpump =>
      rw [hpump] at hheld
      exact ⟨hframes, nofun, hheld⟩

/-- The bytes written that the call has not taken. -/
def backlog (half : Outbound) : List UInt8 :=
  half.channel.queue.flatMap TunnelFrame.payload ++ half.pump.held ++ half.pipe.queue

theorem Sound.pushed_eq (hsound : half.Sound) :
    half.pipe.pushed = half.channel.passed.flatMap TunnelFrame.payload ++ half.backlog := by
  rw [Fifo.pushed, ← hsound.conserved, Fifo.pushed, List.flatMap_append, backlog]
  simp only [List.append_assoc]

theorem Sized.length_backlog_le (hsized : half.Sized) :
    half.backlog.length ≤ senderCapacity := by
  have hchannel : (half.channel.queue.flatMap TunnelFrame.payload).length ≤
      channelCapacity * frameSize :=
    Fifo.length_flatMap_queue_le fun frame hframe =>
      (hsized.frames frame (List.mem_append_right _ hframe)).2
  have hpump := hsized.held
  have hpipe := half.pipe.bounded
  rw [backlog, List.length_append, List.length_append, senderCapacity]
  omega

end Outbound

namespace Inbound

variable {shutsDownOnError : Bool} {half next : Inbound} {event : InboundEvent}

/-- What the pump is writing is a part of a frame. -/
def Sized (half : Inbound) : Prop :=
  ∀ size, (∀ frame ∈ half.received, frame.payload.length ≤ size) →
    half.pump.held.length ≤ size

theorem sized_start : start.Sized := fun _ _ => Nat.zero_le _

theorem sized_step (hstep : half.step shutsDownOnError event = some next)
    (hsized : half.Sized) : next.Sized := by
  intro size hframes
  cases does_of_step hstep with
  | frame hpump => exact hframes _ (List.mem_append_right _ (List.mem_singleton_self _))
  | finished hpump => exact Nat.zero_le _
  | failed hpump => exact Nat.zero_le _
  | @write count rest pipe hpump hpush =>
      have hheld := hsized size hframes
      rw [hpump, InboundPump.held] at hheld
      calc
        (rest.drop count).length ≤ rest.length := (List.drop_sublist count rest).length_le
        _ ≤ size := hheld
  | written hpump => exact Nat.zero_le _
  | brokenPipe hpump hclosed =>
      have hheld := hsized size hframes
      rw [hpump] at hheld
      exact hheld
  | read hcount => exact hsized size hframes
  | readEof hreader hqueue hclosed => exact hsized size hframes

/-- The bytes received that nobody has read. -/
def backlog (half : Inbound) : List UInt8 :=
  half.pipe.queue ++ half.pump.held

theorem Sound.received_eq (hsound : half.Sound) :
    half.received.flatMap TunnelFrame.payload = half.pipe.passed ++ half.backlog := by
  rw [← hsound.conserved, Fifo.pushed, List.append_assoc, backlog]

theorem Sized.length_backlog_le (hsized : half.Sized)
    (hframes : ∀ frame ∈ half.received, Fits frame) :
    half.backlog.length ≤ receiverCapacity := by
  have hpump := hsized frameSize fun frame hframe => (hframes frame hframe).2
  have hpipe := half.pipe.bounded
  rw [backlog, List.length_append, receiverCapacity]
  omega

end Inbound

/-! ## A lane -/

namespace Lane

variable {shutsDownOnError : Bool} {lane next : Lane}

structure Sized (lane : Lane) : Prop where
  outbound : lane.outbound.Sized
  inbound : lane.inbound.Sized

theorem sized_start : start.Sized := ⟨Outbound.sized_start, Inbound.sized_start⟩

theorem sized_step {event : LaneEvent} (hstep : lane.step shutsDownOnError event = some next)
    (hsized : lane.Sized) : next.Sized := by
  obtain ⟨houtbound, hinbound⟩ := hsized
  cases event with
  | outbound event =>
      obtain ⟨-, hstep⟩ := Option.ite_none_right_eq_some.mp hstep
      obtain ⟨outbound, hmoved, hnext⟩ := Option.bind_eq_some_iff.mp hstep
      cases hnext
      exact ⟨Outbound.sized_step hmoved houtbound, hinbound⟩
  | take =>
      obtain ⟨-, hnext⟩ := Option.ite_none_right_eq_some.mp hstep
      cases hnext
      refine ⟨⟨?_, houtbound.sending, houtbound.held⟩, hinbound⟩
      rw [Fifo.pushed_pop]
      exact houtbound.frames
  | finish =>
      obtain ⟨-, hnext⟩ := Option.ite_none_right_eq_some.mp hstep
      cases hnext
      exact ⟨houtbound, hinbound⟩
  | fail =>
      cases hstep
      exact ⟨houtbound, hinbound⟩
  | inbound event =>
      obtain ⟨-, hstep⟩ := Option.ite_none_right_eq_some.mp hstep
      obtain ⟨inbound, hmoved, hnext⟩ := Option.bind_eq_some_iff.mp hstep
      cases hnext
      exact ⟨houtbound, Inbound.sized_step hmoved hinbound⟩

theorem Sized.closePipe (hsized : lane.Sized) : lane.closePipe.Sized :=
  ⟨⟨hsized.outbound.frames, hsized.outbound.sending, hsized.outbound.held⟩, hsized.inbound⟩

theorem Sized.dropReader (hsized : lane.Sized) : lane.dropReader.Sized :=
  ⟨hsized.outbound, hsized.inbound⟩

theorem Sized.dropBridge (hsized : lane.Sized) : lane.dropBridge.Sized :=
  ⟨hsized.outbound, hsized.inbound⟩

/-- The frames that the call has taken and not delivered. -/
def onCall (lane : Lane) : List TunnelFrame :=
  lane.outbound.channel.passed.drop lane.inbound.received.length

/-- Every byte written has been read, or is in one of the three parts of the lane. -/
theorem Sound.written_eq (hsound : lane.Sound) :
    lane.written = lane.read ++ lane.inbound.backlog ++
      lane.onCall.flatMap TunnelFrame.payload ++ lane.outbound.backlog := by
  have hpassed : lane.inbound.received ++ lane.onCall = lane.outbound.channel.passed :=
    List.prefix_iff_eq_append.mp hsound.received
  calc
    lane.written =
        lane.outbound.channel.passed.flatMap TunnelFrame.payload ++ lane.outbound.backlog :=
      hsound.outbound.pushed_eq
    _ = lane.inbound.received.flatMap TunnelFrame.payload ++
          lane.onCall.flatMap TunnelFrame.payload ++ lane.outbound.backlog := by
      rw [← hpassed, List.flatMap_append]
    _ = _ := by rw [hsound.inbound.received_eq, read]

theorem Sized.received (hsized : lane.Sized) (hsound : lane.Sound) :
    ∀ frame ∈ lane.inbound.received, Fits frame := by
  intro frame hframe
  have hpassed : frame ∈ lane.outbound.channel.passed := hsound.received.subset hframe
  exact hsized.outbound.frames frame (List.mem_append_left _ hpassed)

/-- What either end holds is bounded, and every frame that the call takes fits. -/
structure Bounded (lane : Lane) : Prop where
  sender : lane.outbound.backlog.length ≤ senderCapacity
  receiver : lane.inbound.backlog.length ≤ receiverCapacity
  frames : ∀ frame ∈ lane.outbound.channel.passed, Fits frame

theorem Sized.bounded (hsized : lane.Sized) (hsound : lane.Sound) : lane.Bounded where
  sender := hsized.outbound.length_backlog_le
  receiver := hsized.inbound.length_backlog_le (hsized.received hsound)
  frames frame hframe := hsized.outbound.frames frame (List.mem_append_left _ hframe)

/-- The most that the lane can hold, apart from what its reader has got. -/
def capacity (lane : Lane) : ℕ :=
  senderCapacity + (lane.onCall.flatMap TunnelFrame.payload).length + receiverCapacity

theorem Bounded.holds (hbounded : lane.Bounded) (hsound : lane.Sound) (greeting : ℕ) :
    (lane.stage greeting).Holds lane.capacity := by
  have hwritten := congrArg List.length hsound.written_eq
  have hsender := hbounded.sender
  have hreceiver := hbounded.receiver
  simp only [List.length_append] at hwritten
  rw [Stage.Holds, stage, List.length_drop, List.length_drop, capacity]
  omega

end Lane

namespace Tunnel

/-- The lane that leads one way. -/
def lane : Way → Tunnel → Lane
  | .forth, tunnel => tunnel.up
  | .back, tunnel => tunnel.down

/-- Both lanes are sized. -/
def Sized (tunnel : Tunnel) : Prop := ∀ way, (tunnel.lane way).Sized

theorem sized_of_lanes {up down : Lane} (hup : up.Sized) (hdown : down.Sized) :
    Sized ⟨up, down⟩ := by
  intro way
  cases way with
  | forth => exact hup
  | back => exact hdown

theorem sized_step {tunnel next : Tunnel} {event : TunnelEvent}
    (hstep : tunnel.step event = some next) (hsized : tunnel.Sized) : next.Sized := by
  have hup : tunnel.up.Sized := hsized .forth
  have hdown : tunnel.down.Sized := hsized .back
  cases event with
  | up event =>
      obtain ⟨up, hlane, hnext⟩ := Option.bind_eq_some_iff.mp hstep
      cases hnext
      exact sized_of_lanes (Lane.sized_step hlane hup) hdown
  | down event =>
      obtain ⟨down, hlane, hnext⟩ := Option.bind_eq_some_iff.mp hstep
      cases hnext
      exact sized_of_lanes hup (Lane.sized_step hlane hdown)
  | dropApplication =>
      cases hstep
      exact sized_of_lanes hup.closePipe hdown.dropReader
  | dropHandler =>
      cases hstep
      exact sized_of_lanes hup.dropReader hdown.closePipe
  | dropClientBridge =>
      obtain ⟨-, hnext⟩ := Option.ite_none_right_eq_some.mp hstep
      cases hnext
      exact sized_of_lanes hup.closePipe hdown.dropBridge
  | dropServerBridge =>
      obtain ⟨-, hnext⟩ := Option.ite_none_right_eq_some.mp hstep
      cases hnext
      exact sized_of_lanes hup.dropBridge hdown.closePipe

theorem sized_run {trace : List (Transition Tunnel TunnelEvent)} {tunnel : Tunnel}
    (hrun : Execution step start trace tunnel) : tunnel.Sized :=
  Execution.invariant sized_step hrun (sized_of_lanes Lane.sized_start Lane.sized_start)

theorem sound_lane {tunnel : Tunnel} (hsound : tunnel.Sound) (way : Way) :
    (tunnel.lane way).Sound := by
  cases way with
  | forth => exact hsound.1
  | back => exact hsound.2

theorem bounded_run {trace : List (Transition Tunnel TunnelEvent)} {tunnel : Tunnel}
    (hrun : Execution step start trace tunnel) (way : Way) : (tunnel.lane way).Bounded :=
  (sized_run hrun way).bounded (sound_lane (sound_run hrun) way)

theorem holds_run {trace : List (Transition Tunnel TunnelEvent)} {tunnel : Tunnel}
    (hrun : Execution step start trace tunnel) (response : ℕ) (way : Way) :
    (stage response way tunnel).Holds (tunnel.lane way).capacity := by
  have hbounded := bounded_run hrun way
  have hsound := sound_lane (sound_run hrun) way
  cases way with
  | forth => exact hbounded.holds hsound 0
  | back => exact hbounded.holds hsound response

end Tunnel

end VpnBridge.Grpc
