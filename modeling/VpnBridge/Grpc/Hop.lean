import VpnBridge.Core.Pipeline
import VpnBridge.Grpc.Tunnel

/-!
# The gRPC tunnel in a line

A lane takes what is written into the pipe at its beginning and carries out what is
read from the one at its end.
-/

namespace VpnBridge.Grpc

open VpnBridge.BoundedQueue VpnBridge.Pipeline VpnBridge.TransitionSystem

namespace Lane

variable {lane : Lane}

/-- The lane as a stage, once the first `greeting` bytes have gone through. -/
def stage (greeting : ℕ) (lane : Lane) : Stage UInt8 where
  taken := ⟨lane.written.drop greeting, lane.outbound.pipe.closed && !lane.failed⟩
  carried := ⟨lane.read.drop greeting, lane.inbound.sawEof⟩
  lossy := lane.failed
  failed := false

/-- The end of the stream has come through the pump at the beginning of the lane. -/
theorem Sound.closed_of_channel (hsound : lane.Sound) (hintact : lane.failed = false)
    (hchannel : lane.outbound.channel.closed = true) : lane.outbound.pipe.closed = true := by
  have hfinished := hsound.outbound.finished hchannel
  cases hpump : lane.outbound.pump with
  | reading => rw [hpump] at hfinished; cases hfinished
  | sending payload => rw [hpump] at hfinished; cases hfinished
  | ended => exact (hsound.outbound.ended hpump).2
  | rejected payload => cases hintact.symm.trans (hsound.rejected payload hpump)

theorem Sound.closed_of_sawEof (hsound : lane.Sound) (hintact : lane.failed = false)
    (heof : lane.inbound.sawEof = true) : lane.outbound.pipe.closed = true := by
  obtain ⟨-, hended | hfailed⟩ := hsound.inbound.sawEof heof
  · exact hsound.closed_of_channel hintact (hsound.ended (hsound.complete hended).1).2
  · cases hintact.symm.trans (hsound.failed hfailed)

theorem Sound.faithful (hsound : lane.Sound) (greeting : ℕ) :
    (lane.stage greeting).Faithful := by
  refine ⟨hsound.read_isPrefix.drop greeting, fun heof hintact => ?_⟩
  change lane.inbound.sawEof = true at heof
  change lane.failed = false at hintact
  rw [stage, hsound.read_eq hintact heof, heof, hsound.closed_of_sawEof hintact heof, hintact]
  rfl

end Lane

namespace Tunnel

/-- What comes down first is the response, of `response` bytes; it is not a part of the
flow. -/
def stage (response : ℕ) : Way → Tunnel → Stage UInt8
  | .forth, tunnel => tunnel.up.stage 0
  | .back, tunnel => tunnel.down.stage response

/-- The tunnel as a part of a line. -/
def hop (response : ℕ) : Hop UInt8 Tunnel TunnelEvent where
  start := start
  step := step
  stage := stage response
  taken_start way := by
    cases way with
    | forth => rfl
    | back => exact congrArg (Tape.mk · false) List.drop_nil
  faithful hrun way := by
    obtain ⟨hup, hdown⟩ := sound_run hrun
    cases way with
    | forth => exact hup.faithful 0
    | back => exact hdown.faithful response

end Tunnel

end VpnBridge.Grpc
