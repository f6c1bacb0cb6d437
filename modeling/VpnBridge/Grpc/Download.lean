import VpnBridge.Grpc.Delivery
import VpnBridge.Proto.ResponseCodec

/-!
# Downloads over gRPC

The client's end of a call as the application sees it: `open` reads the response
off the pipe and hands the flow out, and the TCP relay closes the local
connection when it has copied the rest.  The pump shuts the pipe down after an
error just as it does at the end, so a broken call looks like a finished one.
-/

namespace VpnBridge.Grpc

open VpnBridge.BoundedQueue VpnBridge.ByteReader VpnBridge.Proto VpnBridge.TransitionSystem

/-- The bytes are exactly a response that accepts the flow. -/
def accepted (bytes : List UInt8) : Bool :=
  match Response.readFrom.run bytes with
  | .ok (response, []) => response.status == .ok
  | _ => false

/-- The payload begins with a response that accepts the flow. -/
def Accepts (payload : List UInt8) : Prop :=
  ∃ response rest, Response.readFrom.run payload = .ok (response, rest) ∧
    response.status = .ok

theorem accepts_of_accepted {bytes payload : List UInt8} (haccepted : accepted bytes = true)
    (hstart : bytes <+: payload) : Accepts payload := by
  obtain ⟨rest, rfl⟩ := hstart
  rw [accepted] at haccepted
  split at haccepted
  next response hread =>
    obtain ⟨consumed, hconsumed, hreads⟩ := framed_response _ _ _ hread
    rw [List.append_nil] at hconsumed
    exact ⟨response, rest, hconsumed ▸ hreads rest, beq_iff_eq.mp haccepted⟩
  next => cases haccepted

theorem exists_accepted {payload : List UInt8} (haccepts : Accepts payload) :
    ∃ bytes rest, payload = bytes ++ rest ∧ accepted bytes = true := by
  obtain ⟨response, rest, hread, hstatus⟩ := haccepts
  obtain ⟨bytes, rfl, hreads⟩ := framed_response _ _ _ hread
  have hexact := hreads []
  rw [List.append_nil] at hexact
  refine ⟨bytes, rest, rfl, ?_⟩
  rw [accepted, hexact]
  exact beq_iff_eq.mpr hstatus

structure ClientFlow where
  inbound : Inbound
  /-- `open` has returned the flow. -/
  opened : Bool
  /-- The relay has shut the sending side of the local connection down. -/
  localShutdown : Bool
  deriving DecidableEq

inductive ClientEvent where
  | delivery (event : DeliveryEvent)
  | opened
  | localShutdown
  deriving DecidableEq

namespace ClientFlow

def start : ClientFlow := ⟨.start, false, false⟩

/-- The client's side of a call on which `stream` arrives.  The relay shuts the local
connection down when its copy loop has reached the end of the stream. -/
def step (stream : FrameStream) (flow : ClientFlow) : ClientEvent → Option ClientFlow
  | .delivery event => do
      let inbound ← flow.inbound.deliver GrpcClient.shutsDownOnError stream event
      return { flow with inbound := inbound }
  | .opened =>
      if flow.inbound.sawEof = false ∧ accepted flow.inbound.pipe.passed = true then
        some { flow with opened := true }
      else none
  | .localShutdown =>
      if flow.opened = true ∧ flow.inbound.sawEof = true then
        some { flow with localShutdown := true }
      else none

/-- The application has seen its download end, or its peer has. -/
def Completed (flow : ClientFlow) : Prop :=
  (flow.opened = true ∧ flow.inbound.sawEof = true) ∨ flow.localShutdown = true

/-- What holds of a flow in every state. -/
structure Sound (stream : FrameStream) (flow : ClientFlow) : Prop where
  inbound : flow.inbound.Follows stream
  opened : flow.opened = true → Accepts stream.payload
  localShutdown : flow.localShutdown = true → flow.opened = true ∧ flow.inbound.sawEof = true

variable {stream : FrameStream} {flow next : ClientFlow}

theorem sawEof_of_deliver {shutsDownOnError : Bool} {half after : Inbound}
    {event : DeliveryEvent} (hstep : half.deliver shutsDownOnError stream event = some after)
    (heof : half.sawEof = true) : after.sawEof = true := by
  cases event with
  | inbound event =>
      obtain ⟨-, hstep⟩ := Option.ite_none_right_eq_some.mp hstep
      cases Inbound.does_of_step hstep with
      | readEof hreader hqueue hclosed => rfl
      | _ => exact heof
  | dropReader =>
      cases hstep
      exact heof
  | dropBridge =>
      obtain ⟨-, hnext⟩ := Option.ite_none_right_eq_some.mp hstep
      cases hnext
      exact heof

theorem sound_step {event : ClientEvent} (hstep : flow.step stream event = some next)
    (hsound : flow.Sound stream) : next.Sound stream := by
  cases event with
  | delivery event =>
      obtain ⟨inbound, hdeliver, hnext⟩ := Option.bind_eq_some_iff.mp hstep
      cases hnext
      refine ⟨Inbound.follows_deliver hdeliver hsound.inbound, hsound.opened, fun hshutdown => ?_⟩
      obtain ⟨hopened, heof⟩ := hsound.localShutdown hshutdown
      exact ⟨hopened, sawEof_of_deliver hdeliver heof⟩
  | opened =>
      obtain ⟨⟨-, haccepted⟩, hnext⟩ := Option.ite_none_right_eq_some.mp hstep
      cases hnext
      exact ⟨hsound.inbound, fun _ => accepts_of_accepted haccepted hsound.inbound.read_isPrefix,
        fun hshutdown => ⟨rfl, (hsound.localShutdown hshutdown).2⟩⟩
  | localShutdown =>
      obtain ⟨hended, hnext⟩ := Option.ite_none_right_eq_some.mp hstep
      cases hnext
      exact ⟨hsound.inbound, hsound.opened, fun _ => hended⟩

theorem sound_run {trace : List (Transition ClientFlow ClientEvent)}
    (hrun : Execution (step stream) start trace flow) : flow.Sound stream :=
  Execution.invariant sound_step hrun ⟨Inbound.follows_start, nofun, nofun⟩

/-- The flow takes part in every delivery to its pipe. -/
theorem exists_run_of_deliver {half after : Inbound} (opened localShutdown : Bool)
    {trace : List (Transition Inbound DeliveryEvent)}
    (hrun : Execution (Inbound.deliver GrpcClient.shutsDownOnError stream) half trace after) :
    ∃ trace', Execution (step stream) ⟨half, opened, localShutdown⟩ trace'
      ⟨after, opened, localShutdown⟩ := by
  induction hrun with
  | nil => exact ⟨[], .nil⟩
  | @snoc trace state next event hrun hstep ih =>
      obtain ⟨trace', hrun'⟩ := ih
      have hstep' : step stream ⟨state, opened, localShutdown⟩ (.delivery event) =
          some ⟨next, opened, localShutdown⟩ := by
        rw [step, hstep]
        rfl
      exact ⟨_, .snoc hrun' hstep'⟩

/-- A stream that opens a flow can be read to the end, whether it ends or breaks. -/
theorem exists_completed (haccepts : Accepts stream.payload)
    (hending : stream.ending = .finished ∨ stream.ending = .failed) :
    ∃ trace flow, Execution (step stream) start trace flow ∧ flow.localShutdown = true := by
  obtain ⟨bytes, rest, hpayload, haccepted⟩ := exists_accepted haccepts
  obtain ⟨first, middle, hfirst, hmiddle, hread⟩ :=
    Inbound.live_start.exists_reads GrpcClient.shutsDownOnError bytes ⟨rest, hpayload.symm⟩
  change middle.pipe.passed = bytes at hread
  -- the response has been read, so `open` returns
  have hopened : step stream ⟨middle, false, false⟩ .opened = some ⟨middle, true, false⟩ := by
    rw [step, if_pos ⟨hmiddle.follows.sound.sawEof_eq_false hmiddle.running, hread ▸ haccepted⟩]
  have hrest : middle.pipe.passed ++ rest = stream.payload := by rw [hread, hpayload]
  obtain ⟨second, late, hsecond, hlate, hall⟩ :=
    hmiddle.exists_reads GrpcClient.shutsDownOnError rest (hrest ▸ List.prefix_refl _)
  obtain ⟨third, final, hthird, -, heof⟩ :=
    hlate.exists_eof GrpcClient.shutsDownOnError (hall.trans hrest)
      (hending.imp_right fun hfailed => ⟨hfailed, rfl⟩)
  obtain ⟨before, hbefore⟩ := exists_run_of_deliver false false hfirst
  obtain ⟨after, hafter⟩ := exists_run_of_deliver true false (hsecond.append hthird)
  have hshutdown : step stream ⟨final, true, false⟩ .localShutdown =
      some ⟨final, true, true⟩ := by
    rw [step, if_pos ⟨rfl, heof⟩]
  exact ⟨_, _, (hbefore.append (.single hopened)).append (hafter.append (.single hshutdown)), rfl⟩

end ClientFlow

/-- A download is taken for complete only when the response stream has ended normally,
unless an error ends a stream that had opened the flow. -/
theorem completed_only_if_finished_iff (stream : FrameStream) :
    (∀ (trace : List (Transition ClientFlow ClientEvent)) (flow : ClientFlow),
      Execution (ClientFlow.step stream) .start trace flow → flow.Completed →
        stream.ending = .finished) ↔
      ¬ (stream.ending = .failed ∧ Accepts stream.payload) := by
  constructor
  · rintro hsafe ⟨hending, haccepts⟩
    obtain ⟨trace, flow, hrun, hshutdown⟩ :=
      ClientFlow.exists_completed haccepts (.inr hending)
    cases hending.symm.trans (hsafe trace flow hrun (.inr hshutdown))
  · intro hguard trace flow hrun hcompleted
    have hsound := ClientFlow.sound_run hrun
    obtain ⟨hopened, heof⟩ : flow.opened = true ∧ flow.inbound.sawEof = true := by
      rcases hcompleted with hflow | hlocal
      · exact hflow
      · exact hsound.localShutdown hlocal
    rcases (hsound.inbound.read_eq heof).2 with hending | hending
    · exact hending
    · exact absurd ⟨hending, hsound.opened hopened⟩ hguard

/-- The server accepts, sends three bytes and is gone. -/
def brokenStream : FrameStream :=
  ⟨[⟨Response.ok.buf⟩, ⟨[1, 2, 3]⟩], .failed⟩

theorem broken_stream_completed :
    ∃ trace flow, Execution (ClientFlow.step brokenStream) .start trace flow ∧
      flow.localShutdown = true ∧ brokenStream.ending ≠ .finished := by
  have haccepts : Accepts brokenStream.payload :=
    ⟨_, _, reads_response .ok [1, 2, 3], rfl⟩
  obtain ⟨trace, flow, hrun, hshutdown⟩ := ClientFlow.exists_completed haccepts (.inr rfl)
  exact ⟨trace, flow, hrun, hshutdown, by decide⟩

end VpnBridge.Grpc
