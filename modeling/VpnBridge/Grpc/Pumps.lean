import VpnBridge.Core.BoundedQueue
import VpnBridge.Server.Handler

/-!
# Pumps

A gRPC call carries frames, and the code around it reads and writes byte streams.
Between the two stand a duplex pipe and two tasks at each end of the call: one
turns the bytes written into the pipe into frames, the other writes the payloads
of the frames that arrive.  The tasks of the client and of the proxy server are
the same text, except for what they do when the call breaks.

A task that stops keeps the bytes it has not passed on, so that every byte stays
accounted for.
-/

namespace VpnBridge.Grpc

open VpnBridge.BoundedQueue VpnBridge.Server

def pipeCapacity : ℕ := 64 * 1024

def frameSize : ℕ := 16 * 1024

def channelCapacity : ℕ := 32

/-- One direction of `tokio::io::duplex`. -/
abbrev Pipe := Fifo UInt8 pipeCapacity

/-! ## From bytes to frames -/

/-- The task that reads the pipe and sends frames. -/
inductive OutboundPump where
  | reading
  | sending (payload : List UInt8)
  /-- The pipe was at its end. -/
  | ended
  /-- Nobody takes frames any more. -/
  | rejected (payload : List UInt8)
  deriving DecidableEq

/-- The bytes in the task's buffer. -/
def OutboundPump.held : OutboundPump → List UInt8
  | .reading => []
  | .sending payload => payload
  | .ended => []
  | .rejected payload => payload

def OutboundPump.finished : OutboundPump → Bool
  | .reading => false
  | .sending _ => false
  | .ended => true
  | .rejected _ => true

structure Outbound where
  pipe : Pipe
  pump : OutboundPump
  /-- The frames handed to the call; the call takes them from here. -/
  channel : Fifo TunnelFrame channelCapacity
  deriving DecidableEq

inductive OutboundEvent where
  /-- The writer's bytes are taken by the pipe. -/
  | write (bytes : List UInt8)
  | shutdown
  | read (count : ℕ)
  | readEof
  | send
  | sendFailed
  deriving DecidableEq

namespace Outbound

def start : Outbound := ⟨.empty, .reading, .empty⟩

def step (half : Outbound) : OutboundEvent → Option Outbound
  | .write bytes => do
      let pipe ← half.pipe.push bytes
      return { half with pipe := pipe }
  | .shutdown => some { half with pipe := half.pipe.close }
  | .read count =>
      match half.pump with
      | .reading =>
          if 0 < count ∧ count ≤ min frameSize half.pipe.queue.length then
            some { half with
              pipe := half.pipe.pop count
              pump := .sending (half.pipe.queue.take count) }
          else none
      | _ => none
  | .readEof =>
      match half.pump with
      | .reading =>
          if half.pipe.queue = [] ∧ half.pipe.closed = true then
            some { half with pump := .ended, channel := half.channel.close }
          else none
      | _ => none
  | .send =>
      match half.pump with
      | .sending payload => do
          let channel ← half.channel.push [⟨payload⟩]
          return { half with pump := .reading, channel := channel }
      | _ => none
  | .sendFailed =>
      match half.pump with
      | .sending payload =>
          some { half with pump := .rejected payload, channel := half.channel.close }
      | _ => none

/-- What holds of this half in every state. -/
structure Sound (half : Outbound) : Prop where
  conserved : half.channel.pushed.flatMap TunnelFrame.payload ++ half.pump.held =
    half.pipe.passed
  ended : half.pump = .ended → half.pipe.queue = [] ∧ half.pipe.closed = true
  finished : half.channel.closed = true → half.pump.finished = true

/-- What a step does. -/
inductive Does : Outbound → OutboundEvent → Outbound → Prop where
  | write {half : Outbound} {bytes : List UInt8} {pipe : Pipe}
      (hpush : half.pipe.push bytes = some pipe) :
      Does half (.write bytes) { half with pipe := pipe }
  | shutdown {half : Outbound} : Does half .shutdown { half with pipe := half.pipe.close }
  | read {half : Outbound} {count : ℕ} (hpump : half.pump = .reading) :
      Does half (.read count) { half with
        pipe := half.pipe.pop count
        pump := .sending (half.pipe.queue.take count) }
  | readEof {half : Outbound} (hpump : half.pump = .reading)
      (hqueue : half.pipe.queue = []) (hclosed : half.pipe.closed = true) :
      Does half .readEof { half with pump := .ended, channel := half.channel.close }
  | send {half : Outbound} {payload : List UInt8} {channel : Fifo TunnelFrame channelCapacity}
      (hpump : half.pump = .sending payload)
      (hpush : half.channel.push [⟨payload⟩] = some channel) :
      Does half .send { half with pump := .reading, channel := channel }
  | sendFailed {half : Outbound} {payload : List UInt8} (hpump : half.pump = .sending payload) :
      Does half .sendFailed { half with
        pump := .rejected payload
        channel := half.channel.close }

variable {half next : Outbound} {event : OutboundEvent}

theorem does_of_step (hstep : half.step event = some next) : Does half event next := by
  cases event with
  | write bytes =>
      obtain ⟨pipe, hpush, hnext⟩ := Option.bind_eq_some_iff.mp hstep
      cases hnext
      exact .write hpush
  | shutdown =>
      cases hstep
      exact .shutdown
  | read count =>
      rw [step] at hstep
      split at hstep
      next hpump =>
        obtain ⟨-, hnext⟩ := Option.ite_none_right_eq_some.mp hstep
        cases hnext
        exact .read hpump
      next => cases hstep
  | readEof =>
      rw [step] at hstep
      split at hstep
      next hpump =>
        obtain ⟨⟨hqueue, hclosed⟩, hnext⟩ := Option.ite_none_right_eq_some.mp hstep
        cases hnext
        exact .readEof hpump hqueue hclosed
      next => cases hstep
  | send =>
      rw [step] at hstep
      split at hstep
      next payload hpump =>
        obtain ⟨channel, hpush, hnext⟩ := Option.bind_eq_some_iff.mp hstep
        cases hnext
        exact .send hpump hpush
      next => cases hstep
  | sendFailed =>
      rw [step] at hstep
      split at hstep
      next payload hpump =>
        cases hstep
        exact .sendFailed hpump
      next => cases hstep

theorem sound_start : Sound start where
  conserved := rfl
  ended hended := by cases hended
  finished hclosed := by cases hclosed

theorem sound_step (hstep : half.step event = some next) (hsound : half.Sound) :
    next.Sound := by
  obtain ⟨hconserved, hended, hfinished⟩ := hsound
  cases does_of_step hstep with
  | write hpush =>
      obtain ⟨hopen, -, hpassed, -⟩ := Fifo.push_eq_some_iff.mp hpush
      refine ⟨hconserved.trans hpassed.symm, fun hpump => ?_, hfinished⟩
      cases hopen.symm.trans (hended hpump).2
  | shutdown => exact ⟨hconserved, fun hpump => ⟨(hended hpump).1, rfl⟩, hfinished⟩
  | read hpump =>
      rw [hpump, OutboundPump.held, List.append_nil] at hconserved
      refine ⟨?_, nofun, fun hclosed => ?_⟩
      · rw [hconserved]
        rfl
      · have hstopped := hfinished hclosed
        rw [hpump] at hstopped
        cases hstopped
  | readEof hpump hqueue hclosed =>
      rw [hpump] at hconserved
      exact ⟨hconserved, fun _ => ⟨hqueue, hclosed⟩, fun _ => rfl⟩
  | send hpump hpush =>
      obtain ⟨-, -, -, -, hopen⟩ := Fifo.push_eq_some_iff.mp hpush
      refine ⟨?_, nofun, fun hclosed => ?_⟩
      · rw [hpump, OutboundPump.held] at hconserved
        rw [Fifo.pushed_of_push hpush, List.flatMap_append, List.flatMap_singleton,
          OutboundPump.held, List.append_nil, hconserved]
      · cases hopen.symm.trans hclosed
  | sendFailed hpump =>
      rw [hpump] at hconserved
      exact ⟨hconserved, nofun, fun _ => rfl⟩

/-- The frames that the call has taken are the beginning of the bytes written. -/
theorem Sound.frames_isPrefix (hsound : half.Sound) :
    half.channel.passed.flatMap TunnelFrame.payload <+: half.pipe.pushed := by
  refine List.IsPrefix.trans ?_ half.pipe.passed_isPrefix
  rw [← hsound.conserved, Fifo.pushed, List.flatMap_append, List.append_assoc]
  exact List.prefix_append _ _

/-- The task only puts frames into the channel, and none once it has closed it. -/
theorem channel_of_step (hstep : half.step event = some next) :
    next.channel.passed = half.channel.passed ∧
      (half.channel.closed = true →
        next.channel.queue = half.channel.queue ∧ next.channel.closed = true) := by
  cases does_of_step hstep with
  | write hpush => exact ⟨rfl, fun hclosed => ⟨rfl, hclosed⟩⟩
  | shutdown => exact ⟨rfl, fun hclosed => ⟨rfl, hclosed⟩⟩
  | read hpump => exact ⟨rfl, fun hclosed => ⟨rfl, hclosed⟩⟩
  | readEof hpump hqueue hclosed => exact ⟨rfl, fun _ => ⟨rfl, rfl⟩⟩
  | send hpump hpush =>
      obtain ⟨hopen, -, hpassed, -⟩ := Fifo.push_eq_some_iff.mp hpush
      refine ⟨hpassed, fun hclosed => ?_⟩
      cases hopen.symm.trans hclosed
  | sendFailed hpump => exact ⟨rfl, fun _ => ⟨rfl, rfl⟩⟩

/-- Only a refused frame makes the task give up. -/
theorem rejected_of_step {payload : List UInt8} (hstep : half.step event = some next)
    (hrejected : next.pump = .rejected payload) :
    event = .sendFailed ∨ half.pump = .rejected payload := by
  cases does_of_step hstep with
  | write hpush => exact .inr hrejected
  | shutdown => exact .inr hrejected
  | read hpump => cases hrejected
  | readEof hpump hqueue hclosed => cases hrejected
  | send hpump hpush => cases hrejected
  | sendFailed hpump => exact .inl rfl

end Outbound

/-! ## From frames to bytes -/

/-- What waiting for the next frame can come to. -/
inductive Message where
  | frame (frame : TunnelFrame)
  /-- The stream of frames ended normally. -/
  | finished
  | failed
  deriving DecidableEq

/-- The client's pump shuts the pipe down after an error as well as at the end. -/
def GrpcClient.shutsDownOnError : Bool := true

/-- The proxy server's pump does so at the end only. -/
def GrpcProxy.shutsDownOnError : Bool := false

/-- The task that receives frames and writes them into the pipe. -/
inductive InboundPump where
  | waiting
  | writing (rest : List UInt8)
  | ended
  | failed
  /-- Nobody reads the pipe any more. -/
  | broken (rest : List UInt8)
  deriving DecidableEq

/-- The bytes of the current frame that are not written yet. -/
def InboundPump.held : InboundPump → List UInt8
  | .waiting => []
  | .writing rest => rest
  | .ended => []
  | .failed => []
  | .broken rest => rest

def InboundPump.finished : InboundPump → Bool
  | .waiting => false
  | .writing _ => false
  | .ended => true
  | .failed => true
  | .broken _ => true

structure Inbound where
  /-- The frames received so far. -/
  received : List TunnelFrame
  pump : InboundPump
  pipe : Pipe
  /-- The reader has dropped its end. -/
  readerGone : Bool
  /-- The reader has been told of the end of the stream. -/
  sawEof : Bool
  deriving DecidableEq

inductive InboundEvent where
  | message (message : Message)
  | write (count : ℕ)
  | written
  | brokenPipe
  | read (count : ℕ)
  | readEof
  deriving DecidableEq

namespace Inbound

def start : Inbound := ⟨[], .waiting, .empty, false, false⟩

/-- What the task does about a message. -/
def receive (shutsDownOnError : Bool) (half : Inbound) : Message → Inbound
  | .frame frame =>
      { half with received := half.received ++ [frame], pump := .writing frame.payload }
  | .finished => { half with pump := .ended, pipe := half.pipe.close }
  | .failed =>
      { half with
        pump := .failed
        pipe := if shutsDownOnError then half.pipe.close else half.pipe }

def step (shutsDownOnError : Bool) (half : Inbound) : InboundEvent → Option Inbound
  | .message message =>
      match half.pump with
      | .waiting => some (half.receive shutsDownOnError message)
      | _ => none
  | .write count =>
      match half.pump with
      | .writing rest =>
          if 0 < count ∧ count ≤ rest.length then do
            let pipe ← half.pipe.push (rest.take count)
            return { half with pump := .writing (rest.drop count), pipe := pipe }
          else none
      | _ => none
  | .written => if half.pump = .writing [] then some { half with pump := .waiting } else none
  | .brokenPipe =>
      match half.pump with
      | .writing rest =>
          if rest ≠ [] ∧ half.pipe.closed = true then some { half with pump := .broken rest }
          else none
      | _ => none
  | .read count =>
      if half.readerGone = false ∧ 0 < count ∧ count ≤ half.pipe.queue.length then
        some { half with pipe := half.pipe.pop count }
      else none
  | .readEof =>
      if half.readerGone = false ∧ half.pipe.queue = [] ∧ half.pipe.closed = true then
        some { half with sawEof := true }
      else none

/-- The reader drops its end of the pipe. -/
def dropReader (half : Inbound) : Inbound :=
  { half with pipe := half.pipe.close, readerGone := true }

/-- The duplex stream of the pumps is dropped, once both have stopped. -/
def dropBridge (half : Inbound) : Inbound :=
  { half with pipe := half.pipe.close }

/-- What holds of this half in every state. -/
structure Sound (half : Inbound) : Prop where
  conserved : half.pipe.pushed ++ half.pump.held =
    half.received.flatMap TunnelFrame.payload
  closed : half.pipe.closed = true → half.readerGone = true ∨ half.pump.finished = true
  broken : ∀ rest, half.pump = .broken rest → half.readerGone = true
  sawEof : half.sawEof = true →
    half.pipe.queue = [] ∧ (half.pump = .ended ∨ half.pump = .failed)

/-- What a step does. -/
inductive Does (shutsDownOnError : Bool) : Inbound → InboundEvent → Inbound → Prop where
  | frame {half : Inbound} {frame : TunnelFrame} (hpump : half.pump = .waiting) :
      Does shutsDownOnError half (.message (.frame frame)) { half with
        received := half.received ++ [frame]
        pump := .writing frame.payload }
  | finished {half : Inbound} (hpump : half.pump = .waiting) :
      Does shutsDownOnError half (.message .finished)
        { half with pump := .ended, pipe := half.pipe.close }
  | failed {half : Inbound} (hpump : half.pump = .waiting) :
      Does shutsDownOnError half (.message .failed) { half with
        pump := .failed
        pipe := if shutsDownOnError then half.pipe.close else half.pipe }
  | write {half : Inbound} {count : ℕ} {rest : List UInt8} {pipe : Pipe}
      (hpump : half.pump = .writing rest) (hpush : half.pipe.push (rest.take count) = some pipe) :
      Does shutsDownOnError half (.write count)
        { half with pump := .writing (rest.drop count), pipe := pipe }
  | written {half : Inbound} (hpump : half.pump = .writing []) :
      Does shutsDownOnError half .written { half with pump := .waiting }
  | brokenPipe {half : Inbound} {rest : List UInt8} (hpump : half.pump = .writing rest)
      (hclosed : half.pipe.closed = true) :
      Does shutsDownOnError half .brokenPipe { half with pump := .broken rest }
  | read {half : Inbound} {count : ℕ} (hcount : 0 < count ∧ count ≤ half.pipe.queue.length) :
      Does shutsDownOnError half (.read count) { half with pipe := half.pipe.pop count }
  | readEof {half : Inbound} (hreader : half.readerGone = false)
      (hqueue : half.pipe.queue = []) (hclosed : half.pipe.closed = true) :
      Does shutsDownOnError half .readEof { half with sawEof := true }

variable {shutsDownOnError : Bool} {half next : Inbound} {event : InboundEvent}

theorem does_of_step (hstep : half.step shutsDownOnError event = some next) :
    Does shutsDownOnError half event next := by
  cases event with
  | message message =>
      rw [step] at hstep
      split at hstep
      next hpump =>
        cases hstep
        cases message with
        | frame frame => exact .frame hpump
        | finished => exact .finished hpump
        | failed => exact .failed hpump
      next => cases hstep
  | write count =>
      rw [step] at hstep
      split at hstep
      next rest hpump =>
        obtain ⟨-, hwrite⟩ := Option.ite_none_right_eq_some.mp hstep
        obtain ⟨pipe, hpush, hnext⟩ := Option.bind_eq_some_iff.mp hwrite
        cases hnext
        exact .write hpump hpush
      next => cases hstep
  | written =>
      obtain ⟨hpump, hnext⟩ := Option.ite_none_right_eq_some.mp hstep
      cases hnext
      exact .written hpump
  | brokenPipe =>
      rw [step] at hstep
      split at hstep
      next rest hpump =>
        obtain ⟨⟨-, hclosed⟩, hnext⟩ := Option.ite_none_right_eq_some.mp hstep
        cases hnext
        exact .brokenPipe hpump hclosed
      next => cases hstep
  | read count =>
      obtain ⟨⟨-, hcount⟩, hnext⟩ := Option.ite_none_right_eq_some.mp hstep
      cases hnext
      exact .read hcount
  | readEof =>
      obtain ⟨⟨hreader, hqueue, hclosed⟩, hnext⟩ := Option.ite_none_right_eq_some.mp hstep
      cases hnext
      exact .readEof hreader hqueue hclosed

theorem sound_start : Sound start where
  conserved := rfl
  closed hclosed := by cases hclosed
  broken _ hbroken := by cases hbroken
  sawEof heof := by cases heof

/-- While the task runs, only the reader can have closed the pipe. -/
theorem Sound.gone_of_closed (hsound : half.Sound) (hpump : half.pump.finished = false)
    (hclosed : half.pipe.closed = true) : half.readerGone = true := by
  rcases hsound.closed hclosed with hgone | hfinished
  · exact hgone
  · cases hpump.symm.trans hfinished

/-- While the task runs, the reader has not seen the end. -/
theorem Sound.sawEof_eq_false (hsound : half.Sound) (hpump : half.pump.finished = false) :
    half.sawEof = false := by
  rw [← Bool.not_eq_true]
  intro heof
  obtain ⟨-, hended | hfailed⟩ := hsound.sawEof heof
  · rw [hended] at hpump
    cases hpump
  · rw [hfailed] at hpump
    cases hpump

theorem sound_step (hstep : half.step shutsDownOnError event = some next)
    (hsound : half.Sound) : next.Sound := by
  have hconserved := hsound.conserved
  cases does_of_step hstep with
  | frame hpump =>
      have hbusy : half.pump.finished = false := by rw [hpump]; rfl
      refine ⟨?_, fun hclosed => .inl (hsound.gone_of_closed hbusy hclosed), nofun, ?_⟩
      · rw [hpump, InboundPump.held, List.append_nil] at hconserved
        rw [List.flatMap_append, List.flatMap_singleton, ← hconserved]
        rfl
      · intro heof
        cases (hsound.sawEof_eq_false hbusy).symm.trans heof
  | finished hpump =>
      have hbusy : half.pump.finished = false := by rw [hpump]; rfl
      refine ⟨?_, fun _ => .inr rfl, nofun, ?_⟩
      · rw [hpump] at hconserved
        exact hconserved
      · intro heof
        cases (hsound.sawEof_eq_false hbusy).symm.trans heof
  | failed hpump =>
      have hbusy : half.pump.finished = false := by rw [hpump]; rfl
      refine ⟨?_, fun _ => .inr rfl, nofun, ?_⟩
      · rw [hpump] at hconserved
        rw [← hconserved]
        cases shutsDownOnError with
        | false => rfl
        | true => rfl
      · intro heof
        cases (hsound.sawEof_eq_false hbusy).symm.trans heof
  | write hpump hpush =>
      have hbusy : half.pump.finished = false := by rw [hpump]; rfl
      obtain ⟨-, -, -, -, hopen⟩ := Fifo.push_eq_some_iff.mp hpush
      refine ⟨?_, ?_, nofun, ?_⟩
      · rw [hpump, InboundPump.held] at hconserved
        rw [← hconserved, Fifo.pushed_of_push hpush, InboundPump.held, List.append_assoc,
          List.take_append_drop]
      · intro hclosed
        cases hopen.symm.trans hclosed
      · intro heof
        cases (hsound.sawEof_eq_false hbusy).symm.trans heof
  | written hpump =>
      have hbusy : half.pump.finished = false := by rw [hpump]; rfl
      refine ⟨?_, fun hclosed => .inl (hsound.gone_of_closed hbusy hclosed), nofun, ?_⟩
      · rw [hpump] at hconserved
        exact hconserved
      · intro heof
        cases (hsound.sawEof_eq_false hbusy).symm.trans heof
  | brokenPipe hpump hclosed =>
      have hbusy : half.pump.finished = false := by rw [hpump]; rfl
      have hgone := hsound.gone_of_closed hbusy hclosed
      refine ⟨?_, fun _ => .inl hgone, fun _ _ => hgone, ?_⟩
      · rw [hpump] at hconserved
        exact hconserved
      · intro heof
        cases (hsound.sawEof_eq_false hbusy).symm.trans heof
  | read hcount =>
      refine ⟨?_, hsound.closed, hsound.broken, fun heof => ?_⟩
      · rw [Fifo.pushed_pop]
        exact hconserved
      · rw [(hsound.sawEof heof).1] at hcount
        exact absurd (hcount.1.trans_le hcount.2) (lt_irrefl 0)
  | readEof hreader hqueue hclosed =>
      refine ⟨hconserved, hsound.closed, hsound.broken, fun _ => ⟨hqueue, ?_⟩⟩
      -- the reader is still there, so the pipe was closed at the end of the frames
      have hfinished : half.pump.finished = true := by
        rcases hsound.closed hclosed with hgone | hfinished
        · cases hreader.symm.trans hgone
        · exact hfinished
      cases hpump : half.pump with
      | waiting => rw [hpump] at hfinished; cases hfinished
      | writing rest => rw [hpump] at hfinished; cases hfinished
      | ended => exact .inl rfl
      | failed => exact .inr rfl
      | broken rest => cases hreader.symm.trans (hsound.broken rest hpump)

theorem sound_dropReader (hsound : half.Sound) : half.dropReader.Sound where
  conserved := hsound.conserved
  closed _ := .inl rfl
  broken _ _ := rfl
  sawEof := hsound.sawEof

theorem sound_dropBridge (hsound : half.Sound) (hfinished : half.pump.finished = true) :
    half.dropBridge.Sound where
  conserved := hsound.conserved
  closed _ := .inr hfinished
  broken := hsound.broken
  sawEof := hsound.sawEof

/-- The bytes read are the beginning of the frames received. -/
theorem Sound.read_isPrefix (hsound : half.Sound) :
    half.pipe.passed <+: half.received.flatMap TunnelFrame.payload := by
  rw [← hsound.conserved]
  exact half.pipe.passed_isPrefix.trans (List.prefix_append _ _)

/-- At the end of the stream all frames received have been read. -/
theorem Sound.read_eq (hsound : half.Sound) (heof : half.sawEof = true) :
    half.pipe.passed = half.received.flatMap TunnelFrame.payload := by
  obtain ⟨hqueue, hpump⟩ := hsound.sawEof heof
  rw [← hsound.conserved, Fifo.pushed_of_queue_eq_nil hqueue]
  rcases hpump with hended | hfailed
  · rw [hended, InboundPump.held, List.append_nil]
  · rw [hfailed, InboundPump.held, List.append_nil]

end Inbound

end VpnBridge.Grpc
