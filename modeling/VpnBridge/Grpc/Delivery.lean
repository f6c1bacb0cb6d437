import VpnBridge.Core.TransitionSystem
import VpnBridge.Grpc.Pumps

/-!
# Delivering a stream of frames

One end of a call, given the frames that arrive and how their stream ends.  What
the reader gets is fixed by the frames alone, and every beginning of it can be
read, whatever the sizes of the frames and of the pipe.
-/

namespace VpnBridge.Grpc

open VpnBridge.BoundedQueue VpnBridge.Server VpnBridge.TransitionSystem

inductive Ending where
  | finished
  | failed
  /-- The call stays open. -/
  | never
  deriving DecidableEq

/-- Everything that arrives on a call. -/
structure FrameStream where
  frames : List TunnelFrame
  ending : Ending
  deriving DecidableEq

namespace FrameStream

/-- The bytes of the frames. -/
def payload (stream : FrameStream) : List UInt8 :=
  stream.frames.flatMap TunnelFrame.payload

/-- What can arrive after the frames received so far. -/
def delivers (stream : FrameStream) (received : List TunnelFrame) : InboundEvent → Bool
  | .message (.frame frame) => stream.frames[received.length]? == some frame
  | .message .finished =>
      received.length == stream.frames.length && stream.ending == .finished
  | .message .failed => received.length == stream.frames.length && stream.ending == .failed
  | _ => true

end FrameStream

inductive DeliveryEvent where
  | inbound (event : InboundEvent)
  | dropReader
  /-- The other pump has stopped as well. -/
  | dropBridge
  deriving DecidableEq

namespace Inbound

/-- A step of this half on a given stream. -/
def deliver (shutsDownOnError : Bool) (stream : FrameStream) (half : Inbound) :
    DeliveryEvent → Option Inbound
  | .inbound event =>
      if stream.delivers half.received event = true then half.step shutsDownOnError event
      else none
  | .dropReader => some half.dropReader
  | .dropBridge => if half.pump.finished = true then some half.dropBridge else none

theorem deliver_inbound {shutsDownOnError : Bool} {stream : FrameStream} {half : Inbound}
    {event : InboundEvent} (hdelivers : stream.delivers half.received event = true) :
    half.deliver shutsDownOnError stream (.inbound event) =
      half.step shutsDownOnError event :=
  if_pos hdelivers

/-- What holds in every state of a delivery. -/
structure Follows (stream : FrameStream) (half : Inbound) : Prop where
  sound : half.Sound
  received : half.received <+: stream.frames
  complete : half.pump = .ended → stream.ending = .finished ∧ half.received = stream.frames
  failed : half.pump = .failed → stream.ending = .failed ∧ half.received = stream.frames

variable {shutsDownOnError : Bool} {stream : FrameStream} {half next : Inbound}

theorem follows_start : Follows stream start where
  sound := sound_start
  received := List.nil_prefix
  complete hended := by cases hended
  failed hfailed := by cases hfailed

theorem follows_step {event : InboundEvent}
    (hdelivers : stream.delivers half.received event = true)
    (hstep : half.step shutsDownOnError event = some next) (hfollows : half.Follows stream) :
    next.Follows stream := by
  have hsound := sound_step hstep hfollows.sound
  cases does_of_step hstep with
  | frame hpump =>
      exact ⟨hsound, isPrefix_snoc hfollows.received (beq_iff_eq.mp hdelivers), nofun, nofun⟩
  | finished hpump =>
      obtain ⟨hlength, hending⟩ := Bool.and_eq_true_iff.mp hdelivers
      exact ⟨hsound, hfollows.received, fun _ => ⟨beq_iff_eq.mp hending,
        hfollows.received.eq_of_length (beq_iff_eq.mp hlength)⟩, nofun⟩
  | failed hpump =>
      obtain ⟨hlength, hending⟩ := Bool.and_eq_true_iff.mp hdelivers
      exact ⟨hsound, hfollows.received, nofun, fun _ => ⟨beq_iff_eq.mp hending,
        hfollows.received.eq_of_length (beq_iff_eq.mp hlength)⟩⟩
  | write hpump hpush => exact ⟨hsound, hfollows.received, nofun, nofun⟩
  | written hpump => exact ⟨hsound, hfollows.received, nofun, nofun⟩
  | brokenPipe hpump hclosed => exact ⟨hsound, hfollows.received, nofun, nofun⟩
  | read hcount => exact ⟨hsound, hfollows.received, hfollows.complete, hfollows.failed⟩
  | readEof hreader hqueue hclosed =>
      exact ⟨hsound, hfollows.received, hfollows.complete, hfollows.failed⟩

theorem follows_deliver {event : DeliveryEvent}
    (hstep : half.deliver shutsDownOnError stream event = some next)
    (hfollows : half.Follows stream) : next.Follows stream := by
  cases event with
  | inbound event =>
      obtain ⟨hdelivers, hstep⟩ := Option.ite_none_right_eq_some.mp hstep
      exact follows_step hdelivers hstep hfollows
  | dropReader =>
      cases hstep
      exact ⟨sound_dropReader hfollows.sound, hfollows.received, hfollows.complete,
        hfollows.failed⟩
  | dropBridge =>
      obtain ⟨hfinished, hnext⟩ := Option.ite_none_right_eq_some.mp hstep
      cases hnext
      exact ⟨sound_dropBridge hfollows.sound hfinished, hfollows.received, hfollows.complete,
        hfollows.failed⟩

theorem follows_of_run {trace : List (Transition Inbound DeliveryEvent)}
    (hrun : Execution (deliver shutsDownOnError stream) start trace half) :
    half.Follows stream :=
  Execution.invariant follows_deliver hrun follows_start

/-- The reader gets a beginning of the payload. -/
theorem Follows.read_isPrefix (hfollows : half.Follows stream) :
    half.pipe.passed <+: stream.payload :=
  hfollows.sound.read_isPrefix.trans (hfollows.received.flatMap _)

/-- The reader is told of the end only after the whole payload, and after the stream of
frames has ended in one way or the other. -/
theorem Follows.read_eq (hfollows : half.Follows stream) (heof : half.sawEof = true) :
    half.pipe.passed = stream.payload ∧
      (stream.ending = .finished ∨ stream.ending = .failed) := by
  rw [hfollows.sound.read_eq heof, FrameStream.payload]
  obtain ⟨-, hended | hfailed⟩ := hfollows.sound.sawEof heof
  · obtain ⟨hending, hreceived⟩ := hfollows.complete hended
    exact ⟨congrArg _ hreceived, .inl hending⟩
  · obtain ⟨hending, hreceived⟩ := hfollows.failed hfailed
    exact ⟨congrArg _ hreceived, .inr hending⟩

/-! ## Deliveries that go on -/

/-- Nothing has stopped yet. -/
structure Live (stream : FrameStream) (half : Inbound) : Prop where
  follows : half.Follows stream
  running : half.pump.finished = false
  opened : half.pipe.closed = false
  reader : half.readerGone = false

/-- The work left to the pump. -/
def remaining (stream : FrameStream) (half : Inbound) : ℕ :=
  2 * (stream.frames.length - half.received.length) +
    match half.pump with
    | .waiting => 0
    | _ => 1

theorem live_start : Live stream start :=
  ⟨follows_start, rfl, rfl, rfl⟩

/-- There is a frame after those received, unless they are all. -/
theorem exists_next_frame {received frames : List TunnelFrame} (hreceived : received <+: frames)
    (hmore : received ≠ frames) :
    received.length < frames.length ∧ ∃ frame, frames[received.length]? = some frame := by
  have hlength : received.length < frames.length :=
    lt_of_le_of_ne hreceived.length_le fun heq => hmore (hreceived.eq_of_length heq)
  exact ⟨hlength, _, List.getElem?_eq_getElem hlength⟩

/-- The pump puts a byte into the empty pipe, gets closer to that, or has received all
frames. -/
theorem Live.exists_step (shutsDownOnError : Bool) (hlive : half.Live stream)
    (hqueue : half.pipe.queue = [])
    (hmore : ¬ (half.pump = .waiting ∧ half.received = stream.frames)) :
    ∃ event next, half.deliver shutsDownOnError stream event = some next ∧
      next.Live stream ∧ next.pipe.passed = half.pipe.passed ∧
        (next.pipe.queue ≠ [] ∨ next.remaining stream < half.remaining stream) := by
  have hrunning := hlive.running
  cases hpump : half.pump with
  | waiting =>
      obtain ⟨hlength, frame, hframe⟩ := exists_next_frame hlive.follows.received
        fun hsame => hmore ⟨hpump, hsame⟩
      have hdelivers : stream.delivers half.received (.message (.frame frame)) = true :=
        beq_iff_eq.mpr hframe
      have hstep : half.deliver shutsDownOnError stream (.inbound (.message (.frame frame))) =
          some (half.receive shutsDownOnError (.frame frame)) := by
        rw [deliver_inbound hdelivers, step, hpump]
      refine ⟨_, _, hstep, ⟨follows_deliver hstep hlive.follows, rfl, hlive.opened,
        hlive.reader⟩, rfl, .inr ?_⟩
      simp only [remaining, receive, hpump, List.length_append, List.length_singleton]
      omega
  | writing rest =>
      cases rest with
      | nil =>
          have hstep : half.deliver shutsDownOnError stream (.inbound .written) =
              some { half with pump := .waiting } := by
            rw [deliver_inbound rfl, step, if_pos hpump]
          refine ⟨_, _, hstep, ⟨follows_deliver hstep hlive.follows, rfl, hlive.opened,
            hlive.reader⟩, rfl, .inr ?_⟩
          simp only [remaining, hpump]
          omega
      | cons byte rest =>
          have hroom : half.pipe.queue.length + [byte].length ≤ pipeCapacity := by
            rw [hqueue, List.length_singleton]
            decide
          obtain ⟨pipe, hpush⟩ := Fifo.exists_push hlive.opened hroom
          obtain ⟨-, -, hpassed, hpushed, hopen⟩ := Fifo.push_eq_some_iff.mp hpush
          have hstep : half.deliver shutsDownOnError stream (.inbound (.write 1)) =
              some { half with pump := .writing rest, pipe := pipe } := by
            rw [deliver_inbound rfl, step, hpump]
            simp only [List.take_succ_cons, List.take_zero, hpush]
            exact if_pos ⟨Nat.one_pos, Nat.le_add_left 1 rest.length⟩
          refine ⟨_, _, hstep, ⟨follows_deliver hstep hlive.follows, rfl, hopen, hlive.reader⟩,
            hpassed, .inl ?_⟩
          rw [hpushed, hqueue]
          exact List.cons_ne_nil _ _
  | ended => rw [hpump] at hrunning; cases hrunning
  | failed => rw [hpump] at hrunning; cases hrunning
  | broken rest => rw [hpump] at hrunning; cases hrunning

/-- The pump can go on until there is something to read or nothing left to receive. -/
theorem Live.exists_settled (shutsDownOnError : Bool) (hlive : half.Live stream) :
    ∃ trace next, Execution (deliver shutsDownOnError stream) half trace next ∧
      next.Live stream ∧ next.pipe.passed = half.pipe.passed ∧
        (next.pipe.queue = [] → next.pump = .waiting ∧ next.received = stream.frames) := by
  induction hwork : half.remaining stream using Nat.strong_induction_on generalizing half with
  | h work ih =>
      by_cases hdone : half.pipe.queue = [] → half.pump = .waiting ∧ half.received = stream.frames
      · exact ⟨[], half, .nil, hlive, rfl, hdone⟩
      · obtain ⟨hqueue, hmore⟩ := Classical.not_imp.mp hdone
        obtain ⟨event, middle, hstep, hmiddle, hpassed, hprogress⟩ :=
          hlive.exists_step shutsDownOnError hqueue hmore
        by_cases hempty : middle.pipe.queue = []
        · have hless := hprogress.resolve_left (not_not_intro hempty)
          obtain ⟨trace, next, hrun, hnext, hsame, hsettled⟩ :=
            ih _ (hwork ▸ hless) hmiddle rfl
          exact ⟨_, next, (Execution.single hstep).append hrun, hnext, hsame.trans hpassed,
            hsettled⟩
        · exact ⟨_, middle, .single hstep, hmiddle, hpassed, fun hnil => absurd hnil hempty⟩

/-- What has been read and what is still to be read make up the payload. -/
theorem Live.isSettled (hlive : half.Live stream) (hqueue : half.pipe.queue = [])
    (hpump : half.pump = .waiting) (hreceived : half.received = stream.frames) :
    half.pipe.passed = stream.payload := by
  have hconserved := hlive.follows.sound.conserved
  rw [hpump, InboundPump.held, List.append_nil, Fifo.pushed_of_queue_eq_nil hqueue,
    hreceived] at hconserved
  exact hconserved

/-- The next byte of the payload can be read. -/
theorem Live.exists_read (shutsDownOnError : Bool) (hlive : half.Live stream) {byte : UInt8}
    (hbyte : half.pipe.passed ++ [byte] <+: stream.payload) :
    ∃ trace next, Execution (deliver shutsDownOnError stream) half trace next ∧
      next.Live stream ∧ next.pipe.passed = half.pipe.passed ++ [byte] := by
  obtain ⟨trace, middle, hrun, hmiddle, hpassed, hsettled⟩ :=
    hlive.exists_settled shutsDownOnError
  cases hqueue : middle.pipe.queue with
  | nil =>
      obtain ⟨hpump, hreceived⟩ := hsettled hqueue
      have hall := hmiddle.isSettled hqueue hpump hreceived
      rw [← hall, hpassed] at hbyte
      exact absurd hbyte.length_le (by simp)
  | cons head rest =>
      have hstep : middle.deliver shutsDownOnError stream (.inbound (.read 1)) =
          some { middle with pipe := middle.pipe.pop 1 } := by
        rw [deliver_inbound rfl, step, if_pos ⟨hmiddle.reader, Nat.one_pos, by rw [hqueue]; simp⟩]
      have hfollows := follows_deliver hstep hmiddle.follows
      refine ⟨_, _, hrun.append (.single hstep), ⟨hfollows, hmiddle.running, hmiddle.opened,
        hmiddle.reader⟩, ?_⟩
      have hread : (middle.pipe.pop 1).passed = half.pipe.passed ++ [head] := by
        rw [Fifo.passed_pop, hqueue, hpassed]
        rfl
      -- both bytes follow the same bytes in the payload
      have hbegins := hfollows.read_isPrefix
      change (middle.pipe.pop 1).passed <+: _ at hbegins
      rw [hread] at hbegins
      have hsame := List.prefix_of_prefix_length_le hbegins hbyte (by simp)
      exact hread.trans (hsame.eq_of_length (by simp))

/-- Every beginning of the payload can be read. -/
theorem Live.exists_reads (shutsDownOnError : Bool) (hlive : half.Live stream)
    (rest : List UInt8) (hrest : half.pipe.passed ++ rest <+: stream.payload) :
    ∃ trace next, Execution (deliver shutsDownOnError stream) half trace next ∧
      next.Live stream ∧ next.pipe.passed = half.pipe.passed ++ rest := by
  induction rest generalizing half with
  | nil => exact ⟨[], half, .nil, hlive, (List.append_nil _).symm⟩
  | cons byte rest ih =>
      rw [← List.singleton_append, ← List.append_assoc] at hrest
      obtain ⟨first, middle, hfirst, hmiddle, hread⟩ :=
        hlive.exists_read shutsDownOnError ((List.prefix_append _ _).trans hrest)
      rw [← hread] at hrest
      obtain ⟨second, next, hsecond, hnext, hall⟩ := ih hmiddle hrest
      refine ⟨_, next, hfirst.append hsecond, hnext, ?_⟩
      rw [hall, hread, List.append_assoc, List.singleton_append]

/-- When the whole payload has been read, the pipe is empty. -/
theorem Live.queue_eq_nil (hlive : half.Live stream)
    (hall : half.pipe.passed = stream.payload) : half.pipe.queue = [] := by
  have hbound := (hlive.follows.received.flatMap TunnelFrame.payload).length_le
  rw [← hlive.follows.sound.conserved, ← FrameStream.payload, ← hall, Fifo.pushed,
    List.length_append, List.length_append] at hbound
  rw [← List.length_eq_zero_iff]
  omega

/-- The end of the frames shuts the pipe down. -/
theorem Live.exists_shutdown (shutsDownOnError : Bool) (hlive : half.Live stream)
    (hpump : half.pump = .waiting) (hreceived : half.received = stream.frames)
    (hending : stream.ending = .finished ∨
      stream.ending = .failed ∧ shutsDownOnError = true) :
    ∃ event next, half.deliver shutsDownOnError stream event = some next ∧
      next.pipe = half.pipe.close ∧ next.readerGone = false := by
  rcases hending with hending | ⟨hending, rfl⟩
  · have hdelivers : stream.delivers half.received (.message .finished) = true := by
      rw [FrameStream.delivers, hreceived, hending, beq_self_eq_true, beq_self_eq_true]
      rfl
    refine ⟨.inbound (.message .finished), half.receive shutsDownOnError .finished, ?_, rfl,
      hlive.reader⟩
    rw [deliver_inbound hdelivers, step, hpump]
  · have hdelivers : stream.delivers half.received (.message .failed) = true := by
      rw [FrameStream.delivers, hreceived, hending, beq_self_eq_true, beq_self_eq_true]
      rfl
    refine ⟨.inbound (.message .failed), half.receive true .failed, ?_, rfl, hlive.reader⟩
    rw [deliver_inbound hdelivers, step, hpump]

/-- A reader that has the whole payload can be told of the end of the stream. -/
theorem Live.exists_eof (shutsDownOnError : Bool) (hlive : half.Live stream)
    (hall : half.pipe.passed = stream.payload)
    (hending : stream.ending = .finished ∨
      stream.ending = .failed ∧ shutsDownOnError = true) :
    ∃ trace next, Execution (deliver shutsDownOnError stream) half trace next ∧
      next.pipe.passed = stream.payload ∧ next.sawEof = true := by
  obtain ⟨trace, middle, hrun, hmiddle, hpassed, hsettled⟩ :=
    hlive.exists_settled shutsDownOnError
  have hqueue := hmiddle.queue_eq_nil (hpassed.trans hall)
  obtain ⟨hpump, hreceived⟩ := hsettled hqueue
  obtain ⟨event, closed, hstep, hpipe, hreader⟩ :=
    hmiddle.exists_shutdown shutsDownOnError hpump hreceived hending
  have heof : closed.deliver shutsDownOnError stream (.inbound .readEof) =
      some { closed with sawEof := true } := by
    rw [deliver_inbound rfl, step, hpipe, if_pos ⟨hreader, hqueue, rfl⟩]
  refine ⟨_, _, hrun.append ((Execution.single hstep).append (.single heof)), ?_, rfl⟩
  change closed.pipe.passed = _
  rw [hpipe]
  exact hpassed.trans hall

/-- A stream that ends, or whose error the pump hides, can be read to its end. -/
theorem exists_delivery (shutsDownOnError : Bool)
    (hending : stream.ending = .finished ∨
      stream.ending = .failed ∧ shutsDownOnError = true) :
    ∃ trace half, Execution (deliver shutsDownOnError stream) start trace half ∧
      half.pipe.passed = stream.payload ∧ half.sawEof = true := by
  obtain ⟨first, middle, hfirst, hmiddle, hall⟩ :=
    live_start.exists_reads shutsDownOnError stream.payload (List.prefix_refl _)
  obtain ⟨second, half, hsecond, hpassed, heof⟩ :=
    hmiddle.exists_eof shutsDownOnError hall hending
  exact ⟨_, half, hfirst.append hsecond, hpassed, heof⟩

end Inbound

end VpnBridge.Grpc
