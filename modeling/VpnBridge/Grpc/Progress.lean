import VpnBridge.Core.Draining
import VpnBridge.Grpc.Delivery
import VpnBridge.Grpc.Hop

/-!
# The gRPC tunnel comes through

As long as the call does not break and both ends keep their streams, the pumps pass
everything on, and with everything read at the other end they wait for the next byte.
-/

namespace VpnBridge.Grpc

open VpnBridge.BoundedQueue VpnBridge.Pipeline VpnBridge.Server VpnBridge.TransitionSystem

namespace Lane

variable {shutsDownOnError : Bool} {lane next : Lane}

/-- A pump that has stopped has closed what it fed. -/
structure Tight (lane : Lane) : Prop where
  channel : lane.outbound.pump.finished = true → lane.outbound.channel.closed = true
  pipe : lane.inbound.pump = .ended → lane.inbound.pipe.closed = true

theorem tight_start : start.Tight where
  channel hfinished := by cases hfinished
  pipe hended := by cases hended

theorem tight_step {event : LaneEvent} (hstep : lane.step shutsDownOnError event = some next)
    (htight : lane.Tight) : next.Tight := by
  cases event with
  | outbound event =>
      obtain ⟨-, hstep⟩ := Option.ite_none_right_eq_some.mp hstep
      obtain ⟨outbound, houtbound, hnext⟩ := Option.bind_eq_some_iff.mp hstep
      cases hnext
      refine ⟨?_, htight.pipe⟩
      cases Outbound.does_of_step houtbound with
      | write hpush => exact htight.channel
      | shutdown => exact htight.channel
      | read hpump => exact nofun
      | readEof hpump hqueue hclosed => exact fun _ => rfl
      | send hpump hpush => exact nofun
      | sendFailed hpump => exact fun _ => rfl
  | take =>
      obtain ⟨-, hnext⟩ := Option.ite_none_right_eq_some.mp hstep
      cases hnext
      exact ⟨htight.channel, htight.pipe⟩
  | finish =>
      obtain ⟨-, hnext⟩ := Option.ite_none_right_eq_some.mp hstep
      cases hnext
      exact ⟨htight.channel, htight.pipe⟩
  | fail =>
      cases hstep
      exact ⟨htight.channel, htight.pipe⟩
  | inbound event =>
      obtain ⟨-, hstep⟩ := Option.ite_none_right_eq_some.mp hstep
      obtain ⟨inbound, hinbound, hnext⟩ := Option.bind_eq_some_iff.mp hstep
      cases hnext
      refine ⟨htight.channel, ?_⟩
      cases Inbound.does_of_step hinbound with
      | frame hpump => exact nofun
      | finished hpump => exact fun _ => rfl
      | failed hpump => exact nofun
      | write hpump hpush => exact nofun
      | written hpump => exact nofun
      | brokenPipe hpump hclosed => exact nofun
      | read hcount => exact htight.pipe
      | readEof hreader hqueue hclosed => exact htight.pipe

/-! ## What is left to do -/

/-- The steps that the end of the stream has still to take, once the pipe at the beginning
is closed: through the first pump, over the call, through the second pump, to the reader. -/
def endPending (closed stopped ended received seen : Bool) : ℕ :=
  if closed = true then
    (!stopped).toNat + (!ended).toNat + (!received).toNat + (!seen).toNat
  else 0

theorem endPending_open (stopped ended received seen : Bool) :
    endPending false stopped ended received seen = 0 :=
  rfl

theorem endPending_le (closed stopped ended received seen : Bool) :
    endPending closed stopped ended received seen ≤ 4 := by
  revert closed stopped ended received seen
  decide

theorem endPending_stopped (ended received seen : Bool) :
    endPending true false ended received seen = endPending true true ended received seen + 1 := by
  revert ended received seen
  decide

theorem endPending_ended (stopped received seen : Bool) :
    endPending true stopped false received seen =
      endPending true stopped true received seen + 1 := by
  revert stopped received seen
  decide

theorem endPending_received (stopped ended seen : Bool) :
    endPending true stopped ended false seen = endPending true stopped ended true seen + 1 := by
  revert stopped ended seen
  decide

theorem endPending_seen (stopped ended received : Bool) :
    endPending true stopped ended received false =
      endPending true stopped ended received true + 1 := by
  revert stopped ended received
  decide

/-- The steps left to a frame of which each byte and the frame itself take `steps`. -/
def framesPending (steps : ℕ) (frames : List TunnelFrame) : ℕ :=
  (frames.map fun frame => steps * (frame.payload.length + 1)).sum

/-- The steps left to the lane; what has further to go counts more. -/
def pending (lane : Lane) : ℕ :=
  11 * lane.outbound.pipe.queue.length +
    (match lane.outbound.pump with
      | .sending payload => 5 * (payload.length + 1)
      | _ => 0) +
    framesPending 4 lane.outbound.channel.queue +
    framesPending 3 (lane.outbound.channel.passed.drop lane.inbound.received.length) +
    (match lane.inbound.pump with
      | .writing rest => 2 * rest.length + 1
      | _ => 0) +
    lane.inbound.pipe.queue.length +
    endPending lane.outbound.pipe.closed lane.outbound.pump.finished lane.ended
      lane.inbound.pump.finished lane.inbound.sawEof

/-- What an event is to the lane. -/
def motion (way : Way) (lane : Lane) : LaneEvent → Motion
  | .outbound (.write []) => .foreign
  | .outbound (.write _) => .takes way
  | .outbound .shutdown => if lane.outbound.pipe.closed = true then .foreign else .takes way
  | .outbound .sendFailed => .foreign
  | .outbound _ => .within
  | .take => .within
  | .finish => if lane.ended = true then .foreign else .within
  | .fail => .foreign
  | .inbound (.message .failed) => .foreign
  | .inbound .brokenPipe => .foreign
  | .inbound .readEof => if lane.inbound.sawEof = true then .foreign else .within
  | .inbound _ => .within

/-- What has to hold for a lane to go on. -/
structure Able (greeting : ℕ) (lane : Lane) : Prop where
  sound : lane.Sound
  tight : lane.Tight
  intact : lane.failed = false
  reader : lane.inbound.readerGone = false
  greeted : greeting ≤ lane.written.length

variable {greeting : ℕ} {way : Way}

theorem framesPending_nil (steps : ℕ) : framesPending steps [] = 0 :=
  rfl

theorem framesPending_append (steps : ℕ) (first second : List TunnelFrame) :
    framesPending steps (first ++ second) =
      framesPending steps first + framesPending steps second := by
  rw [framesPending, List.map_append, List.sum_append, framesPending, framesPending]

theorem framesPending_cons (steps : ℕ) (frame : TunnelFrame) (frames : List TunnelFrame) :
    framesPending steps (frame :: frames) =
      steps * (frame.payload.length + 1) + framesPending steps frames := by
  rw [framesPending, List.map_cons, List.sum_cons, framesPending]

/-- A step between the two ends. -/
theorem advances_between (htaken : next.written = lane.written)
    (hclosed : next.outbound.pipe.closed = lane.outbound.pipe.closed)
    (hfailed : next.failed = lane.failed) (hread : next.read = lane.read)
    (heof : next.inbound.sawEof = lane.inbound.sawEof) (hless : next.pending < lane.pending) :
    Advances way 11 .within (lane.stage greeting).taken (next.stage greeting).taken
      (lane.stage greeting).carried (next.stage greeting).carried lane.pending next.pending := by
  have hsameTaken : (next.stage greeting).taken = (lane.stage greeting).taken := by
    rw [stage, stage, htaken, hclosed, hfailed]
  have hsameCarried : (next.stage greeting).carried = (lane.stage greeting).carried := by
    rw [stage, stage, hread, heof]
  rw [hsameTaken, hsameCarried]
  refine .of_within rfl (le_refl _) ?_ hless
  omega

theorem advances_write {bytes : List UInt8} {pipe : Pipe} (hable : lane.Able greeting)
    (hbytes : bytes ≠ []) (hpush : lane.outbound.pipe.push bytes = some pipe) :
    Advances way 11 (.takes way) (lane.stage greeting).taken
      ({ lane with outbound := { lane.outbound with pipe := pipe } }.stage greeting).taken
      (lane.stage greeting).carried
      ({ lane with outbound := { lane.outbound with pipe := pipe } }.stage greeting).carried
      lane.pending { lane with outbound := { lane.outbound with pipe := pipe } }.pending := by
  obtain ⟨hopen, -, hpassed, hqueue, hopen'⟩ := Fifo.push_eq_some_iff.mp hpush
  have hlength := List.length_pos_of_ne_nil hbytes
  have hwritten : pipe.pushed.drop greeting = lane.written.drop greeting ++ bytes := by
    rw [Fifo.pushed_of_push hpush]
    exact List.drop_append_of_le_length hable.greeted
  refine .of_takes ⟨⟨bytes, hwritten.symm⟩, fun hended => ?_⟩ ?_ (le_refl _) ?_
  · change (lane.outbound.pipe.closed && _) = true at hended
    rw [hopen, Bool.false_and] at hended
    cases hended
  · simp only [stage, written, hwritten, Tape.size, hopen, hopen', List.length_append]
    omega
  · simp only [stage, written, read, hwritten, pending, Tape.size, hopen, hopen', hqueue,
      List.length_append, Bool.false_and, endPending_open]
    omega

theorem advances_shutdown (hable : lane.Able greeting)
    (hopen : lane.outbound.pipe.closed = false) :
    Advances way 11 (.takes way) (lane.stage greeting).taken
      (lane.closePipe.stage greeting).taken (lane.stage greeting).carried
      (lane.closePipe.stage greeting).carried lane.pending lane.closePipe.pending := by
  have hclosed : lane.closePipe.outbound.pipe.closed = true := rfl
  have hsize : (lane.closePipe.stage greeting).taken.size =
      (lane.stage greeting).taken.size + 1 := by
    simp only [stage, Tape.size, hopen, hable.intact, closePipe]
    rfl
  refine .of_takes ⟨List.prefix_refl _, fun hended => ?_⟩ ?_ (le_refl _) ?_
  · change (lane.outbound.pipe.closed && _) = true at hended
    rw [hopen, Bool.false_and] at hended
    cases hended
  · omega
  · have hend := endPending_le true lane.outbound.pump.finished lane.ended
      lane.inbound.pump.finished lane.inbound.sawEof
    rw [hsize, pending, pending, hopen, hclosed, endPending_open]
    simp only [closePipe, Fifo.close, stage, read]
    omega

/-- A step of the pump that makes frames. -/
theorem advances_outbound {event : OutboundEvent} {outbound : Outbound}
    (hable : lane.Able greeting) (hpermits : lane.permits event = true)
    (hstep : lane.outbound.step event = some outbound)
    (hmotion : lane.motion way (.outbound event) ≠ .foreign) :
    Advances way 11 (lane.motion way (.outbound event)) (lane.stage greeting).taken
      ({ lane with outbound := outbound }.stage greeting).taken (lane.stage greeting).carried
      ({ lane with outbound := outbound }.stage greeting).carried lane.pending
      { lane with outbound := outbound }.pending := by
  cases event with
  | write bytes =>
      obtain ⟨pipe, hpush, hnext⟩ := Option.bind_eq_some_iff.mp hstep
      cases hnext
      cases bytes with
      | nil => exact absurd rfl hmotion
      | cons byte bytes => exact advances_write hable (List.cons_ne_nil _ _) hpush
  | shutdown =>
      cases hstep
      cases hclosed : lane.outbound.pipe.closed with
      | true =>
          rw [motion, if_pos hclosed] at hmotion
          exact absurd rfl hmotion
      | false =>
          rw [motion, hclosed, if_neg Bool.false_ne_true]
          exact advances_shutdown hable hclosed
  | read count =>
      rw [Outbound.step] at hstep
      split at hstep
      next hpump =>
        obtain ⟨⟨hcount, hle⟩, hnext⟩ := Option.ite_none_right_eq_some.mp hstep
        cases hnext
        refine advances_between (Fifo.pushed_pop _ _) rfl rfl rfl rfl ?_
        simp only [pending, Fifo.pop, hpump, OutboundPump.finished, List.length_drop,
          List.length_take]
        omega
      next => cases hstep
  | readEof =>
      cases Outbound.does_of_step hstep with
      | readEof hpump hqueue hclosed =>
          refine advances_between rfl rfl rfl rfl rfl ?_
          simp only [pending, hpump, hclosed, Fifo.close, OutboundPump.finished,
            endPending_stopped]
          omega
  | send =>
      cases Outbound.does_of_step hstep with
      | @send payload channel hpump hpush =>
          obtain ⟨-, -, hpassed, hqueue, -⟩ := Fifo.push_eq_some_iff.mp hpush
          refine advances_between rfl rfl rfl rfl rfl ?_
          simp only [pending, hpump, hpassed, hqueue, framesPending_append, framesPending_cons,
            framesPending_nil, OutboundPump.finished]
          omega
  | sendFailed => exact absurd rfl hmotion

theorem advances_take (hable : lane.Able greeting) (hqueue : lane.outbound.channel.queue ≠ []) :
    Advances way 11 .within (lane.stage greeting).taken
      ({ lane with
        outbound := { lane.outbound with channel := lane.outbound.channel.pop 1 } }.stage
          greeting).taken
      (lane.stage greeting).carried
      ({ lane with
        outbound := { lane.outbound with channel := lane.outbound.channel.pop 1 } }.stage
          greeting).carried
      lane.pending
      { lane with
        outbound := { lane.outbound with channel := lane.outbound.channel.pop 1 } }.pending := by
  refine advances_between rfl rfl rfl rfl rfl ?_
  obtain ⟨frame, frames, hframes⟩ := List.exists_cons_of_ne_nil hqueue
  have hreceived := hable.sound.received.length_le
  simp only [pending, Fifo.pop, hframes, List.take_succ_cons, List.take_zero, List.drop_succ_cons,
    List.drop_zero, List.drop_append_of_le_length hreceived, framesPending_append,
    framesPending_cons, framesPending_nil]
  omega

theorem advances_finish (hable : lane.Able greeting) (hended : lane.ended = false)
    (hclosed : lane.outbound.channel.closed = true) :
    Advances way 11 .within (lane.stage greeting).taken
      ({ lane with ended := true }.stage greeting).taken
      (lane.stage greeting).carried ({ lane with ended := true }.stage greeting).carried
      lane.pending { lane with ended := true }.pending := by
  refine advances_between rfl rfl rfl rfl rfl ?_
  simp only [pending, hable.sound.closed_of_channel hable.intact hclosed, hended,
    endPending_ended]
  omega

/-- The reader finds the pipe closed only at the end of the stream. -/
theorem Able.ended_of_reader (hable : lane.Able greeting)
    (hclosed : lane.inbound.pipe.closed = true) : lane.inbound.pump = .ended := by
  rcases hable.sound.inbound.closed hclosed with hgone | hfinished
  · cases hable.reader.symm.trans hgone
  · cases hpump : lane.inbound.pump with
    | waiting => rw [hpump] at hfinished; cases hfinished
    | writing rest => rw [hpump] at hfinished; cases hfinished
    | ended => rfl
    | failed => cases hable.intact.symm.trans (hable.sound.failed hpump)
    | broken rest => cases hable.reader.symm.trans (hable.sound.inbound.broken rest hpump)

theorem Able.closed_of_reader (hable : lane.Able greeting)
    (hclosed : lane.inbound.pipe.closed = true) : lane.outbound.pipe.closed = true :=
  hable.sound.closed_of_channel hable.intact
    (hable.sound.ended (hable.sound.complete (hable.ended_of_reader hclosed)).1).2

/-- A step of the pump that takes frames apart, or of the reader. -/
theorem advances_inbound {event : InboundEvent} {inbound : Inbound} (hable : lane.Able greeting)
    (hdelivers : lane.delivers event = true)
    (hstep : lane.inbound.step shutsDownOnError event = some inbound)
    (hmotion : lane.motion way (.inbound event) ≠ .foreign) :
    Advances way 11 (lane.motion way (.inbound event)) (lane.stage greeting).taken
      ({ lane with inbound := inbound }.stage greeting).taken (lane.stage greeting).carried
      ({ lane with inbound := inbound }.stage greeting).carried lane.pending
      { lane with inbound := inbound }.pending := by
  cases event with
  | message message =>
      cases message with
      | frame frame =>
          cases Inbound.does_of_step hstep with
          | frame hpump =>
              have hframe : lane.outbound.channel.passed[lane.inbound.received.length]? =
                  some frame := beq_iff_eq.mp hdelivers
              obtain ⟨hlength, hget⟩ := List.getElem?_eq_some_iff.mp hframe
              refine advances_between rfl rfl rfl rfl rfl ?_
              simp only [pending, hpump, List.length_append, List.length_singleton,
                List.drop_eq_getElem_cons hlength, hget, framesPending_cons,
                InboundPump.finished]
              omega
      | finished =>
          cases Inbound.does_of_step hstep with
          | finished hpump =>
              have hended := (Bool.and_eq_true_iff.mp hdelivers).1
              have hclosed := hable.sound.closed_of_channel hable.intact
                (hable.sound.ended hended).2
              refine advances_between rfl rfl rfl rfl rfl ?_
              simp only [pending, hpump, hclosed, Fifo.close, InboundPump.finished,
                endPending_received]
              omega
      | failed => exact absurd rfl hmotion
  | write count =>
      rw [Inbound.step] at hstep
      split at hstep
      next rest hpump =>
        obtain ⟨⟨hcount, hle⟩, hwrite⟩ := Option.ite_none_right_eq_some.mp hstep
        obtain ⟨pipe, hpush, hnext⟩ := Option.bind_eq_some_iff.mp hwrite
        cases hnext
        obtain ⟨-, -, hpassed, hqueue, -⟩ := Fifo.push_eq_some_iff.mp hpush
        refine advances_between rfl rfl rfl hpassed rfl ?_
        simp only [pending, hpump, hqueue, List.length_append, List.length_take, List.length_drop,
          InboundPump.finished]
        omega
      next => cases hstep
  | written =>
      cases Inbound.does_of_step hstep with
      | written hpump =>
          refine advances_between rfl rfl rfl rfl rfl ?_
          simp only [pending, hpump, List.length_nil, InboundPump.finished]
          omega
  | brokenPipe => exact absurd rfl hmotion
  | read count =>
      cases Inbound.does_of_step hstep with
      | read hcount =>
          refine .of_within rfl ⟨(List.prefix_append _ _).drop greeting, fun heof => ?_⟩ ?_ ?_
          · rw [(hable.sound.inbound.sawEof heof).1] at hcount
            exact absurd (hcount.1.trans_le hcount.2) (lt_irrefl 0)
          · simp only [stage, written, read, pending, Tape.size, Fifo.pop, List.length_drop,
              List.length_append, List.length_take]
            omega
          · simp only [pending, Fifo.pop, List.length_drop]
            omega
  | readEof =>
      cases Inbound.does_of_step hstep with
      | readEof hreader hqueue hclosed =>
          have hseen : lane.inbound.sawEof = false := by
            refine Bool.eq_false_of_not_eq_true fun heof => hmotion ?_
            rw [motion, if_pos heof]
          have hstart := hable.closed_of_reader hclosed
          rw [motion, if_neg (Bool.eq_false_iff.mp hseen)]
          refine .of_within rfl ⟨List.prefix_refl _, fun heof => ?_⟩ ?_ ?_
          · cases hseen.symm.trans heof
          · simp only [stage, written, read, pending, Tape.size, hseen, hstart, endPending_seen,
              Bool.toNat_true, Bool.toNat_false]
            omega
          · simp only [pending, hseen, hstart, endPending_seen]
            omega

theorem advances_step {event : LaneEvent} (hable : lane.Able greeting)
    (hstep : lane.step shutsDownOnError event = some next)
    (hmotion : lane.motion way event ≠ .foreign) :
    Advances way 11 (lane.motion way event) (lane.stage greeting).taken
      (next.stage greeting).taken (lane.stage greeting).carried (next.stage greeting).carried
      lane.pending next.pending := by
  cases event with
  | outbound event =>
      obtain ⟨hpermits, hstep⟩ := Option.ite_none_right_eq_some.mp hstep
      obtain ⟨outbound, houtbound, hnext⟩ := Option.bind_eq_some_iff.mp hstep
      cases hnext
      exact advances_outbound hable hpermits houtbound hmotion
  | take =>
      obtain ⟨hqueue, hnext⟩ := Option.ite_none_right_eq_some.mp hstep
      cases hnext
      exact advances_take hable hqueue
  | finish =>
      obtain ⟨⟨-, hclosed⟩, hnext⟩ := Option.ite_none_right_eq_some.mp hstep
      cases hnext
      have hended : lane.ended = false := by
        refine Bool.eq_false_of_not_eq_true fun hended => hmotion ?_
        rw [motion, if_pos hended]
      rw [motion, if_neg (Bool.eq_false_iff.mp hended)]
      exact advances_finish hable hended hclosed
  | fail => exact absurd rfl hmotion
  | inbound event =>
      obtain ⟨hdelivers, hstep⟩ := Option.ite_none_right_eq_some.mp hstep
      obtain ⟨inbound, hinbound, hnext⟩ := Option.bind_eq_some_iff.mp hstep
      cases hnext
      exact advances_inbound hable hdelivers hinbound hmotion

/-- A lane that goes on does not break, keeps its reader and forgets nothing written. -/
theorem able_step {event : LaneEvent} (hable : lane.Able greeting)
    (hstep : lane.step shutsDownOnError event = some next)
    (hmotion : lane.motion way event ≠ .foreign) : next.Able greeting := by
  have hsound := sound_step hstep hable.sound
  have htight := tight_step hstep hable.tight
  cases event with
  | outbound event =>
      obtain ⟨-, hstep⟩ := Option.ite_none_right_eq_some.mp hstep
      obtain ⟨outbound, houtbound, hnext⟩ := Option.bind_eq_some_iff.mp hstep
      cases hnext
      refine ⟨hsound, htight, hable.intact, hable.reader, hable.greeted.trans ?_⟩
      cases Outbound.does_of_step houtbound with
      | write hpush =>
          simp only [written, Fifo.pushed_of_push hpush, List.length_append]
          omega
      | shutdown => exact le_refl _
      | read hpump => exact (congrArg List.length (Fifo.pushed_pop _ _)).ge
      | readEof hpump hqueue hclosed => exact le_refl _
      | send hpump hpush => exact le_refl _
      | sendFailed hpump => exact le_refl _
  | take =>
      obtain ⟨-, hnext⟩ := Option.ite_none_right_eq_some.mp hstep
      cases hnext
      exact ⟨hsound, htight, hable.intact, hable.reader, hable.greeted⟩
  | finish =>
      obtain ⟨-, hnext⟩ := Option.ite_none_right_eq_some.mp hstep
      cases hnext
      exact ⟨hsound, htight, hable.intact, hable.reader, hable.greeted⟩
  | fail => exact absurd rfl hmotion
  | inbound event =>
      obtain ⟨-, hstep⟩ := Option.ite_none_right_eq_some.mp hstep
      obtain ⟨inbound, hinbound, hnext⟩ := Option.bind_eq_some_iff.mp hstep
      cases hnext
      refine ⟨hsound, htight, hable.intact, Eq.trans ?_ hable.reader, hable.greeted⟩
      cases Inbound.does_of_step hinbound <;> rfl

/-! ## At rest -/

/-- The lane cannot go on with what has been written. -/
def Rests (shutsDownOnError : Bool) (way : Way) (lane : Lane) : Prop :=
  ∀ event, lane.motion way event = .within → lane.step shutsDownOnError event = none

theorem Rests.inbound (hrests : lane.Rests shutsDownOnError way) (event : InboundEvent)
    (hmotion : lane.motion way (.inbound event) = .within)
    (hdelivers : lane.delivers event = true) :
    lane.inbound.step shutsDownOnError event = none := by
  by_contra hsome
  obtain ⟨inbound, hstep⟩ := Option.ne_none_iff_exists'.mp hsome
  have hnone := hrests (.inbound event) hmotion
  rw [step, if_pos hdelivers, hstep] at hnone
  cases hnone

theorem Rests.outbound (hrests : lane.Rests shutsDownOnError way) (event : OutboundEvent)
    (hmotion : lane.motion way (.outbound event) = .within)
    (hpermits : lane.permits event = true) : lane.outbound.step event = none := by
  by_contra hsome
  obtain ⟨outbound, hstep⟩ := Option.ne_none_iff_exists'.mp hsome
  have hnone := hrests (.outbound event) hmotion
  rw [step, if_pos hpermits, hstep] at hnone
  cases hnone

/-- The reader has read all there is. -/
theorem Rests.queue (hrests : lane.Rests shutsDownOnError way) (hable : lane.Able greeting) :
    lane.inbound.pipe.queue = [] := by
  by_contra hqueue
  have hnone := hrests.inbound (.read 1) rfl rfl
  rw [Inbound.step, if_pos ⟨hable.reader, Nat.one_pos, List.length_pos_of_ne_nil hqueue⟩] at hnone
  cases hnone

/-- The second pump waits for a frame, or has seen the end. -/
theorem Rests.pump (hrests : lane.Rests shutsDownOnError way) (hable : lane.Able greeting) :
    lane.inbound.pump = .waiting ∨ lane.inbound.pump = .ended := by
  cases hpump : lane.inbound.pump with
  | waiting => exact .inl rfl
  | ended => exact .inr rfl
  | failed => cases hable.intact.symm.trans (hable.sound.failed hpump)
  | broken rest => cases hable.reader.symm.trans (hable.sound.inbound.broken rest hpump)
  | writing rest =>
      cases rest with
      | nil =>
          have hnone := hrests.inbound .written rfl rfl
          rw [Inbound.step, if_pos hpump] at hnone
          cases hnone
      | cons byte rest =>
          have hbusy : lane.inbound.pump.finished = false := by rw [hpump]; rfl
          have hopen : lane.inbound.pipe.closed = false := by
            refine Bool.eq_false_of_not_eq_true fun hclosed => ?_
            cases hable.reader.symm.trans (hable.sound.inbound.gone_of_closed hbusy hclosed)
          have hroom : lane.inbound.pipe.queue.length + [byte].length ≤ pipeCapacity := by
            rw [hrests.queue hable]
            exact Nat.one_le_ofNat
          obtain ⟨pipe, hpush⟩ := Fifo.exists_push hopen hroom
          have hnone := hrests.inbound (.write 1) rfl rfl
          simp only [Inbound.step, hpump, List.take_succ_cons, List.take_zero, hpush] at hnone
          rw [if_pos ⟨Nat.one_pos, Nat.le_add_left 1 rest.length⟩] at hnone
          cases hnone

/-- With the second pump waiting, nothing is on the way, and nothing ends. -/
theorem Rests.waiting (hrests : lane.Rests shutsDownOnError way) (hable : lane.Able greeting)
    (hpump : lane.inbound.pump = .waiting) :
    lane.inbound.received = lane.outbound.channel.passed ∧ lane.outbound.channel.queue = [] ∧
      lane.outbound.channel.closed = false := by
  have hreceived : lane.inbound.received = lane.outbound.channel.passed := by
    by_contra hmore
    obtain ⟨-, frame, hframe⟩ := Inbound.exists_next_frame hable.sound.received hmore
    have hnone := hrests.inbound (.message (.frame frame)) rfl (beq_iff_eq.mpr hframe)
    rw [Inbound.step, hpump] at hnone
    cases hnone
  have hqueue : lane.outbound.channel.queue = [] := by
    by_contra hqueue
    have hnone := hrests .take rfl
    rw [step, if_pos hqueue] at hnone
    cases hnone
  have hended : lane.ended = false := by
    refine Bool.eq_false_of_not_eq_true fun hended => ?_
    have hdelivers : lane.delivers (.message .finished) = true := by
      rw [delivers, hended, hreceived, Bool.true_and, beq_self_eq_true]
    have hnone := hrests.inbound (.message .finished) rfl hdelivers
    rw [Inbound.step, hpump] at hnone
    cases hnone
  refine ⟨hreceived, hqueue, Bool.eq_false_of_not_eq_true fun hclosed => ?_⟩
  have hnone := hrests .finish (by rw [motion, if_neg (Bool.eq_false_iff.mp hended)])
  rw [step, if_pos ⟨hqueue, hclosed⟩] at hnone
  cases hnone

/-- With the channel empty and open, the first pump waits for bytes. -/
theorem Rests.reading (hrests : lane.Rests shutsDownOnError way) (hable : lane.Able greeting)
    (hqueue : lane.outbound.channel.queue = []) (hopen : lane.outbound.channel.closed = false) :
    lane.outbound.pump = .reading ∧ lane.outbound.pipe.queue = [] ∧
      lane.outbound.pipe.closed = false := by
  have hbusy : lane.outbound.pump.finished = false := by
    refine Bool.eq_false_of_not_eq_true fun hfinished => ?_
    cases hopen.symm.trans (hable.tight.channel hfinished)
  have hpump : lane.outbound.pump = .reading := by
    cases hpump : lane.outbound.pump with
    | reading => rfl
    | ended => rw [hpump] at hbusy; cases hbusy
    | rejected payload => rw [hpump] at hbusy; cases hbusy
    | sending payload =>
        have hroom : lane.outbound.channel.queue.length + [(⟨payload⟩ : TunnelFrame)].length ≤
            channelCapacity := by
          rw [hqueue]
          exact Nat.one_le_ofNat
        obtain ⟨channel, hpush⟩ := Fifo.exists_push hopen hroom
        have hnone := hrests.outbound .send rfl rfl
        simp only [Outbound.step, hpump, hpush] at hnone
        cases hnone
  have hempty : lane.outbound.pipe.queue = [] := by
    by_contra hmore
    have hnone := hrests.outbound (.read 1) rfl rfl
    simp only [Outbound.step, hpump] at hnone
    rw [if_pos ⟨Nat.one_pos, le_min Nat.one_le_ofNat (List.length_pos_of_ne_nil hmore)⟩] at hnone
    cases hnone
  refine ⟨hpump, hempty, Bool.eq_false_of_not_eq_true fun hclosed => ?_⟩
  have hnone := hrests.outbound .readEof rfl rfl
  simp only [Outbound.step, hpump] at hnone
  rw [if_pos ⟨hempty, hclosed⟩] at hnone
  cases hnone

/-- At rest all that has been written has been read, and more can be written unless that
was all. -/
theorem Rests.settled (hrests : lane.Rests shutsDownOnError way) (hable : lane.Able greeting) :
    (lane.stage greeting).carried = (lane.stage greeting).taken ∧
      ((lane.stage greeting).taken.ended = false →
        lane.outbound.pipe.queue = [] ∧ lane.outbound.pipe.closed = false) := by
  have hempty := hrests.queue hable
  rcases hrests.pump hable with hpump | hpump
  · obtain ⟨hreceived, hchannel, hopen⟩ := hrests.waiting hable hpump
    obtain ⟨hreading, hqueue, hunclosed⟩ := hrests.reading hable hchannel hopen
    have hunseen : lane.inbound.sawEof = false :=
      hable.sound.inbound.sawEof_eq_false (by rw [hpump]; rfl)
    have hread : lane.read = lane.written := by
      have hin := hable.sound.inbound.conserved
      have hout := hable.sound.outbound.conserved
      rw [hpump, InboundPump.held, List.append_nil, Fifo.pushed_of_queue_eq_nil hempty,
        hreceived] at hin
      rw [hreading, OutboundPump.held, List.append_nil,
        Fifo.pushed_of_queue_eq_nil hchannel] at hout
      rw [read, hin, hout, written, Fifo.pushed_of_queue_eq_nil hqueue]
    refine ⟨?_, fun _ => ⟨hqueue, hunclosed⟩⟩
    rw [stage, hread, hunseen, hunclosed, Bool.false_and]
  · have hclosed := hable.tight.pipe hpump
    have hseen : lane.inbound.sawEof = true := by
      by_contra hunseen
      have hnone := hrests.inbound .readEof (by rw [motion, if_neg hunseen]) rfl
      rw [Inbound.step, if_pos ⟨hable.reader, hempty, hclosed⟩] at hnone
      cases hnone
    have hstart := hable.closed_of_reader hclosed
    have hread := hable.sound.read_eq hable.intact hseen
    refine ⟨?_, fun hended => ?_⟩
    · rw [stage, hread, hseen, hstart, hable.intact]
      rfl
    · change (lane.outbound.pipe.closed && !lane.failed) = false at hended
      rw [hstart, hable.intact] at hended
      cases hended

theorem exists_write (shutsDownOnError : Bool) (hable : lane.Able greeting)
    (hqueue : lane.outbound.pipe.queue = []) (hopen : lane.outbound.pipe.closed = false)
    (symbol : UInt8) :
    ∃ next, lane.step shutsDownOnError (.outbound (.write [symbol])) = some next ∧
      (next.stage greeting).taken = ⟨(lane.stage greeting).taken.symbols ++ [symbol], false⟩ := by
  have hroom : lane.outbound.pipe.queue.length + [symbol].length ≤ pipeCapacity := by
    rw [hqueue]
    exact Nat.one_le_ofNat
  obtain ⟨pipe, hpush⟩ := Fifo.exists_push hopen hroom
  obtain ⟨-, -, -, -, hopen'⟩ := Fifo.push_eq_some_iff.mp hpush
  have hstep : lane.step shutsDownOnError (.outbound (.write [symbol])) =
      some { lane with outbound := { lane.outbound with pipe := pipe } } := by
    simp only [step, permits, if_true, Outbound.step, hpush]
    rfl
  have hwritten : pipe.pushed.drop greeting = lane.written.drop greeting ++ [symbol] := by
    rw [Fifo.pushed_of_push hpush]
    exact List.drop_append_of_le_length hable.greeted
  refine ⟨_, hstep, ?_⟩
  simp only [stage, written, hwritten, hopen', Bool.false_and]

theorem exists_shutdown (shutsDownOnError : Bool) (hable : lane.Able greeting) :
    ∃ next, lane.step shutsDownOnError (.outbound .shutdown) = some next ∧
      (next.stage greeting).taken = ⟨(lane.stage greeting).taken.symbols, true⟩ := by
  have hstep : lane.step shutsDownOnError (.outbound .shutdown) = some lane.closePipe := rfl
  refine ⟨_, hstep, ?_⟩
  simp only [stage, closePipe, Fifo.close, hable.intact]
  rfl

end Lane

namespace Tunnel

variable {response : ℕ} {tunnel next : Tunnel} {event : TunnelEvent}

theorem tight_step (hstep : tunnel.step event = some next)
    (htight : tunnel.up.Tight ∧ tunnel.down.Tight) : next.up.Tight ∧ next.down.Tight := by
  obtain ⟨hup, hdown⟩ := htight
  cases event with
  | up event =>
      obtain ⟨up, hlane, hnext⟩ := Option.bind_eq_some_iff.mp hstep
      cases hnext
      exact ⟨Lane.tight_step hlane hup, hdown⟩
  | down event =>
      obtain ⟨down, hlane, hnext⟩ := Option.bind_eq_some_iff.mp hstep
      cases hnext
      exact ⟨hup, Lane.tight_step hlane hdown⟩
  | dropApplication =>
      cases hstep
      exact ⟨⟨hup.channel, hup.pipe⟩, hdown.channel, fun _ => rfl⟩
  | dropHandler =>
      cases hstep
      exact ⟨⟨hup.channel, fun _ => rfl⟩, hdown.channel, hdown.pipe⟩
  | dropClientBridge =>
      obtain ⟨-, hnext⟩ := Option.ite_none_right_eq_some.mp hstep
      cases hnext
      exact ⟨⟨hup.channel, hup.pipe⟩, hdown.channel, fun _ => rfl⟩
  | dropServerBridge =>
      obtain ⟨-, hnext⟩ := Option.ite_none_right_eq_some.mp hstep
      cases hnext
      exact ⟨⟨hup.channel, fun _ => rfl⟩, hdown.channel, hdown.pipe⟩

/-- The handler has written its response, and both ends keep their streams. -/
structure Ready (response : ℕ) (tunnel : Tunnel) : Prop where
  greeted : response ≤ tunnel.down.written.length
  up_reader : tunnel.up.inbound.readerGone = false
  down_reader : tunnel.down.inbound.readerGone = false

/-- What an event is to the tunnel. -/
def motion (tunnel : Tunnel) : TunnelEvent → Motion
  | .up event => tunnel.up.motion .forth event
  | .down event => tunnel.down.motion .back event
  | _ => .foreign

def pending : Way → Tunnel → ℕ
  | .forth, tunnel => tunnel.up.pending
  | .back, tunnel => tunnel.down.pending

theorem able_of_live (hlive : (hop response).Live (Ready response) tunnel) :
    tunnel.up.Able 0 ∧ tunnel.down.Able response := by
  obtain ⟨_, hrun⟩ := hlive.reached
  obtain ⟨hup, hdown⟩ := sound_run hrun
  obtain ⟨hupTight, hdownTight⟩ :=
    hrun.invariant tight_step ⟨Lane.tight_start, Lane.tight_start⟩
  exact ⟨⟨hup, hupTight, (hlive.intact .forth).1, hlive.ready.up_reader, Nat.zero_le _⟩,
    hdown, hdownTight, (hlive.intact .back).1, hlive.ready.down_reader, hlive.ready.greeted⟩

theorem intact_of_able (hup : tunnel.up.Able 0) (hdown : tunnel.down.Able response) :
    (hop response).Intact tunnel := by
  rintro (_ | _)
  · exact ⟨hup.intact, rfl⟩
  · exact ⟨hdown.intact, rfl⟩

theorem step_up {event : LaneEvent} {up : Lane}
    (hstep : tunnel.up.step GrpcProxy.shutsDownOnError event = some up) :
    (hop response).step tunnel (.up event) = some { tunnel with up := up } := by
  change tunnel.step (.up event) = _
  rw [step, hstep]
  rfl

theorem step_down {event : LaneEvent} {down : Lane}
    (hstep : tunnel.down.step GrpcClient.shutsDownOnError event = some down) :
    (hop response).step tunnel (.down event) = some { tunnel with down := down } := by
  change tunnel.step (.down event) = _
  rw [step, hstep]
  rfl

theorem drives_step (hlive : (hop response).Live (Ready response) tunnel)
    (hstep : (hop response).step tunnel event = some next)
    (hmotion : tunnel.motion event ≠ .foreign) :
    Ready response next ∧ Drives (hop response) 11 pending tunnel next (tunnel.motion event) := by
  obtain ⟨hup, hdown⟩ := able_of_live hlive
  cases event with
  | up event =>
      obtain ⟨up, hlane, hnext⟩ := Option.bind_eq_some_iff.mp hstep
      cases hnext
      have hable := Lane.able_step hup hlane hmotion
      exact ⟨⟨hdown.greeted, hable.reader, hdown.reader⟩,
        drives_of_advances .forth (intact_of_able hable hdown) rfl rfl rfl
          (Lane.advances_step hup hlane hmotion)⟩
  | down event =>
      obtain ⟨down, hlane, hnext⟩ := Option.bind_eq_some_iff.mp hstep
      cases hnext
      have hable := Lane.able_step hdown hlane hmotion
      exact ⟨⟨hable.greeted, hup.reader, hable.reader⟩,
        drives_of_advances .back (intact_of_able hup hable) rfl rfl rfl
          (Lane.advances_step hdown hlane hmotion)⟩
  | dropApplication => exact absurd rfl hmotion
  | dropHandler => exact absurd rfl hmotion
  | dropClientBridge => exact absurd rfl hmotion
  | dropServerBridge => exact absurd rfl hmotion

theorem rests_up (hrests : (hop response).Rests motion tunnel) :
    tunnel.up.Rests GrpcProxy.shutsDownOnError .forth :=
  fun event hmotion => by
    by_contra hsome
    obtain ⟨up, hlane⟩ := Option.ne_none_iff_exists'.mp hsome
    have hnone := hrests (.up event) hmotion
    rw [step_up hlane] at hnone
    cases hnone

theorem rests_down (hrests : (hop response).Rests motion tunnel) :
    tunnel.down.Rests GrpcClient.shutsDownOnError .back :=
  fun event hmotion => by
    by_contra hsome
    obtain ⟨down, hlane⟩ := Option.ne_none_iff_exists'.mp hsome
    have hnone := hrests (.down event) hmotion
    rw [step_down hlane] at hnone
    cases hnone

/-- The tunnel does not stop before it has to. -/
def drains (response : ℕ) : Drains (hop response) where
  ready := Ready response
  motion := motion
  cost := 11
  pending := pending
  drives := drives_step
  settled hlive hrests way := by
    obtain ⟨hup, hdown⟩ := able_of_live hlive
    cases way with
    | forth => exact ((rests_up hrests).settled hup).1
    | back => exact ((rests_down hrests).settled hdown).1
  takes {tunnel} hlive hrests way hopen := by
    obtain ⟨hup, hdown⟩ := able_of_live hlive
    cases way with
    | forth =>
        obtain ⟨hqueue, hunclosed⟩ := ((rests_up hrests).settled hup).2 hopen
        constructor
        · intro symbol
          obtain ⟨up, hlane, htaken⟩ :=
            Lane.exists_write GrpcProxy.shutsDownOnError hup hqueue hunclosed symbol
          exact ⟨_, _, rfl, step_up hlane, htaken⟩
        · obtain ⟨up, hlane, htaken⟩ := Lane.exists_shutdown GrpcProxy.shutsDownOnError hup
          refine ⟨_, _, ?_, step_up hlane, htaken⟩
          rw [motion, Lane.motion, if_neg (Bool.eq_false_iff.mp hunclosed)]
    | back =>
        obtain ⟨hqueue, hunclosed⟩ := ((rests_down hrests).settled hdown).2 hopen
        constructor
        · intro symbol
          obtain ⟨down, hlane, htaken⟩ :=
            Lane.exists_write GrpcClient.shutsDownOnError hdown hqueue hunclosed symbol
          exact ⟨_, _, rfl, step_down hlane, htaken⟩
        · obtain ⟨down, hlane, htaken⟩ := Lane.exists_shutdown GrpcClient.shutsDownOnError hdown
          refine ⟨_, _, ?_, step_down hlane, htaken⟩
          rw [motion, Lane.motion, if_neg (Bool.eq_false_iff.mp hunclosed)]

end Tunnel

end VpnBridge.Grpc
