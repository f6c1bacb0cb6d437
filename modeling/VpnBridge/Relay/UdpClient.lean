import VpnBridge.Core.Cut
import VpnBridge.Core.TransitionSystem
import VpnBridge.Proto.Datagram

/-!
# UDP relays of the clients

The host and the proxy client relay a local UDP flow with the same two loops: one
frames the datagrams of the flow for the tunnel, the other writes the datagrams
that the tunnel delivers to the flow.  Reading nothing is their sign for the end
of the flow, and writing nothing is no write, so the empty datagram ends the one
loop and is lost in the other.  The other loop also writes bytes, not datagrams: what
a write of the flow does not take goes into the next one, a datagram of its own.
-/

namespace VpnBridge.Relay

open VpnBridge.Proto VpnBridge.TransitionSystem

/-- Where the two copies differ: what a shutdown of the tunnel comes to, and how the
result of either loop is reported. -/
structure UdpRelay where
  shutdown : Except IoError Unit → Except IoError Unit
  uploaded : Except IoError Unit → Except AnyhowError Unit
  downloaded : Except IoError Unit → Except AnyhowError Unit

/-- `is_benign_eof`. -/
def isBenignEof (failure : IoError) : Bool :=
  match failure.kind with
  | .unexpectedEof => true
  | .brokenPipe => true
  | .connectionReset => true
  | .connectionAborted => true
  | .notConnected => true
  | .timedOut => true
  | _ => false

/-- A closed tunnel or an idled-out flow is a normal end. -/
def ignoreBenign : Except IoError Unit → Except AnyhowError Unit
  | .ok () => .ok ()
  | .error failure => if isBenignEof failure = true then .ok () else .error [failure.message]

def withContext (context : String) : Except IoError Unit → Except AnyhowError Unit
  | .ok () => .ok ()
  | .error failure => .error [context, failure.message]

/-- `relay_udp` of the host. -/
def hostRelayUdp : UdpRelay where
  shutdown _ := .ok ()
  uploaded := ignoreBenign
  downloaded := ignoreBenign

/-- `relay_udp` of the proxy client. -/
def clientRelayUdp : UdpRelay where
  shutdown := id
  uploaded := withContext "uploading UDP over proxy transport"
  downloaded := withContext "downloading UDP over proxy transport"

/-- The loop from the local flow to the tunnel. -/
inductive Uplink where
  | reading
  | writing (rest : List UInt8)
  | closing
  deriving DecidableEq

/-- The bytes of the current frame that are still to be written. -/
def Uplink.held : Uplink → List UInt8
  | .reading => []
  | .writing rest => rest
  | .closing => []

/-- The loop from the tunnel to the local flow. -/
inductive Downlink where
  | reading
  | writing (rest : List UInt8)
  deriving DecidableEq

/-- The datagram that is still to be written. -/
def Downlink.held : Downlink → List (List UInt8)
  | .reading => []
  | .writing rest => if rest = [] then [] else [rest]

structure UdpFlow where
  /-- The datagrams that the local flow has handed over. -/
  handed : List (List UInt8)
  uplink : Uplink
  /-- The bytes that the tunnel has taken. -/
  carried : List UInt8
  /-- The bytes of the tunnel that are not read yet. -/
  pending : List UInt8
  buffer : List UInt8
  /-- The datagrams read off the tunnel. -/
  arrived : List (List UInt8)
  downlink : Downlink
  /-- The datagrams written to the local flow. -/
  delivered : List (List UInt8)
  /-- The local flow has ended or failed. -/
  localOver : Bool
  /-- The tunnel has ended or failed. -/
  tunnelOver : Bool
  result : Option (Except AnyhowError Unit)

inductive UplinkEvent where
  /-- A read of the local flow. -/
  | datagram (payload : List UInt8)
  | localEnd
  | readError (failure : IoError)
  /-- The tunnel takes a part of the frame. -/
  | take (count : ℕ)
  | writeError (failure : IoError)
  | written
  | shutdown (answer : Except IoError Unit)

inductive DownlinkEvent where
  | bytes (bytes : List UInt8)
  /-- `read_datagram` returns. -/
  | datagram
  | tunnelEnd
  | readError (failure : IoError)
  /-- The local flow takes a part of a write, as one datagram. -/
  | take (count : ℕ)
  | writeError (failure : IoError)
  | written

inductive UdpEvent where
  | uplink (event : UplinkEvent)
  | downlink (event : DownlinkEvent)

namespace UdpFlow

def start : UdpFlow where
  handed := []
  uplink := .reading
  carried := []
  pending := []
  buffer := []
  arrived := []
  downlink := .reading
  delivered := []
  localOver := false
  tunnelOver := false
  result := none

/-- A step of the loop from the local flow to the tunnel. -/
def uplinkStep (relay : UdpRelay) (flow : UdpFlow) : UplinkEvent → Option UdpFlow
  | .datagram payload =>
      if flow.uplink = .reading ∧ payload.length ≤ maxDatagram then
        some { flow with
          handed := flow.handed ++ [payload]
          uplink := if payload.length = 0 then .closing else .writing (datagramBuf payload) }
      else none
  | .localEnd =>
      if flow.uplink = .reading then some { flow with uplink := .closing, localOver := true }
      else none
  | .readError failure =>
      if flow.uplink = .reading then
        some { flow with localOver := true, result := some (relay.uploaded (.error failure)) }
      else none
  | .take count =>
      match flow.uplink with
      | .writing rest =>
          if 0 < count ∧ count ≤ rest.length then
            some { flow with
              uplink := .writing (rest.drop count)
              carried := flow.carried ++ rest.take count }
          else none
      | _ => none
  | .writeError failure =>
      match flow.uplink with
      | .writing _ =>
          some { flow with tunnelOver := true, result := some (relay.uploaded (.error failure)) }
      | _ => none
  | .written =>
      if flow.uplink = .writing [] then some { flow with uplink := .reading } else none
  | .shutdown answer =>
      if flow.uplink = .closing then
        some { flow with result := some (relay.uploaded (relay.shutdown answer)) }
      else none

/-- A step of the loop from the tunnel to the local flow. -/
def downlinkStep (relay : UdpRelay) (flow : UdpFlow) :
    DownlinkEvent → Option UdpFlow
  | .bytes bytes => some { flow with pending := flow.pending ++ bytes }
  | .datagram =>
      match flow.downlink, (readDatagram flow.buffer).run flow.pending with
      | .reading, .ok ((length, buffer), rest) =>
          some { flow with
            pending := rest
            buffer := buffer
            arrived := flow.arrived ++ [buffer.take length]
            downlink := .writing (buffer.take length) }
      | _, _ => none
  | .tunnelEnd =>
      match flow.downlink, (readDatagram flow.buffer).run flow.pending with
      | .reading, .error failure =>
          some { flow with tunnelOver := true, result := some (relay.downloaded (.error failure)) }
      | _, _ => none
  | .readError failure =>
      if flow.downlink = .reading then
        some { flow with tunnelOver := true, result := some (relay.downloaded (.error failure)) }
      else none
  | .take count =>
      match flow.downlink with
      | .writing rest =>
          if 0 < count ∧ count ≤ rest.length then
            some { flow with
              delivered := flow.delivered ++ [rest.take count]
              downlink := .writing (rest.drop count) }
          else none
      | _ => none
  | .writeError failure =>
      match flow.downlink with
      | .writing _ =>
          some { flow with localOver := true, result := some (relay.downloaded (.error failure)) }
      | _ => none
  | .written =>
      if flow.downlink = .writing [] then some { flow with downlink := .reading } else none

/-- The loops run until the first of them ends. -/
def step (relay : UdpRelay) (flow : UdpFlow) (event : UdpEvent) : Option UdpFlow :=
  if flow.result.isNone = true then
    match event with
    | .uplink event => flow.uplinkStep relay event
    | .downlink event => flow.downlinkStep relay event
  else none

/-- Every datagram has been passed on or is about to be, in order and unchanged, and the
flow is over only if one of its two sides is. -/
structure Faithful (flow : UdpFlow) : Prop where
  up : flow.carried ++ flow.uplink.held = flow.handed.flatMap datagramBuf
  down : flow.delivered ++ flow.downlink.held = flow.arrived
  ended : flow.result ≠ none → flow.localOver = true ∨ flow.tunnelOver = true

/-- The writes to the local flow, with what is left of the last one. -/
def writes (flow : UdpFlow) : List (List UInt8) :=
  flow.delivered ++ flow.downlink.held

/-- Where the local flow takes a datagram, it takes all of it. -/
def TakesWhole (flow : UdpFlow) : UdpEvent → Prop
  | .downlink (.take count) => ∀ rest, flow.downlink = .writing rest → count = rest.length
  | _ => True

/-- In every step of a run. -/
def TakenWhole (trace : List (Transition UdpFlow UdpEvent)) : Prop :=
  ∀ tr ∈ trace, tr.pre.TakesWhole tr.event

/-! ## What the loops do -/

variable {relay : UdpRelay} {flow next : UdpFlow}

/-- What a step of the loop to the tunnel does. -/
inductive Uploads (relay : UdpRelay) (flow : UdpFlow) : UplinkEvent → UdpFlow → Prop where
  | datagram {payload : List UInt8} (hreading : flow.uplink = .reading) :
      Uploads relay flow (.datagram payload) { flow with
        handed := flow.handed ++ [payload]
        uplink := if payload.length = 0 then .closing else .writing (datagramBuf payload) }
  | localEnd (hreading : flow.uplink = .reading) :
      Uploads relay flow .localEnd { flow with uplink := .closing, localOver := true }
  | readError {failure : IoError} (hreading : flow.uplink = .reading) :
      Uploads relay flow (.readError failure)
        { flow with localOver := true, result := some (relay.uploaded (.error failure)) }
  | take {rest : List UInt8} {count : ℕ} (hwriting : flow.uplink = .writing rest) :
      Uploads relay flow (.take count) { flow with
        uplink := .writing (rest.drop count)
        carried := flow.carried ++ rest.take count }
  | writeError {rest : List UInt8} {failure : IoError} (hwriting : flow.uplink = .writing rest) :
      Uploads relay flow (.writeError failure)
        { flow with tunnelOver := true, result := some (relay.uploaded (.error failure)) }
  | written (hwriting : flow.uplink = .writing []) :
      Uploads relay flow .written { flow with uplink := .reading }
  | shutdown {answer : Except IoError Unit} (hclosing : flow.uplink = .closing) :
      Uploads relay flow (.shutdown answer)
        { flow with result := some (relay.uploaded (relay.shutdown answer)) }

theorem uploads_of_uplinkStep {event : UplinkEvent}
    (hstep : flow.uplinkStep relay event = some next) : Uploads relay flow event next := by
  cases event with
  | datagram payload =>
      obtain ⟨⟨hreading, -⟩, hnext⟩ := Option.ite_none_right_eq_some.mp hstep
      cases hnext
      exact .datagram hreading
  | localEnd =>
      obtain ⟨hreading, hnext⟩ := Option.ite_none_right_eq_some.mp hstep
      cases hnext
      exact .localEnd hreading
  | readError failure =>
      obtain ⟨hreading, hnext⟩ := Option.ite_none_right_eq_some.mp hstep
      cases hnext
      exact .readError hreading
  | take count =>
      rw [uplinkStep] at hstep
      split at hstep
      next rest hwriting =>
        obtain ⟨-, hnext⟩ := Option.ite_none_right_eq_some.mp hstep
        cases hnext
        exact .take hwriting
      next => cases hstep
  | writeError failure =>
      rw [uplinkStep] at hstep
      split at hstep
      next rest hwriting =>
        cases hstep
        exact .writeError hwriting
      next => cases hstep
  | written =>
      obtain ⟨hwriting, hnext⟩ := Option.ite_none_right_eq_some.mp hstep
      cases hnext
      exact .written hwriting
  | shutdown answer =>
      obtain ⟨hclosing, hnext⟩ := Option.ite_none_right_eq_some.mp hstep
      cases hnext
      exact .shutdown hclosing

/-- What a step of the loop to the local flow does. -/
inductive Downloads (relay : UdpRelay) (flow : UdpFlow) :
    DownlinkEvent → UdpFlow → Prop where
  | bytes {bytes : List UInt8} :
      Downloads relay flow (.bytes bytes) { flow with pending := flow.pending ++ bytes }
  | datagram {length : ℕ} {buffer rest : List UInt8} (hreading : flow.downlink = .reading)
      (hread : (readDatagram flow.buffer).run flow.pending = .ok ((length, buffer), rest)) :
      Downloads relay flow .datagram { flow with
        pending := rest
        buffer := buffer
        arrived := flow.arrived ++ [buffer.take length]
        downlink := .writing (buffer.take length) }
  | tunnelEnd {failure : IoError} (hreading : flow.downlink = .reading) :
      Downloads relay flow .tunnelEnd
        { flow with tunnelOver := true, result := some (relay.downloaded (.error failure)) }
  | readError {failure : IoError} (hreading : flow.downlink = .reading) :
      Downloads relay flow (.readError failure)
        { flow with tunnelOver := true, result := some (relay.downloaded (.error failure)) }
  | take {rest : List UInt8} {count : ℕ} (hwriting : flow.downlink = .writing rest)
      (hpositive : 0 < count) (hle : count ≤ rest.length) :
      Downloads relay flow (.take count) { flow with
        delivered := flow.delivered ++ [rest.take count]
        downlink := .writing (rest.drop count) }
  | writeError {rest : List UInt8} {failure : IoError}
      (hwriting : flow.downlink = .writing rest) :
      Downloads relay flow (.writeError failure)
        { flow with localOver := true, result := some (relay.downloaded (.error failure)) }
  | written (hwriting : flow.downlink = .writing []) :
      Downloads relay flow .written { flow with downlink := .reading }

theorem downloads_of_downlinkStep {event : DownlinkEvent}
    (hstep : flow.downlinkStep relay event = some next) :
    Downloads relay flow event next := by
  cases event with
  | bytes bytes =>
      cases hstep
      exact .bytes
  | datagram =>
      rw [downlinkStep] at hstep
      split at hstep
      next length buffer rest hreading hread =>
        cases hstep
        exact .datagram hreading hread
      next => cases hstep
  | tunnelEnd =>
      rw [downlinkStep] at hstep
      split at hstep
      next failure hreading hread =>
        cases hstep
        exact .tunnelEnd hreading
      next => cases hstep
  | readError failure =>
      obtain ⟨hreading, hnext⟩ := Option.ite_none_right_eq_some.mp hstep
      cases hnext
      exact .readError hreading
  | take count =>
      rw [downlinkStep] at hstep
      split at hstep
      next rest hwriting =>
        obtain ⟨⟨hpositive, hle⟩, hnext⟩ := Option.ite_none_right_eq_some.mp hstep
        cases hnext
        exact .take hwriting hpositive hle
      next => cases hstep
  | writeError failure =>
      rw [downlinkStep] at hstep
      split at hstep
      next rest hwriting =>
        cases hstep
        exact .writeError hwriting
      next => cases hstep
  | written =>
      obtain ⟨hwriting, hnext⟩ := Option.ite_none_right_eq_some.mp hstep
      cases hnext
      exact .written hwriting

/-! ## What is passed on -/

/-- The datagrams that are not empty. -/
def nonempty (payloads : List (List UInt8)) : List (List UInt8) :=
  payloads.filter fun payload => payload.length ≠ 0

/-- What holds of a flow in every state: the datagrams are passed on, but for the empty
ones, to the local flow in the pieces that it takes, and an empty one handed over by the
local flow ends it. -/
structure Sound (flow : UdpFlow) : Prop where
  up : flow.carried ++ flow.uplink.held = (nonempty flow.handed).flatMap datagramBuf
  down : Cut flow.arrived flow.writes
  closing : flow.uplink = .closing → flow.localOver = true ∨ [] ∈ flow.handed
  ended : flow.result ≠ none →
    flow.localOver = true ∨ flow.tunnelOver = true ∨ [] ∈ flow.handed

theorem sound_start : Sound start where
  up := rfl
  down := .nil
  closing hclosing := by cases hclosing
  ended hresult := absurd rfl hresult

theorem nonempty_snoc (payloads : List (List UInt8)) (payload : List UInt8) :
    nonempty (payloads ++ [payload]) =
      nonempty payloads ++ if payload = [] then [] else [payload] := by
  rw [nonempty, List.filter_append, nonempty]
  cases payload with
  | nil => rfl
  | cons head rest => rfl

theorem Uploads.sound {event : UplinkEvent} (huploads : Uploads relay flow event next)
    (hrunning : flow.result = none) (hsound : flow.Sound) : next.Sound := by
  have hup := hsound.up
  cases huploads with
  | @datagram payload hreading =>
      rw [hreading, Uplink.held, List.append_nil] at hup
      refine ⟨?_, hsound.down, ?_, fun hresult => absurd hrunning hresult⟩
      · rw [nonempty_snoc, List.flatMap_append, hup]
        cases payload with
        | nil => rfl
        | cons head rest => exact congrArg (_ ++ ·) (List.flatMap_singleton _ _).symm
      · intro hclosing
        cases payload with
        | nil => exact .inr (List.mem_append_right _ (List.mem_singleton_self _))
        | cons head rest => cases hclosing
  | localEnd hreading =>
      rw [hreading] at hup
      exact ⟨hup, hsound.down, fun _ => .inl rfl, fun _ => .inl rfl⟩
  | readError => exact ⟨hup, hsound.down, fun _ => .inl rfl, fun _ => .inl rfl⟩
  | take hwriting =>
      refine ⟨?_, hsound.down, nofun, hsound.ended⟩
      rw [hwriting, Uplink.held] at hup
      rw [← hup, Uplink.held, List.append_assoc, List.take_append_drop]
  | writeError => exact ⟨hup, hsound.down, hsound.closing, fun _ => .inr (.inl rfl)⟩
  | written hwriting =>
      rw [hwriting] at hup
      exact ⟨hup, hsound.down, nofun, hsound.ended⟩
  | shutdown hclosing =>
      refine ⟨hup, hsound.down, hsound.closing, fun _ => ?_⟩
      exact (hsound.closing hclosing).imp_right .inr

/-- What a step does to the writes: a datagram that comes in is one write more, and one
that is not taken whole becomes two. -/
inductive Writes (flow : UdpFlow) (event : UdpEvent) (next : UdpFlow) : Prop where
  | same (hwhole : flow.TakesWhole event) (harrived : next.arrived = flow.arrived)
      (hwrites : next.writes = flow.writes)
  | arrive {payload : List UInt8} (hwhole : flow.TakesWhole event)
      (harrived : next.arrived = flow.arrived ++ [payload])
      (hwrites : next.writes = flow.writes ++ if payload = [] then [] else [payload])
  | cut {front : List (List UInt8)} {left right : List UInt8}
      (hcut : ¬ flow.TakesWhole event) (harrived : next.arrived = flow.arrived)
      (hleft : left ≠ []) (hright : right ≠ [])
      (hbefore : flow.writes = front ++ [left ++ right])
      (hwrites : next.writes = front ++ [left, right])

theorem Uploads.writes {event : UplinkEvent} (huploads : Uploads relay flow event next) :
    Writes flow (.uplink event) next := by
  cases huploads <;> exact .same trivial rfl rfl

theorem writes_of_take {rest : List UInt8} {count : ℕ} (hwriting : flow.downlink = .writing rest)
    (hpositive : 0 < count) (hle : count ≤ rest.length) :
    Writes flow (.downlink (.take count)) { flow with
      delivered := flow.delivered ++ [rest.take count]
      downlink := .writing (rest.drop count) } := by
  have hrest : rest ≠ [] := List.ne_nil_of_length_pos (hpositive.trans_le hle)
  have hbefore : flow.writes = flow.delivered ++ [rest] := by
    rw [UdpFlow.writes, hwriting, Downlink.held, if_neg hrest]
  rcases hle.eq_or_lt with rfl | hlt
  · refine .same ?_ rfl ?_
    · intro rest' hwriting'
      rw [Downlink.writing.inj (hwriting.symm.trans hwriting')]
    · rw [hbefore, UdpFlow.writes, List.take_length, List.drop_length, Downlink.held, if_pos rfl,
        List.append_nil]
  · have hleft : rest.take count ≠ [] :=
      List.ne_nil_of_length_pos (by rw [List.length_take]; omega)
    have hright : rest.drop count ≠ [] :=
      List.ne_nil_of_length_pos (by rw [List.length_drop]; omega)
    rw [← List.take_append_drop count rest] at hbefore
    refine .cut (fun hwhole => hlt.ne (hwhole rest hwriting)) rfl hleft hright hbefore ?_
    rw [UdpFlow.writes, Downlink.held, if_neg hright, List.append_assoc]
    rfl

theorem Downloads.writes {event : DownlinkEvent} (hdownloads : Downloads relay flow event next) :
    Writes flow (.downlink event) next := by
  cases hdownloads with
  | bytes => exact .same trivial rfl rfl
  | datagram hreading =>
      refine .arrive trivial rfl ?_
      rw [UdpFlow.writes, UdpFlow.writes, hreading, Downlink.held, Downlink.held,
        List.append_nil]
  | tunnelEnd => exact .same trivial rfl rfl
  | readError => exact .same trivial rfl rfl
  | take hwriting hpositive hle => exact writes_of_take hwriting hpositive hle
  | writeError => exact .same trivial rfl rfl
  | written hwriting =>
      refine .same trivial rfl ?_
      rw [UdpFlow.writes, UdpFlow.writes, hwriting]
      rfl

/-- No write holds bytes of two datagrams. -/
theorem Writes.cut_of_cut {event : UdpEvent} (hwrites : Writes flow event next)
    (hcut : Cut flow.arrived flow.writes) : Cut next.arrived next.writes := by
  cases hwrites with
  | same hwhole harrived hwrites =>
      rw [harrived, hwrites]
      exact hcut
  | arrive hwhole harrived hwrites =>
      rw [harrived, hwrites]
      exact hcut.append_whole _
  | cut hnot harrived hleft hright hbefore hwrites =>
      rw [harrived, hwrites]
      exact hcut.split hbefore hleft hright

theorem Downloads.sound {event : DownlinkEvent} (hdownloads : Downloads relay flow event next)
    (hsound : flow.Sound) : next.Sound := by
  have hdown := hdownloads.writes.cut_of_cut hsound.down
  cases hdownloads with
  | bytes => exact ⟨hsound.up, hdown, hsound.closing, hsound.ended⟩
  | datagram => exact ⟨hsound.up, hdown, hsound.closing, hsound.ended⟩
  | tunnelEnd => exact ⟨hsound.up, hdown, hsound.closing, fun _ => .inr (.inl rfl)⟩
  | readError => exact ⟨hsound.up, hdown, hsound.closing, fun _ => .inr (.inl rfl)⟩
  | take => exact ⟨hsound.up, hdown, hsound.closing, hsound.ended⟩
  | writeError => exact ⟨hsound.up, hdown, fun _ => .inl rfl, fun _ => .inl rfl⟩
  | written => exact ⟨hsound.up, hdown, hsound.closing, hsound.ended⟩

theorem sound_step {event : UdpEvent} (hstep : flow.step relay event = some next)
    (hsound : flow.Sound) : next.Sound := by
  obtain ⟨hrunning, hstep⟩ := Option.ite_none_right_eq_some.mp hstep
  cases event with
  | uplink event =>
      exact (uploads_of_uplinkStep hstep).sound (Option.isNone_iff_eq_none.mp hrunning) hsound
  | downlink event => exact (downloads_of_downlinkStep hstep).sound hsound

theorem sound_run {trace : List (Transition UdpFlow UdpEvent)}
    (hrun : Execution (step relay) start trace flow) : flow.Sound :=
  Execution.invariant (fun hstep => sound_step hstep) hrun sound_start

theorem writes_of_step {event : UdpEvent} (hstep : flow.step relay event = some next) :
    Writes flow event next := by
  obtain ⟨-, hstep⟩ := Option.ite_none_right_eq_some.mp hstep
  cases event with
  | uplink event => exact (uploads_of_uplinkStep hstep).writes
  | downlink event => exact (downloads_of_downlinkStep hstep).writes

/-- A datagram stays in one write exactly when it is taken whole: once there is a write too
many, there is one in every later state. -/
theorem writes_eq_step {event : UdpEvent} (hstep : flow.step relay event = some next)
    (hsound : flow.Sound) :
    next.writes = nonempty next.arrived ↔
      flow.writes = nonempty flow.arrived ∧ flow.TakesWhole event := by
  cases writes_of_step hstep with
  | same hwhole harrived hwrites =>
      rw [harrived, hwrites]
      exact (and_iff_left hwhole).symm
  | arrive hwhole harrived hwrites =>
      rw [harrived, hwrites, nonempty_snoc, List.append_cancel_right_eq]
      exact (and_iff_left hwhole).symm
  | @cut front left right hnot harrived hleft hright hbefore hwrites =>
      refine iff_of_false (fun hsame => ?_) (fun hboth => hnot hboth.2)
      have hfewer := hsound.down.length_le
      have hlength := congrArg List.length hsame
      rw [hbefore, List.length_append] at hfewer
      rw [hwrites, harrived, nonempty, List.length_append] at hlength
      simp only [List.length_cons, List.length_nil] at hfewer hlength
      omega

theorem writes_eq_run {trace : List (Transition UdpFlow UdpEvent)}
    (hrun : Execution (step relay) start trace flow) :
    flow.writes = nonempty flow.arrived ↔ TakenWhole trace := by
  induction hrun with
  | nil => exact iff_of_true rfl fun _ hmem => absurd hmem List.not_mem_nil
  | snoc hrun hstep ih =>
      rw [writes_eq_step hstep (sound_run hrun), ih, TakenWhole, TakenWhole,
        List.forall_mem_append, List.forall_mem_singleton]

/-- The bytes that the tunnel delivers in a step. -/
def tunnelBytes : UdpEvent → List UInt8
  | .downlink (.bytes bytes) => bytes
  | _ => []

/-- The loop to the tunnel leaves the other one alone. -/
theorem Uploads.downlink_eq {event : UplinkEvent} (huploads : Uploads relay flow event next) :
    next.arrived = flow.arrived ∧ next.pending = flow.pending := by
  cases huploads <;> exact ⟨rfl, rfl⟩

theorem Downloads.arrived_eq {event : DownlinkEvent}
    (hdownloads : Downloads relay flow event next) :
    next.arrived.flatMap datagramBuf ++ next.pending =
      flow.arrived.flatMap datagramBuf ++ flow.pending ++ tunnelBytes (.downlink event) := by
  cases hdownloads with
  | bytes => exact (List.append_assoc _ _ _).symm
  | datagram hreading hread =>
      rw [(datagram_of_read hread).2, List.flatMap_append, List.flatMap_singleton, tunnelBytes,
        List.append_nil, List.append_assoc]
      exact nofun
  | tunnelEnd => exact (List.append_nil _).symm
  | readError => exact (List.append_nil _).symm
  | take => exact (List.append_nil _).symm
  | writeError => exact (List.append_nil _).symm
  | written => exact (List.append_nil _).symm

theorem arrived_of_step {event : UdpEvent} (hstep : flow.step relay event = some next) :
    next.arrived.flatMap datagramBuf ++ next.pending =
      flow.arrived.flatMap datagramBuf ++ flow.pending ++ tunnelBytes event := by
  obtain ⟨-, hstep⟩ := Option.ite_none_right_eq_some.mp hstep
  cases event with
  | uplink event =>
      obtain ⟨harrived, hpending⟩ := (uploads_of_uplinkStep hstep).downlink_eq
      rw [harrived, hpending, tunnelBytes, List.append_nil]
      exact nofun
  | downlink event => exact (downloads_of_downlinkStep hstep).arrived_eq

/-- What has arrived are the datagrams that the tunnel's bytes frame, one after the other. -/
theorem arrived_of_run {trace : List (Transition UdpFlow UdpEvent)}
    (hrun : Execution (step relay) start trace flow) :
    (trace.map Transition.event).flatMap tunnelBytes =
      flow.arrived.flatMap datagramBuf ++ flow.pending := by
  induction hrun with
  | nil => rfl
  | snoc hrun hstep ih =>
      rw [arrived_of_step hstep, List.map_append, List.flatMap_append, ih, List.map_singleton,
        List.flatMap_singleton]

theorem length_flatMap_nonempty_le (payloads : List (List UInt8)) :
    ((nonempty payloads).flatMap datagramBuf).length ≤
      (payloads.flatMap datagramBuf).length := by
  induction payloads with
  | nil => exact le_refl _
  | cons payload payloads ih =>
      cases payload with
      | nil =>
          rw [List.flatMap_cons, List.length_append]
          exact ih.trans (Nat.le_add_left _ _)
      | cons head rest =>
          rw [nonempty, List.filter_cons_of_pos rfl, List.flatMap_cons, List.flatMap_cons,
            List.length_append, List.length_append]
          exact Nat.add_le_add_left ih _

/-- Leaving empty datagrams out shows in the bytes. -/
theorem nil_notMem_of_flatMap_nonempty {payloads : List (List UInt8)}
    (hsame : (nonempty payloads).flatMap datagramBuf = payloads.flatMap datagramBuf) :
    [] ∉ payloads := by
  induction payloads with
  | nil => exact List.not_mem_nil
  | cons payload payloads ih =>
      cases payload with
      | nil =>
          have hlength := congrArg List.length hsame
          have hbound := length_flatMap_nonempty_le payloads
          rw [nonempty, List.filter_cons_of_neg (by decide), ← nonempty, List.flatMap_cons,
            List.length_append, datagramBuf, List.append_nil, length_toBeBytes] at hlength
          omega
      | cons head rest =>
          rw [nonempty, List.filter_cons_of_pos rfl, ← nonempty, List.flatMap_cons,
            List.flatMap_cons, List.append_cancel_left_eq] at hsame
          rw [List.mem_cons, not_or]
          exact ⟨(List.cons_ne_nil head rest).symm, ih hsame⟩

theorem nonempty_eq_self_iff {payloads : List (List UInt8)} :
    nonempty payloads = payloads ↔ [] ∉ payloads := by
  rw [nonempty, List.filter_eq_self]
  constructor
  · intro hall hmem
    cases hall [] hmem
  · intro hmem payload hpayload
    cases payload with
    | nil => exact absurd hpayload hmem
    | cons head rest => rfl

end UdpFlow

/-- A relay is faithful exactly as long as no datagram is empty, in either direction, and
the local flow takes each datagram in one write. -/
theorem udp_relay_faithful_iff {relay : UdpRelay} {trace : List (Transition UdpFlow UdpEvent)}
    {flow : UdpFlow} (hrun : Execution (UdpFlow.step relay) .start trace flow) :
    flow.Faithful ↔ [] ∉ flow.handed ∧ [] ∉ flow.arrived ∧ UdpFlow.TakenWhole trace := by
  have hsound := UdpFlow.sound_run hrun
  constructor
  · intro hfaithful
    have hup := hsound.up.symm.trans hfaithful.up
    have harrived : [] ∉ flow.arrived := hfaithful.down ▸ hsound.down.nil_notMem
    refine ⟨UdpFlow.nil_notMem_of_flatMap_nonempty hup, harrived, ?_⟩
    rw [← UdpFlow.writes_eq_run hrun, UdpFlow.nonempty_eq_self_iff.mpr harrived]
    exact hfaithful.down
  · rintro ⟨hhanded, harrived, hwhole⟩
    refine ⟨?_, ?_, fun hresult => ?_⟩
    · rw [hsound.up, UdpFlow.nonempty_eq_self_iff.mpr hhanded]
    · have hwrites := (UdpFlow.writes_eq_run hrun).mpr hwhole
      rw [UdpFlow.nonempty_eq_self_iff.mpr harrived] at hwrites
      exact hwrites
    · rcases hsound.ended hresult with hlocal | htunnel | hempty
      · exact .inl hlocal
      · exact .inr htunnel
      · exact absurd hempty hhanded

/-- One datagram to the tunnel and two from it, and the end of the local flow. -/
theorem udp_relay_faithful_sample :
    ∃ trace flow, Execution (UdpFlow.step hostRelayUdp) .start trace flow ∧
      flow.handed = [[1, 2]] ∧ flow.arrived = [[3, 4], [5]] ∧ flow.Faithful := by
  have hfacts : (replay (UdpFlow.step hostRelayUdp) .start
      [.uplink (.datagram [1, 2]), .downlink (.bytes [0, 2, 3]), .uplink (.take 3),
        .downlink (.bytes [4, 0]), .downlink .datagram, .uplink (.take 1), .downlink (.take 2),
        .uplink .written, .downlink .written, .downlink (.bytes [1, 5]), .downlink .datagram,
        .uplink .localEnd, .downlink (.take 1), .uplink (.shutdown (.ok ()))]).map
      (fun result => (result.2.handed, result.2.arrived, result.2.writes)) =
        some ([[1, 2]], [[3, 4], [5]], [[3, 4], [5]]) := by
    decide
  obtain ⟨⟨trace, flow⟩, hreplay, hfacts⟩ := Option.map_eq_some_iff.mp hfacts
  simp only [Prod.mk.injEq] at hfacts
  obtain ⟨hhanded, harrived, hwrites⟩ := hfacts
  have hrun := execution_of_replay hreplay
  have hwhole : UdpFlow.TakenWhole trace := by
    rw [← UdpFlow.writes_eq_run hrun, hwrites, harrived]
    decide
  refine ⟨trace, flow, hrun, hhanded, harrived, (udp_relay_faithful_iff hrun).mpr ?_⟩
  rw [hhanded, harrived]
  exact ⟨by decide, by decide, hwhole⟩

/-- An empty datagram of the local flow ends the host's relay with both sides still
open, and one that comes through the tunnel never reaches the proxy client's flow. -/
theorem empty_datagrams_lost :
    (∃ trace flow, Execution (UdpFlow.step hostRelayUdp) .start trace flow ∧
      flow.handed = [[]] ∧ flow.result.isSome = true ∧ ¬ flow.Faithful) ∧
    ∃ trace flow, Execution (UdpFlow.step clientRelayUdp) .start trace flow ∧
      flow.arrived = [[]] ∧ flow.downlink = .reading ∧ ¬ flow.Faithful := by
  have hup : (replay (UdpFlow.step hostRelayUdp) .start
      [.uplink (.datagram []), .uplink (.shutdown (.ok ()))]).map
      (fun result => (result.2.handed, result.2.result.isSome, result.2.localOver,
        result.2.tunnelOver)) = some ([[]], true, false, false) := by
    decide
  have hdown : (replay (UdpFlow.step clientRelayUdp) .start
      [.downlink (.bytes [0, 0]), .downlink .datagram, .downlink .written]).map
      (fun result => (result.2.arrived, result.2.downlink, result.2.delivered)) =
        some ([[]], .reading, []) := by
    decide
  obtain ⟨⟨upTrace, up⟩, hupReplay, hup⟩ := Option.map_eq_some_iff.mp hup
  obtain ⟨⟨downTrace, down⟩, hdownReplay, hdown⟩ := Option.map_eq_some_iff.mp hdown
  simp only [Prod.mk.injEq] at hup hdown
  obtain ⟨hhanded, hresult, hlocal, htunnel⟩ := hup
  obtain ⟨harrived, hreading, hdelivered⟩ := hdown
  refine ⟨⟨upTrace, up, execution_of_replay hupReplay, hhanded, hresult, fun hfaithful => ?_⟩,
    downTrace, down, execution_of_replay hdownReplay, harrived, hreading, fun hfaithful => ?_⟩
  · have hover := hfaithful.ended (Option.isSome_iff_ne_none.mp hresult)
    rw [hlocal, htunnel] at hover
    exact absurd hover (by decide)
  · have hlost := hfaithful.down
    rw [hdelivered, hreading, harrived] at hlost
    cases hlost

end VpnBridge.Relay
