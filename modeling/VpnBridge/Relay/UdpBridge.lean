import VpnBridge.Core.PrefixCode
import VpnBridge.Relay.UdpClient
import VpnBridge.Relay.UdpServer

/-!
# A UDP flow from end to end

The relay of a client and the relay of its server run against each other, over a
tunnel that carries bytes in order and loses none of them.  Either side writes its
frames in pieces of any size, and they arrive in pieces of any size.
-/

namespace VpnBridge.Relay

open VpnBridge.ByteReader VpnBridge.Proto VpnBridge.TransitionSystem

/-- The loop of a server from the tunnel to the socket. -/
inductive ServerUplink where
  | reading
  | sending (payload : List UInt8)
  deriving DecidableEq

/-- The datagram that is about to be sent on the socket. -/
def ServerUplink.held : ServerUplink → List (List UInt8)
  | .reading => []
  | .sending payload => [payload]

def ServerUplink.after (uplink : ServerUplink) : SessionEvent → ServerUplink
  | .uploaded _ => .reading
  | _ => uplink

structure UdpBridge where
  flow : UdpFlow
  session : UdpSession
  /-- The bytes on their way to the server. -/
  upWire : List UInt8
  buffer : List UInt8
  uplink : ServerUplink
  /-- The bytes that the tunnel has taken from the server. -/
  sent : List UInt8
  /-- The bytes on their way to the client. -/
  downWire : List UInt8

inductive BridgeEvent where
  | client (event : UdpEvent)
  | server (event : SessionEvent)
  /-- `read_datagram` of the server returns. -/
  | read
  /-- The tunnel takes a part of the server's frame. -/
  | put (count : ℕ)

namespace UdpBridge

def start (begin : ℕ) : UdpBridge where
  flow := .start
  session := .start begin
  upWire := []
  buffer := []
  uplink := .reading
  sent := []
  downWire := []

/-- The frames that the server has written or is writing. -/
def framed (bridge : UdpBridge) : List UInt8 :=
  bridge.session.carried ++ bridge.session.downlink.held

/-- What the tunnel allows the relay of the server to do. -/
def allows (bridge : UdpBridge) : SessionEvent → Bool
  | .uploaded payload => bridge.uplink = .sending payload
  | .received payload => payload.length ≤ maxDatagram
  | .written => bridge.sent = bridge.framed
  | _ => true

def step (relay : UdpRelay) (server : UdpServer) (bridge : UdpBridge) :
    BridgeEvent → Option UdpBridge
  | .client event =>
      if UdpFlow.tunnelBytes event <+: bridge.downWire then
        (bridge.flow.step relay event).map fun flow =>
          { bridge with
            flow := flow
            upWire := bridge.upWire ++ flow.carried.drop bridge.flow.carried.length
            downWire := bridge.downWire.drop (UdpFlow.tunnelBytes event).length }
      else none
  | .server event =>
      if bridge.allows event = true then
        (bridge.session.step server event).map fun session =>
          { bridge with session := session, uplink := bridge.uplink.after event }
      else none
  | .read =>
      match bridge.uplink, (readDatagram bridge.buffer).run bridge.upWire with
      | .reading, .ok ((length, buffer), rest) =>
          if bridge.session.ended.isNone = true then
            some { bridge with
              upWire := rest
              buffer := buffer
              uplink := .sending (buffer.take length) }
          else none
      | _, _ => none
  | .put count =>
      if bridge.session.ended.isNone = true ∧ 0 < count ∧
          bridge.sent.length + count ≤ bridge.framed.length then
        some { bridge with
          sent := bridge.sent ++ (bridge.framed.drop bridge.sent.length).take count
          downWire := bridge.downWire ++ (bridge.framed.drop bridge.sent.length).take count }
      else none

/-- What has left the local flow and is not sent on the socket yet. -/
def upInTransit (bridge : UdpBridge) : List UInt8 :=
  bridge.uplink.held.flatMap datagramBuf ++ bridge.upWire ++ bridge.flow.uplink.held

/-- What has left the socket and is not read by the client yet. -/
def downInTransit (bridge : UdpBridge) : List UInt8 :=
  bridge.flow.pending ++ bridge.downWire ++ bridge.framed.drop bridge.sent.length

/-- The local flow of the client takes all of a datagram where it takes one. -/
def TakesWhole (bridge : UdpBridge) : BridgeEvent → Prop
  | .client event => bridge.flow.TakesWhole event
  | _ => True

/-- In every step of a run. -/
def TakenWhole (trace : List (Transition UdpBridge BridgeEvent)) : Prop :=
  ∀ tr ∈ trace, tr.pre.TakesWhole tr.event

end UdpBridge

/-! ## Frames -/

theorem prefixCode_datagramBuf :
    PrefixCode (fun payload : List UInt8 => payload.length ≤ maxDatagram) datagramBuf := by
  have hnonempty (payload : List UInt8) : datagramBuf payload ≠ [] := by
    rw [datagramBuf]
    exact List.append_ne_nil_of_left_ne_nil
      (List.ne_nil_of_length_pos (by rw [length_toBeBytes]; decide)) _
  exact prefixCode_of_reads (fun payload _ => hnonempty payload)
    (fun payload hpayload => reads_datagramBuf hpayload [])
    (fun left right hsame => (Prod.mk.inj hsame).2)

/-! ## Steps of the two relays -/

namespace UdpFlow

variable {relay : UdpRelay} {flow next : UdpFlow} {event : UdpEvent}

/-- The tunnel takes bytes, and gives none back. -/
theorem carried_of_step (hstep : flow.step relay event = some next) :
    ∃ part, next.carried = flow.carried ++ part := by
  obtain ⟨-, hstep⟩ := Option.ite_none_right_eq_some.mp hstep
  cases event with
  | uplink event =>
      cases uploads_of_uplinkStep hstep with
      | @take rest count => exact ⟨rest.take count, rfl⟩
      | datagram => exact ⟨[], (List.append_nil _).symm⟩
      | localEnd => exact ⟨[], (List.append_nil _).symm⟩
      | readError => exact ⟨[], (List.append_nil _).symm⟩
      | writeError => exact ⟨[], (List.append_nil _).symm⟩
      | written => exact ⟨[], (List.append_nil _).symm⟩
      | shutdown => exact ⟨[], (List.append_nil _).symm⟩
  | downlink event =>
      refine ⟨[], ?_⟩
      cases downloads_of_downlinkStep hstep <;> exact (List.append_nil _).symm

/-- Every datagram fits into a frame. -/
structure Sized (flow : UdpFlow) : Prop where
  handed : ∀ payload ∈ flow.handed, payload.length ≤ maxDatagram
  arrived : ∀ payload ∈ flow.arrived, payload.length ≤ maxDatagram

theorem sized_start : start.Sized where
  handed _ hpayload := absurd hpayload List.not_mem_nil
  arrived _ hpayload := absurd hpayload List.not_mem_nil

theorem sized_step (hstep : flow.step relay event = some next) (hsized : flow.Sized) :
    next.Sized := by
  obtain ⟨-, hstep⟩ := Option.ite_none_right_eq_some.mp hstep
  obtain ⟨hhanded, harrived⟩ := hsized
  cases event with
  | uplink event =>
      cases event with
      | datagram payload =>
          obtain ⟨⟨-, hlength⟩, hnext⟩ := Option.ite_none_right_eq_some.mp hstep
          cases hnext
          exact ⟨List.forall_mem_append.mpr ⟨hhanded, List.forall_mem_singleton.mpr hlength⟩,
            harrived⟩
      | localEnd => cases uploads_of_uplinkStep hstep; exact ⟨hhanded, harrived⟩
      | readError failure => cases uploads_of_uplinkStep hstep; exact ⟨hhanded, harrived⟩
      | take count => cases uploads_of_uplinkStep hstep; exact ⟨hhanded, harrived⟩
      | writeError failure => cases uploads_of_uplinkStep hstep; exact ⟨hhanded, harrived⟩
      | written => cases uploads_of_uplinkStep hstep; exact ⟨hhanded, harrived⟩
      | shutdown answer => cases uploads_of_uplinkStep hstep; exact ⟨hhanded, harrived⟩
  | downlink event =>
      cases downloads_of_downlinkStep hstep with
      | datagram hreading hread =>
          exact ⟨hhanded, List.forall_mem_append.mpr
            ⟨harrived, List.forall_mem_singleton.mpr (datagram_of_read hread).1⟩⟩
      | bytes => exact ⟨hhanded, harrived⟩
      | tunnelEnd => exact ⟨hhanded, harrived⟩
      | readError => exact ⟨hhanded, harrived⟩
      | take => exact ⟨hhanded, harrived⟩
      | writeError => exact ⟨hhanded, harrived⟩
      | written => exact ⟨hhanded, harrived⟩

end UdpFlow

/-! ## What is on the way -/

namespace UdpBridge

variable {relay : UdpRelay} {server : UdpServer}
variable {bridge next : UdpBridge} {event : BridgeEvent}

/-- What a step does. -/
inductive Moves (relay : UdpRelay) (server : UdpServer) (bridge : UdpBridge) :
    BridgeEvent → UdpBridge → Prop where
  | client {event : UdpEvent} {flow : UdpFlow} {part rest : List UInt8}
      (hstep : bridge.flow.step relay event = some flow)
      (hcarried : flow.carried = bridge.flow.carried ++ part)
      (hwire : bridge.downWire = UdpFlow.tunnelBytes event ++ rest) :
      Moves relay server bridge (.client event)
        { bridge with flow := flow, upWire := bridge.upWire ++ part, downWire := rest }
  | server {event : SessionEvent} {session : UdpSession} (hallows : bridge.allows event = true)
      (hstep : bridge.session.step server event = some session) :
      Moves relay server bridge (.server event)
        { bridge with session := session, uplink := bridge.uplink.after event }
  | read {payload buffer rest : List UInt8} (hreading : bridge.uplink = .reading)
      (hlength : payload.length ≤ maxDatagram)
      (hwire : bridge.upWire = datagramBuf payload ++ rest) :
      Moves relay server bridge .read
        { bridge with upWire := rest, buffer := buffer, uplink := .sending payload }
  | put {count : ℕ} :
      Moves relay server bridge (.put count)
        { bridge with
          sent := bridge.sent ++ (bridge.framed.drop bridge.sent.length).take count
          downWire := bridge.downWire ++ (bridge.framed.drop bridge.sent.length).take count }

theorem moves_of_step (hstep : bridge.step relay server event = some next) :
    Moves relay server bridge event next := by
  cases event with
  | client event =>
      obtain ⟨⟨rest, hrest⟩, hstep⟩ := Option.ite_none_right_eq_some.mp hstep
      obtain ⟨flow, hflow, rfl⟩ := Option.map_eq_some_iff.mp hstep
      obtain ⟨part, hpart⟩ := UdpFlow.carried_of_step hflow
      rw [hpart, List.drop_left, ← hrest, List.drop_left]
      exact .client hflow hpart hrest.symm
  | server event =>
      obtain ⟨hallows, hstep⟩ := Option.ite_none_right_eq_some.mp hstep
      obtain ⟨session, hsession, rfl⟩ := Option.map_eq_some_iff.mp hstep
      exact .server hallows hsession
  | read =>
      rw [step] at hstep
      split at hstep
      next length buffer rest hreading hread =>
        obtain ⟨-, hnext⟩ := Option.ite_none_right_eq_some.mp hstep
        cases hnext
        obtain ⟨hlength, hwire⟩ := datagram_of_read hread
        exact .read hreading hlength hwire
      next => cases hstep
  | put count =>
      obtain ⟨-, hnext⟩ := Option.ite_none_right_eq_some.mp hstep
      cases hnext
      exact .put

/-- Where the bytes of either direction are. -/
structure Bridged (bridge : UdpBridge) : Prop where
  sound : bridge.flow.Sound
  sized : bridge.flow.Sized
  conserves : bridge.session.Conserves
  up : (bridge.session.uploaded ++ bridge.uplink.held).flatMap datagramBuf ++ bridge.upWire =
    bridge.flow.carried
  uploaded : ∀ payload ∈ bridge.session.uploaded ++ bridge.uplink.held,
    payload.length ≤ maxDatagram
  sent : bridge.sent <+: bridge.framed
  down : bridge.flow.arrived.flatMap datagramBuf ++ bridge.flow.pending ++ bridge.downWire =
    bridge.sent
  received : ∀ payload ∈ bridge.session.received, payload.length ≤ maxDatagram

theorem bridged_start (begin : ℕ) : (start begin).Bridged where
  sound := UdpFlow.sound_start
  sized := UdpFlow.sized_start
  conserves := Eq.refl []
  up := rfl
  uploaded _ hpayload := absurd hpayload List.not_mem_nil
  sent := List.prefix_refl _
  down := rfl
  received _ hpayload := absurd hpayload List.not_mem_nil

namespace Bridged

theorem client_step {event : UdpEvent}
    {flow : UdpFlow} {part rest : List UInt8} (hbridged : bridge.Bridged)
    (hstep : bridge.flow.step relay event = some flow)
    (hcarried : flow.carried = bridge.flow.carried ++ part)
    (hwire : bridge.downWire = UdpFlow.tunnelBytes event ++ rest) :
    Bridged { bridge with
      flow := flow, upWire := bridge.upWire ++ part, downWire := rest } where
  sound := UdpFlow.sound_step hstep hbridged.sound
  sized := UdpFlow.sized_step hstep hbridged.sized
  conserves := hbridged.conserves
  up := by rw [← List.append_assoc, hbridged.up, hcarried]
  uploaded := hbridged.uploaded
  sent := hbridged.sent
  down := by
    rw [UdpFlow.arrived_of_step hstep, List.append_assoc, ← hwire]
    exact hbridged.down
  received := hbridged.received

/-- What moves no datagram leaves the bytes where they are. -/
theorem session_of_eq {session : UdpSession} (hbridged : bridge.Bridged)
    (hconserves : session.Conserves) (huploaded : session.uploaded = bridge.session.uploaded)
    (hreceived : session.received = bridge.session.received) :
    Bridged { bridge with session := session } where
  sound := hbridged.sound
  sized := hbridged.sized
  conserves := hconserves
  up := by rw [huploaded, hbridged.up]
  uploaded := by rw [huploaded]; exact hbridged.uploaded
  sent := by
    have hsent := hbridged.sent
    rw [framed, hbridged.conserves] at hsent
    rw [framed, hconserves, hreceived]
    exact hsent
  down := hbridged.down
  received := by rw [hreceived]; exact hbridged.received

theorem server_step {event : SessionEvent} {session : UdpSession} (hbridged : bridge.Bridged)
    (hallows : bridge.allows event = true)
    (hstep : bridge.session.step server event = some session) :
    Bridged { bridge with session := session, uplink := bridge.uplink.after event } := by
  have hconserves := UdpSession.conserves_step hstep hbridged.conserves
  cases (UdpSession.does_of_step hstep).2 with
  | @uploaded payload =>
      have hsending : bridge.uplink.held = [payload] := by
        rw [of_decide_eq_true hallows, ServerUplink.held]
      have hup := hbridged.up
      have huploaded := hbridged.uploaded
      rw [hsending] at hup huploaded
      refine ⟨hbridged.sound, hbridged.sized, hconserves, ?_, ?_, hbridged.sent, hbridged.down,
        hbridged.received⟩
      · rw [ServerUplink.after, ServerUplink.held, List.append_nil]
        exact hup
      · rw [ServerUplink.after, ServerUplink.held, List.append_nil]
        exact huploaded
  | @received payload =>
      refine ⟨hbridged.sound, hbridged.sized, hconserves, hbridged.up, hbridged.uploaded, ?_,
        hbridged.down, List.forall_mem_append.mpr
          ⟨hbridged.received, List.forall_mem_singleton.mpr (of_decide_eq_true hallows)⟩⟩
      have hsent := hbridged.sent
      rw [framed, hbridged.conserves] at hsent
      rw [framed, hconserves, List.flatMap_append]
      exact hsent.trans (List.prefix_append _ _)
  | tick => exact hbridged.session_of_eq hconserves rfl rfl
  | start => exact hbridged.session_of_eq hconserves rfl rfl
  | written => exact hbridged.session_of_eq hconserves rfl rfl
  | idle => exact hbridged.session_of_eq hconserves rfl rfl
  | sampled => exact hbridged.session_of_eq hconserves rfl rfl
  | fail => exact hbridged.session_of_eq hconserves rfl rfl

theorem read_step {payload buffer rest : List UInt8} (hbridged : bridge.Bridged)
    (hreading : bridge.uplink = .reading) (hlength : payload.length ≤ maxDatagram)
    (hwire : bridge.upWire = datagramBuf payload ++ rest) :
    Bridged { bridge with upWire := rest, buffer := buffer, uplink := .sending payload } := by
  have hup := hbridged.up
  have huploaded := hbridged.uploaded
  rw [hreading, ServerUplink.held, List.append_nil] at hup huploaded
  refine ⟨hbridged.sound, hbridged.sized, hbridged.conserves, ?_, ?_, hbridged.sent,
    hbridged.down, hbridged.received⟩
  · rw [ServerUplink.held, List.flatMap_append, List.flatMap_singleton, List.append_assoc,
      ← hwire]
    exact hup
  · exact List.forall_mem_append.mpr ⟨huploaded, List.forall_mem_singleton.mpr hlength⟩

theorem put_step (hbridged : bridge.Bridged) (count : ℕ) :
    Bridged { bridge with
      sent := bridge.sent ++ (bridge.framed.drop bridge.sent.length).take count
      downWire := bridge.downWire ++ (bridge.framed.drop bridge.sent.length).take count } := by
  refine ⟨hbridged.sound, hbridged.sized, hbridged.conserves, hbridged.up, hbridged.uploaded,
    ?_, ?_, hbridged.received⟩
  · obtain ⟨rest, hrest⟩ := hbridged.sent
    change _ <+: bridge.framed
    rw [← hrest, List.drop_left, List.prefix_append_right_inj]
    exact List.take_prefix count rest
  · rw [← List.append_assoc, hbridged.down]

end Bridged

theorem bridged_step (hstep : bridge.step relay server event = some next)
    (hbridged : bridge.Bridged) : next.Bridged := by
  cases moves_of_step hstep with
  | client hflow hcarried hwire => exact hbridged.client_step hflow hcarried hwire
  | server hallows hsession => exact hbridged.server_step hallows hsession
  | read hreading hlength hwire => exact hbridged.read_step hreading hlength hwire
  | put => exact hbridged.put_step _

theorem bridged_run {begin : ℕ}
    {trace : List (Transition UdpBridge BridgeEvent)}
    (hrun : Execution (step relay server) (start begin) trace bridge) : bridge.Bridged :=
  Execution.invariant (fun hstep => bridged_step hstep) hrun (bridged_start begin)

open UdpFlow (nonempty)

/-- The datagrams that have left the local flow and not reached the socket. -/
theorem Bridged.exists_up (hbridged : bridge.Bridged) :
    ∃ coming, nonempty bridge.flow.handed = bridge.session.uploaded ++ coming ∧
      coming.flatMap datagramBuf = bridge.upInTransit := by
  have hsized : ∀ payload ∈ nonempty bridge.flow.handed, payload.length ≤ maxDatagram :=
    fun payload hpayload => hbridged.sized.handed payload (List.mem_of_mem_filter hpayload)
  have huploaded := (List.forall_mem_append.mp hbridged.uploaded).1
  apply prefixCode_datagramBuf.exists_append huploaded hsized
  rw [← hbridged.sound.up, ← hbridged.up, upInTransit, List.flatMap_append]
  simp only [List.append_assoc]

/-- The datagrams that have left the socket and are not read by the client. -/
theorem Bridged.exists_down (hbridged : bridge.Bridged) :
    ∃ coming, bridge.session.received = bridge.flow.arrived ++ coming ∧
      coming.flatMap datagramBuf = bridge.downInTransit := by
  apply prefixCode_datagramBuf.exists_append hbridged.sized.arrived hbridged.received
  rw [downInTransit, ← List.append_assoc, ← List.append_assoc, hbridged.down]
  exact (List.prefix_iff_eq_append.mp hbridged.sent).trans hbridged.conserves

/-- Each datagram that the client has read is in one write, if the flow takes them whole. -/
theorem writes_eq_of_takenWhole {begin : ℕ} {trace : List (Transition UdpBridge BridgeEvent)}
    (hrun : Execution (step relay server) (start begin) trace bridge)
    (hwhole : TakenWhole trace) : bridge.flow.writes = nonempty bridge.flow.arrived := by
  induction hrun with
  | nil => rfl
  | @snoc trace bridge next event hrun hstep ih =>
      rw [TakenWhole, List.forall_mem_append, List.forall_mem_singleton] at hwhole
      have hwrites := ih hwhole.1
      cases moves_of_step hstep with
      | client hflow =>
          exact (UdpFlow.writes_eq_step hflow (bridged_run hrun).sound).mpr ⟨hwrites, hwhole.2⟩
      | server => exact hwrites
      | read => exact hwrites
      | put => exact hwrites

end UdpBridge

open UdpFlow (nonempty)

/-- The server gets the datagrams of the local flow, each one whole, once and in order, but
for the empty ones.  The local flow gets those of the server in the pieces that it takes,
none of which holds bytes of two, and each one whole if it takes them whole.  Those
that are missing are the ones whose frames are on the way. -/
theorem udp_end_to_end {relay : UdpRelay} {server : UdpServer} {begin : ℕ}
    {trace : List (Transition UdpBridge BridgeEvent)} {bridge : UdpBridge}
    (hrun : Execution (UdpBridge.step relay server) (.start begin) trace bridge) :
    (∃ coming, nonempty bridge.flow.handed = bridge.session.uploaded ++ coming ∧
      coming.flatMap datagramBuf = bridge.upInTransit) ∧
    ∃ arrived coming, bridge.session.received = arrived ++ coming ∧
      Cut arrived bridge.flow.writes ∧
      (UdpBridge.TakenWhole trace → bridge.flow.writes = nonempty arrived) ∧
      coming.flatMap datagramBuf = bridge.downInTransit := by
  have hbridged := UdpBridge.bridged_run hrun
  obtain ⟨coming, hreceived, hcoming⟩ := hbridged.exists_down
  exact ⟨hbridged.exists_up, bridge.flow.arrived, coming, hreceived, hbridged.sound.down,
    UdpBridge.writes_eq_of_takenWhole hrun, hcoming⟩

/-- One datagram up and two down.  The local flow has taken the first of them in two writes,
and the first byte of the other's frame is still on the way. -/
theorem udp_end_to_end_sample :
    ∃ trace bridge, Execution (UdpBridge.step clientRelayUdp (proxyRelayUdp 10)) (.start 0)
        trace bridge ∧
      bridge.flow.handed = [[1, 2]] ∧ bridge.session.uploaded = [[1, 2]] ∧
      bridge.session.received = [[3, 4], [5]] ∧ bridge.flow.writes = [[3], [4]] ∧
      bridge.downWire = [0] ∧
      ∃ arrived coming, bridge.session.received = arrived ++ coming ∧
        Cut arrived bridge.flow.writes ∧ coming.flatMap datagramBuf = bridge.downInTransit := by
  have hfacts : (replay (UdpBridge.step clientRelayUdp (proxyRelayUdp 10)) (.start 0)
      [.server .start, .client (.uplink (.datagram [1, 2])), .client (.uplink (.take 3)),
        .server (.received [3, 4]), .client (.uplink (.take 1)), .read, .put 3,
        .client (.downlink (.bytes [0, 2, 3])), .put 1, .server .written,
        .client (.downlink (.bytes [4])), .client (.downlink .datagram),
        .client (.downlink (.take 1)), .server (.received [5]), .put 1,
        .server (.uploaded [1, 2])]).map
      (fun result => (result.2.flow.handed, result.2.session.uploaded,
        result.2.session.received, result.2.flow.writes, result.2.downWire)) =
        some ([[1, 2]], [[1, 2]], [[3, 4], [5]], [[3], [4]], [0]) := by
    rfl
  obtain ⟨⟨trace, bridge⟩, hreplay, hfacts⟩ := Option.map_eq_some_iff.mp hfacts
  simp only [Prod.mk.injEq] at hfacts
  obtain ⟨hhanded, huploaded, hreceived, hwrites, hwire⟩ := hfacts
  have hrun := execution_of_replay hreplay
  obtain ⟨-, arrived, coming, hsplit, hcut, -, hcoming⟩ := udp_end_to_end hrun
  exact ⟨trace, bridge, hrun, hhanded, huploaded, hreceived, hwrites, hwire,
    arrived, coming, hsplit, hcut, hcoming⟩

/-! ## Nothing gets stuck -/

/-- What is still to do for the frame that the loop to the tunnel writes. -/
def Uplink.work : Uplink → ℕ
  | .reading => 0
  | .writing rest => 2 * rest.length + 1
  | .closing => 0

def Downlink.work : Downlink → ℕ
  | .reading => 0
  | .writing rest => rest.length + 1

def ServerDownlink.work : ServerDownlink → ℕ
  | .starting => 0
  | .waiting _ => 0
  | .writing _ => 1

@[simp]
theorem Uplink.work_reading : Uplink.work .reading = 0 := rfl

@[simp]
theorem Uplink.work_writing (rest : List UInt8) :
    (Uplink.writing rest).work = 2 * rest.length + 1 := rfl

@[simp]
theorem Downlink.work_reading : Downlink.work .reading = 0 := rfl

@[simp]
theorem Downlink.work_writing (rest : List UInt8) :
    (Downlink.writing rest).work = rest.length + 1 := rfl

namespace UdpBridge

variable {relay : UdpRelay} {server : UdpServer} {bridge next : UdpBridge}

/-- The steps that bring datagrams on their way: no time passes in them, no side hands
over a new one, and nothing fails. -/
inductive Moving : BridgeEvent → Prop where
  | clientTake (count : ℕ) : Moving (.client (.uplink (.take count)))
  | clientWritten : Moving (.client (.uplink .written))
  | clientBytes (bytes : List UInt8) (hbytes : bytes ≠ []) :
      Moving (.client (.downlink (.bytes bytes)))
  | clientRead : Moving (.client (.downlink .datagram))
  | localTake (count : ℕ) : Moving (.client (.downlink (.take count)))
  | localWritten : Moving (.client (.downlink .written))
  | serverSend (payload : List UInt8) : Moving (.server (.uploaded payload))
  | serverWritten : Moving (.server .written)
  | serverRead : Moving .read
  | serverPut (count : ℕ) : Moving (.put count)

/-- A bound on the moving steps, which each of them lowers: the further a byte still has to
go, the more it counts. -/
def work (bridge : UdpBridge) : ℕ :=
  bridge.flow.uplink.work + bridge.upWire.length + bridge.uplink.held.length +
    4 * (bridge.framed.length - bridge.sent.length) + bridge.session.downlink.work +
    3 * bridge.downWire.length + 2 * bridge.flow.pending.length + bridge.flow.downlink.work

/-- Neither relay has ended. -/
structure Live (bridge : UdpBridge) : Prop where
  flow : bridge.flow.result = none
  session : bridge.session.ended = none

/-- A moving step does some of the work, and hands over nothing new. -/
structure Works (bridge next : UdpBridge) : Prop where
  work_lt : next.work < bridge.work
  live : next.Live
  handed : next.flow.handed = bridge.flow.handed
  received : next.session.received = bridge.session.received

section Works

variable {event : UdpEvent} {flow : UdpFlow}

/-- The work of a step of the client's relay that moves `moved` to the server and takes
`taken` off the wire. -/
theorem works_of_client {part rest taken : List UInt8}
    (hlive : bridge.Live) (hrunning : flow.result = none)
    (hhanded : flow.handed = bridge.flow.handed) (hwire : bridge.downWire = taken ++ rest)
    (hless : flow.uplink.work + part.length + 2 * flow.pending.length + flow.downlink.work <
      bridge.flow.uplink.work + 3 * taken.length + 2 * bridge.flow.pending.length +
        bridge.flow.downlink.work) :
    Works bridge { bridge with
      flow := flow, upWire := bridge.upWire ++ part, downWire := rest } where
  work_lt := by
    have hlength := congrArg List.length hwire
    rw [List.length_append] at hlength
    simp only [work, framed, List.length_append]
    omega
  live := ⟨hrunning, hlive.session⟩
  handed := hhanded
  received := rfl

theorem works_of_clientTake {count : ℕ} (hlive : bridge.Live)
    (hstep : bridge.step relay server (.client (.uplink (.take count))) = some next) :
    Works bridge next := by
  cases moves_of_step hstep with
  | @client _ flow part rest hflow hcarried hwire =>
      have htake : bridge.flow.uplinkStep relay (.take count) = some flow :=
        (Option.ite_none_right_eq_some.mp hflow).2
      rw [UdpFlow.uplinkStep] at htake
      split at htake
      next held hwriting =>
        obtain ⟨⟨hpositive, hle⟩, hnext⟩ := Option.ite_none_right_eq_some.mp htake
        cases hnext
        obtain rfl := List.append_cancel_left hcarried
        refine works_of_client hlive hlive.flow rfl hwire ?_
        simp only [hwriting, Uplink.work_writing, List.length_take, List.length_drop,
          UdpFlow.tunnelBytes, List.length_nil]
        omega
      next => cases htake

theorem works_of_clientWritten (hlive : bridge.Live)
    (hstep : bridge.step relay server (.client (.uplink .written)) = some next) :
    Works bridge next := by
  cases moves_of_step hstep with
  | @client _ flow part rest hflow hcarried hwire =>
      have hwritten : UdpFlow.Uploads relay bridge.flow .written flow :=
        UdpFlow.uploads_of_uplinkStep (Option.ite_none_right_eq_some.mp hflow).2
      cases hwritten with
      | written hwriting =>
          obtain rfl := List.append_right_eq_self.mp hcarried.symm
          refine works_of_client hlive hlive.flow rfl hwire ?_
          simp [hwriting, UdpFlow.tunnelBytes]

/-- A step of the loop to the local flow. -/
theorem works_of_downlink {event : DownlinkEvent} (hlive : bridge.Live)
    (hmoving : Moving (.client (.downlink event)))
    (hstep : bridge.step relay server (.client (.downlink event)) = some next) :
    Works bridge next := by
  cases moves_of_step hstep with
  | @client _ flow part rest hflow hcarried hwire =>
      have hdownloads : UdpFlow.Downloads relay bridge.flow event flow :=
        UdpFlow.downloads_of_downlinkStep (Option.ite_none_right_eq_some.mp hflow).2
      cases hmoving with
      | clientBytes bytes hbytes =>
          have hpositive := List.length_pos_of_ne_nil hbytes
          cases hdownloads
          obtain rfl := List.append_right_eq_self.mp hcarried.symm
          refine works_of_client hlive hlive.flow rfl hwire ?_
          simp only [UdpFlow.tunnelBytes, List.length_append, List.length_nil]
          omega
      | clientRead =>
          cases hdownloads with
          | @datagram length buffer rest hreading hread =>
              obtain rfl := List.append_right_eq_self.mp hcarried.symm
              refine works_of_client hlive hlive.flow rfl hwire ?_
              have hpending := congrArg List.length (datagram_of_read hread).2
              rw [datagramBuf, List.length_append, List.length_append, length_toBeBytes] at hpending
              simp only [hreading, UdpFlow.tunnelBytes, Downlink.work_reading,
                Downlink.work_writing, List.length_nil]
              omega
      | localTake count =>
          cases hdownloads with
          | take hwriting hpositive hle =>
              obtain rfl := List.append_right_eq_self.mp hcarried.symm
              refine works_of_client hlive hlive.flow rfl hwire ?_
              simp only [hwriting, UdpFlow.tunnelBytes, Downlink.work_writing,
                List.length_drop, List.length_nil]
              omega
      | localWritten =>
          cases hdownloads with
          | written hwriting =>
              obtain rfl := List.append_right_eq_self.mp hcarried.symm
              refine works_of_client hlive hlive.flow rfl hwire ?_
              simp [hwriting, UdpFlow.tunnelBytes]

theorem works_of_serverSend {payload : List UInt8} (hlive : bridge.Live)
    (hstep : bridge.step relay server (.server (.uploaded payload)) = some next) :
    Works bridge next := by
  cases moves_of_step hstep with
  | server hallows hsession =>
      have hsending : bridge.uplink = .sending payload := of_decide_eq_true hallows
      cases (UdpSession.does_of_step hsession).2
      refine ⟨?_, ⟨hlive.flow, hlive.session⟩, rfl, rfl⟩
      simp only [work, framed, hsending, ServerUplink.after, ServerUplink.held,
        List.length_singleton, List.length_nil]
      omega

theorem works_of_serverWritten (hlive : bridge.Live)
    (hstep : bridge.step relay server (.server .written) = some next) :
    Works bridge next := by
  cases moves_of_step hstep with
  | server hallows hsession =>
      cases (UdpSession.does_of_step hsession).2 with
      | written hwriting =>
          refine ⟨?_, ⟨hlive.flow, hlive.session⟩, rfl, rfl⟩
          simp only [work, framed, hwriting, ServerUplink.after, ServerDownlink.held,
            ServerDownlink.work, List.append_nil]
          omega

theorem works_of_read (hlive : bridge.Live)
    (hstep : bridge.step relay server .read = some next) : Works bridge next := by
  cases moves_of_step hstep with
  | @read payload buffer rest hreading hlength hwire =>
      have hupWire := congrArg List.length hwire
      rw [datagramBuf, List.length_append, List.length_append, length_toBeBytes] at hupWire
      refine ⟨?_, ⟨hlive.flow, hlive.session⟩, rfl, rfl⟩
      simp only [work, framed, hreading, ServerUplink.held, List.length_singleton,
        List.length_nil]
      omega

theorem works_of_put {count : ℕ} (hlive : bridge.Live)
    (hstep : bridge.step relay server (.put count) = some next) :
    Works bridge next := by
  obtain ⟨⟨-, hpositive, hle⟩, hnext⟩ := Option.ite_none_right_eq_some.mp hstep
  cases hnext
  have htaken : ((bridge.framed.drop bridge.sent.length).take count).length = count := by
    rw [List.length_take, List.length_drop]
    omega
  refine ⟨?_, ⟨hlive.flow, hlive.session⟩, rfl, rfl⟩
  rw [framed] at hle htaken
  simp only [work, framed, List.length_append, htaken] at hle ⊢
  omega

theorem works_of_moving {event : BridgeEvent} (hlive : bridge.Live) (hmoving : Moving event)
    (hstep : bridge.step relay server event = some next) : Works bridge next := by
  cases hmoving with
  | clientTake count => exact works_of_clientTake hlive hstep
  | clientWritten => exact works_of_clientWritten hlive hstep
  | clientBytes bytes hbytes =>
      exact works_of_downlink hlive (.clientBytes bytes hbytes) hstep
  | clientRead => exact works_of_downlink hlive .clientRead hstep
  | localTake count => exact works_of_downlink hlive (.localTake count) hstep
  | localWritten => exact works_of_downlink hlive .localWritten hstep
  | serverSend payload => exact works_of_serverSend hlive hstep
  | serverWritten => exact works_of_serverWritten hlive hstep
  | serverRead => exact works_of_read hlive hstep
  | serverPut count => exact works_of_put hlive hstep

/-! ## At rest -/

/-- No moving step is possible. -/
def Rests (relay : UdpRelay) (server : UdpServer) (bridge : UdpBridge) : Prop :=
  ∀ event, Moving event → bridge.step relay server event = none

theorem client_eq_none {event : UdpEvent}
    (hrests : bridge.step relay server (.client event) = none)
    (hwire : UdpFlow.tunnelBytes event <+: bridge.downWire) :
    bridge.flow.step relay event = none := by
  rw [step, if_pos hwire] at hrests
  exact Option.map_eq_none_iff.mp hrests

/-- The loop of the client to the tunnel has written what it holds. -/
theorem Rests.uplink_held (hrests : Rests relay server bridge) (hlive : bridge.Live) :
    bridge.flow.uplink.held = [] := by
  cases huplink : bridge.flow.uplink with
  | reading => rfl
  | closing => rfl
  | writing rest =>
      by_contra hrest
      have hpositive : 0 < rest.length := List.length_pos_of_ne_nil hrest
      have hnone := client_eq_none (hrests _ (.clientTake rest.length)) (List.nil_prefix)
      rw [UdpFlow.step, if_pos (Option.isNone_iff_eq_none.mpr hlive.flow)] at hnone
      simp only [UdpFlow.uplinkStep, huplink] at hnone
      rw [if_pos ⟨hpositive, le_refl _⟩] at hnone
      cases hnone

/-- The loop of the client to the local flow waits for a datagram. -/
theorem Rests.flow_downlink (hrests : Rests relay server bridge) (hlive : bridge.Live) :
    bridge.flow.downlink = .reading := by
  have hrunning := Option.isNone_iff_eq_none.mpr hlive.flow
  cases hdownlink : bridge.flow.downlink with
  | reading => rfl
  | writing rest =>
      by_cases hrest : rest = []
      · have hnone := client_eq_none (hrests _ .localWritten) (List.nil_prefix)
        rw [UdpFlow.step, if_pos hrunning] at hnone
        simp only [UdpFlow.downlinkStep, hdownlink, hrest] at hnone
        cases hnone
      · have hpositive : 0 < rest.length := List.length_pos_of_ne_nil hrest
        have hnone := client_eq_none (hrests _ (.localTake rest.length)) (List.nil_prefix)
        rw [UdpFlow.step, if_pos hrunning] at hnone
        simp only [UdpFlow.downlinkStep, hdownlink] at hnone
        rw [if_pos ⟨hpositive, le_refl _⟩] at hnone
        cases hnone

theorem Rests.downWire (hrests : Rests relay server bridge) (hlive : bridge.Live) :
    bridge.downWire = [] := by
  by_contra hwire
  have hnone := client_eq_none (hrests _ (.clientBytes _ hwire)) (List.prefix_refl _)
  rw [UdpFlow.step, if_pos (Option.isNone_iff_eq_none.mpr hlive.flow)] at hnone
  cases hnone

theorem Rests.sent (hrests : Rests relay server bridge) (hlive : bridge.Live) :
    bridge.framed.drop bridge.sent.length = [] := by
  rw [List.drop_eq_nil_iff]
  by_contra hshort
  have hnone := hrests _ (.serverPut 1)
  rw [step, if_pos ⟨Option.isNone_iff_eq_none.mpr hlive.session, Nat.one_pos,
    Nat.lt_of_not_le hshort⟩] at hnone
  cases hnone

theorem Rests.uplink (hrests : Rests relay server bridge) (hlive : bridge.Live) :
    bridge.uplink = .reading := by
  cases huplink : bridge.uplink with
  | reading => rfl
  | sending payload =>
      have hallows : bridge.allows (.uploaded payload) = true := decide_eq_true huplink
      have hnone := hrests _ (.serverSend payload)
      rw [step, if_pos hallows, UdpSession.step,
        if_pos (Option.isNone_iff_eq_none.mpr hlive.session)] at hnone
      cases hnone

/-- No datagram waits for the server to read it. -/
theorem Rests.upWire {payload rest : List UInt8} (hrests : Rests relay server bridge)
    (hlive : bridge.Live) (hlength : payload.length ≤ maxDatagram) :
    bridge.upWire ≠ datagramBuf payload ++ rest := by
  intro hwire
  have hnone := hrests _ .serverRead
  have hread := reads_datagramBuf hlength bridge.buffer rest
  rw [← hwire] at hread
  simp only [step, hrests.uplink hlive, hread] at hnone
  rw [if_pos (Option.isNone_iff_eq_none.mpr hlive.session)] at hnone
  cases hnone

/-- No datagram waits for the client to read it. -/
theorem Rests.pending {payload rest : List UInt8}
    (hrests : Rests relay server bridge) (hlive : bridge.Live)
    (hlength : payload.length ≤ maxDatagram) :
    bridge.flow.pending ≠ datagramBuf payload ++ rest := by
  intro hpending
  have hnone := client_eq_none (hrests _ .clientRead) (List.nil_prefix)
  have hread := reads_datagramBuf hlength bridge.flow.buffer rest
  rw [← hpending] at hread
  rw [UdpFlow.step, if_pos (Option.isNone_iff_eq_none.mpr hlive.flow)] at hnone
  simp only [UdpFlow.downlinkStep, hrests.flow_downlink hlive, hread] at hnone
  cases hnone

open UdpFlow (nonempty)

/-- At rest, every datagram has come through. -/
theorem Rests.delivered (hrests : Rests relay server bridge) (hlive : bridge.Live)
    (hbridged : bridge.Bridged) :
    bridge.session.uploaded = nonempty bridge.flow.handed ∧
      bridge.flow.arrived = bridge.session.received := by
  obtain ⟨up, hhanded, hup⟩ := hbridged.exists_up
  obtain ⟨down, hreceived, hdown⟩ := hbridged.exists_down
  rw [upInTransit, hrests.uplink hlive, ServerUplink.held, hrests.uplink_held hlive,
    List.append_nil, List.flatMap_nil, List.nil_append] at hup
  rw [downInTransit, hrests.downWire hlive, hrests.sent hlive, List.append_nil,
    List.append_nil] at hdown
  constructor
  · cases up with
    | nil => rw [hhanded, List.append_nil]
    | cons payload later =>
        have hmem : payload ∈ nonempty bridge.flow.handed := by
          rw [hhanded]
          exact List.mem_append_right _ List.mem_cons_self
        exact absurd hup.symm (hrests.upWire hlive
          (hbridged.sized.handed payload (List.mem_of_mem_filter hmem)))
  · cases down with
    | nil => rw [hreceived, List.append_nil]
    | cons payload later =>
        have hmem : payload ∈ bridge.session.received := by
          rw [hreceived]
          exact List.mem_append_right _ List.mem_cons_self
        exact absurd hdown.symm (hrests.pending hlive (hbridged.received payload hmem))

theorem Rests.writes (hrests : Rests relay server bridge) (hlive : bridge.Live) :
    bridge.flow.writes = bridge.flow.delivered := by
  rw [UdpFlow.writes, hrests.flow_downlink hlive, Downlink.held, List.append_nil]

end Works

end UdpBridge

/-- However the two relays and the tunnel are scheduled, what has been handed over comes
through, as long as neither side ends: only so many steps are possible without anything
new to carry, and when no more is possible everything has been delivered, to the local
flow in the pieces that it takes. -/
theorem udp_comes_through {relay : UdpRelay} {server : UdpServer} {begin : ℕ}
    {trace moves : List (Transition UdpBridge BridgeEvent)} {bridge final : UdpBridge}
    (hrun : Execution (UdpBridge.step relay server) (.start begin) trace bridge)
    (hlive : bridge.Live) (hmoves : ∀ tr ∈ moves, UdpBridge.Moving tr.event)
    (hrun' : Execution (UdpBridge.step relay server) bridge moves final) :
    moves.length + final.work ≤ bridge.work ∧ final.Live ∧
      (UdpBridge.Rests relay server final →
        final.session.uploaded = nonempty bridge.flow.handed ∧
        Cut bridge.session.received final.flow.delivered ∧
        (UdpBridge.TakenWhole (trace ++ moves) →
          final.flow.delivered = nonempty bridge.session.received)) := by
  have hworks : moves.length + final.work ≤ bridge.work ∧ final.Live ∧
      final.flow.handed = bridge.flow.handed ∧
      final.session.received = bridge.session.received := by
    clear hrun
    induction hrun' with
    | nil => exact ⟨by simp, hlive, rfl, rfl⟩
    | @snoc moves state next event hrun hstep ih =>
        rw [List.forall_mem_append, List.forall_mem_singleton] at hmoves
        obtain ⟨hwork, hstate, hhanded, hreceived⟩ := ih hmoves.1
        have hstep := UdpBridge.works_of_moving hstate hmoves.2 hstep
        refine ⟨?_, hstep.live, hstep.handed.trans hhanded, hstep.received.trans hreceived⟩
        have hless := hstep.work_lt
        rw [List.length_append, List.length_singleton]
        omega
  obtain ⟨hwork, hfinal, hhanded, hreceived⟩ := hworks
  refine ⟨hwork, hfinal, fun hrests => ?_⟩
  have hall := hrun.append hrun'
  have hbridged := UdpBridge.bridged_run hall
  obtain ⟨hup, hdown⟩ := hrests.delivered hfinal hbridged
  have hcut := hbridged.sound.down
  rw [hrests.writes hfinal, hdown, hreceived] at hcut
  refine ⟨hhanded ▸ hup, hcut, fun hwhole => ?_⟩
  rw [← hreceived, ← hdown, ← hrests.writes hfinal]
  exact UdpBridge.writes_eq_of_takenWhole hall hwhole

/-- A datagram that the client has begun to write, and the steps that bring it through. -/
theorem udp_comes_through_sample :
    ∃ trace bridge moves final,
      Execution (UdpBridge.step hostRelayUdp (vmRelayUdp 10)) (.start 0) trace bridge ∧
      Execution (UdpBridge.step hostRelayUdp (vmRelayUdp 10)) bridge moves final ∧
      bridge.flow.handed = [[1, 2]] ∧ bridge.session.uploaded = [] ∧
      final.session.uploaded = [[1, 2]] ∧ moves.length + final.work ≤ bridge.work := by
  have hbefore : (replay (UdpBridge.step hostRelayUdp (vmRelayUdp 10)) (.start 0)
      [.client (.uplink (.datagram [1, 2])), .client (.uplink (.take 3))]).isSome = true := by
    decide
  obtain ⟨⟨trace, bridge⟩, hreplay⟩ := Option.isSome_iff_exists.mp hbefore
  let events : List BridgeEvent :=
    [.client (.uplink (.take 1)), .read, .client (.uplink .written), .server (.uploaded [1, 2])]
  have hafter : ((replay (UdpBridge.step hostRelayUdp (vmRelayUdp 10)) (.start 0)
      [.client (.uplink (.datagram [1, 2])), .client (.uplink (.take 3))]).bind fun result =>
        (replay (UdpBridge.step hostRelayUdp (vmRelayUdp 10)) result.2 events).map
          fun later => (result.2.flow.handed, result.2.session.uploaded,
            result.2.flow.result.isNone, result.2.session.ended.isNone,
            later.2.session.uploaded)) =
        some ([[1, 2]], [], true, true, [[1, 2]]) := by
    decide
  rw [hreplay, Option.bind_some, Option.map_eq_some_iff] at hafter
  obtain ⟨⟨moves, final⟩, hreplay', hfacts⟩ := hafter
  simp only [Prod.mk.injEq, Option.isNone_iff_eq_none] at hfacts
  obtain ⟨hhanded, huploaded, hflow, hsession, hfinal⟩ := hfacts
  have hrun := execution_of_replay hreplay
  have hrun' := execution_of_replay hreplay'
  have hmoves : ∀ tr ∈ moves, UdpBridge.Moving tr.event := by
    intro tr htr
    have hevent : tr.event ∈ events :=
      events_of_replay hreplay' ▸ List.mem_map_of_mem htr
    have hall : ∀ event ∈ events, UdpBridge.Moving event := by
      simp only [events, List.forall_mem_cons]
      exact ⟨.clientTake 1, .serverRead, .clientWritten, .serverSend _,
        fun _ hnil => absurd hnil List.not_mem_nil⟩
    exact hall _ hevent
  exact ⟨trace, bridge, moves, final, hrun, hrun', hhanded, huploaded, hfinal,
    (udp_comes_through hrun ⟨hflow, hsession⟩ hmoves hrun').1⟩

end VpnBridge.Relay
