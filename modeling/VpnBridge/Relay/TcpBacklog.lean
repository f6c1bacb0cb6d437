import VpnBridge.Grpc.Backlog
import VpnBridge.Relay.TcpLine

/-!
# What the parts of a TCP flow hold

No relay reads on while it has a buffer full of bytes that its destination does not take.
So a peer that does not read makes the application wait, and none of the processes on the
way keeps more for it than its buffers have room for.
-/

namespace VpnBridge.Relay

open VpnBridge.Grpc VpnBridge.Pipeline VpnBridge.TransitionSystem

/-! ## The relays of the host, of the agent and of the proxy client -/

namespace Transfer

variable {transfer next : Transfer} {event : TransferEvent}

theorem buffer_of_step (hstep : transfer.step event = some next)
    (hbuffer : transfer.buffer.length ≤ copyBufferSize) :
    next.buffer.length ≤ copyBufferSize := by
  cases event with
  | chunk bytes =>
      obtain ⟨⟨-, -, -, hroom⟩, hnext⟩ := Option.ite_none_right_eq_some.mp hstep
      cases hnext
      calc
        (transfer.buffer ++ bytes).length = transfer.buffer.length + bytes.length :=
          List.length_append
        _ ≤ copyBufferSize := hroom
  | take count =>
      obtain ⟨-, hnext⟩ := Option.ite_none_right_eq_some.mp hstep
      cases hnext
      exact (List.drop_sublist count transfer.buffer).length_le.trans hbuffer
  | sourceEnd => cases does_of_step hstep; exact hbuffer
  | readError failure => cases does_of_step hstep; exact hbuffer
  | writeError failure => cases does_of_step hstep; exact hbuffer
  | flushed => cases does_of_step hstep; exact hbuffer
  | shutdown answer => cases does_of_step hstep; exact hbuffer

end Transfer

namespace Splice

variable {splice next : Splice} {event : SpliceEvent}

theorem buffer_step (hstep : splice.step event = some next)
    (hbuffer : ∀ direction, (splice.transfers direction).buffer.length ≤ copyBufferSize)
    (direction : Direction) : (next.transfers direction).buffer.length ≤ copyBufferSize := by
  obtain ⟨-, hstep⟩ := Option.ite_none_right_eq_some.mp hstep
  obtain ⟨transfer, htransfer, rfl⟩ := Option.map_eq_some_iff.mp hstep
  by_cases hmoved : direction = event.direction
  · subst hmoved
    simp only [Function.update_self]
    exact Transfer.buffer_of_step htransfer (hbuffer event.direction)
  · simp only [Function.update_of_ne hmoved]
    exact hbuffer direction

theorem holds_run {trace : List (Transition Splice SpliceEvent)}
    (hrun : Execution step start trace splice) (way : Way) :
    (stage way splice).Holds copyBufferSize := by
  have hbuffer := Execution.invariant buffer_step hrun (fun _ => Nat.zero_le _) (.ofWay way)
  have hconserved := (sound_run hrun (.ofWay way)).conserved
  calc
    (splice.transfers (.ofWay way)).taken.length =
        (splice.transfers (.ofWay way)).carried.length +
          (splice.transfers (.ofWay way)).buffer.length := by
      rw [← hconserved, List.length_append]
    _ ≤ (splice.transfers (.ofWay way)).carried.length + copyBufferSize :=
      Nat.add_le_add_left hbuffer _

end Splice

/-! ## The relay of the proxy server -/

/-- The size of the buffer of `copy_with_activity`. -/
def chunkSize : ℕ := 16 * 1024

namespace Copy

variable {now : ℕ} {copy next : Copy} {event : CopyEvent} {moved : Bool}

/-- What has been read is at most one chunk ahead. -/
def Ahead (copy : Copy) : Prop :=
  copy.taken.length ≤ copy.carried.length + chunkSize

theorem length_of_chunk {bytes : List UInt8}
    (hstep : copy.copyWithActivity now (.chunk bytes) = some (next, moved)) :
    bytes.length ≤ chunkSize := by
  rw [copyWithActivity] at hstep
  split at hstep
  next => exact (Option.ite_none_right_eq_some.mp hstep).1.2
  next => cases hstep

/-- With every write the destination catches up. -/
theorem Ahead.carry (hahead : copy.Ahead) (phase : CopyPhase) (part : List UInt8) :
    Ahead { copy with phase := phase, carried := copy.carried ++ part } := by
  rw [Ahead, List.length_append]
  calc
    copy.taken.length ≤ copy.carried.length + chunkSize := hahead
    _ ≤ copy.carried.length + part.length + chunkSize :=
      Nat.add_le_add_right (Nat.le_add_right _ _) _

theorem ahead_step (hstep : copy.copyWithActivity now event = some (next, moved))
    (hfaithful : copy.Faithful) (hahead : copy.Ahead) : next.Ahead := by
  cases does_of_copyWithActivity hstep with
  | @chunk bytes hreading =>
      rw [Faithful, hreading] at hfaithful
      rw [Ahead, hfaithful, List.length_append]
      exact Nat.add_le_add_left (length_of_chunk hstep) _
  | sourceEnd hreading => exact hahead
  | readError hreading => exact hahead
  | takePart hwriting => exact hahead.carry _ _
  | takeRest hwriting => exact hahead.carry _ _
  | writeError hwriting => exact hahead
  | shutdown hclosing => exact hahead

end Copy

namespace TcpFlow

variable {idle begin : ℕ} {flow next : TcpFlow} {event : TcpEvent}

/-- Neither direction changes the bytes or reads further ahead than a chunk. -/
structure Paced (flow : TcpFlow) : Prop where
  faithful : ∀ direction, (flow.copies direction).Faithful
  ahead : ∀ direction, (flow.copies direction).Ahead

theorem paced_start : (start begin).Paced where
  faithful _ := Copy.faithful_start
  ahead _ := Nat.zero_le _

theorem paced_step (hstep : flow.step idle event = some next) (hpaced : flow.Paced) :
    next.Paced := by
  refine ⟨faithful_step hstep hpaced.faithful, fun direction => ?_⟩
  obtain ⟨-, hstep⟩ := Option.ite_none_right_eq_some.mp hstep
  cases event with
  | tick duration =>
      cases hstep
      exact hpaced.ahead direction
  | copy moving event =>
      obtain ⟨⟨copy, moved⟩, hcopy, rfl⟩ := Option.map_eq_some_iff.mp hstep
      by_cases hsame : direction = moving
      · subst hsame
        rw [copies_relay_self]
        exact Copy.ahead_step hcopy (hpaced.faithful direction) (hpaced.ahead direction)
      · rw [copies_relay_of_ne hsame]
        exact hpaced.ahead direction
  | turn =>
      cases hstep
      rw [copies_waitForIdle]
      exact hpaced.ahead direction

theorem holds_run {trace : List (Transition TcpFlow TcpEvent)}
    (hrun : Execution (step idle) (start begin) trace flow) (way : Way) :
    (stage way flow).Holds chunkSize :=
  (Execution.invariant paced_step hrun paced_start).ahead (.ofWay way)

end TcpFlow

/-! ## Lines -/

/-- In every line, each part holds no more than its buffers have room for.  So apart from
what is between the parts and in the call, no more than all their buffers together has been
read from one end and not been given to the other. -/
theorem tcp_backlog_bounded (response idle begin : ℕ) :
    (∀ trace host agent, Execution hostLine.step hostLine.start trace (host, agent) →
      ∀ way, (Splice.stage way host).Holds copyBufferSize ∧
        (Splice.stage way agent).Holds copyBufferSize ∧
        (hostLine.stage way (host, agent)).Holds (copyBufferSize +
          Splice.hop.between Splice.hop way (host, agent) + copyBufferSize)) ∧
    (∀ trace client server, Execution (quicLine idle begin).step (quicLine idle begin).start
        trace (client, server) →
      ∀ way, (Splice.stage way client).Holds copyBufferSize ∧
        (TcpFlow.stage way server).Holds chunkSize ∧
        ((quicLine idle begin).stage way (client, server)).Holds (copyBufferSize +
          Splice.hop.between (TcpFlow.hop idle begin) way (client, server) + chunkSize)) ∧
    ∀ trace client tunnel server, Execution (grpcLine response idle begin).step
        (grpcLine response idle begin).start trace (client, tunnel, server) →
      ∀ way, (Splice.stage way client).Holds copyBufferSize ∧
        (tunnel.lane way).Bounded ∧
        (TcpFlow.stage way server).Holds chunkSize ∧
        ((grpcLine response idle begin).stage way (client, tunnel, server)).Holds
          (copyBufferSize +
            Splice.hop.between ((Tunnel.hop response).join (TcpFlow.hop idle begin)) way
              (client, tunnel, server) +
            ((tunnel.lane way).capacity +
              (Tunnel.hop response).between (TcpFlow.hop idle begin) way (tunnel, server) +
              chunkSize)) := by
  refine ⟨fun trace host agent hrun way => ?_, fun trace client server hrun way => ?_,
    fun trace client tunnel server hrun way => ?_⟩
  · obtain ⟨⟨_, hhostRun⟩, ⟨_, hagentRun⟩, -⟩ := Hop.ran_of_run hrun
    have hhost : (Splice.stage way host).Holds copyBufferSize := Splice.holds_run hhostRun way
    have hagent : (Splice.stage way agent).Holds copyBufferSize := Splice.holds_run hagentRun way
    exact ⟨hhost, hagent, Hop.holds_join hhost hagent⟩
  · obtain ⟨⟨_, hclientRun⟩, ⟨_, hserverRun⟩, -⟩ := Hop.ran_of_run hrun
    have hclient : (Splice.stage way client).Holds copyBufferSize :=
      Splice.holds_run hclientRun way
    have hserver : (TcpFlow.stage way server).Holds chunkSize := TcpFlow.holds_run hserverRun way
    exact ⟨hclient, hserver, Hop.holds_join hclient hserver⟩
  · obtain ⟨⟨_, hclientRun⟩, ⟨_, hfarRun⟩, -⟩ := Hop.ran_of_run hrun
    obtain ⟨⟨_, htunnelRun⟩, ⟨_, hserverRun⟩, -⟩ := Hop.ran_of_run hfarRun
    have hclient : (Splice.stage way client).Holds copyBufferSize :=
      Splice.holds_run hclientRun way
    have htunnel : (Tunnel.stage response way tunnel).Holds (tunnel.lane way).capacity :=
      Tunnel.holds_run htunnelRun response way
    have hserver : (TcpFlow.stage way server).Holds chunkSize := TcpFlow.holds_run hserverRun way
    exact ⟨hclient, Tunnel.bounded_run htunnelRun way, hserver,
      Hop.holds_join hclient (Hop.holds_join htunnel hserver)⟩

/-- Three bytes stand in the buffer of the host, in that of the proxy server, and at the
beginning of the tunnel. -/
theorem tcp_backlog_bounded_sample :
    (∃ trace host agent, Execution hostLine.step hostLine.start trace (host, agent) ∧
      (host.transfers .upload).buffer = [1, 2, 3] ∧
      (Splice.stage .forth host).Holds copyBufferSize) ∧
    (∃ trace client server, Execution (quicLine 10 0).step (quicLine 10 0).start trace
        (client, server) ∧ (server.copies .upload).phase = .writing [1, 2, 3] 0 ∧
      (TcpFlow.stage .forth server).Holds chunkSize) ∧
    ∃ trace client tunnel server, Execution (grpcLine 0 10 0).step (grpcLine 0 10 0).start trace
        (client, tunnel, server) ∧ tunnel.up.outbound.backlog = [1, 2, 3] ∧
      (tunnel.lane .forth).Bounded := by
  have hhost : (replay hostLine.step hostLine.start
      ((sampleTransferEvents.take 1).map .inl)).map
        (fun result => (result.2.1.transfers .upload).buffer) = some [1, 2, 3] := by
    decide
  have hquic : (replay (quicLine 10 0).step (quicLine 10 0).start
      (sampleTransferEvents.map .inl ++ (sampleCopyEvents.take 1).map .inr)).map
        (fun result => (result.2.2.copies .upload).phase) =
      some (.writing [1, 2, 3] 0) := by
    decide
  have hgrpc : (replay (grpcLine 0 10 0).step (grpcLine 0 10 0).start
      (sampleTransferEvents.map .inl ++
        (sampleLaneEvents.take 4).map fun event => .inr (.inl (.up event)))).map
        (fun result => result.2.2.1.up.outbound.backlog) = some [1, 2, 3] := by
    decide
  obtain ⟨⟨hostTrace, host, agent⟩, hhostReplay, hhost⟩ := Option.map_eq_some_iff.mp hhost
  obtain ⟨⟨quicTrace, client, server⟩, hquicReplay, hquic⟩ := Option.map_eq_some_iff.mp hquic
  obtain ⟨⟨grpcTrace, client', tunnel, server'⟩, hgrpcReplay, hgrpc⟩ :=
    Option.map_eq_some_iff.mp hgrpc
  have hhostRun := execution_of_replay hhostReplay
  have hquicRun := execution_of_replay hquicReplay
  have hgrpcRun := execution_of_replay hgrpcReplay
  exact ⟨⟨hostTrace, host, agent, hhostRun, hhost,
      ((tcp_backlog_bounded 0 10 0).1 _ _ _ hhostRun .forth).1⟩,
    ⟨quicTrace, client, server, hquicRun, hquic,
      ((tcp_backlog_bounded 0 10 0).2.1 _ _ _ hquicRun .forth).2.1⟩,
    grpcTrace, client', tunnel, server', hgrpcRun, hgrpc,
      ((tcp_backlog_bounded 0 10 0).2.2 _ _ _ _ hgrpcRun .forth).2.1⟩

end VpnBridge.Relay
