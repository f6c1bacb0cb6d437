import VpnBridge.Client.Steps
import VpnBridge.Relay.TcpIdle
import VpnBridge.Server.Config

/-!
# Deadlines

Both programs add a configured duration to the clock while they run: the server
on every reset of an idle timer, the client when it opens a fallback window.
`validate` bounds these durations from below only, and an `Instant` has room for
so many seconds.
-/

namespace VpnBridge.Relay

open VpnBridge.Client VpnBridge.Net VpnBridge.Proto VpnBridge.Server
open VpnBridge.TransitionSystem

/-- An `Instant` counts its seconds in an `i64`. -/
def Representable (perSecond time : ℕ) : Prop :=
  time / perSecond < 2 ^ 63

theorem Representable.mono {perSecond time later : ℕ} (hle : time ≤ later)
    (hlater : Representable perSecond later) : Representable perSecond time :=
  lt_of_le_of_lt (Nat.div_le_div_right hle) hlater

/-! ## The idle timer of the server -/

abbrev nanosPerSec : ℕ := 1000000000

section Idle

variable {Net : Type}

/-- `Duration::from_secs(cfg.tcp_idle_timeout_secs)`, in nanoseconds. -/
def idleTimeout (cfg : ServerConfig Net) : ℕ :=
  cfg.tcpIdleTimeoutSecs * nanosPerSec

/-- The deadline to which a turn of `wait_for_idle` resets its timer. -/
def resetDeadline (idle : ℕ) (tr : Transition TcpFlow TcpEvent) : Option ℕ :=
  match tr.event with
  | .turn => if tr.pre.activity.signalled = true then some (tr.pre.now + idle) else none
  | _ => none

/-- No reset overflows while the clock of the server has not passed `latest`. -/
def ResetsRepresentable (cfg : ServerConfig Net) (latest : ℕ) : Prop :=
  ∀ begin trace flow,
    Execution (TcpFlow.step (idleTimeout cfg)) (.start begin) trace flow →
    flow.now ≤ latest → ∀ tr ∈ trace, ∀ deadline,
      resetDeadline (idleTimeout cfg) tr = some deadline → Representable nanosPerSec deadline

theorem eq_of_resetDeadline {idle deadline : ℕ} {tr : Transition TcpFlow TcpEvent}
    (hreset : resetDeadline idle tr = some deadline) : deadline = tr.pre.now + idle := by
  unfold resetDeadline at hreset
  split at hreset
  next =>
    obtain ⟨-, hdeadline⟩ := Option.ite_none_right_eq_some.mp hreset
    exact (Option.some.inj hdeadline).symm
  next => cases hreset

theorem TcpFlow.now_le_of_mem {idle : ℕ} {start flow : TcpFlow}
    {trace : List (Transition TcpFlow TcpEvent)} {tr : Transition TcpFlow TcpEvent}
    (hrun : Execution (TcpFlow.step idle) start trace flow) (hmem : tr ∈ trace) :
    tr.pre.now ≤ flow.now := by
  obtain ⟨before, after, rfl⟩ := List.append_of_mem hmem
  obtain ⟨-, hstep, hafter⟩ := execution_split_iff.mp hrun
  have hnow : ∀ {state event next}, TcpFlow.step idle state event = some next →
      TcpFlow.now state ≤ TcpFlow.now next :=
    fun hstep => (TcpFlow.does_of_step hstep).2.now_le
  have hrest : tr.post.now ≤ flow.now := hafter.monotone hnow
  exact (TcpFlow.does_of_step hstep).2.now_le.trans hrest

/-- A flow can move something at any time, and its timer is reset then. -/
theorem exists_reset (idle latest : ℕ) :
    ∃ trace flow tr, Execution (TcpFlow.step idle) (.start latest) trace flow ∧
      flow.now = latest ∧ tr ∈ trace ∧ resetDeadline idle tr = some (latest + idle) := by
  obtain ⟨trace, flow, hreplay, hlast⟩ : ∃ trace flow,
      replay (TcpFlow.step idle) (.start latest)
          [.copy .upload (.chunk [0]), .copy .upload (.take 1), .turn] = some (trace, flow) ∧
        flow.now = latest ∧ ∃ tr ∈ trace, resetDeadline idle tr = some (latest + idle) := by
    refine ⟨_, _, rfl, rfl, _, List.mem_cons_of_mem _ (List.mem_cons_of_mem _
      List.mem_cons_self), rfl⟩
  obtain ⟨hnow, tr, hmem, hreset⟩ := hlast
  exact ⟨trace, flow, tr, execution_of_replay hreplay, hnow, hmem, hreset⟩

theorem representable_reset_iff {cfg : ServerConfig Net} {latest : ℕ} :
    Representable nanosPerSec (latest + idleTimeout cfg) ↔
      latest / nanosPerSec + cfg.tcpIdleTimeoutSecs < 2 ^ 63 := by
  rw [Representable, idleTimeout, Nat.add_mul_div_right _ _ (by decide)]

theorem resetsRepresentable_iff {cfg : ServerConfig Net} {latest : ℕ} :
    ResetsRepresentable cfg latest ↔
      latest / nanosPerSec + cfg.tcpIdleTimeoutSecs < 2 ^ 63 := by
  rw [← representable_reset_iff]
  constructor
  · intro hresets
    obtain ⟨trace, flow, tr, hrun, hnow, hmem, hreset⟩ :=
      exists_reset (idleTimeout cfg) latest
    exact hresets latest trace flow hrun hnow.le tr hmem _ hreset
  · intro hlatest begin trace flow hrun hnow tr hmem deadline hreset
    rw [eq_of_resetDeadline hreset]
    apply Representable.mono _ hlatest
    exact Nat.add_le_add_right ((TcpFlow.now_le_of_mem hrun hmem).trans hnow) _

end Idle

end VpnBridge.Relay

/-! ## The fallback window of the client -/

namespace VpnBridge.Client

open VpnBridge.Net VpnBridge.Proto VpnBridge.Relay VpnBridge.TransitionSystem

abbrev millisPerSec : ℕ := 1000

/-- The deadline of the window that an open computes when it finds QUIC unavailable. -/
def windowDeadline (cfg : ClientConfig) (tr : Transition State Event) : Option Time :=
  tr.event.resumed.bind fun resumed =>
    match tr.pre.pointOf resumed.1 with
    | some .unavailable => some (tr.pre.shared.now + cfg.reconnectIntervalMs)
    | _ => none

/-- No window overflows while the clock of the client has not passed `latest`. -/
def WindowsRepresentable (cfg : ClientConfig) (latest : Time) : Prop :=
  ∀ now trace final, Run cfg now trace final → final.shared.now ≤ latest →
    ∀ tr ∈ trace, ∀ deadline, windowDeadline cfg tr = some deadline →
      Representable millisPerSec deadline

/-- An open that may get to QUIC, or has been there. -/
def OpenPoint.usesQuic : OpenPoint → Bool
  | .grpcOpening .only _ => false
  | .grpcResponse .only _ => false
  | .done _ => false
  | _ => true

section Windows

variable {cfg : ClientConfig} {now latest : Time} {trace : List (Transition State Event)}
variable {final : State} {flow : FlowId} {cmd : Cmd} {target : Address}
variable {shared next : Shared} {source point : OpenPoint} {input : Input}

@[simp]
theorem usesQuic_afterGrpc_only (result : Except AnyhowError Unit) :
    (afterGrpc .only result).usesQuic = false := by
  cases result <;> rfl

@[simp]
theorem usesQuic_grpcAnswered_only (response : Response) :
    (grpcAnswered target .only response).usesQuic = false := by
  rw [grpcAnswered]
  split <;> exact usesQuic_afterGrpc_only _

/-- An open that gets to QUIC was headed there before. -/
theorem Resumes.usesQuic
    (hresumes : Resumes cfg flow cmd target shared source input next point)
    (huses : point.usesQuic = true) : source.usesQuic = true := by
  cases source with
  | grpcOpening role since =>
      cases role with
      | only => cases hresumes <;> cases huses
      | _ => rfl
  | grpcResponse role since =>
      cases role with
      | only => cases hresumes <;> simp at huses
      | _ => rfl
  | done result => cases hresumes
  | _ => rfl

theorem usesQuic_entryPoint (huses : (entryPoint cfg now cmd target).usesQuic = true) :
    cfg.quicEnabled = true := by
  by_contra hquic
  rw [entryPoint, Bool.eq_false_of_not_eq_true hquic, Bool.not_false, if_pos rfl] at huses
  split at huses
  next => cases huses
  next =>
    rw [grpcOpen] at huses
    split at huses
    next =>
      rw [usesQuic_afterGrpc_only] at huses
      cases huses
    next => cases huses

/-- Only with QUIC enabled does an open get to QUIC. -/
theorem quicEnabled_of_usesQuic (hrun : Run cfg now trace final)
    (hpoint : final.pointOf flow = some point) (huses : point.usesQuic = true) :
    cfg.quicEnabled = true := by
  have hinvariant : ∀ point, final.pointOf flow = some point → point.usesQuic = true →
      cfg.quicEnabled = true := by
    apply hrun.preserved (fun state => ∀ point, state.pointOf flow = some point →
      point.usesQuic = true → cfg.quicEnabled = true)
    · intro tr _ hstep hbefore point hpoint huses
      rcases pointOf_of_step flow hstep with hsame | ⟨cmd, target, -, hentry⟩ |
        ⟨input, call, shared, reached, -, hopen, hresumes, -, hreached⟩
      · exact hbefore point (hsame.symm.trans hpoint) huses
      · cases hentry.symm.trans hpoint
        exact usesQuic_entryPoint huses
      · cases hreached.symm.trans hpoint
        exact hbefore _ (pointOf_of_open hopen) (hresumes.usesQuic huses)
    · intro point hpoint
      cases hpoint
  exact hinvariant point hpoint huses

theorem grpcEnabled_of_afterQuic {result : Except QuicOpenError Unit}
    (hafter : afterQuic cfg result = .unavailable) : cfg.grpcEnabled = true := by
  by_contra hgrpc
  rcases result with (error | error) | opened <;>
    simp [afterQuic, Bool.eq_false_of_not_eq_true hgrpc] at hafter

theorem afterGrpc_ne_unavailable (role : GrpcRole) (result : Except AnyhowError Unit) :
    afterGrpc role result ≠ .unavailable := by
  cases result <;> cases role <;> simp [afterGrpc]

theorem grpcOpen_ne_unavailable (role : GrpcRole) :
    grpcOpen cfg now cmd target role ≠ .unavailable := by
  rw [grpcOpen]
  split
  · exact afterGrpc_ne_unavailable role _
  · simp

theorem entryPoint_ne_unavailable : entryPoint cfg now cmd target ≠ .unavailable := by
  rw [entryPoint]
  split <;> split <;> first | exact grpcOpen_ne_unavailable .only | simp

/-- An open reports QUIC unavailable only when it can fall back. -/
theorem Resumes.grpcEnabled
    (hresumes : Resumes cfg flow cmd target shared source input next .unavailable) :
    cfg.grpcEnabled = true := by
  generalize hpoint : OpenPoint.unavailable = point at hresumes
  cases hresumes with
  | grpcAnswered =>
      rw [Client.grpcAnswered] at hpoint
      split at hpoint <;> exact absurd hpoint.symm (afterGrpc_ne_unavailable _ _)
  | answered =>
      rw [quicAnswered] at hpoint
      split at hpoint <;> exact grpcEnabled_of_afterQuic hpoint.symm
  | _ =>
      first
      | cases hpoint
      | exact grpcEnabled_of_afterQuic hpoint.symm
      | exact absurd hpoint.symm (afterGrpc_ne_unavailable _ _)
      | exact absurd hpoint.symm (grpcOpen_ne_unavailable _)

theorem grpcEnabled_of_unavailable (hrun : Run cfg now trace final)
    (hpoint : final.pointOf flow = some .unavailable) : cfg.grpcEnabled = true := by
  apply hrun.preserved
    (fun state => state.pointOf flow = some .unavailable → cfg.grpcEnabled = true) _ _ hpoint
  · intro tr _ hstep hbefore hpoint
    rcases pointOf_of_step flow hstep with hsame | ⟨cmd, target, -, hentry⟩ |
      ⟨input, call, shared, reached, -, -, hresumes, -, hreached⟩
    · exact hbefore (hsame.symm.trans hpoint)
    · exact absurd (Option.some.inj (hentry.symm.trans hpoint)) entryPoint_ne_unavailable
    · cases hreached.symm.trans hpoint
      exact hresumes.grpcEnabled
  · intro hpoint
    cases hpoint

/-- An open that finds both transports enabled can fail to connect at any time. -/
theorem exists_window (hquic : cfg.quicEnabled = true) (hgrpc : cfg.grpcEnabled = true)
    (latest : Time) :
    ∃ trace final tr, Run cfg latest trace final ∧ final.shared.now = latest ∧
      tr ∈ trace ∧ windowDeadline cfg tr = some (latest + cfg.reconnectIntervalMs) := by
  obtain ⟨trace, final, hreplay, hlast⟩ : ∃ trace final,
      replay (step cfg) (State.new latest)
          [.start 0 .connectTcp sampleTarget, .resume 0 .proceed, .resume 0 (.failed []),
            .resume 0 .proceed] = some (trace, final) ∧
        final.shared.now = latest ∧
        ∃ tr ∈ trace, windowDeadline cfg tr = some (latest + cfg.reconnectIntervalMs) := by
    -- With both flags known, every step computes.
    cases cfg
    cases hquic
    cases hgrpc
    exact ⟨_, _, rfl, rfl, _, List.mem_cons_of_mem _ (List.mem_cons_of_mem _
      (List.mem_cons_of_mem _ List.mem_cons_self)), rfl⟩
  obtain ⟨hnow, tr, hmem, hdeadline⟩ := hlast
  exact ⟨trace, final, tr, execution_of_replay hreplay, hnow, hmem, hdeadline⟩

theorem windowDeadline_eq_some_iff {tr : Transition State Event} {deadline : Time} :
    windowDeadline cfg tr = some deadline ↔
      ∃ flow input, tr.event = .resume flow input ∧
        tr.pre.pointOf flow = some .unavailable ∧
        deadline = tr.pre.shared.now + cfg.reconnectIntervalMs := by
  rw [windowDeadline]
  cases hevent : tr.event with
  | resume flow input =>
      rw [Event.resumed, Option.bind_some]
      split <;> simp_all [eq_comm]
  | _ => simp [Event.resumed]

theorem windowsRepresentable_iff :
    WindowsRepresentable cfg latest ↔
      (cfg.quicEnabled = true → cfg.grpcEnabled = true →
        Representable millisPerSec (latest + cfg.reconnectIntervalMs)) := by
  constructor
  · intro hwindows hquic hgrpc
    obtain ⟨trace, final, tr, hrun, hnow, hmem, hdeadline⟩ :=
      exists_window hquic hgrpc latest
    exact hwindows latest trace final hrun hnow.le tr hmem _ hdeadline
  · intro hlatest now trace final hrun hnow tr hmem deadline hdeadline
    obtain ⟨flow, input, -, hpoint, rfl⟩ := windowDeadline_eq_some_iff.mp hdeadline
    obtain ⟨before, after, rfl⟩ := List.append_of_mem hmem
    obtain ⟨hbefore, hstep, hafter⟩ := execution_split_iff.mp hrun
    have hrest : tr.post.shared.now ≤ final.shared.now :=
      hafter.preserved (fun state => tr.post.shared.now ≤ state.shared.now)
        (fun _ _ hstep hle => hle.trans (now_le_of_step hstep)) (le_refl _)
    have hpre : tr.pre.shared.now ≤ latest :=
      (now_le_of_step hstep).trans (hrest.trans hnow)
    apply Representable.mono (Nat.add_le_add_right hpre _)
    exact hlatest (quicEnabled_of_usesQuic hbefore hpoint rfl)
      (grpcEnabled_of_unavailable hbefore hpoint)

end Windows

end VpnBridge.Client

namespace VpnBridge.Relay

open VpnBridge.Client VpnBridge.Net VpnBridge.Proto VpnBridge.Server
open VpnBridge.TransitionSystem

/-- Whatever `validate` accepts, the deadlines fit while the seconds of the clock
and of the timer do, and not longer. -/
theorem deadlines_representable_iff {Net : Type} (server : ServerConfig Net)
    (client : ClientConfig) (serverLatest : ℕ) (clientLatest : Time) :
    ResetsRepresentable server serverLatest ∧ WindowsRepresentable client clientLatest ↔
      serverLatest / nanosPerSec + server.tcpIdleTimeoutSecs < 2 ^ 63 ∧
        (client.quicEnabled = true → client.grpcEnabled = true →
          (clientLatest + client.reconnectIntervalMs) / millisPerSec < 2 ^ 63) :=
  and_congr resetsRepresentable_iff windowsRepresentable_iff

/-- The server of the tests, whose operator asked for no timeout. -/
def patientConfig : ServerConfig IpNet :=
  { ServerConfig.sample [] [] with tcpIdleTimeoutSecs := 2 ^ 63 - 1 }

/-- The largest timeout of the file format is accepted, and the first chunk that
is relayed after a second of uptime makes the reset overflow. -/
theorem reset_overflows :
    patientConfig.validate = .ok () ∧
      ∃ trace flow tr deadline,
        Execution (TcpFlow.step (idleTimeout patientConfig)) (.start nanosPerSec) trace flow ∧
        flow.now = nanosPerSec ∧ tr ∈ trace ∧
        resetDeadline (idleTimeout patientConfig) tr = some deadline ∧
        ¬ Representable nanosPerSec deadline := by
  constructor
  · have hname : patientConfig.serverName.toList.all isWhitespace = false := by
      change "vpnbridge.local".toList.all isWhitespace = false
      decide
    rw [ServerConfig.validate, hname]
    rfl
  · obtain ⟨trace, flow, tr, hrun, hnow, hmem, hreset⟩ :=
      exists_reset (idleTimeout patientConfig) nanosPerSec
    have hoverflow : ¬ Representable nanosPerSec (nanosPerSec + idleTimeout patientConfig) := by
      rw [representable_reset_iff]
      decide
    exact ⟨trace, flow, tr, _, hrun, hnow, hmem, hreset, hoverflow⟩

end VpnBridge.Relay
