import VpnBridge.Client.SuppressionWindow

/-!
# What starts a fallback window

The window is meant for a QUIC path that cannot be had.  `QuicClient::open`
also reports QUIC unavailable when the request cannot be written, when the
response cannot be read, and when its timer elapses; the last needs only a slow
target on a healthy connection.  Where no open fails so late, windows come from
failures to connect or to open a stream, and from nothing else.
-/

namespace VpnBridge.Client

open VpnBridge.Net VpnBridge.Proto VpnBridge.TransitionSystem

/-- No connection could be made, or no stream be opened on it. -/
def OpenPoint.cannotOpen : OpenPoint → Input → Bool
  | .lockSlot, .failed _ => true
  | .connecting _, .failed _ => true
  | .connecting _, .elapsed => true
  | .openStream _, .failed _ => true
  | _, _ => false

/-- The stream is open, and the request or the response fails on it. -/
def OpenCall.failsLate (cfg : ClientConfig) (call : OpenCall) (input : Input) : Bool :=
  match call.point, input with
  | .writeRequest _, .failed _ => true
  | .writeRequest _, .ready =>
      match encodeRequest cfg call.cmd call.target with
      | .ok () => false
      | .error _ => true
  | .awaitResponse _ _, .failed _ => true
  | .awaitResponse _ _, .elapsed => true
  | _, _ => false

def CannotOpen (tr : Transition State Event) (flow : FlowId) : Prop :=
  ∃ input point, tr.event = .resume flow input ∧ tr.pre.pointOf flow = some point ∧
    point.cannotOpen input = true

def OpensStream (tr : Transition State Event) (flow : FlowId) (conn : ConnId) : Prop :=
  tr.event = .resume flow .ready ∧ tr.pre.pointOf flow = some (.openStream conn)

/-- Windows have their cause in a QUIC path that could not be had. -/
structure FallbackCause (trace : List (Transition State Event)) : Prop where
  /-- An open that starts a window could not connect or open a stream. -/
  started : ∀ before tr after deadline, trace = before ++ tr :: after →
    tr.pre.shared.fallbackUntil ≠ some deadline →
    tr.post.shared.fallbackUntil = some deadline →
      ∃ flow input, tr.event = .resume flow input ∧
        ∃ earlier ∈ before, CannotOpen earlier flow
  /-- An open whose stream is open on a live connection neither starts a window
  nor touches the slot. -/
  opened : ∀ before tr between later after flow conn input,
    trace = before ++ tr :: between ++ later :: after → OpensStream tr flow conn →
    later.event = .resume flow input → later.pre.shared.connections conn = .live →
      later.post.shared.slot = later.pre.shared.slot ∧
        (later.post.shared.fallbackUntil = later.pre.shared.fallbackUntil ∨
          later.post.shared.fallbackUntil = none)
  /-- An open tries gRPC first only after an open that could not have QUIC. -/
  tried : ∀ before tr after flow now, trace = before ++ tr :: after →
    windowAct tr = some (.checked flow now .grpc) →
      ∃ earlier ∈ before, ∃ other, CannotOpen earlier other

/-- No open fails once its stream is open. -/
def NoLateFailure (cfg : ClientConfig) (trace : List (Transition State Event)) : Prop :=
  ∀ tr ∈ trace, ∀ flow input call, tr.event = .resume flow input →
    tr.pre.opens flow = some call → call.failsLate cfg input = false

/-! ## Points -/

/-- The open is on its way to record the window. -/
def OpenPoint.falling : OpenPoint → Bool
  | .invalidate _ _ => true
  | .unavailable => true
  | .recordWindow _ => true
  | _ => false

/-- The stream of the open is open, and nothing has failed on it. -/
def OpenPoint.settling : OpenPoint → Bool
  | .writeRequest _ => true
  | .awaitResponse _ _ => true
  | .clearAfterQuic => true
  | .done _ => true
  | _ => false

@[simp]
theorem falling_afterGrpc (role : GrpcRole) (result : Except AnyhowError Unit) :
    (afterGrpc role result).falling = false := by
  cases result <;> cases role <;> rfl

@[simp]
theorem falling_grpcOpen (cfg : ClientConfig) (now : Time) (cmd : Cmd) (target : Address)
    (role : GrpcRole) : (grpcOpen cfg now cmd target role).falling = false := by
  rw [grpcOpen]
  split
  · exact falling_afterGrpc role _
  · rfl

@[simp]
theorem falling_grpcAnswered (target : Address) (role : GrpcRole) (response : Response) :
    (grpcAnswered target role response).falling = false := by
  rw [grpcAnswered]
  split <;> exact falling_afterGrpc role _

theorem settling_quicAnswered (cfg : ClientConfig) (target : Address)
    (response : Response) : (quicAnswered cfg target response).settling = true := by
  rw [quicAnswered, afterQuic, afterQuic]
  split
  · rfl
  · split <;> rfl

@[simp]
theorem falling_quicAnswered (cfg : ClientConfig) (target : Address)
    (response : Response) : (quicAnswered cfg target response).falling = false := by
  rw [quicAnswered, afterQuic, afterQuic]
  split
  · rfl
  · split <;> rfl

@[simp]
theorem falling_entryPoint (cfg : ClientConfig) (now : Time) (cmd : Cmd)
    (target : Address) : (entryPoint cfg now cmd target).falling = false := by
  rw [entryPoint]
  split
  · split
    · rfl
    · exact falling_grpcOpen cfg now cmd target .only
  · split <;> rfl

section Points

variable {cfg : ClientConfig} {flow : FlowId} {call : OpenCall}
variable {shared next : Shared} {point : OpenPoint} {input : Input}

/-- How an open comes to fall: it could not have QUIC, or it fails late. -/
theorem Resumes.of_falling
    (hresumes : Resumes cfg flow call.cmd call.target shared call.point input next point)
    (hlate : call.failsLate cfg input = false) (hfalling : point.falling = true) :
    call.point.falling = true ∨ call.point.cannotOpen input = true := by
  obtain ⟨cmd, target, source⟩ := call
  simp only at hresumes ⊢
  cases hresumes with
  | connectRefused => exact .inr rfl
  | connectFailed => exact .inr rfl
  | connectElapsed => exact .inr rfl
  | streamFailed => exact .inr rfl
  | encodeFailed hencode =>
      simp only [OpenCall.failsLate, hencode] at hlate
      cases hlate
  | writeFailed => cases hlate
  | readFailed => cases hlate
  | readElapsed => cases hlate
  | invalidated => exact .inl rfl
  | observes => exact .inl rfl
  | _ => first | cases hfalling | simp at hfalling

/-- Without a late failure an open stream leads to a result. -/
theorem Resumes.settling
    (hresumes : Resumes cfg flow call.cmd call.target shared call.point input next point)
    (hlate : call.failsLate cfg input = false) (hsettling : call.point.settling = true) :
    point.settling = true ∧ next.slot = shared.slot ∧
      (next.fallbackUntil = shared.fallbackUntil ∨ next.fallbackUntil = none) := by
  obtain ⟨cmd, target, source⟩ := call
  simp only at hresumes hsettling
  cases hresumes with
  | written => exact ⟨rfl, rfl, .inl rfl⟩
  | answered => exact ⟨settling_quicAnswered cfg target _, rfl, .inl rfl⟩
  | clearedAfterQuic => exact ⟨rfl, rfl, .inr rfl⟩
  | encodeFailed hencode =>
      simp only [OpenCall.failsLate, hencode] at hlate
      cases hlate
  | writeFailed => cases hlate
  | readFailed => cases hlate
  | readElapsed => cases hlate
  | _ => cases hsettling

end Points

/-! ## Runs -/

section Runs

variable {cfg : ClientConfig} {now : Time} {trace : List (Transition State Event)}
variable {final : State}

/-- An open on its way to the window could not have QUIC. -/
theorem cannotOpen_of_falling (hrun : Run cfg now trace final)
    (hlate : NoLateFailure cfg trace) {flow : FlowId} {point : OpenPoint}
    (hpoint : final.pointOf flow = some point) (hfalling : point.falling = true) :
    ∃ earlier ∈ trace, CannotOpen earlier flow := by
  induction hrun generalizing point with
  | nil => cases hpoint
  | @snoc trace state next event hrun hstep ih =>
      have hearlier : NoLateFailure cfg trace := fun tr hmem =>
        hlate tr (List.mem_append_left _ hmem)
      have hlast := hlate ⟨state, event, next⟩ (by simp)
      have ih := fun {point} => @ih hearlier point
      rcases @pointOf_of_step cfg ⟨state, event, next⟩ flow hstep with
        hsame | ⟨cmd, target, -, hentry⟩ |
          ⟨input, call, shared, reached, hevent, hopen, hresumes, -, hreached⟩
      · obtain ⟨earlier, hmem, hcause⟩ := ih (hsame.symm.trans hpoint) hfalling
        exact ⟨earlier, List.mem_append_left _ hmem, hcause⟩
      · cases hentry.symm.trans hpoint
        simp at hfalling
      · cases hreached.symm.trans hpoint
        cases hresumes.of_falling (hlast flow input call hevent hopen) hfalling with
        | inl hbefore =>
            obtain ⟨earlier, hmem, hcause⟩ := ih (pointOf_of_open hopen) hbefore
            exact ⟨earlier, List.mem_append_left _ hmem, hcause⟩
        | inr hcannot =>
            exact ⟨⟨state, event, next⟩, by simp, input, call.point, hevent,
              pointOf_of_open hopen, hcannot⟩

/-- A transition that starts a window is a step of an open about to record it. -/
theorem falling_of_started {tr : Transition State Event} {deadline : Time}
    (hstep : step cfg tr.pre tr.event = some tr.post)
    (hpre : tr.pre.shared.fallbackUntil ≠ some deadline)
    (hpost : tr.post.shared.fallbackUntil = some deadline) :
    ∃ flow input point, tr.event = .resume flow input ∧
      tr.pre.pointOf flow = some point ∧ point.falling = true := by
  cases hevent : tr.event with
  | tick delta =>
      rw [hevent, step_tick_iff] at hstep
      rw [hstep] at hpost
      exact absurd hpost hpre
  | close conn =>
      rw [hevent, step_close_iff] at hstep
      rw [hstep.2] at hpost
      exact absurd hpost hpre
  | start flow cmd target =>
      rw [hevent, step_start_iff] at hstep
      rw [hstep.2] at hpost
      exact absurd hpost hpre
  | resume flow input =>
      rw [hevent, step_resume_iff] at hstep
      obtain ⟨call, shared, point, hopen, hresumes, hnext⟩ := hstep
      refine ⟨flow, input, call.point, rfl, pointOf_of_open hopen, ?_⟩
      rw [hnext, hresumes.fallbackUntil_eq] at hpost
      cases hsource : call.point with
      | recordWindow observed => rfl
      | _ =>
          rw [hsource] at hpost
          first | exact absurd hpost hpre | cases hpost

/-- A window has its cause in an open that could not have QUIC. -/
theorem cannotOpen_of_window (hrun : Run cfg now trace final)
    (hlate : NoLateFailure cfg trace) {deadline : Time}
    (hwindow : final.shared.fallbackUntil = some deadline) :
    ∃ earlier ∈ trace, ∃ flow, CannotOpen earlier flow := by
  obtain ⟨before, tr, after, rfl, hpre, hpost⟩ :=
    hrun.exists_first (fun state => state.shared.fallbackUntil = some deadline)
      nofun hwindow
  obtain ⟨hbefore, hstep, -⟩ := execution_split_iff.mp hrun
  obtain ⟨flow, input, point, -, hpoint, hfalling⟩ := falling_of_started hstep hpre hpost
  have hearlier : NoLateFailure cfg before := fun tr hmem =>
    hlate tr (List.mem_append_left _ hmem)
  obtain ⟨earlier, hmem, hcause⟩ := cannotOpen_of_falling hbefore hearlier hpoint hfalling
  exact ⟨earlier, List.mem_append_left _ hmem, flow, hcause⟩

/-- Once its stream is open, an open settles if nothing fails late. -/
theorem settling_of_opensStream {start last : State}
    {between : List (Transition State Event)} {flow : FlowId} {conn : ConnId}
    (hrun : Execution (step cfg) start between last) (hlate : NoLateFailure cfg between)
    (hstart : start.pointOf flow = some (.writeRequest conn)) :
    ∃ point, last.pointOf flow = some point ∧ point.settling = true := by
  apply hrun.preserved
    (fun state => ∃ point, state.pointOf flow = some point ∧ point.settling = true)
    (fun tr hmem hstep => ?_) ⟨_, hstart, rfl⟩
  rintro ⟨point, hpoint, hsettling⟩
  rcases pointOf_of_step flow hstep with hsame | ⟨cmd, target, hnone, -⟩ |
    ⟨input, call, shared, reached, hevent, hopen, hresumes, -, hreached⟩
  · exact ⟨point, hsame.trans hpoint, hsettling⟩
  · cases hnone.symm.trans hpoint
  · cases (pointOf_of_open hopen).symm.trans hpoint
    exact ⟨reached, hreached, (hresumes.settling
      (hlate tr hmem flow input call hevent hopen) hsettling).1⟩

theorem writeRequest_of_opensStream {tr : Transition State Event} {flow : FlowId}
    {conn : ConnId} (hstep : step cfg tr.pre tr.event = some tr.post)
    (hopens : OpensStream tr flow conn) :
    tr.post.pointOf flow = some (.writeRequest conn) := by
  obtain ⟨hevent, hpoint⟩ := hopens
  rw [hevent, step_resume_iff] at hstep
  obtain ⟨call, shared, point, hopen, hresumes, hpost⟩ := hstep
  rw [pointOf_of_open hopen, Option.some.injEq] at hpoint
  rw [hpoint] at hresumes
  rw [hpost, State.pointOf_update_self]
  cases hresumes
  rfl

/-- Only a window makes an open try gRPC first. -/
theorem fallbackUntil_of_checked {tr : Transition State Event} {flow : FlowId}
    {checked : Time} (hstep : step cfg tr.pre tr.event = some tr.post)
    (hact : windowAct tr = some (.checked flow checked .grpc)) :
    ∃ deadline, tr.pre.shared.fallbackUntil = some deadline := by
  obtain ⟨input, hevent, hpoint, htried⟩ := checkWindow_of_windowAct hact
  rw [hevent, step_resume_iff] at hstep
  obtain ⟨call, shared, point, hopen, hresumes, hpost⟩ := hstep
  rw [pointOf_of_open hopen, Option.some.injEq] at hpoint
  rw [hpost, State.pointOf_update_self] at htried
  rw [hpoint] at hresumes
  cases hresumes with
  | probes => cases htried
  | suppressed hsuppressed =>
      rw [Shared.quicSuppressed, Option.any_eq_true] at hsuppressed
      obtain ⟨deadline, hdeadline, -⟩ := hsuppressed
      exact ⟨deadline, hdeadline⟩

/-- In every run in which no open fails once its stream is open, windows come
from a QUIC path that could not be had, and open streams disturb no one. -/
theorem fallback_cause (hrun : Run cfg now trace final)
    (hlate : NoLateFailure cfg trace) : FallbackCause trace := by
  have hbefore : ∀ {before after}, trace = before ++ after → NoLateFailure cfg before :=
    fun htrace tr hmem => hlate tr (by rw [htrace]; exact List.mem_append_left _ hmem)
  refine ⟨?_, ?_, ?_⟩
  · intro before tr after deadline htrace hpre hpost
    have hearlier := hbefore htrace
    rw [htrace, Run, execution_split_iff] at hrun
    obtain ⟨flow, input, point, hevent, hpoint, hfalling⟩ :=
      falling_of_started hrun.2.1 hpre hpost
    exact ⟨flow, input, hevent, cannotOpen_of_falling hrun.1 hearlier hpoint hfalling⟩
  · intro before tr between later after flow conn input htrace hopens hevent _
    have hsplit : trace = before ++ tr :: (between ++ later :: after) := by simp [htrace]
    have hmiddle : NoLateFailure cfg between := fun other hmem =>
      hlate other (by simp [htrace, hmem])
    have hlast : NoLateFailure cfg [later] := fun other hmem =>
      hlate other (by rw [List.mem_singleton] at hmem; simp [htrace, hmem])
    rw [hsplit, Run, execution_split_iff] at hrun
    obtain ⟨-, hstep, hrest⟩ := hrun
    obtain ⟨hbetween, hlater, -⟩ := execution_split_iff.mp hrest
    obtain ⟨point, hpoint, hsettling⟩ := settling_of_opensStream hbetween hmiddle
      (writeRequest_of_opensStream hstep hopens)
    rw [hevent, step_resume_iff] at hlater
    obtain ⟨call, shared, reached, hopen, hresumes, hpost⟩ := hlater
    cases (pointOf_of_open hopen).symm.trans hpoint
    rw [hpost]
    exact (hresumes.settling
      (hlast later (List.mem_singleton.mpr rfl) flow input call hevent hopen) hsettling).2
  · intro before tr after flow checked htrace hact
    have hearlier := hbefore htrace
    rw [htrace, Run, execution_split_iff] at hrun
    obtain ⟨deadline, hwindow⟩ := fallbackUntil_of_checked hrun.2.1 hact
    exact cannotOpen_of_window hrun.1 hearlier hwindow

end Runs

theorem fallback_cause_sample :
    ∃ trace final, Run ClientConfig.sample 0 trace final ∧
      final.shared.fallbackUntil = some 3000 ∧ FallbackCause trace := by
  have hfacts : (replay (step ClientConfig.sample) (State.new 0) suppressedEvents).map
      (fun result => (result.2.shared.fallbackUntil, result.1.all fun tr =>
        tr.event.resumed.all fun resumed => (tr.pre.opens resumed.1).all fun call =>
          !call.failsLate ClientConfig.sample resumed.2)) = some (some 3000, true) := by
    decide
  obtain ⟨⟨trace, final⟩, hreplay, hfacts⟩ := Option.map_eq_some_iff.mp hfacts
  obtain ⟨hwindow, hlate⟩ := Prod.mk.injEq _ _ _ _ ▸ hfacts
  have hrun := execution_of_replay hreplay
  refine ⟨trace, final, hrun, hwindow, fallback_cause hrun ?_⟩
  intro tr hmem flow input call hevent hopen
  have htr := List.all_eq_true.mp hlate tr hmem
  simpa only [hevent, Event.resumed, hopen, Option.all_some, Bool.not_eq_true'] using htr

/-! ## A slow target -/

/-- The first open has a connection and a stream; its target takes longer to
answer than the client waits.  The second open comes after its timer. -/
def slowTargetEvents : List Event :=
  [.start 0 .connectTcp sampleTarget, .resume 0 .proceed, .resume 0 .connecting,
    .resume 0 (.connected 0), .resume 0 .ready, .resume 0 .ready, .tick 5000,
    .resume 0 .elapsed, .resume 0 .proceed, .resume 0 .proceed, .resume 0 .proceed,
    .start 1 .connectTcp sampleTarget]

/-- The second open tries gRPC, and the slot is empty, though the connection is
live and no open failed to connect or to open a stream. -/
theorem slow_target_starts_window :
    ClientConfig.sample.validate = .ok () ∧
    ∃ trace final, Run ClientConfig.sample 0 trace final ∧
      final.shared.connections 0 = .live ∧ final.shared.slot = none ∧
      ¬ FallbackCause trace := by
  have hfacts : ((replay (step ClientConfig.sample) (State.new 0) slowTargetEvents).bind
      fun result => (step ClientConfig.sample result.2 (.resume 1 .proceed)).map
        fun post => (windowAct ⟨result.2, .resume 1 .proceed, post⟩,
          post.shared.connections 0, post.shared.slot, result.1.all fun tr =>
            tr.event.resumed.all fun resumed =>
              (tr.pre.pointOf resumed.1).all fun point => !point.cannotOpen resumed.2)) =
          some (some (.checked 1 5000 .grpc), .live, none, true) := by
    decide
  obtain ⟨⟨trace, state⟩, hreplay, hfacts⟩ := Option.bind_eq_some_iff.mp hfacts
  obtain ⟨post, hstep, hfacts⟩ := Option.map_eq_some_iff.mp hfacts
  simp only [Prod.mk.injEq] at hfacts
  obtain ⟨hact, hlive, hslot, hcannot⟩ := hfacts
  refine ⟨ClientConfig.validate_sample, _, _, .snoc (execution_of_replay hreplay) hstep,
    hlive, hslot, fun hcause => ?_⟩
  obtain ⟨earlier, hmem, flow, input, point, hevent, hpoint, hfails⟩ :=
    hcause.tried trace _ [] 1 5000 rfl hact
  have hearlier := List.all_eq_true.mp hcannot earlier hmem
  simp [hevent, Event.resumed, hpoint, hfails] at hearlier

end VpnBridge.Client
