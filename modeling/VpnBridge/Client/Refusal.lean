import VpnBridge.Client.SuppressionWindow

/-!
# Refusals

A response other than Ok ends the open over QUIC and over the gRPC fallback:
the open returns the refusal and leaves everything it shares alone.  Over gRPC
tried first, `TransportClient::open` takes the refusal for a failed transport,
clears the window and tries QUIC.
-/

namespace VpnBridge.Client

open VpnBridge.Net VpnBridge.Proto VpnBridge.TransitionSystem

/-- The proxy answers the request of an open, and not with Ok. -/
def Refused (tr : Transition State Event) (flow : FlowId) (response : Response) : Prop :=
  tr.event = .resume flow (.response response) ∧ response.status ≠ .ok

/-- The open returns the refusal, having written nothing, and makes no step in
the rest of the run. -/
structure FinalRefusal (tr : Transition State Event)
    (after : List (Transition State Event)) (flow : FlowId) (response : Response) :
    Prop where
  returned : ∃ call contexts, tr.pre.opens flow = some call ∧
    tr.post.pointOf flow =
      some (.done (.error (contexts ++ refusal call.target response)))
  shared_eq : tr.post.shared = tr.pre.shared
  last : ∀ later ∈ after, ∀ input, later.event ≠ .resume flow input

def RefusalsFinal (trace : List (Transition State Event)) : Prop :=
  ∀ before tr after flow response, trace = before ++ tr :: after →
    Refused tr flow response → FinalRefusal tr after flow response

/-- No refusal answers a gRPC attempt that the window made an open try first. -/
def NoRefusedFirst (trace : List (Transition State Event)) : Prop :=
  ∀ tr ∈ trace, ∀ flow response since, Refused tr flow response →
    tr.pre.pointOf flow ≠ some (.grpcResponse .first since)

/-- An open waits for the answer to its first attempt, over the transport it
prefers: QUIC, or gRPC where QUIC is disabled. -/
inductive OnPreferred (trace : List (Transition State Event)) (tr : Transition State Event)
    (flow : FlowId) : Prop where
  | quic {conn : ConnId} {since : Time}
      (hpoint : tr.pre.pointOf flow = some (.awaitResponse conn since))
      (hprobed : ∀ checked, .checked flow checked .grpc ∉ windowLog trace) :
      OnPreferred trace tr flow
  | grpc {since : Time} (hpoint : tr.pre.pointOf flow = some (.grpcResponse .only since)) :
      OnPreferred trace tr flow

/-- Every refusal answers the first attempt of its open, over the transport that
the open prefers. -/
def RefusedOnPreferred (trace : List (Transition State Event)) : Prop :=
  ∀ tr ∈ trace, ∀ flow response, Refused tr flow response → OnPreferred trace tr flow

/-- A refused open has written nothing to the window. -/
def RefusalsSilent (retry : ℕ) (trace : List (Transition State Event)) : Prop :=
  ∀ tr ∈ trace, ∀ flow response, Refused tr flow response →
    ∀ act ∈ windowLog trace, act.flow = flow → act.write retry = none

section Refusals

variable {cfg : ClientConfig} {tr : Transition State Event} {flow : FlowId}
variable {response : Response}

/-- Where a refusal finds an open, and where it takes it. -/
theorem refused_cases (hstep : step cfg tr.pre tr.event = some tr.post)
    (hrefused : Refused tr flow response) :
    ∃ call, tr.pre.opens flow = some call ∧ tr.post.shared = tr.pre.shared ∧
      ((∃ conn since, call.point = .awaitResponse conn since ∧
          tr.post.pointOf flow = some (.done (.error (refusal call.target response)))) ∨
        ∃ role since, call.point = .grpcResponse role since ∧
          tr.post.pointOf flow =
            some (afterGrpc role (.error (refusal call.target response)))) := by
  obtain ⟨hevent, hstatus⟩ := hrefused
  rw [hevent, step_resume_iff] at hstep
  obtain ⟨⟨cmd, target, source⟩, shared, point, hopen, hresumes, hpost⟩ := hstep
  refine ⟨⟨cmd, target, source⟩, hopen, ?_⟩
  rw [hpost, State.pointOf_update_self]
  simp only at hresumes ⊢
  cases hresumes with
  | answered =>
      refine ⟨rfl, .inl ⟨_, _, rfl, ?_⟩⟩
      rw [quicAnswered, if_pos hstatus]
      rfl
  | grpcAnswered =>
      refine ⟨rfl, .inr ⟨_, _, rfl, ?_⟩⟩
      rw [grpcAnswered, if_pos hstatus]

/-- A finished open makes no further step. -/
theorem no_step_of_done {start final : State} {after : List (Transition State Event)}
    {result : Except AnyhowError FlowTransport}
    (hrun : Execution (step cfg) start after final)
    (hdone : start.pointOf flow = some (.done result)) :
    ∀ later ∈ after, ∀ input, later.event ≠ .resume flow input := by
  intro later hmem input hevent
  obtain ⟨between, rest, rfl⟩ := List.append_of_mem hmem
  obtain ⟨hbetween, hstep, -⟩ := execution_split_iff.mp hrun
  have hstill : later.pre.pointOf flow = some (.done result) := by
    apply hbetween.preserved (fun state => state.pointOf flow = some (.done result))
      (fun tr _ hstep hpre => ?_) hdone
    rcases pointOf_of_step flow hstep with hsame | ⟨cmd, target, hnone, -⟩ |
      ⟨input, call, shared, point, -, hopen, hresumes, -, -⟩
    · exact hsame.trans hpre
    · cases hnone.symm.trans hpre
    · rw [pointOf_of_open hopen, Option.some.injEq] at hpre
      rw [hpre] at hresumes
      cases hresumes
  rw [hevent, step_resume_iff] at hstep
  obtain ⟨call, shared, point, hopen, hresumes, -⟩ := hstep
  rw [pointOf_of_open hopen, Option.some.injEq] at hstill
  rw [hstill] at hresumes
  cases hresumes

end Refusals

/-- In every run, refusals are final exactly when none answers a gRPC attempt
that came first. -/
theorem refusalsFinal_iff {cfg : ClientConfig} {now : Time}
    {trace : List (Transition State Event)} {final : State}
    (hrun : Run cfg now trace final) : RefusalsFinal trace ↔ NoRefusedFirst trace := by
  constructor
  · intro hfinal tr hmem flow response since hrefused hfirst
    obtain ⟨before, after, htrace⟩ := List.append_of_mem hmem
    obtain ⟨call, contexts, hopen, hdone⟩ :=
      (hfinal before tr after flow response htrace hrefused).returned
    rw [pointOf_of_open hopen, Option.some.injEq] at hfirst
    obtain ⟨call', hopen', -, hquic | hgrpc⟩ :=
      refused_cases (hrun.step_of_mem hmem) hrefused
    · obtain ⟨conn, since', hpoint, -⟩ := hquic
      cases hopen.symm.trans hopen'
      cases hpoint.symm.trans hfirst
    · obtain ⟨role, since', hpoint, hpost⟩ := hgrpc
      cases hopen.symm.trans hopen'
      cases hpoint.symm.trans hfirst
      cases hpost.symm.trans hdone
  · intro hfirst before tr after flow response htrace hrefused
    have hmem : tr ∈ trace := by simp [htrace]
    have hstep := hrun.step_of_mem hmem
    rw [htrace, Run, execution_split_iff] at hrun
    obtain ⟨call, hopen, hshared, hpoint⟩ := refused_cases hstep hrefused
    have hdone : ∃ contexts, tr.post.pointOf flow =
        some (.done (.error (contexts ++ refusal call.target response))) := by
      rcases hpoint with ⟨conn, since, -, hpost⟩ | ⟨role, since, hsource, hpost⟩
      · exact ⟨[], hpost⟩
      · cases role with
        | only => exact ⟨[], hpost⟩
        | fallback => exact ⟨["QUIC and gRPC proxy transports are unavailable"], hpost⟩
        | first =>
            exact absurd (by rw [pointOf_of_open hopen, hsource])
              (hfirst tr hmem flow response since hrefused)
    obtain ⟨contexts, hdone⟩ := hdone
    exact ⟨⟨call, contexts, hopen, hdone⟩, hshared, no_step_of_done hrun.2.2 hdone⟩

/-! ## What an attempt leaves in the log -/

/-- The gRPC attempt that comes before QUIC, up to its failure. -/
def OpenPoint.suppressed : OpenPoint → Bool
  | .grpcOpening .first _ => true
  | .grpcResponse .first _ => true
  | .clearAfterGrpc => true
  | _ => false

/-- The gRPC attempt that comes after QUIC. -/
def OpenPoint.fallsBack : OpenPoint → Bool
  | .grpcOpening .fallback _ => true
  | .grpcResponse .fallback _ => true
  | _ => false

section Attempts

variable {cfg : ClientConfig} {flow : FlowId} {cmd : Cmd} {target : Address}
variable {shared next : Shared} {source point : OpenPoint} {input : Input}

theorem suppressed_afterGrpc {role : GrpcRole} {result : Except AnyhowError Unit}
    (hpoint : (afterGrpc role result).suppressed = true) : role = .first := by
  cases result <;> cases role <;> first | rfl | cases hpoint

theorem suppressed_grpcAnswered {role : GrpcRole} {response : Response}
    (hpoint : (grpcAnswered target role response).suppressed = true) : role = .first := by
  rw [grpcAnswered] at hpoint
  split at hpoint <;> exact suppressed_afterGrpc hpoint

theorem suppressed_grpcOpen (cfg : ClientConfig) (now : Time) (cmd : Cmd)
    (target : Address) (role : GrpcRole) :
    (grpcOpen cfg now cmd target role).suppressed = decide (role = .first) := by
  rw [grpcOpen]
  cases encodeRequest cfg cmd target <;> cases role <;> rfl

theorem suppressed_afterQuic (cfg : ClientConfig) (result : Except QuicOpenError Unit) :
    (afterQuic cfg result).suppressed = false := by
  rcases result with (error | error) | opened <;> rw [afterQuic] <;> (try split) <;> rfl

theorem suppressed_quicAnswered (cfg : ClientConfig) (target : Address)
    (response : Response) : (quicAnswered cfg target response).suppressed = false := by
  rw [quicAnswered]
  split <;> exact suppressed_afterQuic cfg _

/-- Only the check of the window takes an open to gRPC before QUIC. -/
theorem Resumes.of_suppressed
    (hresumes : Resumes cfg flow cmd target shared source input next point)
    (hpoint : point.suppressed = true) :
    source.suppressed = true ∨ source = .checkWindow ∧ transportTried (some point) = .grpc := by
  cases hresumes with
  | suppressed => exact .inr ⟨rfl, transportTried_grpcOpen cfg _ cmd target⟩
  | recorded =>
      rw [suppressed_grpcOpen] at hpoint
      cases hpoint
  | @grpcOpened role =>
      cases role with
      | first => exact .inl rfl
      | only => cases hpoint
      | fallback => cases hpoint
  | grpcOpenFailed =>
      cases suppressed_afterGrpc hpoint
      exact .inl rfl
  | grpcOpenElapsed =>
      cases suppressed_afterGrpc hpoint
      exact .inl rfl
  | grpcAnswered =>
      cases suppressed_grpcAnswered hpoint
      exact .inl rfl
  | grpcReadFailed =>
      cases suppressed_afterGrpc hpoint
      exact .inl rfl
  | grpcReadElapsed =>
      cases suppressed_afterGrpc hpoint
      exact .inl rfl
  | _ => first | cases hpoint | simp [suppressed_afterQuic, suppressed_quicAnswered] at hpoint

theorem done_of_afterGrpc {result : Except AnyhowError Unit}
    (hpoint : (afterGrpc .first result).suppressed = false) :
    ∃ answer, afterGrpc .first result = .done answer := by
  cases result with
  | ok opened => exact ⟨_, rfl⟩
  | error error => cases hpoint

theorem done_of_grpcAnswered {response : Response}
    (hpoint : (grpcAnswered target .first response).suppressed = false) :
    ∃ answer, grpcAnswered target .first response = .done answer := by
  rw [grpcAnswered] at hpoint ⊢
  split at hpoint
  · cases hpoint
  · rw [if_neg ‹_›]
    exact done_of_afterGrpc hpoint

/-- A gRPC attempt before QUIC ends in a clear, or ends its open. -/
theorem Resumes.of_not_suppressed
    (hresumes : Resumes cfg flow cmd target shared source input next point)
    (hsource : source.suppressed = true) (hpoint : point.suppressed = false) :
    source = .clearAfterGrpc ∨ ∃ result, point = .done result := by
  have hopening : ∀ role since, (OpenPoint.grpcOpening role since).suppressed = true →
      role = .first := by
    intro role since h
    cases role <;> first | rfl | cases h
  have hresponse : ∀ role since, (OpenPoint.grpcResponse role since).suppressed = true →
      role = .first := by
    intro role since h
    cases role <;> first | rfl | cases h
  cases hresumes with
  | clearedAfterGrpc => exact .inl rfl
  | grpcOpened =>
      cases hopening _ _ hsource
      cases hpoint
  | grpcOpenFailed =>
      cases hopening _ _ hsource
      exact .inr (done_of_afterGrpc hpoint)
  | grpcOpenElapsed =>
      cases hopening _ _ hsource
      exact .inr (done_of_afterGrpc hpoint)
  | grpcReadFailed =>
      cases hresponse _ _ hsource
      exact .inr (done_of_afterGrpc hpoint)
  | grpcReadElapsed =>
      cases hresponse _ _ hsource
      exact .inr (done_of_afterGrpc hpoint)
  | grpcAnswered =>
      cases hresponse _ _ hsource
      exact .inr (done_of_grpcAnswered hpoint)
  | _ => cases hsource

theorem fallsBack_afterGrpc (role : GrpcRole) (result : Except AnyhowError Unit) :
    (afterGrpc role result).fallsBack = false := by
  cases result <;> cases role <;> rfl

theorem fallsBack_grpcAnswered (target : Address) (role : GrpcRole) (response : Response) :
    (grpcAnswered target role response).fallsBack = false := by
  rw [grpcAnswered]
  split <;> exact fallsBack_afterGrpc role _

theorem fallsBack_grpcOpen {now : Time} {role : GrpcRole}
    (hpoint : (grpcOpen cfg now cmd target role).fallsBack = true) : role = .fallback := by
  rw [grpcOpen] at hpoint
  cases hencode : encodeRequest cfg cmd target with
  | ok encoded =>
      rw [hencode] at hpoint
      cases role <;> first | rfl | cases hpoint
  | error failure =>
      rw [hencode] at hpoint
      simp [fallsBack_afterGrpc] at hpoint

theorem fallsBack_afterQuic (cfg : ClientConfig) (result : Except QuicOpenError Unit) :
    (afterQuic cfg result).fallsBack = false := by
  rcases result with (error | error) | opened <;> rw [afterQuic] <;> (try split) <;> rfl

theorem fallsBack_quicAnswered (cfg : ClientConfig) (target : Address)
    (response : Response) : (quicAnswered cfg target response).fallsBack = false := by
  rw [quicAnswered]
  split <;> exact fallsBack_afterQuic cfg _

/-- Only a write of the window takes an open to gRPC after QUIC. -/
theorem Resumes.of_fallsBack
    (hresumes : Resumes cfg flow cmd target shared source input next point)
    (hpoint : point.fallsBack = true) :
    source.fallsBack = true ∨ ∃ observed, source = .recordWindow observed := by
  cases hresumes with
  | recorded => exact .inr ⟨_, rfl⟩
  | suppressed => cases fallsBack_grpcOpen hpoint
  | @grpcOpened role =>
      cases role with
      | fallback => exact .inl rfl
      | only => cases hpoint
      | first => cases hpoint
  | _ =>
      first
      | cases hpoint
      | simp [fallsBack_afterGrpc, fallsBack_grpcAnswered, fallsBack_afterQuic,
          fallsBack_quicAnswered] at hpoint

end Attempts

section Logs

variable {cfg : ClientConfig} {now : Time} {trace : List (Transition State Event)}
variable {start final : State} {flow : FlowId}

/-- An open comes to a phase that no open starts in by a step of its own. -/
theorem exists_enters (phase : OpenPoint → Bool)
    (hentry : ∀ now cmd target, phase (entryPoint cfg now cmd target) = false)
    (hrun : Execution (step cfg) start trace final)
    (hstart : (start.pointOf flow).any phase = false)
    (hfinal : (final.pointOf flow).any phase = true) :
    ∃ tr ∈ trace, ∃ input call shared point, tr.event = .resume flow input ∧
      tr.pre.opens flow = some call ∧
      Resumes cfg flow call.cmd call.target tr.pre.shared call.point input shared point ∧
      tr.post.pointOf flow = some point ∧
      phase call.point = false ∧ phase point = true := by
  obtain ⟨before, tr, after, rfl, hpre, hpost⟩ :=
    hrun.exists_first (fun state => (state.pointOf flow).any phase = true)
      (by rw [hstart]; exact Bool.false_ne_true) hfinal
  have hmem : tr ∈ before ++ tr :: after := by simp
  rcases pointOf_of_step flow (hrun.step_of_mem hmem) with hsame |
    ⟨cmd, target, -, hentered⟩ | ⟨input, call, shared, point, hevent, hopen, hresumes, -, hnext⟩
  · exact absurd (hsame ▸ hpost) hpre
  · rw [hentered, Option.any_some, hentry] at hpost
    cases hpost
  · rw [pointOf_of_open hopen, Option.any_some, Bool.not_eq_true] at hpre
    rw [hnext, Option.any_some] at hpost
    exact ⟨tr, hmem, input, call, shared, point, hevent, hopen, hresumes, hnext, hpre, hpost⟩

theorem mem_windowLog {tr : Transition State Event} {act : WindowAct} (hmem : tr ∈ trace)
    (hact : windowAct tr = some act) : act ∈ windowLog trace :=
  List.mem_filterMap.mpr ⟨tr, hmem, hact⟩

theorem suppressed_entryPoint (cfg : ClientConfig) (now : Time) (cmd : Cmd)
    (target : Address) : (entryPoint cfg now cmd target).suppressed = false := by
  rw [entryPoint]
  split
  · split
    · rfl
    · exact suppressed_grpcOpen cfg now cmd target .only
  · split <;> rfl

theorem fallsBack_entryPoint (cfg : ClientConfig) (now : Time) (cmd : Cmd)
    (target : Address) : (entryPoint cfg now cmd target).fallsBack = false := by
  rw [entryPoint]
  split
  · split
    · rfl
    · rw [← Bool.not_eq_true]
      intro hpoint
      cases fallsBack_grpcOpen hpoint
  · split <;> rfl

/-- An open that tries gRPC before QUIC has found the window in force. -/
theorem checked_of_suppressed (flow : FlowId) (hrun : Run cfg now trace final)
    (hpoint : (final.pointOf flow).any OpenPoint.suppressed = true) :
    ∃ checked, .checked flow checked .grpc ∈ windowLog trace := by
  obtain ⟨tr, hmem, input, call, shared, point, hevent, hopen, hresumes, hpost, hsource, hnext⟩ :=
    exists_enters OpenPoint.suppressed (suppressed_entryPoint cfg) hrun rfl hpoint
  obtain ⟨hchecks, htried⟩ := (hresumes.of_suppressed hnext).resolve_left
    (by rw [hsource]; exact Bool.false_ne_true)
  refine ⟨tr.pre.shared.now, mem_windowLog hmem ?_⟩
  simp only [windowAct, hevent, pointOf_of_open hopen, hchecks, hpost, htried]

/-- An open that tries gRPC after QUIC has written the window. -/
theorem recorded_of_fallsBack (flow : FlowId) (hrun : Run cfg now trace final)
    (hpoint : (final.pointOf flow).any OpenPoint.fallsBack = true) :
    ∃ observed, .recorded flow observed ∈ windowLog trace := by
  obtain ⟨tr, hmem, input, call, shared, point, hevent, hopen, hresumes, hpost, hsource, hnext⟩ :=
    exists_enters OpenPoint.fallsBack (fallsBack_entryPoint cfg) hrun rfl hpoint
  obtain ⟨observed, hrecords⟩ := (hresumes.of_fallsBack hnext).resolve_left
    (by rw [hsource]; exact Bool.false_ne_true)
  refine ⟨observed, mem_windowLog hmem ?_⟩
  simp only [windowAct, hevent, pointOf_of_open hopen, hrecords]

end Logs

end VpnBridge.Client
