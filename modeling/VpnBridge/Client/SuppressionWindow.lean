import VpnBridge.Client.Steps
import VpnBridge.Client.Window

/-!
# The fallback window of a run

Every run of the client leaves a log of what its opens did with the window, and
that log is a history of the register.  So the law of the window holds of a run
exactly when no open that has already read the clock is overtaken on its way to
the lock.
-/

namespace VpnBridge.Client

open VpnBridge.Net VpnBridge.Proto VpnBridge.TransitionSystem

/-- The transport that an open tries when it is past its check. -/
def transportTried : Option OpenPoint → FlowTransport
  | some .lockSlot => .quic
  | _ => .grpc

/-- What a transition does with the window. -/
def windowAct (tr : Transition State Event) : Option WindowAct :=
  match tr.event with
  | .resume flow _ =>
      match tr.pre.pointOf flow with
      | some .checkWindow =>
          some (.checked flow tr.pre.shared.now (transportTried (tr.post.pointOf flow)))
      | some .unavailable => some (.observed flow tr.pre.shared.now)
      | some (.recordWindow observed) => some (.recorded flow observed)
      | some .clearAfterGrpc => some (.cleared flow)
      | some .clearAfterQuic => some (.cleared flow)
      | _ => none
  | _ => none

def windowLog (trace : List (Transition State Event)) : List WindowAct :=
  trace.filterMap windowAct

theorem flow_of_windowAct {tr : Transition State Event} {flow : FlowId} {input : Input}
    {act : WindowAct} (hevent : tr.event = .resume flow input)
    (hact : windowAct tr = some act) : act.flow = flow := by
  simp only [windowAct, hevent] at hact
  split at hact <;> first | cases hact; rfl | cases hact

/-- The way to a connection does nothing with the window. -/
theorem windowAct_eq_none {tr : Transition State Event} {flow : FlowId} {input : Input}
    {point : OpenPoint} (hevent : tr.event = .resume flow input)
    (hpoint : tr.pre.pointOf flow = some point)
    (hslot : point = .lockSlot ∨ point.held = .lock) : windowAct tr = none := by
  simp only [windowAct, hevent, hpoint]
  cases point with
  | lockSlot => rfl
  | connecting since => rfl
  | _ => rcases hslot with h | h <;> cases h

theorem windowAct_congr {left right : Transition State Event} {flow : FlowId}
    {input input' : Input} (hleft : left.event = .resume flow input)
    (hright : right.event = .resume flow input')
    (hpre : left.pre.pointOf flow = right.pre.pointOf flow)
    (hnow : left.pre.shared.now = right.pre.shared.now)
    (hpost : left.post.pointOf flow = right.post.pointOf flow) :
    windowAct left = windowAct right := by
  simp only [windowAct, hleft, hright, hpre, hnow, hpost]

theorem checkWindow_of_windowAct {tr : Transition State Event} {flow : FlowId}
    {checked : Time} {tried : FlowTransport}
    (hact : windowAct tr = some (.checked flow checked tried)) :
    ∃ input, tr.event = .resume flow input ∧ tr.pre.pointOf flow = some .checkWindow ∧
      transportTried (tr.post.pointOf flow) = tried := by
  cases hevent : tr.event with
  | resume other input =>
      cases hpoint : tr.pre.pointOf other with
      | none => simp [windowAct, hevent, hpoint] at hact
      | some point =>
          cases point with
          | checkWindow =>
              simp only [windowAct, hevent, hpoint, Option.some.injEq,
                WindowAct.checked.injEq] at hact
              obtain ⟨rfl, -, htried⟩ := hact
              exact ⟨input, rfl, hpoint, htried⟩
          | _ => simp [windowAct, hevent, hpoint] at hact
  | _ => simp [windowAct, hevent] at hact

/-! ## Refinement -/

/-- The register stands for the window of the client. -/
structure Abstracts (state : State) (window : WindowState) : Prop where
  now_le : window.now ≤ state.shared.now
  deadline_eq : window.deadline = state.shared.fallbackUntil
  observations_eq : ∀ flow observed, state.pointOf flow = some (.recordWindow observed) →
    window.observations flow = some observed

theorem transportTried_grpcOpen (cfg : ClientConfig) (now : Time) (cmd : Cmd)
    (target : Address) :
    transportTried (some (grpcOpen cfg now cmd target .first)) = .grpc := by
  rw [grpcOpen]
  cases encodeRequest cfg cmd target <;> rfl

section Refinement

variable {cfg : ClientConfig} {tr : Transition State Event} {window next : WindowState}

theorem answer_none (hact : windowAct tr = none) (habstracts : Abstracts tr.post window) :
    ∃ piece next, Execution (windowStep cfg.reconnectIntervalMs) window piece next ∧
      Abstracts tr.post next ∧ piece.map Transition.event = (windowAct tr).toList :=
  ⟨[], window, .nil, habstracts, by rw [hact]; rfl⟩

theorem answer_some {act : WindowAct} (hact : windowAct tr = some act)
    (hstep : windowStep cfg.reconnectIntervalMs window act = some next)
    (habstracts : Abstracts tr.post next) :
    ∃ piece next, Execution (windowStep cfg.reconnectIntervalMs) window piece next ∧
      Abstracts tr.post next ∧ piece.map Transition.event = (windowAct tr).toList :=
  ⟨_, next, .single hstep, habstracts, by rw [hact]; rfl⟩

/-- The opens other than the one that steps keep their observations. -/
theorem Abstracts.resume {state : State} {shared : Shared} {flow : FlowId} {call : OpenCall}
    (habstracts : Abstracts state window) (hnow : next.now ≤ shared.now)
    (hdeadline : next.deadline = shared.fallbackUntil)
    (hother : ∀ other, other ≠ flow →
      next.observations other = window.observations other)
    (hself : ∀ observed, call.point = .recordWindow observed →
      next.observations flow = some observed) :
    Abstracts ⟨shared, Function.update state.opens flow (some call)⟩ next where
  now_le := hnow
  deadline_eq := hdeadline
  observations_eq := by
    intro other observed hpoint
    by_cases hflow : other = flow
    · subst hflow
      rw [State.pointOf_update_self, Option.some.injEq] at hpoint
      exact hself observed hpoint
    · rw [State.pointOf_update_of_ne _ _ _ hflow] at hpoint
      rw [hother other hflow]
      exact habstracts.observations_eq other observed hpoint

/-- A step that does not read the clock keeps every observation. -/
theorem Abstracts.resume_unread {state : State} {shared : Shared} {flow : FlowId}
    {call : OpenCall} (habstracts : Abstracts state window) (hnow : next.now ≤ shared.now)
    (hdeadline : next.deadline = shared.fallbackUntil)
    (hobservations : next.observations = window.observations)
    (hunread : ∀ observed, call.point ≠ .recordWindow observed) :
    Abstracts ⟨shared, Function.update state.opens flow (some call)⟩ next := by
  apply Abstracts.resume habstracts hnow hdeadline
  · intro other _
    rw [hobservations]
  · intro observed hrecord
    exact absurd hrecord (hunread observed)

/-- One step of an open is at most one act on the register. -/
theorem windowStep_of_resumes {flow : FlowId} {input : Input}
    {call : OpenCall} {shared : Shared} {point : OpenPoint}
    (hevent : tr.event = .resume flow input) (hopen : tr.pre.opens flow = some call)
    (hresumes : Resumes cfg flow call.cmd call.target tr.pre.shared call.point input
      shared point)
    (hpost : tr.post = ⟨shared, Function.update tr.pre.opens flow (some { call with point })⟩)
    (habstracts : Abstracts tr.pre window) :
    ∃ piece next, Execution (windowStep cfg.reconnectIntervalMs) window piece next ∧
      Abstracts tr.post next ∧ piece.map Transition.event = (windowAct tr).toList := by
  have hpoint : tr.pre.pointOf flow = some call.point := pointOf_of_open hopen
  have hnext : tr.post.pointOf flow = some point := by
    rw [hpost, State.pointOf_update_self]
  have hnow : window.now ≤ shared.now := hresumes.now_eq ▸ habstracts.now_le
  have hwindow := hresumes.fallbackUntil_eq
  have hreading : ∀ observed, point = .recordWindow observed →
      call.point = .unavailable ∧ observed = tr.pre.shared.now := by
    intro observed hrecord
    exact hresumes.of_reading (by rw [hrecord]; rfl)
  have hunread : call.point ≠ .unavailable → ∀ observed, point ≠ .recordWindow observed :=
    fun hother observed hrecord => hother (hreading observed hrecord).1
  rw [← habstracts.deadline_eq] at hwindow
  cases hsource : call.point with
  | checkWindow =>
      rw [hsource] at hpoint hresumes hwindow hunread
      apply answer_some
      · simp only [windowAct, hevent, hpoint, hnext]
        rfl
      · refine windowStep_checked_iff.mpr ⟨⟨habstracts.now_le, ?_⟩, rfl⟩
        rw [habstracts.deadline_eq, transportAt]
        cases hresumes with
        | suppressed hsuppressed =>
            rw [transportTried_grpcOpen, if_pos (by exact hsuppressed)]
        | probes hprobes =>
            rw [if_neg (by simpa [Shared.quicSuppressed] using hprobes)]
            rfl
      · rw [hpost]
        exact habstracts.resume_unread (le_of_eq hresumes.now_eq.symm) hwindow.symm rfl
          (hunread (by simp))
  | unavailable =>
      rw [hsource] at hpoint hwindow
      apply answer_some
      · simp only [windowAct, hevent, hpoint]
        rfl
      · exact windowStep_observed_iff.mpr ⟨habstracts.now_le, rfl⟩
      · rw [hpost]
        apply Abstracts.resume habstracts
        · exact le_of_eq hresumes.now_eq.symm
        · exact hwindow.symm
        · exact fun other hother => Function.update_of_ne hother _ _
        · intro observed hrecord
          rw [(hreading observed hrecord).2]
          exact Function.update_self _ _ _
  | recordWindow observed =>
      rw [hsource] at hpoint hwindow hunread
      apply answer_some
      · simp only [windowAct, hevent, hpoint]
        rfl
      · exact windowStep_recorded_iff.mpr
          ⟨habstracts.observations_eq flow observed hpoint, rfl⟩
      · rw [hpost]
        exact habstracts.resume_unread hnow hwindow.symm rfl (hunread (by simp))
  | clearAfterGrpc =>
      rw [hsource] at hpoint hwindow hunread
      apply answer_some
      · simp only [windowAct, hevent, hpoint]
        rfl
      · exact windowStep_cleared_iff.mpr rfl
      · rw [hpost]
        exact habstracts.resume_unread hnow hwindow.symm rfl (hunread (by simp))
  | clearAfterQuic =>
      rw [hsource] at hpoint hwindow hunread
      apply answer_some
      · simp only [windowAct, hevent, hpoint]
        rfl
      · exact windowStep_cleared_iff.mpr rfl
      · rw [hpost]
        exact habstracts.resume_unread hnow hwindow.symm rfl (hunread (by simp))
  | _ =>
      rw [hsource] at hpoint hwindow hunread
      apply answer_none
      · simp only [windowAct, hevent, hpoint]
      · rw [hpost]
        exact habstracts.resume_unread hnow hwindow.symm rfl (hunread (by simp))

/-- One transition of the client is at most one act on the register. -/
theorem windowStep_of_step (hstep : step cfg tr.pre tr.event = some tr.post)
    (habstracts : Abstracts tr.pre window) :
    ∃ piece next, Execution (windowStep cfg.reconnectIntervalMs) window piece next ∧
      Abstracts tr.post next ∧
      piece.map Transition.event = (windowAct tr).toList := by
  cases hevent : tr.event with
  | resume flow input =>
      rw [hevent] at hstep
      obtain ⟨call, shared, point, hopen, hresumes, hpost⟩ := step_resume_iff.mp hstep
      exact windowStep_of_resumes hevent hopen hresumes hpost habstracts
  | tick delta =>
      rw [hevent, step_tick_iff] at hstep
      apply answer_none (by simp only [windowAct, hevent])
      rw [hstep]
      exact ⟨le_trans habstracts.now_le (Nat.le_add_right _ _), habstracts.deadline_eq,
        habstracts.observations_eq⟩
  | close conn =>
      rw [hevent, step_close_iff] at hstep
      apply answer_none (by simp only [windowAct, hevent])
      rw [hstep.2]
      exact ⟨habstracts.now_le, habstracts.deadline_eq, habstracts.observations_eq⟩
  | start flow cmd target =>
      rw [hevent, step_start_iff] at hstep
      apply answer_none (by simp only [windowAct, hevent])
      rw [hstep.2]
      apply Abstracts.resume habstracts habstracts.now_le habstracts.deadline_eq
      · exact fun _ _ => rfl
      · intro observed hrecord
        have hheld := held_entryPoint cfg tr.pre.shared.now cmd target
        simp only at hrecord
        rw [hrecord] at hheld
        cases hheld

theorem abstracts_new (now : Time) : Abstracts (State.new now) (WindowState.new now) where
  now_le := le_refl _
  deadline_eq := rfl
  observations_eq := nofun

theorem map_flatten_pieces {trace : List (Transition State Event)}
    {pieces : List (List (Transition WindowState WindowAct))}
    (hpieces : List.Forall₂
      (fun tr piece => piece.map Transition.event = (windowAct tr).toList) trace pieces) :
    pieces.flatten.map Transition.event = windowLog trace := by
  induction hpieces with
  | nil => rfl
  | @cons tr piece trace pieces hpiece hpieces ih =>
      rw [List.flatten_cons, List.map_append, hpiece, ih]
      cases hact : windowAct tr <;> simp [windowLog, hact]

/-- The log of a run is a history of the register. -/
theorem history_of_run {now : Time} {trace : List (Transition State Event)} {final : State}
    (hrun : Run cfg now trace final) :
    WindowHistory cfg.reconnectIntervalMs (windowLog trace) := by
  obtain ⟨pieces, last, hpieces, -, hanswers⟩ := hrun.simulate (abstracts_new now)
    fun before tr after htrace window habstracts =>
      windowStep_of_step (hrun.step_of_mem (by simp [htrace])) habstracts
  exact ⟨now, pieces.flatten, last, hpieces, map_flatten_pieces hanswers⟩

end Refinement

/-! ## The law of a run -/

/-- In every run, whatever the interleaving, the window keeps its law exactly
when no write of it is overtaken between the clock and the lock. -/
theorem suppression_window_iff {cfg : ClientConfig} {now : Time}
    {trace : List (Transition State Event)} {final : State}
    (hrun : Run cfg now trace final) :
    WindowLaw cfg.reconnectIntervalMs (windowLog trace) ↔ NotOvertaken (windowLog trace) :=
  windowLaw_iff (history_of_run hrun)

/-- One open cannot connect over QUIC, so the next tries gRPC. -/
def suppressedEvents : List Event :=
  [.start 0 .connectTcp sampleTarget, .resume 0 .proceed, .resume 0 .connecting,
    .resume 0 (.failed ["connection lost"]), .resume 0 .proceed, .resume 0 .proceed,
    .tick 2999, .start 1 .connectTcp sampleTarget, .resume 1 .proceed]

theorem suppression_window_sample :
    ∃ trace final, Run ClientConfig.sample 0 trace final ∧
      .checked 1 2999 .grpc ∈ windowLog trace ∧ WindowLaw 3000 (windowLog trace) := by
  have hlog : (replay (step ClientConfig.sample) (State.new 0) suppressedEvents).map
      (fun result => windowLog result.1) = some
        [.checked 0 0 .quic, .observed 0 0, .recorded 0 0, .checked 1 2999 .grpc] := by
    decide
  obtain ⟨⟨trace, final⟩, hreplay, hlog⟩ := Option.map_eq_some_iff.mp hlog
  have hrun := execution_of_replay hreplay
  refine ⟨trace, final, hrun, by simp [hlog], (suppression_window_iff hrun).mpr ?_⟩
  -- one write cannot be overtaken
  intro before flow observed waiting other later between after hsplit hclear
  have hcount := congrArg
    (List.countP fun act => act matches .recorded _ _) (hlog.symm.trans hsplit)
  simp at hcount
  omega

/-- Two opens cannot connect.  The first reads the clock, the second reads it a
second later and writes the window, and then the first writes it. -/
def overtakenEvents : List Event :=
  [.start 0 .connectTcp sampleTarget, .start 1 .connectTcp sampleTarget,
    .resume 0 .proceed, .resume 1 .proceed,
    .resume 0 .connecting, .resume 0 (.failed ["connection lost"]), .resume 0 .proceed,
    .tick 1000,
    .resume 1 .connecting, .resume 1 (.failed ["connection lost"]), .resume 1 .proceed,
    .resume 1 .proceed, .resume 0 .proceed,
    .tick 2500, .start 2 .connectTcp sampleTarget, .resume 2 .proceed]

/-- The window recorded at 1000 does not suppress the check at 3500. -/
theorem overtaken_window_lapses :
    ClientConfig.sample.validate = .ok () ∧
    ∃ trace final, Run ClientConfig.sample 0 trace final ∧
      ¬ WindowLaw ClientConfig.sample.reconnectIntervalMs (windowLog trace) := by
  have hlog : (replay (step ClientConfig.sample) (State.new 0) overtakenEvents).map
      (fun result => windowLog result.1) = some
        [.checked 0 0 .quic, .checked 1 0 .quic, .observed 0 0, .observed 1 1000,
          .recorded 1 1000, .recorded 0 0, .checked 2 3500 .quic] := by
    decide
  obtain ⟨⟨trace, final⟩, hreplay, hlog⟩ := Option.map_eq_some_iff.mp hlog
  refine ⟨ClientConfig.validate_sample, trace, final, execution_of_replay hreplay,
    fun hlaw => ?_⟩
  have hgrpc := hlaw.suppresses
    [.checked 0 0 .quic, .checked 1 0 .quic, .observed 0 0, .observed 1 1000]
    1 1000 [.recorded 0 0] 2 3500 .quic [] hlog (by simp [NoClear]) (by decide)
  cases hgrpc

end VpnBridge.Client
