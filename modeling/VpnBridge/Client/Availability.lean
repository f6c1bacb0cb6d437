import VpnBridge.Client.Refusal
import VpnBridge.Client.SlotInvariant
import VpnBridge.Proto.RequestCodec

/-!
# Availability

An open tries its transports in one of a few orders, and what it has tried and
what has failed is determined by where it stands.  It always gets further by its
own timers, but for two waits on QUIC that have none.
-/

namespace VpnBridge.Client

open VpnBridge.Net VpnBridge.Proto VpnBridge.TransitionSystem

/-- Where an open stands between its attempts. -/
inductive OpenPhase where
  | checking
  | grpc (role : GrpcRole)
  /-- The gRPC attempt that came first has failed. -/
  | grpcFailed
  | quic
  | quicFailed
  | quicWon
  | won (transport : FlowTransport)
  | lost
  deriving DecidableEq

def OpenPoint.phase : OpenPoint → OpenPhase
  | .checkWindow => .checking
  | .grpcOpening role _ => .grpc role
  | .grpcResponse role _ => .grpc role
  | .clearAfterGrpc => .grpcFailed
  | .lockSlot => .quic
  | .connecting _ => .quic
  | .openStream _ => .quic
  | .writeRequest _ => .quic
  | .awaitResponse _ _ => .quic
  | .invalidate _ _ => .quic
  | .unavailable => .quicFailed
  | .recordWindow _ => .quicFailed
  | .clearAfterQuic => .quicWon
  | .done (.ok transport) => .won transport
  | .done (.error _) => .lost

/-- How an open gets from one phase to the next when the proxy refuses nothing. -/
inductive PhaseStep (quic grpc : Bool) : OpenPhase → OpenPhase → Prop where
  | stays {phase : OpenPhase} : PhaseStep quic grpc phase phase
  | suppressed : PhaseStep quic grpc .checking (.grpc .first)
  | probes : PhaseStep quic grpc .checking .quic
  | grpcWon {role : GrpcRole} : PhaseStep quic grpc (.grpc role) (.won .grpc)
  | onlyFailed : PhaseStep quic grpc (.grpc .only) .lost
  | firstFailed : PhaseStep quic grpc (.grpc .first) .grpcFailed
  | fallbackFailed : PhaseStep quic grpc (.grpc .fallback) .lost
  | cleared : PhaseStep quic grpc .grpcFailed .quic
  | quicWon (hgrpc : grpc = true) : PhaseStep quic grpc .quic .quicWon
  | quicWonOnly (hgrpc : grpc = false) : PhaseStep quic grpc .quic (.won .quic)
  | quicFailed (hgrpc : grpc = true) : PhaseStep quic grpc .quic .quicFailed
  | quicLost (hgrpc : grpc = false) : PhaseStep quic grpc .quic .lost
  | fallsBack : PhaseStep quic grpc .quicFailed (.grpc .fallback)
  | settles : PhaseStep quic grpc .quicWon (.won .quic)

section Phases

variable {cfg : ClientConfig}

theorem phaseStep_grpcFailed (role : GrpcRole) (error : AnyhowError) :
    PhaseStep cfg.quicEnabled cfg.grpcEnabled (.grpc role)
      (afterGrpc role (.error error)).phase := by
  cases role with
  | only => exact .onlyFailed
  | first => exact .firstFailed
  | fallback => exact .fallbackFailed

theorem phaseStep_quicFailed (error : AnyhowError) :
    PhaseStep cfg.quicEnabled cfg.grpcEnabled .quic
      (afterQuic cfg (.error (.unavailable error))).phase := by
  rw [afterQuic]
  split
  next hgrpc => exact .quicFailed hgrpc
  next hgrpc => exact .quicLost (Bool.eq_false_of_not_eq_true hgrpc)

theorem phaseStep_quicWon :
    PhaseStep cfg.quicEnabled cfg.grpcEnabled .quic (afterQuic cfg (.ok ())).phase := by
  rw [afterQuic]
  split
  next hgrpc => exact .quicWon hgrpc
  next hgrpc => exact .quicWonOnly (Bool.eq_false_of_not_eq_true hgrpc)

/-- A token that `validate` admits is always encoded. -/
theorem encodeRequest_eq_ok (hvalid : cfg.validate = .ok ()) (cmd : Cmd) (target : Address) :
    encodeRequest cfg cmd target = .ok () := by
  have hlength := ClientConfig.encodable_of_validate hvalid
  rw [encodeRequest, writeToVec_request, if_neg (Nat.not_lt.mpr hlength)]

theorem grpcOpen_eq (hvalid : cfg.validate = .ok ()) (now : Time) (cmd : Cmd)
    (target : Address) (role : GrpcRole) :
    grpcOpen cfg now cmd target role = .grpcOpening role now := by
  rw [grpcOpen, encodeRequest_eq_ok hvalid]

variable {flow : FlowId} {cmd : Cmd} {target : Address} {shared next : Shared}
variable {source point : OpenPoint} {input : Input}

theorem Resumes.phaseStep (hvalid : cfg.validate = .ok ())
    (hresumes : Resumes cfg flow cmd target shared source input next point)
    (hunrefused : ∀ response, input = .response response → response.status = .ok) :
    PhaseStep cfg.quicEnabled cfg.grpcEnabled source.phase point.phase := by
  cases hresumes with
  | suppressed =>
      rw [grpcOpen_eq hvalid]
      exact .suppressed
  | probes => exact .probes
  | grpcOpenFailed => exact phaseStep_grpcFailed _ _
  | grpcOpenElapsed => exact phaseStep_grpcFailed _ _
  | grpcReadFailed => exact phaseStep_grpcFailed _ _
  | grpcReadElapsed => exact phaseStep_grpcFailed _ _
  | @grpcAnswered role since response =>
      rw [Client.grpcAnswered, if_neg (not_not.mpr (hunrefused response rfl))]
      cases role <;> exact .grpcWon
  | clearedAfterGrpc => exact .cleared
  | connectRefused => exact phaseStep_quicFailed _
  | connectFailed => exact phaseStep_quicFailed _
  | connectElapsed => exact phaseStep_quicFailed _
  | invalidated => exact phaseStep_quicFailed _
  | @answered conn since response =>
      rw [quicAnswered, if_neg (not_not.mpr (hunrefused response rfl))]
      exact phaseStep_quicWon
  | recorded =>
      rw [grpcOpen_eq hvalid]
      exact .fallsBack
  | clearedAfterQuic => exact .settles
  | _ => exact .stays

end Phases

/-! ## The journal of an open -/

inductive AttemptAct where
  | tried (transport : FlowTransport)
  | failed (transport : FlowTransport)
  deriving DecidableEq

/-- The transport that a phase is an attempt on. -/
def OpenPhase.attempt : OpenPhase → Option FlowTransport
  | .grpc _ => some .grpc
  | .quic => some .quic
  | _ => none

/-- The transport on which an attempt has succeeded. -/
def OpenPhase.success : OpenPhase → Option FlowTransport
  | .quicWon => some .quic
  | .won transport => some transport
  | _ => none

/-- What a change of phase adds: the failure of the attempt it ends, and the attempt it
begins. -/
def acts (before after : Option OpenPhase) : List AttemptAct :=
  let ended := before.bind OpenPhase.attempt
  let begun := after.bind OpenPhase.attempt
  if ended = begun then []
  else
    (ended.filter fun transport => after.bind OpenPhase.success ≠ some transport).toList.map
        .failed ++
      begun.toList.map .tried

def State.phaseOf (state : State) (flow : FlowId) : Option OpenPhase :=
  (state.pointOf flow).map OpenPoint.phase

/-- The attempts that an open makes in a run, and those that fail. -/
def journal (flow : FlowId) (trace : List (Transition State Event)) : List AttemptAct :=
  trace.flatMap fun tr => acts (tr.pre.phaseOf flow) (tr.post.phaseOf flow)

/-- A gRPC attempt that came first and failed. -/
def failedFirst : List AttemptAct :=
  [.tried .grpc, .failed .grpc]

/-- What may come before the QUIC attempt. -/
def BeforeQuic (grpc : Bool) (before : List AttemptAct) : Prop :=
  before = [] ∨ grpc = true ∧ before = failedFirst

/-- The journals that lead to a phase. -/
inductive Explains (quic grpc : Bool) : OpenPhase → List AttemptAct → Prop where
  | checking (hquic : quic = true) (hgrpc : grpc = true) :
      Explains quic grpc .checking []
  | only (hquic : quic = false) (hgrpc : grpc = true) :
      Explains quic grpc (.grpc .only) [.tried .grpc]
  | first (hquic : quic = true) (hgrpc : grpc = true) :
      Explains quic grpc (.grpc .first) [.tried .grpc]
  | fallback {before : List AttemptAct} (hquic : quic = true) (hgrpc : grpc = true)
      (hbefore : BeforeQuic grpc before) :
      Explains quic grpc (.grpc .fallback)
        (before ++ [.tried .quic, .failed .quic, .tried .grpc])
  | grpcFailed (hquic : quic = true) (hgrpc : grpc = true) :
      Explains quic grpc .grpcFailed failedFirst
  | quic {before : List AttemptAct} (hquic : quic = true)
      (hbefore : BeforeQuic grpc before) :
      Explains quic grpc .quic (before ++ [.tried .quic])
  | quicFailed {before : List AttemptAct} (hquic : quic = true) (hgrpc : grpc = true)
      (hbefore : BeforeQuic grpc before) :
      Explains quic grpc .quicFailed (before ++ [.tried .quic, .failed .quic])
  | quicWon {before : List AttemptAct} (hquic : quic = true)
      (hbefore : BeforeQuic grpc before) :
      Explains quic grpc .quicWon (before ++ [.tried .quic])
  | wonQuic {before : List AttemptAct} (hquic : quic = true)
      (hbefore : BeforeQuic grpc before) :
      Explains quic grpc (.won .quic) (before ++ [.tried .quic])
  | wonGrpc (hgrpc : grpc = true) : Explains quic grpc (.won .grpc) [.tried .grpc]
  | wonFallback {before : List AttemptAct} (hquic : quic = true) (hgrpc : grpc = true)
      (hbefore : BeforeQuic grpc before) :
      Explains quic grpc (.won .grpc)
        (before ++ [.tried .quic, .failed .quic, .tried .grpc])
  | lostGrpc (hquic : quic = false) (hgrpc : grpc = true) :
      Explains quic grpc .lost failedFirst
  | lostQuic (hquic : quic = true) (hgrpc : grpc = false) :
      Explains quic grpc .lost [.tried .quic, .failed .quic]
  | lostBoth {before : List AttemptAct} (hquic : quic = true) (hgrpc : grpc = true)
      (hbefore : BeforeQuic grpc before) :
      Explains quic grpc .lost
        (before ++ [.tried .quic, .failed .quic, .tried .grpc, .failed .grpc])

section Journals

variable {quic grpc : Bool} {phase next : OpenPhase} {acted : List AttemptAct}

theorem acts_self (phase : Option OpenPhase) : acts phase phase = [] :=
  if_pos rfl

/-- A step of an open adds to its journal what leads to the next phase. -/
theorem PhaseStep.explains (hstep : PhaseStep quic grpc phase next)
    (hexplains : Explains quic grpc phase acted) :
    Explains quic grpc next (acted ++ acts (some phase) (some next)) := by
  cases hstep with
  | stays =>
      rw [acts_self, List.append_nil]
      exact hexplains
  | suppressed =>
      cases hexplains with
      | checking hquic hgrpc => exact .first hquic hgrpc
  | probes =>
      cases hexplains with
      | checking hquic hgrpc => exact .quic hquic (.inl rfl)
  | grpcWon =>
      cases hexplains with
      | only hquic hgrpc => exact .wonGrpc hgrpc
      | first hquic hgrpc => exact .wonGrpc hgrpc
      | fallback hquic hgrpc hbefore =>
          rw [show acts (some (.grpc .fallback)) (some (.won .grpc)) = [] by decide,
            List.append_nil]
          exact .wonFallback hquic hgrpc hbefore
  | onlyFailed =>
      cases hexplains with
      | only hquic hgrpc => exact .lostGrpc hquic hgrpc
  | firstFailed =>
      cases hexplains with
      | first hquic hgrpc => exact .grpcFailed hquic hgrpc
  | fallbackFailed =>
      cases hexplains with
      | fallback hquic hgrpc hbefore =>
          rw [List.append_assoc]
          exact .lostBoth hquic hgrpc hbefore
  | cleared =>
      cases hexplains with
      | grpcFailed hquic hgrpc => exact .quic hquic (.inr ⟨hgrpc, rfl⟩)
  | quicWon hgrpc =>
      cases hexplains with
      | quic hquic hbefore =>
          rw [List.append_assoc]
          exact .quicWon hquic hbefore
  | quicWonOnly hgrpc =>
      cases hexplains with
      | quic hquic hbefore =>
          rw [List.append_assoc]
          exact .wonQuic hquic hbefore
  | quicFailed hgrpc =>
      cases hexplains with
      | quic hquic hbefore =>
          rw [List.append_assoc]
          exact .quicFailed hquic hgrpc hbefore
  | quicLost hgrpc =>
      cases hexplains with
      | quic hquic hbefore =>
          obtain rfl | ⟨hboth, -⟩ := hbefore
          · exact .lostQuic hquic hgrpc
          · cases hgrpc.symm.trans hboth
  | fallsBack =>
      cases hexplains with
      | quicFailed hquic hgrpc hbefore =>
          rw [List.append_assoc]
          exact .fallback hquic hgrpc hbefore
  | settles =>
      cases hexplains with
      | quicWon hquic hbefore =>
          rw [List.append_assoc]
          exact .wonQuic hquic hbefore

/-- What a journal that leads to a phase says: one QUIC attempt, at most two gRPC
attempts, and none on a disabled transport. -/
theorem Explains.bounds (hexplains : Explains quic grpc phase acted) :
    acted.count (.tried .quic) ≤ 1 ∧ acted.count (.tried .grpc) ≤ 2 ∧
      (.tried .quic ∈ acted → quic = true) ∧ (.tried .grpc ∈ acted → grpc = true) := by
  cases hexplains with
  | fallback hquic hgrpc hbefore
  | quicFailed hquic hgrpc hbefore
  | wonFallback hquic hgrpc hbefore
  | lostBoth hquic hgrpc hbefore =>
      obtain rfl | ⟨-, rfl⟩ := hbefore
      · simp [hquic, hgrpc]
      · simp [failedFirst, hquic, hgrpc]
  | quic hquic hbefore
  | quicWon hquic hbefore
  | wonQuic hquic hbefore =>
      obtain rfl | ⟨hgrpc, rfl⟩ := hbefore
      · simp [hquic]
      · simp [failedFirst, hquic, hgrpc]
  | _ => simp [failedFirst, *]

/-- An open that has lost has seen every enabled transport fail. -/
theorem Explains.failed_of_lost (hexplains : Explains quic grpc .lost acted) :
    (quic = true → .failed .quic ∈ acted) ∧ (grpc = true → .failed .grpc ∈ acted) := by
  cases hexplains with
  | lostGrpc hquic hgrpc => simp [failedFirst, hquic]
  | lostQuic hquic hgrpc => simp [hgrpc]
  | lostBoth hquic hgrpc hbefore => simp

end Journals

/-! ## Runs -/

section Runs

variable {cfg : ClientConfig} {now : Time} {trace : List (Transition State Event)}
variable {final : State} {flow : FlowId}

/-- The proxy refuses nothing that this open asks of it. -/
def Unrefused (trace : List (Transition State Event)) (flow : FlowId) : Prop :=
  ∀ tr ∈ trace, ∀ response, ¬ Refused tr flow response

theorem explains_entryPoint (hvalid : cfg.validate = .ok ()) (cmd : Cmd) (target : Address) :
    Explains cfg.quicEnabled cfg.grpcEnabled (entryPoint cfg now cmd target).phase
      (acts none (some (entryPoint cfg now cmd target).phase)) := by
  have htransport : ¬ (!cfg.quicEnabled && !cfg.grpcEnabled) = true := by
    intro hneither
    rw [ClientConfig.validate, if_pos hneither] at hvalid
    cases hvalid
  rw [entryPoint]
  cases hquic : cfg.quicEnabled with
  | false =>
      cases hgrpc : cfg.grpcEnabled with
      | false =>
          rw [hquic, hgrpc] at htransport
          exact absurd rfl htransport
      | true =>
          simp only [Bool.not_false, if_true, Bool.not_true, Bool.false_eq_true, if_false,
            grpcOpen_eq hvalid]
          exact .only rfl rfl
  | true =>
      cases hgrpc : cfg.grpcEnabled with
      | false =>
          simp only [Bool.not_true, Bool.false_eq_true, if_false, Bool.not_false, if_true]
          exact .quic rfl (.inl rfl)
      | true =>
          simp only [Bool.not_true, Bool.false_eq_true, if_false]
          exact .checking rfl rfl

/-- The journal of an open leads to the phase in which it stands. -/
theorem explains_run (hvalid : cfg.validate = .ok ()) (hrun : Run cfg now trace final)
    (hunrefused : Unrefused trace flow) :
    (final.phaseOf flow = none → journal flow trace = []) ∧
      ∀ phase, final.phaseOf flow = some phase →
        Explains cfg.quicEnabled cfg.grpcEnabled phase (journal flow trace) := by
  induction hrun with
  | nil =>
      refine ⟨fun _ => rfl, fun phase hphase => ?_⟩
      cases hphase
  | @snoc trace state next event hrun hstep ih =>
      rw [Unrefused, List.forall_mem_append, List.forall_mem_singleton] at hunrefused
      obtain ⟨hbefore, hlast⟩ := hunrefused
      obtain ⟨hfresh, hexplains⟩ := ih hbefore
      have hjournal : journal flow (trace ++ [⟨state, event, next⟩]) =
          journal flow trace ++ acts (state.phaseOf flow) (next.phaseOf flow) := by
        rw [journal, List.flatMap_append, List.flatMap_singleton]
        rfl
      rw [hjournal]
      let last : Transition State Event := ⟨state, event, next⟩
      have hlaststep : step cfg last.pre last.event = some last.post := hstep
      rcases pointOf_of_step flow hlaststep with hsame | ⟨cmd, target, hnone, hentry⟩ |
        ⟨input, call, shared, point, hevent, hopen, hresumes, -, hpoint⟩
      · have hphase : next.phaseOf flow = state.phaseOf flow :=
          congrArg (Option.map OpenPoint.phase) hsame
        rw [hphase, acts_self, List.append_nil]
        exact ⟨hfresh, hexplains⟩
      · have hphase : state.phaseOf flow = none :=
          congrArg (Option.map OpenPoint.phase) hnone
        have hnext : next.phaseOf flow =
            some (entryPoint cfg state.shared.now cmd target).phase :=
          congrArg (Option.map OpenPoint.phase) hentry
        rw [hnext, hphase, hfresh hphase, List.nil_append]
        refine ⟨fun hnone => absurd hnone (Option.some_ne_none _), fun phase hphase => ?_⟩
        cases hphase
        exact explains_entryPoint hvalid cmd target
      · have hphase : state.phaseOf flow = some call.point.phase :=
          congrArg (Option.map OpenPoint.phase) (pointOf_of_open hopen)
        have hnext : next.phaseOf flow = some point.phase :=
          congrArg (Option.map OpenPoint.phase) hpoint
        have haccepted : ∀ response, input = .response response → response.status = .ok := by
          intro response hinput
          by_contra hstatus
          exact hlast response ⟨by rw [← hinput]; exact hevent, hstatus⟩
        rw [hnext, hphase]
        refine ⟨fun hnone => absurd hnone (Option.some_ne_none _), fun phase hphase' => ?_⟩
        cases hphase'
        exact (hresumes.phaseStep hvalid haccepted).explains (hexplains _ hphase)

end Runs

/-! ## Waits -/

/-- What a step may go on with that needs nothing from the other end. -/
def Input.isLocal : Input → Bool
  | .proceed => true
  | .elapsed => true
  | .connecting => true
  | _ => false

/-- Nothing but the clock has moved. -/
def State.wait (state : State) (delta : ℕ) : State where
  shared := { state.shared with now := state.shared.now + delta }
  opens := state.opens

/-- The other end does not refuse. -/
def Input.accepted : Input → Bool
  | .response answer => answer.status = .ok
  | _ => true

/-- The open makes no step of its own, however long one waits. -/
def Rests (cfg : ClientConfig) (state : State) (flow : FlowId) : Prop :=
  ∀ delta input, input.isLocal = true →
    step cfg (state.wait delta) (.resume flow input) = none

/-- Nor does the open that has the lock of the slot. -/
def Settled (cfg : ClientConfig) (state : State) (flow : FlowId) : Prop :=
  Rests cfg state flow ∧ ∀ holder, state.shared.slotHolder = some holder →
    Rests cfg state holder

/-- The two waits without a timer: `open_bi`, and the write of the request. -/
def OpenPoint.awaitsStream : OpenPoint → Bool
  | .openStream _ => true
  | .writeRequest _ => true
  | _ => false

section Waits

variable {cfg : ClientConfig} {state : State} {flow : FlowId} {call : OpenCall}

theorem not_rests (delta : ℕ) (input : Input) {shared : Shared} {point : OpenPoint}
    (hopen : state.opens flow = some call) (hlocal : input.isLocal = true)
    (hresumes : Resumes cfg flow call.cmd call.target (state.wait delta).shared call.point
      input shared point) : ¬ Rests cfg state flow := by
  intro hrests
  have hstep : step cfg (state.wait delta) (.resume flow input) = some _ :=
    step_resume_iff.mpr ⟨call, shared, point, hopen, hresumes, rfl⟩
  rw [hrests delta input hlocal] at hstep
  cases hstep

/-- A timer fires when one waits long enough. -/
theorem timedOut_of_wait (since now : Time) :
    timedOut cfg since (now + (since + cfg.connectTimeoutMs)) = true :=
  decide_eq_true (Nat.le_add_left _ _)

/-- The open that has the lock of the slot is under a timer. -/
theorem not_rests_of_holder (hinvariant : SlotInvariant state)
    (hholder : state.shared.slotHolder = some flow) : ¬ Rests cfg state flow := by
  have hheld := hinvariant.held_eq flow hholder
  rw [State.held] at hheld
  cases hopen : state.opens flow with
  | none =>
      rw [hopen] at hheld
      cases hheld
  | some call =>
      rw [hopen, Option.elim_some] at hheld
      obtain ⟨cmd, target, point⟩ := call
      cases point with
      | connecting since =>
          exact not_rests (since + cfg.connectTimeoutMs) .elapsed hopen rfl
            (.connectElapsed (timedOut_of_wait since state.shared.now))
      | _ => cases hheld

/-- No timer ends a wait for a stream. -/
theorem rests_of_awaitsStream (hopen : state.opens flow = some call)
    (hawaits : call.point.awaitsStream = true) : Rests cfg state flow := by
  intro delta input hlocal
  cases hstep : step cfg (state.wait delta) (.resume flow input) with
  | none => rfl
  | some next =>
      obtain ⟨call', shared, point, hopen', hresumes, -⟩ := step_resume_iff.mp hstep
      cases hopen.symm.trans hopen'
      generalize call.point = source at hawaits hresumes
      cases hresumes with
      | streamOpened => cases hlocal
      | streamFailed => cases hlocal
      | written => cases hlocal
      | encodeFailed => cases hlocal
      | writeFailed => cases hlocal
      | _ => cases hawaits

/-- What an open comes to rest in is its result, or a wait for a stream. -/
theorem of_settled (hinvariant : SlotInvariant state) (hopen : state.opens flow = some call)
    (hsettled : Settled cfg state flow) :
    call.point.awaitsStream = true ∨ ∃ result, call.point = .done result := by
  obtain ⟨hrests, hholders⟩ := hsettled
  have hfree : state.shared.slotHolder = none := by
    by_contra hheld
    obtain ⟨holder, hholder⟩ := Option.ne_none_iff_exists'.mp hheld
    exact not_rests_of_holder hinvariant hholder (hholders holder hholder)
  obtain ⟨cmd, target, point⟩ := call
  cases point with
  | openStream conn => exact .inl rfl
  | writeRequest conn => exact .inl rfl
  | done result => exact .inr ⟨result, rfl⟩
  | checkWindow =>
      cases hwindow : state.shared.quicSuppressed with
      | true => exact absurd hrests (not_rests 0 .proceed hopen rfl (.suppressed hwindow))
      | false => exact absurd hrests (not_rests 0 .proceed hopen rfl (.probes hwindow))
  | grpcOpening role since =>
      exact absurd hrests (not_rests (since + cfg.connectTimeoutMs) .elapsed hopen rfl
        (.grpcOpenElapsed (timedOut_of_wait since state.shared.now)))
  | grpcResponse role since =>
      exact absurd hrests (not_rests (since + cfg.connectTimeoutMs) .elapsed hopen rfl
        (.grpcReadElapsed (timedOut_of_wait since state.shared.now)))
  | clearAfterGrpc =>
      exact absurd hrests (not_rests 0 .proceed hopen rfl .clearedAfterGrpc)
  | lockSlot =>
      cases hlive : state.shared.liveSlot with
      | none =>
          exact absurd hrests (not_rests 0 .connecting hopen rfl (.connects hfree hlive))
      | some conn =>
          exact absurd hrests (not_rests 0 .proceed hopen rfl (.reuses hfree hlive))
  | connecting since =>
      exact absurd hrests (not_rests (since + cfg.connectTimeoutMs) .elapsed hopen rfl
        (.connectElapsed (timedOut_of_wait since state.shared.now)))
  | awaitResponse conn since =>
      exact absurd hrests (not_rests (since + cfg.connectTimeoutMs) .elapsed hopen rfl
        (.readElapsed (timedOut_of_wait since state.shared.now)))
  | invalidate conn error =>
      exact absurd hrests (not_rests 0 .proceed hopen rfl (.invalidated hfree))
  | unavailable => exact absurd hrests (not_rests 0 .proceed hopen rfl .observes)
  | recordWindow observed =>
      exact absurd hrests (not_rests 0 .proceed hopen rfl .recorded)
  | clearAfterQuic =>
      exact absurd hrests (not_rests 0 .proceed hopen rfl .clearedAfterQuic)

end Waits

/-! ## Availability -/

def ClientConfig.enables (cfg : ClientConfig) : FlowTransport → Bool
  | .quic => cfg.quicEnabled
  | .grpc => cfg.grpcEnabled

/-- Every attempt of the open on a transport has succeeded. -/
def Accepts (trace : List (Transition State Event)) (final : State) (flow : FlowId)
    (transport : FlowTransport) : Prop :=
  .failed transport ∉ journal flow trace ∧
    (final.phaseOf flow).bind OpenPhase.attempt ≠ some transport

/-- What an open tries, and what it returns when one transport accepts all that it tries
there. -/
structure Available (cfg : ClientConfig) (trace : List (Transition State Event))
    (final : State) (flow : FlowId) : Prop where
  quic_once : (journal flow trace).count (.tried .quic) ≤ 1
  grpc_twice : (journal flow trace).count (.tried .grpc) ≤ 2
  enabled : ∀ transport, .tried transport ∈ journal flow trace →
    cfg.enables transport = true
  /-- An error comes after a failure of every enabled transport. -/
  failed : ∀ error, final.pointOf flow = some (.done (.error error)) →
    ∀ transport, cfg.enables transport = true → .failed transport ∈ journal flow trace
  /-- An open that has no step left to make has returned a flow. -/
  returns : ∀ point, final.pointOf flow = some point → Settled cfg final flow →
    ∀ transport, cfg.enables transport = true → Accepts trace final flow transport →
      ∃ used, point = .done (.ok used)

/-- An open comes to rest in a wait for a stream only if QUIC is why. -/
def StreamsAnswered (cfg : ClientConfig) (trace : List (Transition State Event))
    (final : State) (flow : FlowId) : Prop :=
  ∀ point, final.pointOf flow = some point → Settled cfg final flow →
    ∀ transport, cfg.enables transport = true → Accepts trace final flow transport →
      point.awaitsStream = false

section Availability

variable {cfg : ClientConfig} {now : Time} {trace : List (Transition State Event)}
variable {final : State} {flow : FlowId}

theorem failed_of_done (hvalid : cfg.validate = .ok ()) (hrun : Run cfg now trace final)
    (hunrefused : Unrefused trace flow) {error : AnyhowError}
    (hdone : final.pointOf flow = some (.done (.error error))) {transport : FlowTransport}
    (henabled : cfg.enables transport = true) : .failed transport ∈ journal flow trace := by
  have hphase : final.phaseOf flow = some .lost := congrArg (Option.map OpenPoint.phase) hdone
  have hlost := ((explains_run hvalid hrun hunrefused).2 .lost hphase).failed_of_lost
  cases transport with
  | quic => exact hlost.1 henabled
  | grpc => exact hlost.2 henabled

/-- An open gets a flow over any transport that accepts what it asks, exactly if QUIC
answers the two waits that have no timer. -/
theorem available_iff (hvalid : cfg.validate = .ok ()) (hrun : Run cfg now trace final)
    (hunrefused : Unrefused trace flow) :
    Available cfg trace final flow ↔ StreamsAnswered cfg trace final flow := by
  constructor
  · intro havailable point hpoint hsettled transport henabled haccepts
    obtain ⟨used, rfl⟩ := havailable.returns point hpoint hsettled transport henabled haccepts
    rfl
  · intro hanswered
    have hbounds : (journal flow trace).count (.tried .quic) ≤ 1 ∧
        (journal flow trace).count (.tried .grpc) ≤ 2 ∧
        (.tried .quic ∈ journal flow trace → cfg.quicEnabled = true) ∧
        (.tried .grpc ∈ journal flow trace → cfg.grpcEnabled = true) := by
      obtain ⟨hfresh, hexplains⟩ := explains_run hvalid hrun hunrefused
      cases hphase : final.phaseOf flow with
      | none =>
          rw [hfresh hphase]
          simp
      | some phase => exact (hexplains phase hphase).bounds
    obtain ⟨honce, htwice, hquic, hgrpc⟩ := hbounds
    refine ⟨honce, htwice, fun transport htried => ?_,
      fun error hdone transport henabled => failed_of_done hvalid hrun hunrefused hdone henabled,
      fun point hpoint hsettled transport henabled haccepts => ?_⟩
    · cases transport with
      | quic => exact hquic htried
      | grpc => exact hgrpc htried
    · obtain ⟨call, hopen, rfl⟩ := Option.map_eq_some_iff.mp hpoint
      have hinvariant : SlotInvariant final :=
        Execution.invariant slotInvariant_of_step hrun (slotInvariant_new now)
      obtain hawaits | ⟨result, hdone⟩ := of_settled hinvariant hopen hsettled
      · rw [hanswered call.point hpoint hsettled transport henabled haccepts] at hawaits
        cases hawaits
      · cases result with
        | ok used => exact ⟨used, hdone⟩
        | error error =>
            rw [hdone] at hpoint
            exact absurd (failed_of_done hvalid hrun hunrefused hpoint henabled) haccepts.1

end Availability

/-- No step of the open goes on with a refusal. -/
def Event.accepted (flow : FlowId) (event : Event) : Bool :=
  event.resumed.all fun resumed => resumed.1 ≠ flow || resumed.2.accepted

theorem unrefused_of_accepted {trace : List (Transition State Event)} {flow : FlowId}
    (haccepted : (trace.all fun tr => tr.event.accepted flow) = true) :
    Unrefused trace flow := by
  rintro tr hmem response ⟨hevent, hstatus⟩
  have htr := List.all_eq_true.mp haccepted tr hmem
  rw [hevent] at htr
  simp [Event.accepted, Event.resumed, Input.accepted, hstatus] at htr

/-- QUIC cannot connect, and the open falls back. -/
theorem available_sample :
    ∃ trace final, Run ClientConfig.sample 0 trace final ∧
      journal 0 trace = [.tried .quic, .failed .quic, .tried .grpc] ∧
      Available ClientConfig.sample trace final 0 := by
  have hfacts : (replay (step ClientConfig.sample) (State.new 0)
      [.start 0 .connectTcp sampleTarget, .resume 0 .proceed, .resume 0 .connecting,
        .tick 5000, .resume 0 .elapsed, .resume 0 .proceed, .resume 0 .proceed,
        .resume 0 .ready, .resume 0 (.response ⟨.ok, ""⟩)]).map
      (fun result => (journal 0 result.1, result.1.all fun tr => tr.event.accepted 0,
        result.2.phaseOf 0)) =
        some ([.tried .quic, .failed .quic, .tried .grpc], true, some (.won .grpc)) := by
    decide
  obtain ⟨⟨trace, final⟩, hreplay, hfacts⟩ := Option.map_eq_some_iff.mp hfacts
  simp only [Prod.mk.injEq] at hfacts
  obtain ⟨hjournal, haccepted, hphase⟩ := hfacts
  have hrun := execution_of_replay hreplay
  refine ⟨trace, final, hrun, hjournal, (available_iff ClientConfig.validate_sample hrun
    (unrefused_of_accepted haccepted)).mpr ?_⟩
  intro point hpoint _ _ _ _
  rw [State.phaseOf, hpoint, Option.map_some, Option.some.injEq] at hphase
  cases point with
  | openStream conn => cases hphase
  | writeRequest conn => cases hphase
  | _ => rfl

/-- QUIC grants no stream, and the open waits for one though gRPC is enabled and has not
failed. -/
theorem unavailable_without_stream :
    ClientConfig.sample.validate = .ok () ∧
    ∃ trace final, Run ClientConfig.sample 0 trace final ∧ Unrefused trace 0 ∧
      ¬ Available ClientConfig.sample trace final 0 := by
  have hfacts : (replay (step ClientConfig.sample) (State.new 0)
      [.start 0 .connectTcp sampleTarget, .resume 0 .proceed, .resume 0 .connecting,
        .resume 0 (.connected 0)]).map
      (fun result => (journal 0 result.1, result.1.all fun tr => tr.event.accepted 0,
        (result.2.pointOf 0).map OpenPoint.awaitsStream, result.2.phaseOf 0,
        result.2.shared.slotHolder.isNone)) =
        some ([.tried .quic], true, some true, some .quic, true) := by
    decide
  obtain ⟨⟨trace, final⟩, hreplay, hfacts⟩ := Option.map_eq_some_iff.mp hfacts
  simp only [Prod.mk.injEq] at hfacts
  obtain ⟨hjournal, haccepted, hpoint, hphase, hholder⟩ := hfacts
  obtain ⟨point, hpoint, hawaits⟩ := Option.map_eq_some_iff.mp hpoint
  obtain ⟨call, hopen, rfl⟩ := Option.map_eq_some_iff.mp hpoint
  refine ⟨ClientConfig.validate_sample, trace, final, execution_of_replay hreplay,
    unrefused_of_accepted haccepted, fun havailable => ?_⟩
  have hsettled : Settled ClientConfig.sample final 0 := by
    refine ⟨rests_of_awaitsStream hopen hawaits, fun holder hheld => ?_⟩
    rw [hheld] at hholder
    cases hholder
  have haccepts : Accepts trace final 0 .grpc := by
    rw [Accepts, hjournal, hphase]
    decide
  obtain ⟨used, hdone⟩ := havailable.returns call.point hpoint hsettled .grpc rfl haccepts
  rw [hdone] at hawaits
  cases hawaits

end VpnBridge.Client
