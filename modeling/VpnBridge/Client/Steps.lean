import VpnBridge.Client.Transport

/-!
# The steps of an open

`Resumes` says once what one step of an open can do; everything about runs of
the client is derived from it by cases.  An open only moves forward: every step
takes it to a later stage, so it ends, and it makes each kind of attempt once.
-/

namespace VpnBridge.Client

open VpnBridge.Net VpnBridge.Proto VpnBridge.TransitionSystem

/-- `resumePoint` as a relation, with one rule for each of its branches. -/
inductive Resumes (cfg : ClientConfig) (flow : FlowId) (cmd : Cmd) (target : Address)
    (shared : Shared) : OpenPoint → Input → Shared → OpenPoint → Prop where
  | suppressed (hsuppressed : shared.quicSuppressed = true) :
      Resumes cfg flow cmd target shared .checkWindow .proceed
        shared (grpcOpen cfg shared.now cmd target .first)
  | probes (hprobes : shared.quicSuppressed = false) :
      Resumes cfg flow cmd target shared .checkWindow .proceed shared .lockSlot
  | grpcOpened {role : GrpcRole} {since : Time} :
      Resumes cfg flow cmd target shared (.grpcOpening role since) .ready
        shared (.grpcResponse role shared.now)
  | grpcOpenFailed {role : GrpcRole} {since : Time} {error : AnyhowError} :
      Resumes cfg flow cmd target shared (.grpcOpening role since) (.failed error)
        shared (afterGrpc role
          (.error (s!"opening gRPC fallback stream for {target.display}" :: error)))
  | grpcOpenElapsed {role : GrpcRole} {since : Time}
      (helapsed : timedOut cfg since shared.now = true) :
      Resumes cfg flow cmd target shared (.grpcOpening role since) .elapsed
        shared (afterGrpc role (.error (elapsedError
          s!"gRPC fallback connection timed out for {target.display}")))
  | grpcAnswered {role : GrpcRole} {since : Time} {response : Response} :
      Resumes cfg flow cmd target shared (.grpcResponse role since) (.response response)
        shared (grpcAnswered target role response)
  | grpcReadFailed {role : GrpcRole} {since : Time} {error : AnyhowError} :
      Resumes cfg flow cmd target shared (.grpcResponse role since) (.failed error)
        shared (afterGrpc role
          (.error (s!"reading gRPC proxy response for {target.display}" :: error)))
  | grpcReadElapsed {role : GrpcRole} {since : Time}
      (helapsed : timedOut cfg since shared.now = true) :
      Resumes cfg flow cmd target shared (.grpcResponse role since) .elapsed
        shared (afterGrpc role (.error (elapsedError
          s!"gRPC proxy response timed out for {target.display}")))
  | clearedAfterGrpc :
      Resumes cfg flow cmd target shared .clearAfterGrpc .proceed
        { shared with fallbackUntil := none } .lockSlot
  | reuses {conn : ConnId} (hfree : shared.slotHolder = none)
      (hlive : shared.liveSlot = some conn) :
      Resumes cfg flow cmd target shared .lockSlot .proceed shared (.openStream conn)
  | connectRefused {error : AnyhowError} (hfree : shared.slotHolder = none)
      (hdead : shared.liveSlot = none) :
      Resumes cfg flow cmd target shared .lockSlot (.failed error)
        shared (afterQuic cfg
          (.error (.unavailable ("starting QUIC connection" :: error))))
  | connects (hfree : shared.slotHolder = none) (hdead : shared.liveSlot = none) :
      Resumes cfg flow cmd target shared .lockSlot .connecting
        { shared with slotHolder := some flow } (.connecting shared.now)
  | connected {since : Time} {conn : ConnId} (hfresh : shared.connections conn = .unused) :
      Resumes cfg flow cmd target shared (.connecting since) (.connected conn)
        (shared.connect conn) (.openStream conn)
  | connectFailed {since : Time} {error : AnyhowError} :
      Resumes cfg flow cmd target shared (.connecting since) (.failed error)
        { shared with slotHolder := none } (afterQuic cfg (.error (.unavailable error)))
  | connectElapsed {since : Time} (helapsed : timedOut cfg since shared.now = true) :
      Resumes cfg flow cmd target shared (.connecting since) .elapsed
        { shared with slotHolder := none }
        (afterQuic cfg (.error (.unavailable (elapsedError "QUIC connection timed out"))))
  | streamOpened {conn : ConnId} :
      Resumes cfg flow cmd target shared (.openStream conn) .ready
        shared (.writeRequest conn)
  | streamFailed {conn : ConnId} {error : AnyhowError} :
      Resumes cfg flow cmd target shared (.openStream conn) (.failed error)
        shared (.invalidate conn ("opening QUIC stream" :: error))
  | written {conn : ConnId} (hencode : encodeRequest cfg cmd target = .ok ()) :
      Resumes cfg flow cmd target shared (.writeRequest conn) .ready
        shared (.awaitResponse conn shared.now)
  | encodeFailed {conn : ConnId} {failure : IoError}
      (hencode : encodeRequest cfg cmd target = .error failure) :
      Resumes cfg flow cmd target shared (.writeRequest conn) .ready
        shared (.invalidate conn
          [s!"sending QUIC proxy request for {target.display}", failure.message])
  | writeFailed {conn : ConnId} {error : AnyhowError}
      (hencode : encodeRequest cfg cmd target = .ok ()) :
      Resumes cfg flow cmd target shared (.writeRequest conn) (.failed error)
        shared (.invalidate conn
          (s!"sending QUIC proxy request for {target.display}" :: error))
  | answered {conn : ConnId} {since : Time} {response : Response} :
      Resumes cfg flow cmd target shared (.awaitResponse conn since) (.response response)
        shared (quicAnswered cfg target response)
  | readFailed {conn : ConnId} {since : Time} {error : AnyhowError} :
      Resumes cfg flow cmd target shared (.awaitResponse conn since) (.failed error)
        shared (.invalidate conn
          (s!"reading QUIC proxy response for {target.display}" :: error))
  | readElapsed {conn : ConnId} {since : Time}
      (helapsed : timedOut cfg since shared.now = true) :
      Resumes cfg flow cmd target shared (.awaitResponse conn since) .elapsed
        shared (.invalidate conn (elapsedError
          s!"QUIC proxy response timed out for {target.display}"))
  | invalidated {conn : ConnId} {error : AnyhowError} (hfree : shared.slotHolder = none) :
      Resumes cfg flow cmd target shared (.invalidate conn error) .proceed
        { shared with slot := none } (afterQuic cfg (.error (.unavailable error)))
  | observes :
      Resumes cfg flow cmd target shared .unavailable .proceed
        shared (.recordWindow shared.now)
  | recorded {observed : Time} :
      Resumes cfg flow cmd target shared (.recordWindow observed) .proceed
        { shared with fallbackUntil := some (observed + cfg.reconnectIntervalMs) }
        (grpcOpen cfg shared.now cmd target .fallback)
  | clearedAfterQuic :
      Resumes cfg flow cmd target shared .clearAfterQuic .proceed
        { shared with fallbackUntil := none } (.done (.ok .quic))

/-- The rules are the branches of the function. -/
theorem resumePoint_eq_some_iff {cfg : ClientConfig} {flow : FlowId} {call : OpenCall}
    {shared next : Shared} {input : Input} {point : OpenPoint} :
    resumePoint cfg flow call shared input = some (next, point) ↔
      Resumes cfg flow call.cmd call.target shared call.point input next point := by
  obtain ⟨cmd, target, source⟩ := call
  constructor
  · intro hresume
    cases source <;> cases input <;>
      simp only [resumePoint, reduceCtorEq, Option.ite_none_right_eq_some,
        Option.some.injEq, Prod.mk.injEq] at hresume
    -- the branches under a test of their own; the rest follow the first pattern that fits
    case checkWindow.proceed =>
      cases hwindow : shared.quicSuppressed with
      | false =>
          rw [hwindow] at hresume
          cases hresume
          exact .probes hwindow
      | true =>
          rw [hwindow] at hresume
          cases hresume
          exact .suppressed hwindow
    case lockSlot.proceed =>
      cases hholder : shared.slotHolder <;> cases hslot : shared.liveSlot <;>
        simp only [hholder, hslot, reduceCtorEq, Option.some.injEq, Prod.mk.injEq]
          at hresume
      obtain ⟨rfl, rfl⟩ := hresume
      exact .reuses hholder hslot
    case lockSlot.failed error =>
      cases hholder : shared.slotHolder <;> cases hslot : shared.liveSlot <;>
        simp only [hholder, hslot, reduceCtorEq, Option.some.injEq, Prod.mk.injEq]
          at hresume
      obtain ⟨rfl, rfl⟩ := hresume
      exact .connectRefused hholder hslot
    case lockSlot.connecting =>
      cases hholder : shared.slotHolder <;> cases hslot : shared.liveSlot <;>
        simp only [hholder, hslot, reduceCtorEq, Option.some.injEq, Prod.mk.injEq]
          at hresume
      obtain ⟨rfl, rfl⟩ := hresume
      exact .connects hholder hslot
    case writeRequest.ready conn =>
      cases hencode : encodeRequest cfg cmd target with
      | ok encoded =>
          rw [hencode] at hresume
          cases hresume
          exact .written hencode
      | error failure =>
          rw [hencode] at hresume
          cases hresume
          exact .encodeFailed hencode
    case writeRequest.failed conn error =>
      cases hencode : encodeRequest cfg cmd target with
      | ok encoded =>
          rw [hencode] at hresume
          cases hresume
          exact .writeFailed hencode
      | error failure =>
          rw [hencode] at hresume
          cases hresume
    all_goals first
      | (obtain ⟨rfl, rfl⟩ := hresume; constructor)
      | (obtain ⟨hguard, rfl, rfl⟩ := hresume; constructor; exact hguard)
  · intro hresume
    cases hresume <;> simp [resumePoint, *]

/-! ## Steps of the client -/

section Steps

variable {cfg : ClientConfig} {state next : State}

theorem step_tick_iff {delta : ℕ} :
    step cfg state (.tick delta) = some next ↔
      next = { state with shared.now := state.shared.now + delta } := by
  rw [step, Option.some.injEq, eq_comm]

theorem step_close_iff {conn : ConnId} :
    step cfg state (.close conn) = some next ↔
      state.shared.connections conn = .live ∧
        next = { state with shared := state.shared.close conn } := by
  rw [step, Option.ite_none_right_eq_some, Option.some.injEq]
  exact and_congr_right fun _ => eq_comm

theorem step_start_iff {flow : FlowId} {cmd : Cmd} {target : Address} :
    step cfg state (.start flow cmd target) = some next ↔
      state.opens flow = none ∧
        next = { state with
          opens := Function.update state.opens flow
            (some ⟨cmd, target, entryPoint cfg state.shared.now cmd target⟩) } := by
  cases hopen : state.opens flow <;> simp [step, hopen, eq_comm]

theorem step_resume_iff {flow : FlowId} {input : Input} :
    step cfg state (.resume flow input) = some next ↔
      ∃ call shared point, state.opens flow = some call ∧
        Resumes cfg flow call.cmd call.target state.shared call.point input shared point ∧
        next = ⟨shared, Function.update state.opens flow (some { call with point })⟩ := by
  simp only [← resumePoint_eq_some_iff]
  cases hopen : state.opens flow with
  | none => simp [step, hopen]
  | some call => simp [step, hopen, eq_comm]

end Steps

/-! ## Frames -/

theorem Resumes.now_eq {cfg : ClientConfig} {flow : FlowId} {cmd : Cmd}
    {target : Address} {shared next : Shared} {source point : OpenPoint} {input : Input}
    (hresumes : Resumes cfg flow cmd target shared source input next point) :
    next.now = shared.now := by
  cases hresumes <;> rfl

/-- What leaving a point writes to the window, if it writes. -/
def OpenPoint.writesWindow (cfg : ClientConfig) : OpenPoint → Option (Option Time)
  | .clearAfterGrpc => some none
  | .recordWindow observed => some (some (observed + cfg.reconnectIntervalMs))
  | .clearAfterQuic => some none
  | _ => none

theorem Resumes.fallbackUntil_eq {cfg : ClientConfig} {flow : FlowId} {cmd : Cmd}
    {target : Address} {shared next : Shared} {source point : OpenPoint} {input : Input}
    (hresumes : Resumes cfg flow cmd target shared source input next point) :
    next.fallbackUntil = (source.writesWindow cfg).getD shared.fallbackUntil := by
  cases hresumes <;> rfl

/-- Where an open stands, if it has started. -/
def State.pointOf (state : State) (flow : FlowId) : Option OpenPoint :=
  (state.opens flow).map OpenCall.point

@[simp]
theorem State.pointOf_update_self (shared : Shared) (opens : FlowId → Option OpenCall)
    (flow : FlowId) (call : OpenCall) :
    (State.mk shared (Function.update opens flow (some call))).pointOf flow =
      some call.point := by
  simp [State.pointOf]

@[simp]
theorem State.pointOf_update_of_ne (shared : Shared) (opens : FlowId → Option OpenCall)
    {flow other : FlowId} (call : Option OpenCall) (hother : other ≠ flow) :
    (State.mk shared (Function.update opens flow call)).pointOf other =
      (opens other).map OpenCall.point := by
  simp [State.pointOf, Function.update_of_ne hother]

theorem pointOf_of_open {state : State} {flow : FlowId} {call : OpenCall}
    (hopen : state.opens flow = some call) : state.pointOf flow = some call.point := by
  rw [State.pointOf, hopen, Option.map_some]

/-- An open moves when it starts and in its own steps, and not otherwise. -/
theorem pointOf_of_step {cfg : ClientConfig} {tr : Transition State Event} (flow : FlowId)
    (hstep : step cfg tr.pre tr.event = some tr.post) :
    tr.post.pointOf flow = tr.pre.pointOf flow ∨
      (∃ cmd target, tr.pre.pointOf flow = none ∧ tr.post.pointOf flow =
        some (entryPoint cfg tr.pre.shared.now cmd target)) ∨
      ∃ input call shared point, tr.event = .resume flow input ∧
        tr.pre.opens flow = some call ∧
        Resumes cfg flow call.cmd call.target tr.pre.shared call.point input shared point ∧
        tr.post.shared = shared ∧ tr.post.pointOf flow = some point := by
  cases hevent : tr.event with
  | tick delta =>
      rw [hevent, step_tick_iff] at hstep
      exact .inl (by rw [hstep]; rfl)
  | close conn =>
      rw [hevent, step_close_iff] at hstep
      exact .inl (by rw [hstep.2]; rfl)
  | start other cmd target =>
      rw [hevent, step_start_iff] at hstep
      rw [hstep.2]
      by_cases hflow : flow = other
      · subst hflow
        exact .inr (.inl ⟨cmd, target, by rw [State.pointOf, hstep.1]; rfl,
          State.pointOf_update_self _ _ _ _⟩)
      · exact .inl (State.pointOf_update_of_ne _ _ _ hflow)
  | resume other input =>
      rw [hevent, step_resume_iff] at hstep
      obtain ⟨call, shared, point, hopen, hresumes, hpost⟩ := hstep
      rw [hpost]
      by_cases hflow : flow = other
      · subst hflow
        exact .inr (.inr ⟨input, call, shared, point, rfl, hopen, hresumes, rfl,
          State.pointOf_update_self _ _ _ _⟩)
      · exact .inl (State.pointOf_update_of_ne _ _ _ hflow)

theorem now_le_of_step {cfg : ClientConfig} {state next : State} {event : Event}
    (hstep : step cfg state event = some next) : state.shared.now ≤ next.shared.now := by
  cases event with
  | tick delta =>
      rw [step_tick_iff.mp hstep]
      exact Nat.le_add_right _ _
  | close conn =>
      rw [(step_close_iff.mp hstep).2]
      exact le_refl _
  | start flow cmd target =>
      rw [(step_start_iff.mp hstep).2]
  | resume flow input =>
      obtain ⟨call, shared, point, -, hresumes, rfl⟩ := step_resume_iff.mp hstep
      exact le_of_eq hresumes.now_eq.symm

/-! ## What an open holds -/

/-- What an open keeps for its next step. -/
inductive Held where
  | nothing
  /-- The lock of the slot. -/
  | lock
  | connection (conn : ConnId)
  /-- A reading of the clock. -/
  | reading (observed : Time)
  deriving DecidableEq

def OpenPoint.held : OpenPoint → Held
  | .checkWindow => .nothing
  | .grpcOpening _ _ => .nothing
  | .grpcResponse _ _ => .nothing
  | .clearAfterGrpc => .nothing
  | .lockSlot => .nothing
  | .connecting _ => .lock
  | .openStream conn => .connection conn
  | .writeRequest conn => .connection conn
  | .awaitResponse conn _ => .connection conn
  | .invalidate conn _ => .connection conn
  | .unavailable => .nothing
  | .recordWindow observed => .reading observed
  | .clearAfterQuic => .nothing
  | .done _ => .nothing

@[simp]
theorem held_afterGrpc (role : GrpcRole) (result : Except AnyhowError Unit) :
    (afterGrpc role result).held = .nothing := by
  cases result <;> cases role <;> rfl

@[simp]
theorem held_grpcOpen (cfg : ClientConfig) (now : Time) (cmd : Cmd) (target : Address)
    (role : GrpcRole) : (grpcOpen cfg now cmd target role).held = .nothing := by
  rw [grpcOpen]
  split
  · exact held_afterGrpc role _
  · rfl

@[simp]
theorem held_grpcAnswered (target : Address) (role : GrpcRole) (response : Response) :
    (grpcAnswered target role response).held = .nothing := by
  rw [grpcAnswered]
  split <;> exact held_afterGrpc role _

@[simp]
theorem held_afterQuic (cfg : ClientConfig) (result : Except QuicOpenError Unit) :
    (afterQuic cfg result).held = .nothing := by
  rcases result with (error | error) | opened <;> rw [afterQuic] <;> (try split) <;> rfl

@[simp]
theorem held_quicAnswered (cfg : ClientConfig) (target : Address) (response : Response) :
    (quicAnswered cfg target response).held = .nothing := by
  rw [quicAnswered]
  split <;> exact held_afterQuic cfg _

@[simp]
theorem held_entryPoint (cfg : ClientConfig) (now : Time) (cmd : Cmd) (target : Address) :
    (entryPoint cfg now cmd target).held = .nothing := by
  rw [entryPoint]
  split
  · split
    · rfl
    · exact held_grpcOpen cfg now cmd target .only
  · split <;> rfl

section Held

variable {cfg : ClientConfig} {flow : FlowId} {cmd : Cmd} {target : Address}
variable {shared next : Shared} {source point : OpenPoint} {input : Input}

/-- A reading of the clock is fresh when an open comes to hold it. -/
theorem Resumes.of_reading
    (hresumes : Resumes cfg flow cmd target shared source input next point)
    {observed : Time} (hheld : point.held = .reading observed) :
    source = .unavailable ∧ observed = shared.now := by
  cases hresumes with
  | observes =>
      cases hheld
      exact ⟨rfl, rfl⟩
  | _ => first | cases hheld | simp at hheld

/-- The lock is kept only to connect, and only while no connection is live. -/
theorem Resumes.of_lock
    (hresumes : Resumes cfg flow cmd target shared source input next point)
    (hheld : point.held = .lock) :
    source = .lockSlot ∧ shared.slotHolder = none ∧ shared.liveSlot = none ∧
      next = { shared with slotHolder := some flow } := by
  cases hresumes with
  | connects hfree hdead => exact ⟨rfl, hfree, hdead, rfl⟩
  | _ => first | cases hheld | simp at hheld

/-- Where an open has its connection from. -/
theorem Resumes.of_connection
    (hresumes : Resumes cfg flow cmd target shared source input next point)
    {conn : ConnId} (hheld : point.held = .connection conn) :
    (source.held = .connection conn ∧ next = shared) ∨
      (source = .lockSlot ∧ shared.liveSlot = some conn ∧ next = shared) ∨
        source.held = .lock ∧ input = .connected conn ∧
          shared.connections conn = .unused ∧ next = shared.connect conn := by
  cases hresumes with
  | reuses hfree hlive =>
      cases hheld
      exact .inr (.inl ⟨rfl, hlive, rfl⟩)
  | connected hfresh =>
      cases hheld
      exact .inr (.inr ⟨rfl, rfl, hfresh, rfl⟩)
  | streamOpened => exact .inl ⟨hheld, rfl⟩
  | streamFailed => exact .inl ⟨hheld, rfl⟩
  | written => exact .inl ⟨hheld, rfl⟩
  | encodeFailed => exact .inl ⟨hheld, rfl⟩
  | writeFailed => exact .inl ⟨hheld, rfl⟩
  | readFailed => exact .inl ⟨hheld, rfl⟩
  | readElapsed => exact .inl ⟨hheld, rfl⟩
  | _ => first | cases hheld | simp at hheld

end Held

/-! ## Stages -/

/-- The first stage of a gRPC attempt; the response has the next. -/
def GrpcRole.stage : GrpcRole → ℕ
  | .only => 1
  | .first => 1
  | .fallback => 12

/-- How far an open has come. -/
def OpenPoint.stage : OpenPoint → ℕ
  | .checkWindow => 0
  | .grpcOpening role _ => role.stage
  | .grpcResponse role _ => role.stage + 1
  | .clearAfterGrpc => 3
  | .lockSlot => 4
  | .connecting _ => 5
  | .openStream _ => 6
  | .writeRequest _ => 7
  | .awaitResponse _ _ => 8
  | .invalidate _ _ => 9
  | .clearAfterQuic => 9
  | .unavailable => 10
  | .recordWindow _ => 11
  | .done _ => 14

theorem stage_afterGrpc (role : GrpcRole) (result : Except AnyhowError Unit) :
    role.stage + 2 ≤ (afterGrpc role result).stage := by
  cases result <;> cases role <;> simp [afterGrpc, GrpcRole.stage, OpenPoint.stage]

theorem stage_grpcOpen (cfg : ClientConfig) (now : Time) (cmd : Cmd) (target : Address)
    (role : GrpcRole) : role.stage ≤ (grpcOpen cfg now cmd target role).stage := by
  rw [grpcOpen]
  cases encodeRequest cfg cmd target with
  | ok encoded => exact le_refl _
  | error failure => exact le_trans (Nat.le_add_right _ 2) (stage_afterGrpc role _)

theorem stage_grpcAnswered (target : Address) (role : GrpcRole) (response : Response) :
    role.stage + 2 ≤ (grpcAnswered target role response).stage := by
  rw [grpcAnswered]
  split <;> exact stage_afterGrpc role _

theorem stage_afterQuic (cfg : ClientConfig) (result : Except QuicOpenError Unit) :
    9 ≤ (afterQuic cfg result).stage := by
  rcases result with (error | error) | opened <;> rw [afterQuic] <;> (try split) <;>
    simp [OpenPoint.stage]

/-- An invalidated connection is behind an open that goes on. -/
theorem stage_afterQuic_unavailable (cfg : ClientConfig) (error : AnyhowError) :
    10 ≤ (afterQuic cfg (.error (.unavailable error))).stage := by
  rw [afterQuic]
  split <;> simp [OpenPoint.stage]

theorem stage_quicAnswered (cfg : ClientConfig) (target : Address) (response : Response) :
    9 ≤ (quicAnswered cfg target response).stage := by
  rw [quicAnswered]
  split <;> exact stage_afterQuic cfg _

/-- Every step of an open takes it to a later stage. -/
theorem Resumes.stage_lt {cfg : ClientConfig} {flow : FlowId} {cmd : Cmd}
    {target : Address} {shared next : Shared} {source point : OpenPoint} {input : Input}
    (hresumes : Resumes cfg flow cmd target shared source input next point) :
    source.stage < point.stage := by
  have hopen := stage_grpcOpen cfg shared.now cmd target
  have hquic := stage_afterQuic_unavailable cfg
  cases hresumes with
  | suppressed => exact hopen .first
  | recorded => exact hopen .fallback
  | grpcOpenFailed => exact lt_of_lt_of_le (by simp [OpenPoint.stage]) (stage_afterGrpc _ _)
  | grpcOpenElapsed => exact lt_of_lt_of_le (by simp [OpenPoint.stage]) (stage_afterGrpc _ _)
  | grpcReadFailed => exact stage_afterGrpc _ _
  | grpcReadElapsed => exact stage_afterGrpc _ _
  | grpcAnswered => exact stage_grpcAnswered target _ _
  | connectRefused => exact lt_of_lt_of_le (by decide) (hquic _)
  | connectFailed => exact lt_of_lt_of_le (by simp [OpenPoint.stage]) (hquic _)
  | connectElapsed => exact lt_of_lt_of_le (by simp [OpenPoint.stage]) (hquic _)
  | invalidated => exact hquic _
  | answered => exact stage_quicAnswered cfg target _
  | _ => simp [OpenPoint.stage]

/-- The stage of an open that may not have started. -/
def State.stage (state : State) (flow : FlowId) : ℕ :=
  (state.opens flow).elim 0 fun call => call.point.stage + 1

theorem State.stage_of_open {state : State} {flow : FlowId} {call : OpenCall}
    (hopen : state.opens flow = some call) : state.stage flow = call.point.stage + 1 := by
  rw [State.stage, hopen]
  rfl

theorem stage_le_of_step {cfg : ClientConfig} {state next : State} {event : Event}
    (flow : FlowId) (hstep : step cfg state event = some next) :
    state.stage flow ≤ next.stage flow := by
  cases event with
  | tick delta =>
      rw [step_tick_iff.mp hstep]
      exact le_refl _
  | close conn =>
      rw [(step_close_iff.mp hstep).2]
      exact le_refl _
  | start other cmd target =>
      obtain ⟨hnone, rfl⟩ := step_start_iff.mp hstep
      by_cases hflow : flow = other
      · subst hflow
        rw [State.stage, hnone]
        exact Nat.zero_le _
      · simp [State.stage, Function.update_of_ne hflow]
  | resume other input =>
      obtain ⟨call, shared, point, hopen, hresumes, rfl⟩ := step_resume_iff.mp hstep
      by_cases hflow : flow = other
      · subst hflow
        have hlt := hresumes.stage_lt
        simp only [State.stage, hopen, Function.update_self, Option.elim_some]
        omega
      · simp [State.stage, Function.update_of_ne hflow]

end VpnBridge.Client
