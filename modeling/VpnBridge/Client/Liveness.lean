import VpnBridge.Client.Deletion
import VpnBridge.Core.Fairness

/-!
# Opens that return

Any number of opens share two locks.  The lock of the slot is kept only while its holder
connects, under a timer, so it becomes free again and again, and an open that is let on
whenever it can go on moves forward.  What remains are the two waits without a timer: for
the QUIC connection to open a stream, and to take the request.
-/

namespace VpnBridge.Client

open VpnBridge.Net VpnBridge.Proto VpnBridge.TransitionSystem

/-- What an open goes on with by itself: a lock that is free, a handshake that it starts,
or its timer. -/
def Input.own : Input → Bool
  | .proceed => true
  | .connecting => true
  | .elapsed => true
  | _ => false

/-- The open can go on by itself. -/
def Able (cfg : ClientConfig) (flow : FlowId) (state : State) : Prop :=
  ∃ input, input.own = true ∧ (step cfg state (.resume flow input)).isSome = true

def Resumed (flow : FlowId) (event : Event) : Prop :=
  ∃ input, event = .resume flow input

/-- When the timer of the wait was set, where there is one. -/
def OpenPoint.since : OpenPoint → Option Time
  | .grpcOpening _ since => some since
  | .grpcResponse _ since => some since
  | .connecting since => some since
  | .awaitResponse _ since => some since
  | _ => none

/-- The open waits for nothing but its turn. -/
inductive OpenPoint.Idle : OpenPoint → Prop where
  | checkWindow : Idle .checkWindow
  | clearAfterGrpc : Idle .clearAfterGrpc
  | unavailable : Idle .unavailable
  | recordWindow {observed : Time} : Idle (.recordWindow observed)
  | clearAfterQuic : Idle .clearAfterQuic

/-- The open waits for the QUIC connection, without a timer. -/
def OpenPoint.Untimed (point : OpenPoint) : Prop :=
  ∃ conn, point = .openStream conn ∨ point = .writeRequest conn

/-! ## One step -/

section Step

variable {cfg : ClientConfig} {state next : State} {flow : FlowId} {call : OpenCall}

theorem able_of_resumes {input : Input} {shared : Shared} {point : OpenPoint}
    (hopen : state.opens flow = some call) (hown : input.own = true)
    (hresumes : Resumes cfg flow call.cmd call.target state.shared call.point input shared
      point) : Able cfg flow state := by
  refine ⟨input, hown, ?_⟩
  rw [step_resume_iff.mpr ⟨call, shared, point, hopen, hresumes, rfl⟩, Option.isSome_some]

/-- A timer that has run out lets the open go on. -/
theorem able_of_since {since : Time} (hopen : state.opens flow = some call)
    (hsince : call.point.since = some since)
    (hlate : since + cfg.connectTimeoutMs ≤ state.shared.now) : Able cfg flow state := by
  have helapsed : timedOut cfg since state.shared.now = true := decide_eq_true hlate
  obtain ⟨cmd, target, point⟩ := call
  cases point with
  | grpcOpening role set =>
      cases hsince
      exact able_of_resumes hopen rfl (.grpcOpenElapsed helapsed)
  | grpcResponse role set =>
      cases hsince
      exact able_of_resumes hopen rfl (.grpcReadElapsed helapsed)
  | connecting set =>
      cases hsince
      exact able_of_resumes hopen rfl (.connectElapsed helapsed)
  | awaitResponse conn set =>
      cases hsince
      exact able_of_resumes hopen rfl (.readElapsed helapsed)
  | _ => cases hsince

/-- A free slot is reused or filled. -/
theorem able_of_lockSlot (hopen : state.opens flow = some call)
    (hpoint : call.point = .lockSlot) (hfree : state.shared.slotHolder = none) :
    Able cfg flow state := by
  obtain ⟨cmd, target, point⟩ := call
  subst hpoint
  cases hlive : state.shared.liveSlot with
  | some conn => exact able_of_resumes hopen rfl (.reuses hfree hlive)
  | none => exact able_of_resumes hopen rfl (.connects hfree hlive)

theorem able_of_invalidate {conn : ConnId} {error : AnyhowError}
    (hopen : state.opens flow = some call) (hpoint : call.point = .invalidate conn error)
    (hfree : state.shared.slotHolder = none) : Able cfg flow state := by
  obtain ⟨cmd, target, point⟩ := call
  subst hpoint
  exact able_of_resumes hopen rfl (.invalidated hfree)

/-- What waits for nothing can always go on. -/
theorem able_of_idle (hopen : state.opens flow = some call) (hidle : call.point.Idle) :
    Able cfg flow state := by
  obtain ⟨cmd, target, point⟩ := call
  cases hidle with
  | checkWindow =>
      cases hwindow : state.shared.quicSuppressed with
      | true => exact able_of_resumes hopen rfl (.suppressed hwindow)
      | false => exact able_of_resumes hopen rfl (.probes hwindow)
  | clearAfterGrpc => exact able_of_resumes hopen rfl .clearedAfterGrpc
  | unavailable => exact able_of_resumes hopen rfl .observes
  | recordWindow => exact able_of_resumes hopen rfl .recorded
  | clearAfterQuic => exact able_of_resumes hopen rfl .clearedAfterQuic

/-- An open that has returned, or waits without a timer, does not go on by itself. -/
theorem not_able_of_stopped (hopen : state.opens flow = some call)
    (hstopped : (∃ result, call.point = .done result) ∨ call.point.Untimed) :
    ¬ Able cfg flow state := by
  rintro ⟨input, hown, hsome⟩
  obtain ⟨next, hstep⟩ := Option.isSome_iff_exists.mp hsome
  obtain ⟨call', shared, point, hopen', hresumes, -⟩ := step_resume_iff.mp hstep
  cases hopen.symm.trans hopen'
  rcases hstopped with ⟨result, hpoint⟩ | ⟨conn, hpoint | hpoint⟩
  · rw [hpoint] at hresumes
    cases hresumes
  · rw [hpoint] at hresumes
    cases hresumes <;> cases hown
  · rw [hpoint] at hresumes
    cases hresumes <;> cases hown

theorem not_able_of_none (hnone : state.opens flow = none) : ¬ Able cfg flow state := by
  rintro ⟨input, -, hsome⟩
  rw [step, hnone] at hsome
  cases hsome

theorem opens_of_not_resumed {event : Event} (hstep : step cfg state event = some next)
    (hopen : state.opens flow = some call) (hother : ¬ Resumed flow event) :
    next.opens flow = some call := by
  cases event with
  | tick delta =>
      rw [step_tick_iff.mp hstep]
      exact hopen
  | close conn =>
      rw [(step_close_iff.mp hstep).2]
      exact hopen
  | start other cmd target =>
      obtain ⟨hnone, rfl⟩ := step_start_iff.mp hstep
      have hne : flow ≠ other := by
        rintro rfl
        cases hnone.symm.trans hopen
      exact (Function.update_of_ne hne _ _).trans hopen
  | resume other input =>
      obtain ⟨_, _, _, -, -, rfl⟩ := step_resume_iff.mp hstep
      have hne : flow ≠ other := by
        rintro rfl
        exact hother ⟨input, rfl⟩
      exact (Function.update_of_ne hne _ _).trans hopen

/-- An open that stays at its stage does not go on. -/
theorem stage_lt_of_resumed {event : Event} (hstep : step cfg state event = some next)
    (hresumed : Resumed flow event) : state.stage flow < next.stage flow := by
  obtain ⟨input, rfl⟩ := hresumed
  obtain ⟨call, shared, point, hopen, hresumes, rfl⟩ := step_resume_iff.mp hstep
  have hlt := hresumes.stage_lt
  simp only [State.stage, hopen, Function.update_self, Option.elim_some]
  omega

/-- An open that connected gives the lock back. -/
theorem slotHolder_of_connecting {since : Time} {event : Event}
    (hstep : step cfg state event = some next) (hopen : state.opens flow = some call)
    (hpoint : call.point = .connecting since) (hresumed : Resumed flow event) :
    next.shared.slotHolder = none := by
  obtain ⟨input, rfl⟩ := hresumed
  obtain ⟨call', shared, point, hopen', hresumes, rfl⟩ := step_resume_iff.mp hstep
  cases hopen.symm.trans hopen'
  have heffect := hresumes.slotEffect
  rw [hpoint] at heffect
  cases heffect with
  | kept hsource => exact absurd rfl hsource
  | released => rfl
  | stored => rfl

end Step

theorem State.stage_le (state : State) (flow : FlowId) : state.stage flow ≤ 15 := by
  cases hopen : state.opens flow with
  | none =>
      rw [State.stage, hopen]
      exact Nat.zero_le _
  | some call =>
      rw [State.stage_of_open hopen]
      exact Nat.add_le_add_right call.point.stage_le 1

/-! ## Behaviours -/

section Behaviours

variable {cfg : ClientConfig} {now : Time} {life : Behaviour (step cfg) (State.new now)}
variable {flow : FlowId} {call : OpenCall} {index : ℕ}

/-- An open that goes on no more stays where it is. -/
theorem opens_forever (hopen : (life.state index).opens flow = some call)
    (hnever : ∀ later ≥ index, ¬ Resumed flow (life.event later)) :
    ∀ later ≥ index, (life.state later).opens flow = some call :=
  life.holds_from (fun state => state.opens flow = some call) hopen
    fun later hle hlater => opens_of_not_resumed (life.step_eq later) hlater (hnever later hle)

variable (hfair : ∀ flow, life.Fair (Able cfg flow) (Resumed flow))
variable (hclock : ∀ time, ∃ index, time ≤ (life.state index).shared.now)

include hfair hclock

/-- A wait with a timer ends. -/
theorem resumed_of_since {since : Time} (hopen : (life.state index).opens flow = some call)
    (hsince : call.point.since = some since) :
    ∃ later ≥ index, (life.state later).opens flow = some call ∧
      Resumed flow (life.event later) := by
  refine life.exists_occurrence (fun state => state.opens flow = some call) hopen
    (fun later _ hlater hother => opens_of_not_resumed (life.step_eq later) hlater hother) ?_
  by_contra hnever
  have hstays := opens_forever hopen fun later hle hresumed => hnever ⟨later, hle, hresumed⟩
  refine hnever (hfair flow (fun earliest => ?_) index)
  obtain ⟨late, hlate⟩ := hclock (since + cfg.connectTimeoutMs)
  refine ⟨max index (max earliest late), (le_max_left _ _).trans (le_max_right _ _), ?_⟩
  refine able_of_since (hstays _ (le_max_left _ _)) hsince (hlate.trans ?_)
  exact life.monotone (fun state => state.shared.now) now_le_of_step
    ((le_max_right _ _).trans (le_max_right _ _))

/-- The lock of the slot becomes free again and again. -/
theorem exists_free (index : ℕ) :
    ∃ later ≥ index, (life.state later).shared.slotHolder = none := by
  cases hholder : (life.state index).shared.slotHolder with
  | none => exact ⟨index, le_refl _, hholder⟩
  | some holder =>
      have hinv := life.invariant SlotInvariant slotInvariant_of_step (slotInvariant_new now) index
      have hlock := hinv.held_eq holder hholder
      rw [State.held] at hlock
      cases hopen : (life.state index).opens holder with
      | none =>
          rw [hopen] at hlock
          cases hlock
      | some call =>
          rw [hopen, Option.elim_some] at hlock
          obtain ⟨since, hpoint⟩ : ∃ since, call.point = .connecting since := by
            cases hpoint : call.point with
            | connecting since => exact ⟨since, rfl⟩
            | _ =>
                rw [hpoint] at hlock
                cases hlock
          obtain ⟨later, hle, hlater, hresumed⟩ := resumed_of_since hfair hclock hopen
            (show call.point.since = some since by rw [hpoint]; rfl)
          exact ⟨later + 1, hle.trans (Nat.le_succ _),
            slotHolder_of_connecting (life.step_eq later) hlater hpoint hresumed⟩

/-- Every open returns, however many others there are, unless it waits forever for the
QUIC connection to open a stream or to take the request. -/
theorem every_open_returns (hopen : (life.state index).opens flow = some call) :
    ∃ later ≥ index, ∃ point, (∀ last ≥ later, (life.state last).pointOf flow = some point) ∧
      ((∃ result, point = .done result) ∨ point.Untimed) := by
  obtain ⟨settled, hle, hsettled⟩ := life.settles (fun state => state.stage flow)
    (stage_le_of_step flow) (fun later => State.stage_le _ flow) index
  have hnever : ∀ later ≥ settled, ¬ Resumed flow (life.event later) := by
    intro later hlater hresumed
    have hlt := stage_lt_of_resumed (life.step_eq later) hresumed
    have hpre := hsettled later hlater
    have hpost := hsettled (later + 1) (hlater.trans (Nat.le_succ _))
    omega
  obtain ⟨call', hopen'⟩ : ∃ call', (life.state settled).opens flow = some call' := by
    have hstage := life.monotone (fun state => state.stage flow) (stage_le_of_step flow) hle
    rw [State.stage_of_open hopen] at hstage
    cases hnone : (life.state settled).opens flow with
    | some call' => exact ⟨call', rfl⟩
    | none =>
        rw [State.stage, hnone] at hstage
        cases hstage
  have hstays := opens_forever hopen' hnever
  refine ⟨settled, hle, call'.point, fun last hlast => pointOf_of_open (hstays last hlast), ?_⟩
  -- What can go on again and again does, and this open does not.
  have hstuck : ¬ ∀ earliest, ∃ later ≥ earliest, settled ≤ later ∧
      Able cfg flow (life.state later) := by
    intro hable
    obtain ⟨later, hlater, hresumed⟩ := hfair flow (fun earliest => by
      obtain ⟨later, hlater, -, hflow⟩ := hable earliest
      exact ⟨later, hlater, hflow⟩) settled
    exact hnever later hlater hresumed
  have hfree (earliest : ℕ) : ∃ later ≥ earliest, settled ≤ later ∧
      (life.state later).shared.slotHolder = none := by
    obtain ⟨later, hlater, hholder⟩ := exists_free hfair hclock (max settled earliest)
    exact ⟨later, (le_max_right _ _).trans hlater, (le_max_left _ _).trans hlater, hholder⟩
  have hbusy : ¬ call'.point.Idle := fun hidle => hstuck fun earliest =>
    ⟨max settled earliest, le_max_right _ _, le_max_left _ _,
      able_of_idle (hstays _ (le_max_left _ _)) hidle⟩
  have huntimed : call'.point.since = none := by
    by_contra hsome
    obtain ⟨since, hsince⟩ := Option.ne_none_iff_exists'.mp hsome
    obtain ⟨later, hlater, -, hresumed⟩ := resumed_of_since hfair hclock hopen' hsince
    exact hnever later hlater hresumed
  cases hpoint : call'.point with
  | done result => exact .inl ⟨result, rfl⟩
  | openStream conn => exact .inr ⟨conn, .inl rfl⟩
  | writeRequest conn => exact .inr ⟨conn, .inr rfl⟩
  | lockSlot =>
      refine absurd (fun earliest => ?_) hstuck
      obtain ⟨later, hlater, hlast, hholder⟩ := hfree earliest
      exact ⟨later, hlater, hlast, able_of_lockSlot (hstays later hlast) hpoint hholder⟩
  | invalidate conn error =>
      refine absurd (fun earliest => ?_) hstuck
      obtain ⟨later, hlater, hlast, hholder⟩ := hfree earliest
      exact ⟨later, hlater, hlast, able_of_invalidate (hstays later hlast) hpoint hholder⟩
  | checkWindow => exact absurd (hpoint ▸ .checkWindow) hbusy
  | clearAfterGrpc => exact absurd (hpoint ▸ .clearAfterGrpc) hbusy
  | unavailable => exact absurd (hpoint ▸ .unavailable) hbusy
  | recordWindow observed => exact absurd (hpoint ▸ .recordWindow) hbusy
  | clearAfterQuic => exact absurd (hpoint ▸ .clearAfterQuic) hbusy
  | _ =>
      rw [hpoint] at huntimed
      cases huntimed

end Behaviours

/-- A few events, and then nothing but time. -/
def thenTime (events : List Event) (index : ℕ) : Event :=
  (events[index]?).getD (.tick 1)

theorem thenTime_of_le {events : List Event} {index : ℕ} (hle : events.length ≤ index) :
    thenTime events index = .tick 1 := by
  rw [thenTime, List.getElem?_eq_none hle, Option.getD_none]

/-- The events are possible one after the other. -/
abbrev Possible (events : List Event) : Prop :=
  ∀ index < events.length, (step .sample
    (Behaviour.drive (step .sample) (State.new 0) (thenTime events) index)
    (thenTime events index)).isSome = true

def sampleLife (events : List Event) (hpossible : Possible events) :
    Behaviour (step .sample) (State.new 0) :=
  .ofDrive (thenTime events) fun index => by
    rcases lt_or_ge index events.length with hlt | hle
    · exact hpossible index hlt
    · rw [thenTime_of_le hle]
      rfl

section Samples

variable {events : List Event} {hpossible : Possible events}

theorem state_succ_sampleLife {later : ℕ} (hlater : events.length ≤ later) :
    (sampleLife events hpossible).state (later + 1) =
      { (sampleLife events hpossible).state later with
        shared.now := ((sampleLife events hpossible).state later).shared.now + 1 } := by
  have hstep := (sampleLife events hpossible).step_eq later
  have hevent : (sampleLife events hpossible).event later = .tick 1 := thenTime_of_le hlater
  rw [hevent] at hstep
  exact step_tick_iff.mp hstep

theorem opens_sampleLife {later : ℕ} (hlater : events.length ≤ later) :
    ((sampleLife events hpossible).state later).opens =
      ((sampleLife events hpossible).state events.length).opens :=
  (sampleLife events hpossible).holds_from
    (fun state => state.opens = ((sampleLife events hpossible).state events.length).opens) rfl
    (fun last hlast hsame => by rw [state_succ_sampleLife hlast]; exact hsame) later hlater

theorem clock_sampleLife (time : Time) :
    ∃ index, time ≤ ((sampleLife events hpossible).state index).shared.now := by
  induction time with
  | zero => exact ⟨0, Nat.zero_le _⟩
  | succ time ih =>
      obtain ⟨index, hindex⟩ := ih
      refine ⟨max index events.length + 1, ?_⟩
      rw [state_succ_sampleLife (le_max_right _ _)]
      exact Nat.succ_le_succ (hindex.trans
        ((sampleLife events hpossible).monotone (fun state => state.shared.now) now_le_of_step
          (le_max_left _ _)))

/-- With one open, and that one stopped, every further behaviour is fair. -/
theorem fair_sampleLife {call : OpenCall}
    (hopens : ((sampleLife events hpossible).state events.length).opens =
      Function.update (fun _ => none) 0 (some call))
    (hstopped : (∃ result, call.point = .done result) ∨ call.point.Untimed) (flow : FlowId) :
    (sampleLife events hpossible).Fair (Able .sample flow) (Resumed flow) := by
  intro hable
  obtain ⟨later, hlater, hflow⟩ := hable events.length
  have hlast := (opens_sampleLife hlater).trans hopens
  by_cases hself : flow = 0
  · subst hself
    refine absurd hflow (not_able_of_stopped ?_ hstopped)
    rw [hlast, Function.update_self]
  · refine absurd hflow (not_able_of_none ?_)
    rw [hlast, Function.update_of_ne hself]

end Samples

/-- QUIC does not answer, and the open goes over gRPC. -/
def fallbackEvents : List Event :=
  [.start 0 .connectTcp sampleTarget, .resume 0 .proceed, .resume 0 .connecting, .tick 5000,
    .resume 0 .elapsed, .resume 0 .proceed, .resume 0 .proceed, .resume 0 .ready,
    .resume 0 (.response .ok)]

theorem possible_fallback : Possible fallbackEvents := by
  decide

/-- The server has no room for another stream. -/
def fullEvents : List Event :=
  [.start 0 .connectTcp sampleTarget, .resume 0 .proceed, .resume 0 .connecting,
    .resume 0 (.connected 0)]

theorem possible_full : Possible fullEvents := by
  decide

theorem opens_fallback : ((sampleLife fallbackEvents possible_fallback).state 9).opens =
    Function.update (fun _ => none) 0 (some ⟨.connectTcp, sampleTarget, .done (.ok .grpc)⟩) := by
  funext flow
  cases flow with
  | zero => rfl
  | succ flow => rfl

theorem opens_full : ((sampleLife fullEvents possible_full).state 4).opens =
    Function.update (fun _ => none) 0 (some ⟨.connectTcp, sampleTarget, .openStream 0⟩) := by
  funext flow
  cases flow with
  | zero => rfl
  | succ flow => rfl

/-- One open returns over gRPC, and one waits for a stream forever. -/
theorem every_open_returns_sample :
    (∃ life : Behaviour (step .sample) (State.new 0), ∃ later, ∀ last ≥ later,
      (life.state last).pointOf 0 = some (.done (.ok .grpc))) ∧
    ∃ life : Behaviour (step .sample) (State.new 0), ∃ later, ∀ last ≥ later,
      (life.state last).pointOf 0 = some (.openStream 0) := by
  have hreturns {events : List Event} {hpossible} {cmd : Cmd} {target : Address}
      {point : OpenPoint} {call : OpenCall}
      (hopens : ((sampleLife events hpossible).state events.length).opens =
        Function.update (fun _ => none) 0 (some ⟨cmd, target, point⟩))
      (hstopped : (∃ result, point = .done result) ∨ point.Untimed)
      (hopen : ((sampleLife events hpossible).state 1).opens 0 = some call) :
      ∃ later, ∀ last ≥ later,
        ((sampleLife events hpossible).state last).pointOf 0 = some point := by
    obtain ⟨later, -, settled, hsettled, -⟩ :=
      every_open_returns (fair_sampleLife hopens hstopped) clock_sampleLife hopen
    have hlast := hsettled (max later events.length) (le_max_left _ _)
    rw [State.pointOf, opens_sampleLife (le_max_right _ _), hopens,
      Function.update_self] at hlast
    cases hlast
    exact ⟨later, hsettled⟩
  exact ⟨⟨_, hreturns opens_fallback (.inl ⟨_, rfl⟩) rfl⟩,
    ⟨_, hreturns opens_full (.inr ⟨_, .inl rfl⟩) rfl⟩⟩

end VpnBridge.Client
