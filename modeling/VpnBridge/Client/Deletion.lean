import VpnBridge.Client.Refusal
import VpnBridge.Client.SlotInvariant

/-!
# Runs without their refused opens

A run without its refused opens is again a run, with the same acts on the window
by the other opens and the same final window.  What a refused open leaves behind
is at most a connection in the slot; in the shorter run the open that reuses it
makes it.
-/

namespace VpnBridge.Client

open VpnBridge.Net VpnBridge.Proto VpnBridge.TransitionSystem

/-- The events of an open. -/
def Event.concerns (event : Event) (flow : FlowId) : Prop :=
  match event with
  | .start other _ _ => other = flow
  | .resume other _ => other = flow
  | _ => False

/-- A run without the opens that are taken out. -/
structure RunWithout (cfg : ClientConfig) (now : Time) (removed : FlowId → Bool)
    (trace : List (Transition State Event)) (final : State)
    (trace' : List (Transition State Event)) (final' : State) : Prop where
  run : Run cfg now trace' final'
  /-- The opens taken out do not even start. -/
  without : ∀ tr ∈ trace', ∀ flow, removed flow = true → ¬ tr.event.concerns flow
  log_eq : windowLog trace' = (windowLog trace).filter fun act => !removed act.flow
  window_eq : final'.shared.fallbackUntil = final.shared.fallbackUntil
  opens_eq : ∀ flow, removed flow = false → final'.opens flow = final.opens flow

/-! ## Refused opens touch no window -/

/-- The points of an attempt that has not failed, and the check before it. -/
def OpenPoint.harmless : OpenPoint → Bool
  | .clearAfterGrpc => false
  | .invalidate _ _ => false
  | .unavailable => false
  | .recordWindow _ => false
  | .clearAfterQuic => false
  | _ => true

theorem OpenPoint.stage_le (point : OpenPoint) : point.stage ≤ 14 := by
  cases point with
  | grpcOpening role since => cases role <;> simp [OpenPoint.stage, GrpcRole.stage]
  | grpcResponse role since => cases role <;> simp [OpenPoint.stage, GrpcRole.stage]
  | _ => simp [OpenPoint.stage]

theorem State.stage_of_point {state : State} {flow : FlowId} {point : OpenPoint}
    (hpoint : state.pointOf flow = some point) : state.stage flow = point.stage + 1 := by
  rw [State.pointOf, Option.map_eq_some_iff] at hpoint
  obtain ⟨call, hopen, rfl⟩ := hpoint
  exact State.stage_of_open hopen

section Stages

variable {cfg : ClientConfig} {now : Time} {trace : List (Transition State Event)}
variable {final : State} {flow : FlowId}

theorem stage_lt_of_resume {tr : Transition State Event} {input : Input}
    (hstep : step cfg tr.pre tr.event = some tr.post) (hevent : tr.event = .resume flow input) :
    tr.pre.stage flow < tr.post.stage flow := by
  rw [hevent, step_resume_iff] at hstep
  obtain ⟨call, shared, point, hopen, hresumes, hpost⟩ := hstep
  have hnext : tr.post.pointOf flow = some point := by
    rw [hpost, State.pointOf_update_self]
  rw [State.stage_of_open hopen, State.stage_of_point hnext]
  exact Nat.succ_lt_succ hresumes.stage_lt

/-- Of two transitions of a run one comes first, and stages only grow. -/
theorem stages_ordered (hrun : Run cfg now trace final) (flow : FlowId)
    {left right : Transition State Event} (hleft : left ∈ trace) (hright : right ∈ trace) :
    left = right ∨ left.post.stage flow ≤ right.pre.stage flow ∨
      right.post.stage flow ≤ left.pre.stage flow := by
  rcases hrun.ordered hleft hright with heq | ⟨between, -, hbetween⟩ | ⟨between, -, hbetween⟩
  · exact .inl heq
  · exact .inr (.inl (hbetween.monotone (stage_le_of_step flow)))
  · exact .inr (.inr (hbetween.monotone (stage_le_of_step flow)))

/-- A refused open is done with the refusal, unless it had tried gRPC first. -/
theorem stage_of_refused {tr : Transition State Event} {response : Response}
    (hstep : step cfg tr.pre tr.event = some tr.post) (hrefused : Refused tr flow response)
    (hrole : ∀ since, tr.pre.pointOf flow ≠ some (.grpcResponse .first since)) :
    tr.post.stage flow = 15 := by
  obtain ⟨call, hopen, -, ⟨conn, since, -, hpost⟩ | ⟨role, since, hsource, hpost⟩⟩ :=
    refused_cases hstep hrefused
  · exact State.stage_of_point hpost
  · rw [State.stage_of_point hpost]
    cases role with
    | first => exact absurd (by rw [pointOf_of_open hopen, hsource]) (hrole since)
    | only => rfl
    | fallback => rfl

theorem stage_of_not_harmless {point : OpenPoint} (hpoint : point.harmless = false) :
    point.stage = 3 ∨ 9 ≤ point.stage ∧ point.stage ≤ 11 := by
  cases point with
  | clearAfterGrpc => exact .inl rfl
  | invalidate conn error => exact .inr (by simp [OpenPoint.stage])
  | unavailable => exact .inr (by simp [OpenPoint.stage])
  | recordWindow observed => exact .inr (by simp [OpenPoint.stage])
  | clearAfterQuic => exact .inr (by simp [OpenPoint.stage])
  | _ => cases hpoint

/-- A step of a refused open comes before its refusal or is it. -/
theorem stage_of_step_refused (hrun : Run cfg now trace final)
    {tr refused : Transition State Event} {response : Response}
    (hmem : tr ∈ trace) (hlt : tr.pre.stage flow < tr.post.stage flow)
    (hrefmem : refused ∈ trace) (hrefused : Refused refused flow response)
    (hrole : ∀ since, refused.pre.pointOf flow ≠ some (.grpcResponse .first since)) :
    tr = refused ∨ tr.post.stage flow ≤ refused.pre.stage flow := by
  have hdone := stage_of_refused (hrun.step_of_mem hrefmem) hrefused hrole
  rcases stages_ordered hrun flow hmem hrefmem with heq | hle | hle
  · exact .inl heq
  · exact .inr hle
  · have hbound : tr.post.stage flow ≤ 15 := by
      rw [State.stage]
      cases tr.post.opens flow with
      | none => exact Nat.zero_le _
      | some call => exact Nat.succ_le_succ call.point.stage_le
    omega

/-- A refused open makes no step at a point where an attempt has failed. -/
theorem harmless_of_refused (hrun : Run cfg now trace final)
    {refused : Transition State Event} {response : Response} (hrefmem : refused ∈ trace)
    (hrefused : Refused refused flow response) (hpreferred : OnPreferred trace refused flow)
    {tr : Transition State Event} (hmem : tr ∈ trace) {input : Input}
    (hevent : tr.event = .resume flow input) {point : OpenPoint}
    (hpoint : tr.pre.pointOf flow = some point) : point.harmless = true := by
  have hlt := stage_lt_of_resume (hrun.step_of_mem hmem) hevent
  have hpre := State.stage_of_point hpoint
  by_contra hharm
  have hharmful := stage_of_not_harmless (Bool.eq_false_of_not_eq_true hharm)
  cases hpreferred with
  | quic hawaits hprobed =>
      have hlast : refused.pre.stage flow = 9 := State.stage_of_point hawaits
      have hrole : ∀ since, refused.pre.pointOf flow ≠ some (.grpcResponse .first since) := by
        intro since hfirst
        cases hawaits.symm.trans hfirst
      rcases stage_of_step_refused hrun hmem hlt hrefmem hrefused hrole with heq | hle
      · cases (heq ▸ hpoint).symm.trans hawaits
        exact hharm rfl
      · -- the only such point before a QUIC answer is behind a gRPC attempt
        have hclear : point = .clearAfterGrpc := by
          cases point with
          | clearAfterGrpc => rfl
          | _ => first | exact absurd rfl hharm | (simp only [OpenPoint.stage] at hpre; omega)
        obtain ⟨before, after, rfl⟩ := List.append_of_mem hmem
        obtain ⟨hbefore, -, -⟩ := execution_split_iff.mp hrun
        obtain ⟨checked, hchecked⟩ := checked_of_suppressed flow hbefore
          (by rw [hpoint, hclear]; rfl)
        refine hprobed checked ?_
        rw [windowLog, List.filterMap_append]
        exact List.mem_append_left _ hchecked
  | grpc hawaits =>
      have hlast : refused.pre.stage flow = 3 := State.stage_of_point hawaits
      have hrole : ∀ since, refused.pre.pointOf flow ≠ some (.grpcResponse .first since) := by
        intro since hfirst
        cases hawaits.symm.trans hfirst
      rcases stage_of_step_refused hrun hmem hlt hrefmem hrefused hrole with heq | hle
      · cases (heq ▸ hpoint).symm.trans hawaits
        exact hharm rfl
      · omega

/-- What an open does with the window where no attempt has failed is to check it. -/
theorem checked_of_harmless {tr : Transition State Event} {input : Input} {act : WindowAct}
    (hevent : tr.event = .resume flow input) {point : OpenPoint}
    (hpoint : tr.pre.pointOf flow = some point) (hharmless : point.harmless = true)
    (hact : windowAct tr = some act) : ∃ checked tried, act = .checked flow checked tried := by
  simp only [windowAct, hevent, hpoint] at hact
  cases point with
  | checkWindow => exact ⟨_, _, (Option.some.inj hact).symm⟩
  | _ => first | (simp at hact; done) | cases hharmless

theorem resume_of_windowAct {tr : Transition State Event} {act : WindowAct}
    (hact : windowAct tr = some act) :
    ∃ input point, tr.event = .resume act.flow input ∧
      tr.pre.pointOf act.flow = some point := by
  cases hevent : tr.event with
  | resume flow input =>
      obtain rfl := flow_of_windowAct hevent hact
      cases hpoint : tr.pre.pointOf act.flow with
      | none => simp [windowAct, hevent, hpoint] at hact
      | some point => exact ⟨input, point, rfl, rfl⟩
  | _ => simp [windowAct, hevent] at hact

/-- Refusals of first attempts over the preferred transport come after no write. -/
theorem silent_of_preferred (hrun : Run cfg now trace final)
    (hpreferred : RefusedOnPreferred trace) :
    RefusalsSilent cfg.reconnectIntervalMs trace := by
  rintro refused hrefmem flow response hrefused act hact rfl
  obtain ⟨tr, hmem, hact⟩ := List.mem_filterMap.mp hact
  obtain ⟨input, point, hevent, hpoint⟩ := resume_of_windowAct hact
  have hharmless := harmless_of_refused hrun hrefmem hrefused
    (hpreferred refused hrefmem act.flow response hrefused) hmem hevent hpoint
  obtain ⟨checked, tried, heq⟩ := checked_of_harmless hevent hpoint hharmless hact
  rw [heq]
  rfl

/-- An open that goes from a gRPC attempt to QUIC has cleared the window. -/
theorem cleared_of_checked (hrun : Run cfg now trace final) {checked : Time}
    (hchecked : .checked flow checked .grpc ∈ windowLog trace)
    {tr : Transition State Event} (hmem : tr ∈ trace) {conn : ConnId} {since : Time}
    (hpoint : tr.pre.pointOf flow = some (.awaitResponse conn since)) :
    .cleared flow ∈ windowLog trace := by
  obtain ⟨check, hcheckmem, hact⟩ := List.mem_filterMap.mp hchecked
  obtain ⟨input, hevent, hcheckpoint, htried⟩ := checkWindow_of_windowAct hact
  have hpre : check.pre.stage flow = 1 := State.stage_of_point hcheckpoint
  have hlast : tr.pre.stage flow = 9 := State.stage_of_point hpoint
  obtain ⟨between, hsubset, hbetween⟩ :
      ∃ between, between ⊆ trace ∧ Execution (step cfg) check.post between tr.pre := by
    rcases hrun.ordered hcheckmem hmem with heq | hbetween | ⟨between, -, hbetween⟩
    · rw [heq] at hpre
      omega
    · exact hbetween
    · have hle := hbetween.monotone (stage_le_of_step flow)
      have hmono := stage_le_of_step flow (hrun.step_of_mem hmem)
      omega
  -- the check took the open to a gRPC attempt, and some step took it on from there
  have hstart : ¬ (check.post.pointOf flow).any OpenPoint.suppressed = false := by
    have hstep := hrun.step_of_mem hcheckmem
    rw [hevent, step_resume_iff] at hstep
    obtain ⟨call, shared, point, hopen, hresumes, hpost⟩ := hstep
    rw [pointOf_of_open hopen, Option.some.injEq] at hcheckpoint
    rw [hcheckpoint] at hresumes
    rw [hpost, State.pointOf_update_self] at htried ⊢
    cases hresumes with
    | suppressed =>
        rw [Option.any_some, suppressed_grpcOpen]
        nofun
    | probes => cases htried
  obtain ⟨before, move, after, rfl, hin, hout⟩ :=
    hbetween.exists_first (fun state => (state.pointOf flow).any OpenPoint.suppressed = false)
      hstart (by rw [hpoint]; rfl)
  have hmovemem : move ∈ before ++ move :: after := by simp
  have hafter := (execution_split_iff.mp hbetween).2.2
  rcases pointOf_of_step flow (hbetween.step_of_mem hmovemem) with hsame |
    ⟨cmd, target, hnone, -⟩ |
    ⟨input, call, shared, point, hevent, hopen, hresumes, -, hnext⟩
  · exact absurd (hsame ▸ hout) hin
  · rw [hnone] at hin
    exact absurd rfl hin
  · rw [pointOf_of_open hopen, Option.any_some, Bool.not_eq_false] at hin
    rw [hnext, Option.any_some] at hout
    rcases hresumes.of_not_suppressed hin hout with hclears | ⟨result, hdone⟩
    · refine mem_windowLog (hsubset hmovemem) ?_
      simp only [windowAct, hevent, pointOf_of_open hopen, hclears]
    · have hfifteen : move.post.stage flow = 15 := by
        rw [State.stage_of_point hnext, hdone]
        rfl
      have hle := hafter.monotone (stage_le_of_step flow)
      omega

/-- Refusals that are final and come after no write answer first attempts over
the preferred transport. -/
theorem preferred_of_silent (hrun : Run cfg now trace final) (hfinal : RefusalsFinal trace)
    (hsilent : RefusalsSilent cfg.reconnectIntervalMs trace) : RefusedOnPreferred trace := by
  have hnotfirst := (refusalsFinal_iff hrun).mp hfinal
  intro tr hmem flow response hrefused
  have hquiet := hsilent tr hmem flow response hrefused
  obtain ⟨call, hopen, -, ⟨conn, since, hsource, -⟩ | ⟨role, since, hsource, -⟩⟩ :=
    refused_cases (hrun.step_of_mem hmem) hrefused
  · have hpoint : tr.pre.pointOf flow = some (.awaitResponse conn since) := by
      rw [pointOf_of_open hopen, hsource]
    refine .quic hpoint fun checked hchecked => ?_
    cases hquiet _ (cleared_of_checked hrun hchecked hmem hpoint) rfl
  · have hpoint : tr.pre.pointOf flow = some (.grpcResponse role since) := by
      rw [pointOf_of_open hopen, hsource]
    cases role with
    | only => exact .grpc hpoint
    | first => exact absurd hpoint (hnotfirst tr hmem flow response since hrefused)
    | fallback =>
        obtain ⟨before, after, rfl⟩ := List.append_of_mem hmem
        obtain ⟨hbefore, -, -⟩ := execution_split_iff.mp hrun
        obtain ⟨observed, hrecorded⟩ := recorded_of_fallsBack flow hbefore
          (by rw [hpoint]; rfl)
        have hmemlog : .recorded flow observed ∈ windowLog (before ++ tr :: after) := by
          rw [windowLog, List.filterMap_append]
          exact List.mem_append_left _ hrecorded
        cases hquiet _ hmemlog rfl

end Stages

/-! ## The mirrored state -/

/-- The shared state of a run and of the same run without its deleted opens. -/
structure MirrorsShared (deleted : FlowId → Prop) (shared mirror : Shared) : Prop where
  now_eq : mirror.now = shared.now
  window_eq : mirror.fallbackUntil = shared.fallbackUntil
  /-- A connection that only deleted opens have used is not made yet. -/
  connections_eq : ∀ conn, mirror.connections conn = shared.connections conn ∨
    mirror.connections conn = .unused
  /-- A deleted open does not have the lock. -/
  holder_eq : (mirror.slotHolder = shared.slotHolder ∧
      ∀ flow, shared.slotHolder = some flow → ¬ deleted flow) ∨
    (mirror.slotHolder = none ∧ ∃ flow, shared.slotHolder = some flow ∧ deleted flow)
  /-- The slot is the same, or holds what a deleted open connected. -/
  slot_eq : mirror.slot = shared.slot ∨
    (mirror.liveSlot = none ∧
      ∃ conn, shared.slot = some conn ∧ mirror.connections conn = .unused)

structure Mirrors (removed : FlowId → Bool) (state mirror : State) : Prop where
  inv : SlotInvariant mirror
  shared : MirrorsShared (fun flow => removed flow = true) state.shared mirror.shared
  opens_eq : ∀ flow, removed flow = false → mirror.opens flow = state.opens flow

namespace MirrorsShared

variable {deleted : FlowId → Prop} {shared mirror : Shared}

theorem holder_none (hmirrors : MirrorsShared deleted shared mirror)
    (hfree : shared.slotHolder = none) : mirror.slotHolder = none := by
  rcases hmirrors.holder_eq with ⟨hsame, -⟩ | ⟨hnone, -⟩
  · exact hsame.trans hfree
  · exact hnone

/-- The live connection of the slot is the same, or it is not made yet. -/
theorem liveSlot_cases (hmirrors : MirrorsShared deleted shared mirror)
    (hmade : ∀ conn, mirror.slot = some conn → mirror.connections conn ≠ .unused) :
    mirror.liveSlot = shared.liveSlot ∨
      (mirror.liveSlot = none ∧
        ∃ conn, shared.slot = some conn ∧ mirror.connections conn = .unused) := by
  rcases hmirrors.slot_eq with hsame | hmissing
  · refine .inl ?_
    rw [Shared.liveSlot, Shared.liveSlot, hsame]
    cases hslot : shared.slot with
    | none => rfl
    | some conn =>
        have hconn : mirror.connections conn = shared.connections conn :=
          (hmirrors.connections_eq conn).resolve_right (hmade conn (hsame.trans hslot))
        rw [Option.filter_some, Option.filter_some, hconn]
  · exact .inr hmissing

theorem liveSlot_none (hmirrors : MirrorsShared deleted shared mirror)
    (hmade : ∀ conn, mirror.slot = some conn → mirror.connections conn ≠ .unused)
    (hdead : shared.liveSlot = none) : mirror.liveSlot = none := by
  rcases hmirrors.liveSlot_cases hmade with hsame | ⟨hnone, -⟩
  · exact hsame.trans hdead
  · exact hnone

end MirrorsShared

/-! ## Kept steps -/

/-- The points whose next step looks at the slot or its lock. -/
def OpenPoint.usesSlot : OpenPoint → Bool
  | .lockSlot => true
  | .connecting _ => true
  | .invalidate _ _ => true
  | _ => false

section Transfer

variable {cfg : ClientConfig} {flow : FlowId} {cmd : Cmd} {target : Address}
variable {shared next mirror : Shared} {source point : OpenPoint} {input : Input}

/-- A step that does not look at the slot is possible at the same clock and
window, whatever the slot. -/
theorem Resumes.transfer
    (hresumes : Resumes cfg flow cmd target shared source input next point)
    (hsource : source.usesSlot = false) (hnow : mirror.now = shared.now)
    (hwindow : mirror.fallbackUntil = shared.fallbackUntil) :
    next = { shared with fallbackUntil := next.fallbackUntil } ∧
      Resumes cfg flow cmd target mirror source input
        { mirror with fallbackUntil := next.fallbackUntil } point := by
  have hsame : { mirror with fallbackUntil := shared.fallbackUntil } = mirror := by
    rw [← hwindow]
  have hsuppressed : mirror.quicSuppressed = shared.quicSuppressed := by
    rw [Shared.quicSuppressed, Shared.quicSuppressed, hnow, hwindow]
  cases hresumes with
  | suppressed h => exact ⟨rfl, by rw [hsame, ← hnow]; exact .suppressed (hsuppressed.trans h)⟩
  | probes h => exact ⟨rfl, by rw [hsame]; exact .probes (hsuppressed.trans h)⟩
  | grpcOpened => exact ⟨rfl, by rw [hsame, ← hnow]; exact .grpcOpened⟩
  | grpcOpenFailed => exact ⟨rfl, by rw [hsame]; exact .grpcOpenFailed⟩
  | grpcOpenElapsed h => exact ⟨rfl, by rw [hsame]; exact .grpcOpenElapsed (hnow ▸ h)⟩
  | grpcAnswered => exact ⟨rfl, by rw [hsame]; exact .grpcAnswered⟩
  | grpcReadFailed => exact ⟨rfl, by rw [hsame]; exact .grpcReadFailed⟩
  | grpcReadElapsed h => exact ⟨rfl, by rw [hsame]; exact .grpcReadElapsed (hnow ▸ h)⟩
  | clearedAfterGrpc => exact ⟨rfl, .clearedAfterGrpc⟩
  | streamOpened => exact ⟨rfl, by rw [hsame]; exact .streamOpened⟩
  | streamFailed => exact ⟨rfl, by rw [hsame]; exact .streamFailed⟩
  | written h => exact ⟨rfl, by rw [hsame, ← hnow]; exact .written h⟩
  | encodeFailed h => exact ⟨rfl, by rw [hsame]; exact .encodeFailed h⟩
  | writeFailed h => exact ⟨rfl, by rw [hsame]; exact .writeFailed h⟩
  | answered => exact ⟨rfl, by rw [hsame]; exact .answered⟩
  | readFailed => exact ⟨rfl, by rw [hsame]; exact .readFailed⟩
  | readElapsed h => exact ⟨rfl, by rw [hsame]; exact .readElapsed (hnow ▸ h)⟩
  | observes => exact ⟨rfl, by rw [hsame, ← hnow]; exact .observes⟩
  | recorded => exact ⟨rfl, by rw [← hnow]; exact .recorded⟩
  | clearedAfterQuic => exact ⟨rfl, .clearedAfterQuic⟩
  | _ => cases hsource

end Transfer

section SharedSteps

variable {cfg : ClientConfig} {flow : FlowId} {cmd : Cmd} {target : Address}
variable {deleted : FlowId → Prop} {shared next mirror : Shared}
variable {source point : OpenPoint} {input : Input}

theorem MirrorsShared.unused (hmirrors : MirrorsShared deleted shared mirror)
    {conn : ConnId} (hfresh : shared.connections conn = .unused) :
    mirror.connections conn = .unused := by
  rcases hmirrors.connections_eq conn with hsame | hunused
  · exact hsame.trans hfresh
  · exact hunused

/-- The mirror stands still while a deleted open goes through its attempt. -/
theorem MirrorsShared.of_deleted (hmirrors : MirrorsShared deleted shared mirror)
    (hdeleted : deleted flow)
    (hresumes : Resumes cfg flow cmd target shared source input next point)
    (hharmless : source.harmless = true)
    (hholder : source.held = .lock → shared.slotHolder = some flow)
    (hdead : shared.slotHolder ≠ none → shared.liveSlot = none)
    (hmade : ∀ conn, mirror.slot = some conn → mirror.connections conn ≠ .unused) :
    MirrorsShared deleted next mirror := by
  have hnow := hmirrors.now_eq.trans hresumes.now_eq.symm
  have hwindow : mirror.fallbackUntil = next.fallbackUntil := by
    rw [hresumes.fallbackUntil_eq, hmirrors.window_eq]
    cases source <;> first | rfl | cases hharmless
  -- where the deleted open has the lock, the mirror has it free
  have hfree : source.held = .lock → mirror.slotHolder = none := by
    intro hlock
    rcases hmirrors.holder_eq with ⟨-, hkept⟩ | ⟨hnone, -⟩
    · exact absurd hdeleted (hkept flow (hholder hlock))
    · exact hnone
  have heffect := hresumes.slotEffect
  cases heffect with
  | kept _ _ hslot hsame hconnections =>
      refine ⟨hnow, hwindow, ?_, ?_, ?_⟩
      · rw [hconnections]
        exact hmirrors.connections_eq
      · rw [hsame]
        exact hmirrors.holder_eq
      · rw [hslot]
        exact hmirrors.slot_eq
  | locked hnone =>
      exact ⟨hnow, hwindow, hmirrors.connections_eq,
        .inr ⟨hmirrors.holder_none hnone, flow, rfl, hdeleted⟩, hmirrors.slot_eq⟩
  | released =>
      exact ⟨hnow, hwindow, hmirrors.connections_eq, .inl ⟨hfree rfl, nofun⟩,
        hmirrors.slot_eq⟩
  | @stored since conn hfresh =>
      have hunused := hmirrors.unused hfresh
      have hlive := hmirrors.liveSlot_none hmade
        (hdead (by rw [hholder rfl]; nofun))
      refine ⟨hnow, hwindow, ?_, .inl ⟨hfree rfl, nofun⟩, .inr ⟨hlive, conn, rfl, hunused⟩⟩
      intro other
      by_cases hother : other = conn
      · exact .inr (hother ▸ hunused)
      · simp only [Shared.connect, Function.update_of_ne hother]
        exact hmirrors.connections_eq other
  | emptied => cases hharmless

theorem MirrorsShared.connect (hmirrors : MirrorsShared deleted shared mirror)
    (conn : ConnId) :
    MirrorsShared deleted (shared.connect conn) (mirror.connect conn) where
  now_eq := hmirrors.now_eq
  window_eq := hmirrors.window_eq
  connections_eq := by
    intro other
    by_cases hother : other = conn
    · subst hother
      exact .inl (by simp [Shared.connect])
    · simp only [Shared.connect, Function.update_of_ne hother]
      exact hmirrors.connections_eq other
  holder_eq := .inl ⟨rfl, nofun⟩
  slot_eq := .inl rfl

theorem MirrorsShared.close (hmirrors : MirrorsShared deleted shared mirror)
    {conn : ConnId} (hlive : mirror.connections conn = .live) :
    MirrorsShared deleted (shared.close conn) (mirror.close conn) where
  now_eq := hmirrors.now_eq
  window_eq := hmirrors.window_eq
  connections_eq := by
    intro other
    by_cases hother : other = conn
    · subst hother
      exact .inl (by simp [Shared.close])
    · simp only [Shared.close, Function.update_of_ne hother]
      exact hmirrors.connections_eq other
  holder_eq := hmirrors.holder_eq
  slot_eq := by
    rcases hmirrors.slot_eq with hsame | ⟨hdead, other, hslot, hunused⟩
    · exact .inl hsame
    · have hother : other ≠ conn := by
        intro heq
        rw [heq] at hunused
        cases hunused.symm.trans hlive
      refine .inr ⟨liveSlot_close conn hdead, other, hslot, ?_⟩
      simp only [Shared.close, Function.update_of_ne hother]
      exact hunused

/-- The mirror has no connection to close that only deleted opens have used. -/
theorem MirrorsShared.close_unused (hmirrors : MirrorsShared deleted shared mirror)
    {conn : ConnId} (hunused : mirror.connections conn = .unused) :
    MirrorsShared deleted (shared.close conn) mirror where
  now_eq := hmirrors.now_eq
  window_eq := hmirrors.window_eq
  connections_eq := by
    intro other
    by_cases hother : other = conn
    · exact .inr (hother ▸ hunused)
    · simp only [Shared.close, Function.update_of_ne hother]
      exact hmirrors.connections_eq other
  holder_eq := hmirrors.holder_eq
  slot_eq := hmirrors.slot_eq

/-- What the mirror does for a step that is kept: the same step, or a handshake
of its own where the step reuses what a deleted open connected. -/
theorem MirrorsShared.of_kept (hmirrors : MirrorsShared deleted shared mirror)
    (hkept : ¬ deleted flow)
    (hresumes : Resumes cfg flow cmd target shared source input next point)
    (hmade : ∀ conn, mirror.slot = some conn → mirror.connections conn ≠ .unused) :
    (∃ mirrored, Resumes cfg flow cmd target mirror source input mirrored point ∧
      MirrorsShared deleted next mirrored) ∨
    ∃ conn, source = .lockSlot ∧ point = .openStream conn ∧ next = shared ∧
      mirror.slotHolder = none ∧ mirror.liveSlot = none ∧
      mirror.connections conn = .unused ∧
      MirrorsShared deleted shared (mirror.connect conn) := by
  have hnow := hmirrors.now_eq
  have hwindow := hmirrors.window_eq
  cases hsource : source.usesSlot with
  | false =>
      obtain ⟨hnext, hmirrored⟩ := hresumes.transfer hsource hnow hwindow
      refine .inl ⟨_, hmirrored, ?_⟩
      rw [hnext]
      exact ⟨hnow, rfl, hmirrors.connections_eq, hmirrors.holder_eq, hmirrors.slot_eq⟩
  | true =>
      cases hresumes with
      | @reuses conn hfree hlive =>
          have hnone := hmirrors.holder_none hfree
          rcases hmirrors.liveSlot_cases hmade with hsame | ⟨hdead, other, hslot, hunused⟩
          · exact .inl ⟨mirror, .reuses hnone (hsame.trans hlive), hmirrors⟩
          · -- the connection is a deleted open's, so the mirror makes it now
            have hlive' := Option.filter_eq_some_iff.mp hlive
            cases hslot.symm.trans hlive'.1
            refine .inr ⟨conn, rfl, rfl, rfl, hnone, hdead, hunused, hnow, hwindow, ?_,
              .inl ⟨hfree.symm, by rw [hfree]; simp⟩, .inl hslot.symm⟩
            intro other
            by_cases hother : other = conn
            · subst hother
              refine .inl ?_
              simpa [Shared.connect] using (of_decide_eq_true hlive'.2).symm
            · simp only [Shared.connect, Function.update_of_ne hother]
              exact hmirrors.connections_eq other
      | connectRefused hfree hdead =>
          exact .inl ⟨mirror, .connectRefused (hmirrors.holder_none hfree)
            (hmirrors.liveSlot_none hmade hdead), hmirrors⟩
      | connects hfree hdead =>
          refine .inl ⟨{ mirror with slotHolder := some flow }, ?_, hnow, hwindow,
            hmirrors.connections_eq, .inl ⟨rfl, fun other hother => ?_⟩, hmirrors.slot_eq⟩
          · rw [← hnow]
            exact .connects (hmirrors.holder_none hfree) (hmirrors.liveSlot_none hmade hdead)
          · cases hother
            exact hkept
      | @connected since conn hfresh =>
          exact .inl ⟨mirror.connect conn, .connected (hmirrors.unused hfresh),
            hmirrors.connect conn⟩
      | connectFailed =>
          exact .inl ⟨{ mirror with slotHolder := none }, .connectFailed, hnow, hwindow,
            hmirrors.connections_eq, .inl ⟨rfl, by simp⟩, hmirrors.slot_eq⟩
      | connectElapsed helapsed =>
          exact .inl ⟨{ mirror with slotHolder := none }, .connectElapsed (hnow ▸ helapsed),
            hnow, hwindow, hmirrors.connections_eq, .inl ⟨rfl, by simp⟩, hmirrors.slot_eq⟩
      | invalidated hfree =>
          exact .inl ⟨{ mirror with slot := none },
            .invalidated (hmirrors.holder_none hfree), hnow, hwindow,
            hmirrors.connections_eq, hmirrors.holder_eq, .inl rfl⟩
      | _ => cases hsource

end SharedSteps

/-! ## The simulation -/

/-- What the mirror's steps for one transition show. -/
structure Answers (removed : FlowId → Bool) (tr : Transition State Event)
    (piece : List (Transition State Event)) : Prop where
  without : ∀ made ∈ piece, ∀ flow, removed flow = true → ¬ made.event.concerns flow
  log_eq : windowLog piece = (windowLog [tr]).filter fun act => !removed act.flow

section Simulation

variable {cfg : ClientConfig} {removed : FlowId → Bool} {state mirror : State}
variable {tr : Transition State Event} {flow : FlowId} {input : Input}

/-- A step of one open changes the mirror's view of that open only. -/
theorem Mirrors.update (hmirrors : Mirrors removed state mirror) {shared mirrored : Shared}
    {call : OpenCall} {opens : FlowId → Option OpenCall}
    (hinv : SlotInvariant ⟨mirrored, opens⟩)
    (hshared : MirrorsShared (fun flow => removed flow = true) shared mirrored)
    (hopens : ∀ other, other ≠ flow → opens other = mirror.opens other)
    (hflow : removed flow = false → opens flow = some call) :
    Mirrors removed ⟨shared, Function.update state.opens flow (some call)⟩
      ⟨mirrored, opens⟩ where
  inv := hinv
  shared := hshared
  opens_eq := by
    intro other hkept
    by_cases hsame : other = flow
    · subst hsame
      change opens other = Function.update state.opens other (some call) other
      rw [Function.update_self]
      exact hflow hkept
    · change opens other = Function.update state.opens flow (some call) other
      rw [Function.update_of_ne hsame]
      exact (hopens other hsame).trans (hmirrors.opens_eq other hkept)

theorem answers_nil (hact : windowAct tr = none) : Answers removed tr [] := by
  refine ⟨List.forall_mem_nil _, ?_⟩
  rw [windowLog, windowLog, List.filterMap_cons_none hact]
  rfl

theorem answers_single {made : Transition State Event} (hact : windowAct tr = none)
    (hmade : windowAct made = none)
    (hwithout : ∀ flow, removed flow = true → ¬ made.event.concerns flow) :
    Answers removed tr [made] := by
  refine ⟨fun other hother => ?_, ?_⟩
  · rw [List.mem_singleton] at hother
    subst hother
    exact hwithout
  · rw [windowLog, windowLog, List.filterMap_cons_none hact,
      List.filterMap_cons_none hmade]
    rfl

/-- The acts of an open that stays are all kept. -/
theorem filter_windowLog (hevent : tr.event = .resume flow input)
    (hkept : removed flow = false) :
    (windowLog [tr]).filter (fun act => !removed act.flow) = windowLog [tr] := by
  cases hact : windowAct tr with
  | none => simp [windowLog, hact]
  | some act => simp [windowLog, hact, flow_of_windowAct hevent hact, hkept]

/-- The acts of an open that is taken out are all dropped. -/
theorem filter_windowLog_removed (hevent : tr.event = .resume flow input)
    (hremoved : removed flow = true) :
    (windowLog [tr]).filter (fun act => !removed act.flow) = [] := by
  cases hact : windowAct tr with
  | none => simp [windowLog, hact]
  | some act => simp [windowLog, hact, flow_of_windowAct hevent hact, hremoved]

theorem not_concerns_of_kept (hkept : removed flow = false) :
    ∀ other, removed other = true → ¬ (Event.resume flow input).concerns other := by
  rintro other hremoved rfl
  cases hkept.symm.trans hremoved

end Simulation

section Steps

variable {cfg : ClientConfig} {now : Time} {trace : List (Transition State Event)}
variable {final : State} {removed : FlowId → Bool} {tr : Transition State Event}
variable {mirror : State} {flow : FlowId} {input : Input}

/-- The opens to take out were refused, and touch no window. -/
def Removable (trace : List (Transition State Event)) (removed : FlowId → Bool) : Prop :=
  ∀ flow, removed flow = true → ∃ tr ∈ trace, ∃ response, Refused tr flow response

/-- A deleted step shows nothing, and the mirror need not move. -/
theorem mirrors_of_deleted (hrun : Run cfg now trace final)
    (hpreferred : RefusedOnPreferred trace) (hremovable : Removable trace removed)
    (hmem : tr ∈ trace) (hevent : tr.event = .resume flow input)
    (hremoved : removed flow = true) (hmirrors : Mirrors removed tr.pre mirror) :
    Mirrors removed tr.post mirror ∧ Answers removed tr [] := by
  have hstep := hrun.step_of_mem hmem
  have hinv := (slotInvariant_of_run hrun hmem).1
  rw [hevent, step_resume_iff] at hstep
  obtain ⟨call, shared, point, hopen, hresumes, hpost⟩ := hstep
  obtain ⟨refused, hrefmem, response, hrefused⟩ := hremovable flow hremoved
  have hharmless := harmless_of_refused hrun hrefmem hrefused
    (hpreferred refused hrefmem flow response hrefused) hmem hevent (pointOf_of_open hopen)
  have hlock : call.point.held = .lock → tr.pre.shared.slotHolder = some flow := by
    intro hlock
    apply hinv.holder_eq
    rw [State.held, hopen, Option.elim_some, hlock]
  constructor
  · rw [hpost]
    apply hmirrors.update hmirrors.inv
      (hmirrors.shared.of_deleted hremoved hresumes hharmless hlock hinv.dead
        hmirrors.inv.slot_made)
    · exact fun _ _ => rfl
    · intro hkept
      cases hkept.symm.trans hremoved
  · exact ⟨List.forall_mem_nil _, (filter_windowLog_removed hevent hremoved).symm⟩

/-- A kept step is made by the mirror too. -/
theorem mirrors_of_kept (hrun : Run cfg now trace final) (hmem : tr ∈ trace)
    (hevent : tr.event = .resume flow input) (hkept : removed flow = false)
    (hmirrors : Mirrors removed tr.pre mirror) :
    ∃ piece mirrored, Execution (step cfg) mirror piece mirrored ∧
      Mirrors removed tr.post mirrored ∧ Answers removed tr piece := by
  have hstep := hrun.step_of_mem hmem
  rw [hevent, step_resume_iff] at hstep
  obtain ⟨call, shared, point, hopen, hresumes, hpost⟩ := hstep
  have hopen' : mirror.opens flow = some call :=
    (hmirrors.opens_eq flow hkept).trans hopen
  rw [hpost]
  rcases hmirrors.shared.of_kept (by rw [hkept]; exact Bool.false_ne_true) hresumes
    hmirrors.inv.slot_made with
    ⟨mirrored, hmirrored, hshared⟩ |
      ⟨conn, hsource, hpoint, hnext, hfree, hdead, hunused, hshared⟩
  · have hstep' : step cfg mirror (.resume flow input) =
        some ⟨mirrored, Function.update mirror.opens flow (some { call with point })⟩ :=
      step_resume_iff.mpr ⟨call, mirrored, point, hopen', hmirrored, rfl⟩
    refine ⟨_, _, .single hstep', ?_, ?_, ?_⟩
    · apply hmirrors.update (slotInvariant_of_step hstep' hmirrors.inv) hshared
      · exact fun other hother => Function.update_of_ne hother _ _
      · exact fun _ => Function.update_self _ _ _
    · intro made hmade
      rw [List.mem_singleton] at hmade
      subst hmade
      exact not_concerns_of_kept hkept
    · have hact : windowAct ⟨mirror, .resume flow input, ⟨mirrored,
          Function.update mirror.opens flow (some { call with point })⟩⟩ = windowAct tr := by
        apply windowAct_congr rfl hevent
        · exact (pointOf_of_open hopen').trans (pointOf_of_open hopen).symm
        · exact hmirrors.shared.now_eq
        · simp only [hpost, State.pointOf_update_self]
      rw [filter_windowLog hevent hkept, windowLog, windowLog, List.filterMap_cons,
        List.filterMap_cons, hact]
  · -- the mirror connects first
    have hconnects : step cfg mirror (.resume flow .connecting) =
        some ⟨{ mirror.shared with slotHolder := some flow }, Function.update mirror.opens flow
          (some { call with point := .connecting mirror.shared.now })⟩ :=
      step_resume_iff.mpr ⟨call, _, _, hopen', hsource ▸ .connects hfree hdead, rfl⟩
    have hconnected : step cfg ⟨{ mirror.shared with slotHolder := some flow },
        Function.update mirror.opens flow
          (some { call with point := .connecting mirror.shared.now })⟩
        (.resume flow (.connected conn)) =
          some ⟨mirror.shared.connect conn, Function.update (Function.update mirror.opens flow
            (some { call with point := .connecting mirror.shared.now })) flow
              (some { call with point })⟩ :=
      step_resume_iff.mpr ⟨{ call with point := .connecting mirror.shared.now }, _, _,
        Function.update_self _ _ _, hpoint ▸ .connected hunused, rfl⟩
    have hinv := slotInvariant_of_step hconnected
      (slotInvariant_of_step hconnects hmirrors.inv)
    refine ⟨_, _, (Execution.single hconnects).append (.single hconnected), ?_, ?_, ?_⟩
    · apply hmirrors.update hinv (hnext ▸ hshared)
      · intro other hother
        rw [Function.update_of_ne hother, Function.update_of_ne hother]
      · exact fun _ => Function.update_self _ _ _
    · intro made hmade
      rw [List.mem_append, List.mem_singleton, List.mem_singleton] at hmade
      rcases hmade with rfl | rfl
      · exact not_concerns_of_kept hkept
      · exact not_concerns_of_kept hkept
    · have hnone : windowAct tr = none :=
        windowAct_eq_none hevent (pointOf_of_open hopen) (.inl hsource)
      rw [windowLog, List.singleton_append,
        List.filterMap_cons_none (windowAct_eq_none rfl (pointOf_of_open hopen') (.inl hsource)),
        List.filterMap_cons_none
          (windowAct_eq_none rfl (State.pointOf_update_self _ _ _ _) (.inr rfl)),
        windowLog, List.filterMap_cons_none hnone]
      rfl

/-- Every transition of the run is answered by the mirror. -/
theorem mirrors_of_step (hrun : Run cfg now trace final)
    (hpreferred : RefusedOnPreferred trace) (hremovable : Removable trace removed)
    (hmem : tr ∈ trace) (hmirrors : Mirrors removed tr.pre mirror) :
    ∃ piece mirrored, Execution (step cfg) mirror piece mirrored ∧
      Mirrors removed tr.post mirrored ∧ Answers removed tr piece := by
  have hstep := hrun.step_of_mem hmem
  have hshared := hmirrors.shared
  cases hevent : tr.event with
  | resume flow input =>
      cases hflow : removed flow with
      | true =>
          obtain ⟨hstill, hanswers⟩ :=
            mirrors_of_deleted hrun hpreferred hremovable hmem hevent hflow hmirrors
          exact ⟨[], mirror, .nil, hstill, hanswers⟩
      | false => exact mirrors_of_kept hrun hmem hevent hflow hmirrors
  | tick delta =>
      rw [hevent, step_tick_iff] at hstep
      have htick : step cfg mirror (.tick delta) =
          some { mirror with shared.now := mirror.shared.now + delta } :=
        step_tick_iff.mpr rfl
      refine ⟨_, _, .single htick, ⟨slotInvariant_of_step htick hmirrors.inv, ?_, ?_⟩,
        answers_single (by simp only [windowAct, hevent]) rfl (fun _ _ => id)⟩
      · rw [hstep]
        exact ⟨congrArg (· + delta) hshared.now_eq, hshared.window_eq,
          hshared.connections_eq, hshared.holder_eq, hshared.slot_eq⟩
      · rw [hstep]
        exact hmirrors.opens_eq
  | close conn =>
      rw [hevent, step_close_iff] at hstep
      obtain ⟨hlive, hpost⟩ := hstep
      rcases hshared.connections_eq conn with hsame | hunused
      · have hclose : step cfg mirror (.close conn) =
            some { mirror with shared := mirror.shared.close conn } :=
          step_close_iff.mpr ⟨hsame.trans hlive, rfl⟩
        refine ⟨_, _, .single hclose, ?_,
          answers_single (by simp only [windowAct, hevent]) rfl (fun _ _ => id)⟩
        rw [hpost]
        exact ⟨slotInvariant_of_step hclose hmirrors.inv,
          hshared.close (hsame.trans hlive), hmirrors.opens_eq⟩
      · refine ⟨[], mirror, .nil, ?_, answers_nil (by simp only [windowAct, hevent])⟩
        rw [hpost]
        exact ⟨hmirrors.inv, hshared.close_unused hunused, hmirrors.opens_eq⟩
  | start flow cmd target =>
      have hquiet : windowAct tr = none := by simp only [windowAct, hevent]
      rw [hevent, step_start_iff] at hstep
      obtain ⟨hnone, hpost⟩ := hstep
      rw [hpost]
      cases hflow : removed flow with
      | true =>
          refine ⟨[], mirror, .nil, ?_, answers_nil hquiet⟩
          refine hmirrors.update hmirrors.inv hshared (fun _ _ => rfl) fun hkept => ?_
          cases hkept.symm.trans hflow
      | false =>
          have hnone' : mirror.opens flow = none :=
            (hmirrors.opens_eq flow hflow).trans hnone
          have hstart : step cfg mirror (.start flow cmd target) = some { mirror with
              opens := Function.update mirror.opens flow
                (some ⟨cmd, target, entryPoint cfg mirror.shared.now cmd target⟩) } :=
            step_start_iff.mpr ⟨hnone', rfl⟩
          refine ⟨_, _, .single hstart, ?_, answers_single hquiet rfl ?_⟩
          · apply hmirrors.update (slotInvariant_of_step hstart hmirrors.inv) hshared
            · exact fun other hother => Function.update_of_ne hother _ _
            · rw [hshared.now_eq]
              exact fun _ => Function.update_self _ _ _
          · rintro other hremoved rfl
            cases hflow.symm.trans hremoved

theorem mirrors_new : Mirrors removed (State.new now) (State.new now) where
  inv := slotInvariant_new now
  shared := ⟨rfl, rfl, fun _ => .inl rfl, .inl ⟨rfl, by simp [State.new]⟩, .inl rfl⟩
  opens_eq := fun _ _ => rfl

theorem windowLog_flatten {pieces : List (List (Transition State Event))}
    (hpieces : List.Forall₂ (Answers removed) trace pieces) :
    windowLog pieces.flatten = (windowLog trace).filter fun act => !removed act.flow := by
  induction hpieces with
  | nil => rfl
  | @cons tr piece trace pieces hanswers hpieces ih =>
      have hcons : windowLog (tr :: trace) = windowLog [tr] ++ windowLog trace := by
        rw [windowLog, windowLog, windowLog, ← List.filterMap_append,
          List.singleton_append]
      have hflatten : windowLog (piece :: pieces).flatten =
          windowLog piece ++ windowLog pieces.flatten := by
        rw [List.flatten_cons, windowLog, List.filterMap_append]
        rfl
      rw [hcons, hflatten, List.filter_append, hanswers.log_eq, ih]

/-- Taking refused opens out of a run leaves a run, with the same window. -/
theorem runWithout_of_preferred (hrun : Run cfg now trace final)
    (hpreferred : RefusedOnPreferred trace) (hremovable : Removable trace removed) :
    ∃ trace' final', RunWithout cfg now removed trace final trace' final' := by
  obtain ⟨pieces, final', hrun', hmirrors, hanswers⟩ := hrun.simulate mirrors_new
    fun before tr after htrace mirror hmirrors =>
      mirrors_of_step hrun hpreferred hremovable (by simp [htrace]) hmirrors
  refine ⟨pieces.flatten, final', hrun', ?_, windowLog_flatten hanswers,
    hmirrors.shared.window_eq, hmirrors.opens_eq⟩
  clear hremovable hpreferred hrun hrun'
  induction hanswers with
  | nil => exact List.forall_mem_nil _
  | cons hanswer _ ih =>
      rw [List.flatten_cons, List.forall_mem_append]
      exact ⟨hanswer.without, ih⟩

end Steps

/-! ## Refused opens -/

/-- Refused opens return the refusal at once and write nothing, and a run goes
on without them as it did with them. -/
structure RefusalsHarmless (cfg : ClientConfig) (now : Time)
    (trace : List (Transition State Event)) (final : State) : Prop where
  refusals_final : RefusalsFinal trace
  silent : RefusalsSilent cfg.reconnectIntervalMs trace
  /-- Taking any refused opens out changes neither the window nor what the
  others do with it. -/
  deletion : ∀ removed : FlowId → Bool, Removable trace removed →
    ∃ trace' final', RunWithout cfg now removed trace final trace' final'

theorem notFirst_of_preferred {trace : List (Transition State Event)}
    (hpreferred : RefusedOnPreferred trace) : NoRefusedFirst trace := by
  intro tr hmem flow response since hrefused hfirst
  cases hpreferred tr hmem flow response hrefused with
  | quic hpoint => cases hpoint.symm.trans hfirst
  | grpc hpoint => cases hpoint.symm.trans hfirst

/-- In every run, whatever the interleaving, refused opens are final and leave
no trace exactly when every refusal answers the first attempt of its open, over
the transport that the open prefers. -/
theorem refusals_harmless_iff {cfg : ClientConfig} {now : Time}
    {trace : List (Transition State Event)} {final : State}
    (hrun : Run cfg now trace final) :
    RefusalsHarmless cfg now trace final ↔ RefusedOnPreferred trace := by
  constructor
  · intro hharmless
    exact preferred_of_silent hrun hharmless.refusals_final hharmless.silent
  · intro hpreferred
    exact ⟨(refusalsFinal_iff hrun).mpr (notFirst_of_preferred hpreferred),
      silent_of_preferred hrun hpreferred,
      fun removed hremovable => runWithout_of_preferred hrun hpreferred hremovable⟩

/-- The server refuses the target of one open over QUIC, and accepts another
that came meanwhile and uses the connection that the first has made. -/
def refusedEvents : List Event :=
  [.start 0 .connectTcp sampleTarget, .resume 0 .proceed, .resume 0 .connecting,
    .start 1 .connectTcp sampleTarget, .resume 1 .proceed,
    .resume 0 (.connected 0), .resume 0 .ready, .resume 1 .proceed, .resume 0 .ready,
    .resume 1 .ready, .resume 0 (.response ⟨.forbidden, ""⟩),
    .resume 1 .ready, .resume 1 (.response ⟨.ok, ""⟩), .resume 1 .proceed]

/-- An open waits for the answer to a gRPC attempt. -/
def OpenPoint.awaitsGrpc : OpenPoint → Bool
  | .grpcResponse _ _ => true
  | _ => false

theorem refusals_harmless_sample :
    ∃ trace final, Run ClientConfig.sample 0 trace final ∧
      final.stage 0 = 15 ∧ final.stage 1 = 15 ∧
      RefusalsHarmless ClientConfig.sample 0 trace final := by
  have hfacts : (replay (step ClientConfig.sample) (State.new 0) refusedEvents).map
      (fun result => (result.2.stage 0, result.2.stage 1, windowLog result.1,
        result.1.all fun tr => tr.event.resumed.all fun resumed =>
          (tr.pre.pointOf resumed.1).all fun point => !point.awaitsGrpc)) =
        some (15, 15, [.checked 0 0 .quic, .checked 1 0 .quic, .cleared 1], true) := by
    decide
  obtain ⟨⟨trace, final⟩, hreplay, hfacts⟩ := Option.map_eq_some_iff.mp hfacts
  simp only [Prod.mk.injEq] at hfacts
  obtain ⟨hzero, hone, hlog, hquic⟩ := hfacts
  have hrun := execution_of_replay hreplay
  refine ⟨trace, final, hrun, hzero, hone, (refusals_harmless_iff hrun).mpr ?_⟩
  intro tr hmem flow response hrefused
  obtain ⟨call, hopen, -, ⟨conn, since, hsource, -⟩ | ⟨role, since, hsource, -⟩⟩ :=
    refused_cases (hrun.step_of_mem hmem) hrefused
  · exact .quic (by rw [pointOf_of_open hopen, hsource]) (by rw [hlog]; simp)
  · have htr := List.all_eq_true.mp hquic tr hmem
    simp [hrefused.1, Event.resumed, pointOf_of_open hopen, hsource,
      OpenPoint.awaitsGrpc] at htr

/-- One open cannot connect over QUIC, and the server refuses the next, which
tries gRPC first. -/
def refusedFirstEvents : List Event :=
  [.start 0 .connectTcp sampleTarget, .resume 0 .proceed, .resume 0 .connecting,
    .resume 0 (.failed ["connection lost"]), .resume 0 .proceed, .resume 0 .proceed,
    .start 1 .connectTcp sampleTarget, .resume 1 .proceed, .resume 1 .ready]

/-- The refused open clears the window and goes on to QUIC. -/
theorem refused_first_retries :
    ClientConfig.sample.validate = .ok () ∧
    ∃ trace final, Run ClientConfig.sample 0 trace final ∧
      final.shared.fallbackUntil = none ∧ final.stage 1 = OpenPoint.lockSlot.stage + 1 ∧
      ¬ RefusalsHarmless ClientConfig.sample 0 trace final := by
  have hfacts : ((replay (step ClientConfig.sample) (State.new 0) refusedFirstEvents).bind
      fun result => (step ClientConfig.sample result.2
        (.resume 1 (.response ⟨.forbidden, ""⟩))).bind
        fun refused => (step ClientConfig.sample refused (.resume 1 .proceed)).map
          fun post => (post.shared.fallbackUntil, post.stage 1)) = some (none, 5) := by
    decide
  obtain ⟨⟨trace, state⟩, hreplay, hfacts⟩ := Option.bind_eq_some_iff.mp hfacts
  obtain ⟨refused, hrefused, hfacts⟩ := Option.bind_eq_some_iff.mp hfacts
  obtain ⟨post, hstep, hfacts⟩ := Option.map_eq_some_iff.mp hfacts
  obtain ⟨hwindow, hstage⟩ := Prod.mk.injEq _ _ _ _ ▸ hfacts
  refine ⟨ClientConfig.validate_sample, _, _,
    .snoc (.snoc (execution_of_replay hreplay) hrefused) hstep, hwindow, hstage,
    fun hharmless => ?_⟩
  have hfinal := hharmless.refusals_final trace
    ⟨state, .resume 1 (.response ⟨.forbidden, ""⟩), refused⟩ [⟨refused, .resume 1 .proceed, post⟩] 1 ⟨.forbidden, ""⟩ (by simp) ⟨rfl, nofun⟩
  exact hfinal.last _ (List.mem_singleton.mpr rfl) .proceed rfl

end VpnBridge.Client
