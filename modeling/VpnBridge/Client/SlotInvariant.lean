import VpnBridge.Client.Steps

/-!
# The connection slot and its lock

`SlotEffect` says once what one step of an open can do to the slot.  In every
reachable state the open that connects has the lock, no connection of the slot
is live meanwhile, and a connection that an open or the slot holds was made.
-/

namespace VpnBridge.Client

open VpnBridge.Net VpnBridge.Proto VpnBridge.TransitionSystem

/-- What a step does to the slot, its lock and the connections. -/
inductive SlotEffect (flow : FlowId) (shared : Shared) :
    OpenPoint → Input → Shared → OpenPoint → Prop where
  | kept {source point : OpenPoint} {input : Input} {next : Shared}
      (hsource : source.held ≠ .lock) (hpoint : point.held ≠ .lock)
      (hslot : next.slot = shared.slot) (hholder : next.slotHolder = shared.slotHolder)
      (hconnections : next.connections = shared.connections) :
      SlotEffect flow shared source input next point
  | locked {since : Time} (hfree : shared.slotHolder = none)
      (hdead : shared.liveSlot = none) :
      SlotEffect flow shared .lockSlot .connecting
        { shared with slotHolder := some flow } (.connecting since)
  | released {since : Time} {input : Input} {point : OpenPoint}
      (hpoint : point.held = .nothing) :
      SlotEffect flow shared (.connecting since) input
        { shared with slotHolder := none } point
  | stored {since : Time} {conn : ConnId} (hfresh : shared.connections conn = .unused) :
      SlotEffect flow shared (.connecting since) (.connected conn)
        (shared.connect conn) (.openStream conn)
  | emptied {conn : ConnId} {error : AnyhowError} {point : OpenPoint}
      (hfree : shared.slotHolder = none) (hpoint : point.held = .nothing) :
      SlotEffect flow shared (.invalidate conn error) .proceed
        { shared with slot := none } point

section Effects

variable {cfg : ClientConfig} {flow : FlowId} {cmd : Cmd} {target : Address}
variable {shared next : Shared} {source point : OpenPoint} {input : Input}

theorem Resumes.slotEffect
    (hresumes : Resumes cfg flow cmd target shared source input next point) :
    SlotEffect flow shared source input next point := by
  cases hresumes with
  | connects hfree hdead => exact .locked hfree hdead
  | connected hfresh => exact .stored hfresh
  | connectFailed => exact .released (held_afterQuic _ _)
  | connectElapsed => exact .released (held_afterQuic _ _)
  | invalidated hfree => exact .emptied hfree (held_afterQuic _ _)
  | _ =>
      refine .kept (fun hlock => by cases hlock) ?_ rfl rfl rfl
      first | (intro hlock; cases hlock) | simp

end Effects

/-! ## The invariant -/

/-- What an open holds, if it has started. -/
def State.held (state : State) (flow : FlowId) : Held :=
  (state.opens flow).elim .nothing fun call => call.point.held

structure SlotInvariant (state : State) : Prop where
  /-- The open that connects has the lock. -/
  holder_eq : ∀ flow, state.held flow = .lock → state.shared.slotHolder = some flow
  /-- No other open has it. -/
  held_eq : ∀ flow, state.shared.slotHolder = some flow → state.held flow = .lock
  /-- The lock is kept only while the slot has no live connection. -/
  dead : state.shared.slotHolder ≠ none → state.shared.liveSlot = none
  /-- A connection that an open has was made. -/
  made : ∀ flow conn, state.held flow = .connection conn →
    state.shared.connections conn ≠ .unused
  slot_made : ∀ conn, state.shared.slot = some conn →
    state.shared.connections conn ≠ .unused

theorem slotInvariant_new (now : Time) : SlotInvariant (State.new now) where
  holder_eq := nofun
  held_eq := nofun
  dead := fun hholder => absurd rfl hholder
  made := nofun
  slot_made := nofun

@[simp]
theorem State.held_update_self (shared : Shared) (opens : FlowId → Option OpenCall)
    (flow : FlowId) (call : OpenCall) :
    (State.mk shared (Function.update opens flow (some call))).held flow =
      call.point.held := by
  simp [State.held]

@[simp]
theorem State.held_update_of_ne (shared : Shared) (opens : FlowId → Option OpenCall)
    {flow other : FlowId} (call : Option OpenCall) (hother : other ≠ flow) :
    (State.mk shared (Function.update opens flow call)).held other =
      (State.mk shared opens).held other := by
  simp [State.held, Function.update_of_ne hother]

/-- A connection once made stays made. -/
theorem made_of_step {cfg : ClientConfig} {state next : State} {event : Event}
    {conn : ConnId} (hstep : step cfg state event = some next)
    (hmade : state.shared.connections conn ≠ .unused) :
    next.shared.connections conn ≠ .unused := by
  cases event with
  | tick delta =>
      rw [step_tick_iff.mp hstep]
      exact hmade
  | start flow cmd target =>
      rw [(step_start_iff.mp hstep).2]
      exact hmade
  | close closed =>
      rw [(step_close_iff.mp hstep).2]
      by_cases hconn : conn = closed
      · simp [Shared.close, hconn]
      · simpa [Shared.close, Function.update_of_ne hconn] using hmade
  | resume flow input =>
      obtain ⟨call, shared, point, -, hresumes, rfl⟩ := step_resume_iff.mp hstep
      have heffect := hresumes.slotEffect
      generalize call.point = source at heffect
      cases heffect with
      | kept hsource hpoint hslot hholder hconnections =>
          rw [hconnections]
          exact hmade
      | @stored since stored hfresh =>
          by_cases hconn : conn = stored
          · simp [Shared.connect, hconn]
          · simpa [Shared.connect, Function.update_of_ne hconn] using hmade
      | _ => exact hmade

/-- A new open holds nothing yet. -/
theorem held_start (cfg : ClientConfig) (cmd : Cmd) (target : Address) {state : State}
    {flow : FlowId} (hnone : state.opens flow = none) (other : FlowId) :
    (State.mk state.shared (Function.update state.opens flow
      (some ⟨cmd, target, entryPoint cfg state.shared.now cmd target⟩))).held other =
      state.held other := by
  by_cases hother : other = flow
  · subst hother
    rw [State.held_update_self, held_entryPoint, State.held, hnone]
    rfl
  · rw [State.held_update_of_ne _ _ _ hother]

theorem liveSlot_close {shared : Shared} (conn : ConnId) (hdead : shared.liveSlot = none) :
    (shared.close conn).liveSlot = none := by
  rw [Shared.liveSlot, Option.filter_eq_none_iff] at hdead ⊢
  intro other hslot
  by_cases hother : other = conn
  · simp [Shared.close, hother]
  · simpa [Shared.close, Function.update_of_ne hother] using hdead other hslot

section Preservation

variable {cfg : ClientConfig} {state : State} {shared : Shared} {flow : FlowId}
variable {call : OpenCall} {point : OpenPoint} {input : Input}

theorem SlotInvariant.resume (hinv : SlotInvariant state)
    (hopen : state.opens flow = some call)
    (hresumes : Resumes cfg flow call.cmd call.target state.shared call.point input
      shared point) :
    SlotInvariant ⟨shared, Function.update state.opens flow (some { call with point })⟩ := by
  have hheld : state.held flow = call.point.held := by
    rw [State.held, hopen, Option.elim_some]
  have hstep : step cfg state (.resume flow input) =
      some ⟨shared, Function.update state.opens flow (some { call with point })⟩ :=
    step_resume_iff.mpr ⟨call, shared, point, hopen, hresumes, rfl⟩
  refine ⟨?_, ?_, ?_, ?_, ?_⟩
  · -- two opens never connect at once
    intro other hlock
    by_cases hother : other = flow
    · subst hother
      rw [State.held_update_self] at hlock
      rw [(hresumes.of_lock hlock).2.2.2]
    · rw [State.held_update_of_ne _ _ _ hother] at hlock
      have hholder := hinv.holder_eq other hlock
      have heffect := hresumes.slotEffect
      generalize hsource : call.point = source at heffect
      rw [hsource] at hheld
      cases heffect with
      | kept _ _ _ hsame _ => exact hsame.trans hholder
      | locked hfree => cases hfree.symm.trans hholder
      | released =>
          have hself := hinv.holder_eq flow hheld
          exact absurd (Option.some.inj (hholder.symm.trans hself)) hother
      | stored =>
          have hself := hinv.holder_eq flow hheld
          exact absurd (Option.some.inj (hholder.symm.trans hself)) hother
      | emptied => exact hholder
  · intro other hholder
    have heffect := hresumes.slotEffect
    generalize hsource : call.point = source at heffect
    rw [hsource] at hheld
    cases heffect with
    | kept hfree _ _ hsame _ =>
        have hlock := hinv.held_eq other (hsame.symm.trans hholder)
        by_cases hother : other = flow
        · subst hother
          exact absurd (hheld.symm.trans hlock) hfree
        · rw [State.held_update_of_ne _ _ _ hother]
          exact hlock
    | locked =>
        cases hholder
        rw [State.held_update_self]
        rfl
    | released => cases hholder
    | stored => cases hholder
    | emptied hfree => cases hfree.symm.trans hholder
  · intro hholder
    have heffect := hresumes.slotEffect
    generalize call.point = source at heffect
    cases heffect with
    | kept _ _ hslot hsame hconnections =>
        rw [hsame] at hholder
        rw [Shared.liveSlot, hslot, hconnections]
        exact hinv.dead hholder
    | locked hfree hdead => exact hdead
    | released => exact absurd rfl hholder
    | stored => exact absurd rfl hholder
    | emptied => rfl
  · intro other conn hconn
    by_cases hother : other = flow
    · subst hother
      rw [State.held_update_self] at hconn
      rcases hresumes.of_connection hconn with ⟨hsource, rfl⟩ | ⟨-, hlive, rfl⟩ |
        ⟨-, -, -, rfl⟩
      · exact hinv.made other conn (hheld.trans hsource)
      · rw [Shared.liveSlot, Option.filter_eq_some_iff, decide_eq_true_eq] at hlive
        rw [hlive.2]
        nofun
      · simp [Shared.connect]
    · rw [State.held_update_of_ne _ _ _ hother] at hconn
      exact made_of_step hstep (hinv.made other conn hconn)
  · intro conn hslot
    have heffect := hresumes.slotEffect
    generalize call.point = source at heffect
    cases heffect with
    | kept _ _ hsame _ hconnections =>
        rw [hsame] at hslot
        exact made_of_step hstep (hinv.slot_made conn hslot)
    | stored =>
        cases hslot
        simp [Shared.connect]
    | emptied => cases hslot
    | locked => exact hinv.slot_made conn hslot
    | released => exact hinv.slot_made conn hslot

theorem slotInvariant_of_step {next : State} {event : Event}
    (hstep : step cfg state event = some next) (hinv : SlotInvariant state) :
    SlotInvariant next := by
  cases event with
  | tick delta =>
      rw [step_tick_iff.mp hstep]
      exact ⟨hinv.holder_eq, hinv.held_eq, hinv.dead, hinv.made, hinv.slot_made⟩
  | resume flow input =>
      obtain ⟨call, shared, point, hopen, hresumes, rfl⟩ := step_resume_iff.mp hstep
      exact hinv.resume hopen hresumes
  | start flow cmd target =>
      obtain ⟨hnone, rfl⟩ := step_start_iff.mp hstep
      have hheld := held_start cfg cmd target hnone
      exact ⟨fun other hlock => hinv.holder_eq other (hheld other ▸ hlock),
        fun other hholder => (hheld other).trans (hinv.held_eq other hholder), hinv.dead,
        fun other conn hconn => hinv.made other conn (hheld other ▸ hconn),
        hinv.slot_made⟩
  | close closed =>
      have hmade : ∀ conn, state.shared.connections conn ≠ .unused →
          next.shared.connections conn ≠ .unused := fun _ => made_of_step hstep
      obtain ⟨hlive, rfl⟩ := step_close_iff.mp hstep
      exact ⟨hinv.holder_eq, hinv.held_eq, fun hholder => liveSlot_close closed (hinv.dead hholder),
        fun flow conn hconn => hmade conn (hinv.made flow conn hconn),
        fun conn hslot => hmade conn (hinv.slot_made conn hslot)⟩

/-- What an open holds changes only in its own steps. -/
theorem resumes_of_held {tr : Transition State Event}
    (hstep : step cfg tr.pre tr.event = some tr.post)
    (hheld : tr.pre.held flow ≠ tr.post.held flow) :
    ∃ call input shared point, tr.pre.opens flow = some call ∧
      Resumes cfg flow call.cmd call.target tr.pre.shared call.point input shared point ∧
      tr.post = ⟨shared, Function.update tr.pre.opens flow (some { call with point })⟩ := by
  cases hevent : tr.event with
  | tick delta =>
      rw [hevent, step_tick_iff] at hstep
      exact absurd (by rw [hstep]; rfl) hheld
  | close conn =>
      rw [hevent, step_close_iff] at hstep
      exact absurd (by rw [hstep.2]; rfl) hheld
  | start other cmd target =>
      rw [hevent, step_start_iff] at hstep
      exact absurd (by rw [hstep.2]; exact (held_start cfg cmd target hstep.1 flow).symm) hheld
  | resume other input =>
      rw [hevent, step_resume_iff] at hstep
      obtain ⟨call, shared, point, hopen, hresumes, hpost⟩ := hstep
      by_cases hflow : flow = other
      · subst hflow
        exact ⟨call, input, shared, point, hopen, hresumes, hpost⟩
      · rw [hpost, State.held_update_of_ne _ _ _ hflow] at hheld
        exact absurd rfl hheld

/-- The invariant holds on both sides of every transition of a run. -/
theorem slotInvariant_of_run {now : Time} {trace : List (Transition State Event)}
    {final : State} (hrun : Run cfg now trace final) {tr : Transition State Event}
    (hmem : tr ∈ trace) : SlotInvariant tr.pre ∧ SlotInvariant tr.post :=
  hrun.invariant_of_mem slotInvariant_of_step (slotInvariant_new now) hmem

end Preservation

end VpnBridge.Client
