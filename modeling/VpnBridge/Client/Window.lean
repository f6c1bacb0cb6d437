import VpnBridge.Client.Transport

/-!
# The fallback window as a register

What the opens do with `fallback_until`, without the opens: a register that
holds a deadline, and a log of what was done with it.  Reading the clock for a
new deadline and writing that deadline are two acts, and other opens may act in
between.  The law of the window is stated for the log, and holds of exactly the
logs in which no write is overtaken.
-/

namespace VpnBridge.Client

open VpnBridge.TransitionSystem

inductive WindowAct where
  /-- An open read the window, and tries this transport first. -/
  | checked (flow : FlowId) (now : Time) (tried : FlowTransport)
  /-- An open found QUIC unavailable and read the clock. -/
  | observed (flow : FlowId) (now : Time)
  /-- An open wrote the window for what it had observed then. -/
  | recorded (flow : FlowId) (observed : Time)
  | cleared (flow : FlowId)
  deriving DecidableEq

def WindowAct.flow : WindowAct → FlowId
  | .checked flow _ _ => flow
  | .observed flow _ => flow
  | .recorded flow _ => flow
  | .cleared flow => flow

structure WindowState where
  now : Time
  deadline : Option Time
  /-- When each open found QUIC unavailable. -/
  observations : FlowId → Option Time

def WindowState.new (now : Time) : WindowState :=
  ⟨now, none, fun _ => none⟩

/-- The transport that a window asks for at a time. -/
def transportAt (deadline : Option Time) (now : Time) : FlowTransport :=
  if deadline.any fun deadline => now < deadline then .grpc else .quic

def windowStep (retry : ℕ) (state : WindowState) : WindowAct → Option WindowState
  | .checked _ now tried =>
      if state.now ≤ now ∧ tried = transportAt state.deadline now then
        some { state with now }
      else
        none
  | .observed flow now =>
      if state.now ≤ now then
        some { state with
          now, observations := Function.update state.observations flow (some now) }
      else
        none
  | .recorded flow observed =>
      if state.observations flow = some observed then
        some { state with deadline := some (observed + retry) }
      else
        none
  | .cleared _ => some { state with deadline := none }

/-- What an act writes to the window, if it writes. -/
def WindowAct.write (retry : ℕ) : WindowAct → Option (Option Time)
  | .checked _ _ _ => none
  | .observed _ _ => none
  | .recorded _ time => some (some (time + retry))
  | .cleared _ => some none

/-- A log of what can be done with the window, in order. -/
def WindowHistory (retry : ℕ) (log : List WindowAct) : Prop :=
  ∃ now trace final, Execution (windowStep retry) (WindowState.new now) trace final ∧
    trace.map Transition.event = log

/-! ## The law -/

/-- No open clears the window during these acts. -/
def NoClear (acts : List WindowAct) : Prop :=
  ∀ flow, .cleared flow ∉ acts

/-- No open writes the window during these acts. -/
def NoRecord (acts : List WindowAct) : Prop :=
  ∀ flow observed, .recorded flow observed ∉ acts

/-- A recorded window is in force for the whole interval and no longer. -/
structure WindowLaw (retry : ℕ) (log : List WindowAct) : Prop where
  /-- Until its deadline opens try gRPC first, unless it is cleared. -/
  suppresses : ∀ before flow observed between other now tried after,
    log = before ++ .recorded flow observed :: between ++
      .checked other now tried :: after →
    NoClear between → now < observed + retry → tried = .grpc
  /-- From the deadline of the latest write on, opens try QUIC first. -/
  expires : ∀ before other now tried after,
    log = before ++ .checked other now tried :: after →
    (∀ earlier flow observed between,
      before = earlier ++ .recorded flow observed :: between → NoRecord between →
        observed + retry ≤ now) →
    tried = .quic
  /-- Only a clear moves the deadline backwards. -/
  advances : ∀ before flow observed between other later after,
    log = before ++ .recorded flow observed :: between ++
      .recorded other later :: after →
    NoClear between → observed + retry ≤ later + retry

/-- No open that has read the clock is still waiting to write the window when
another writes it for a later reading, unless a clear follows before its turn. -/
def NotOvertaken (log : List WindowAct) : Prop :=
  ∀ before flow observed waiting other later between after,
    log = before ++ .observed flow observed :: waiting ++
      .recorded other later :: between ++ .recorded flow observed :: after →
    NoClear between → later ≤ observed

/-! ## Histories -/

section Steps

variable {retry : ℕ} {state next : WindowState}

theorem windowStep_checked_iff {flow : FlowId} {now : Time} {tried : FlowTransport} :
    windowStep retry state (.checked flow now tried) = some next ↔
      (state.now ≤ now ∧ tried = transportAt state.deadline now) ∧
        next = { state with now } := by
  rw [windowStep, Option.ite_none_right_eq_some, Option.some.injEq]
  exact and_congr_right fun _ => eq_comm

theorem windowStep_observed_iff {flow : FlowId} {now : Time} :
    windowStep retry state (.observed flow now) = some next ↔
      state.now ≤ now ∧
        next = { state with
          now, observations := Function.update state.observations flow (some now) } := by
  rw [windowStep, Option.ite_none_right_eq_some, Option.some.injEq]
  exact and_congr_right fun _ => eq_comm

theorem windowStep_recorded_iff {flow : FlowId} {observed : Time} :
    windowStep retry state (.recorded flow observed) = some next ↔
      state.observations flow = some observed ∧
        next = { state with deadline := some (observed + retry) } := by
  rw [windowStep, Option.ite_none_right_eq_some, Option.some.injEq]
  exact and_congr_right fun _ => eq_comm

theorem windowStep_cleared_iff {flow : FlowId} :
    windowStep retry state (.cleared flow) = some next ↔
      next = { state with deadline := none } := by
  rw [windowStep, Option.some.injEq, eq_comm]

theorem now_le_of_windowStep {act : WindowAct}
    (hstep : windowStep retry state act = some next) : state.now ≤ next.now := by
  cases act with
  | checked flow now tried =>
      obtain ⟨⟨hle, -⟩, rfl⟩ := windowStep_checked_iff.mp hstep
      exact hle
  | observed flow now =>
      obtain ⟨hle, rfl⟩ := windowStep_observed_iff.mp hstep
      exact hle
  | recorded flow observed =>
      rw [(windowStep_recorded_iff.mp hstep).2]
  | cleared flow =>
      rw [windowStep_cleared_iff.mp hstep]

end Steps

section Histories

variable {retry : ℕ} {start state final : WindowState}
variable {trace : List (Transition WindowState WindowAct)}

/-- What an open has observed it observed in the history, and not after now. -/
theorem mem_of_observations (hstart : ∀ flow, start.observations flow = none)
    (hrun : Execution (windowStep retry) start trace state)
    {flow : FlowId} {observed : Time} (hobserved : state.observations flow = some observed) :
    observed ≤ state.now ∧ .observed flow observed ∈ trace.map Transition.event := by
  induction hrun with
  | nil =>
      rw [hstart] at hobserved
      cases hobserved
  | @snoc trace state next act hrun hstep ih =>
      have hle := now_le_of_windowStep hstep
      rw [List.map_append, List.mem_append]
      by_cases hsame : next.observations flow = state.observations flow
      · obtain ⟨htime, hmem⟩ := ih (hsame ▸ hobserved)
        exact ⟨le_trans htime hle, .inl hmem⟩
      · cases act with
        | observed other now =>
            obtain ⟨-, rfl⟩ := windowStep_observed_iff.mp hstep
            by_cases hflow : flow = other
            · subst hflow
              simp only [Function.update_self, Option.some.injEq] at hobserved
              subst hobserved
              exact ⟨le_refl _, .inr (List.mem_singleton.mpr rfl)⟩
            · exact absurd (Function.update_of_ne hflow _ _) hsame
        | checked other now tried =>
            rw [(windowStep_checked_iff.mp hstep).2] at hsame
            exact absurd rfl hsame
        | recorded other later =>
            rw [(windowStep_recorded_iff.mp hstep).2] at hsame
            exact absurd rfl hsame
        | cleared other =>
            rw [windowStep_cleared_iff.mp hstep] at hsame
            exact absurd rfl hsame

theorem deadline_of_windowStep {act : WindowAct} {next : WindowState}
    (hstep : windowStep retry state act = some next) :
    next.deadline = (act.write retry).getD state.deadline := by
  cases act with
  | checked flow now tried =>
      rw [(windowStep_checked_iff.mp hstep).2]
      rfl
  | observed flow now =>
      rw [(windowStep_observed_iff.mp hstep).2]
      rfl
  | recorded flow observed =>
      rw [(windowStep_recorded_iff.mp hstep).2]
      rfl
  | cleared flow =>
      rw [windowStep_cleared_iff.mp hstep]
      rfl

/-- The deadline is the one written last, or else the one at the start. -/
theorem latest_write (hrun : Execution (windowStep retry) start trace final) :
    (final.deadline = start.deadline ∧
      ∀ act ∈ trace.map Transition.event, act.write retry = none) ∨
    ∃ before act between,
      trace.map Transition.event = before ++ act :: between ∧
        act.write retry = some final.deadline ∧
        ∀ later ∈ between, later.write retry = none := by
  induction hrun with
  | nil => exact .inl ⟨rfl, nofun⟩
  | @snoc trace state next act hrun hstep ih =>
      have hdeadline := deadline_of_windowStep hstep
      rw [List.map_append, List.map_singleton]
      cases hwrite : act.write retry with
      | some deadline =>
          rw [hwrite, Option.getD_some] at hdeadline
          exact .inr ⟨trace.map Transition.event, act, [], rfl,
            hdeadline ▸ hwrite, nofun⟩
      | none =>
          rw [hwrite, Option.getD_none] at hdeadline
          rw [hdeadline]
          cases ih with
          | inl hquiet =>
              refine .inl ⟨hquiet.1, fun other hother => ?_⟩
              rw [List.mem_append, List.mem_singleton] at hother
              exact hother.elim (hquiet.2 other) fun heq => heq ▸ hwrite
          | inr hlast =>
              obtain ⟨before, last, between, htrace, hlast, hquiet⟩ := hlast
              refine .inr ⟨before, last, between ++ [act], by simp [htrace], hlast,
                fun other hother => ?_⟩
              rw [List.mem_append, List.mem_singleton] at hother
              exact hother.elim (hquiet other) fun heq => heq ▸ hwrite

theorem noRecord_of_write {acts : List WindowAct}
    (hquiet : ∀ act ∈ acts, act.write retry = none) : NoRecord acts := by
  intro flow observed hmem
  cases hquiet _ hmem

/-- A history with an act singled out, and the execution around it. -/
theorem WindowHistory.split {log before after : List WindowAct} {act : WindowAct}
    (hhistory : WindowHistory retry log) (hlog : log = before ++ act :: after) :
    ∃ now trace pre post, Execution (windowStep retry) (WindowState.new now) trace pre ∧
      windowStep retry pre act = some post ∧ trace.map Transition.event = before := by
  obtain ⟨now, trace, final, hrun, hevents⟩ := hhistory
  rw [hlog, List.map_eq_append_iff] at hevents
  obtain ⟨first, second, rfl, hfirst, hsecond⟩ := hevents
  obtain ⟨tr, rest, rfl, htr, -⟩ := List.map_eq_cons_iff.mp hsecond
  obtain ⟨hbefore, hstep, -⟩ := execution_split_iff.mp hrun
  exact ⟨now, first, tr.pre, tr.post, hbefore, htr ▸ hstep, hfirst⟩

end Histories

/-! ## The law and the overtaken writes -/

section Law

variable {retry : ℕ} {log : List WindowAct}

/-- What is recorded was observed before. -/
theorem observed_mem_of_recorded (hhistory : WindowHistory retry log)
    {before after : List WindowAct} {flow : FlowId} {observed : Time}
    (hlog : log = before ++ .recorded flow observed :: after) :
    .observed flow observed ∈ before := by
  obtain ⟨now, trace, pre, post, hrun, hstep, hevents⟩ := hhistory.split hlog
  obtain ⟨hobserved, -⟩ := windowStep_recorded_iff.mp hstep
  rw [← hevents]
  exact (mem_of_observations (fun _ => rfl) hrun hobserved).2

/-- An open that reads the clock after a write reads no less than the writer. -/
theorem observed_le_of_recorded (hhistory : WindowHistory retry log)
    {before between after : List WindowAct} {flow other : FlowId} {observed later : Time}
    (hlog : log = before ++ .recorded flow observed :: between ++
      .observed other later :: after) : observed ≤ later := by
  obtain ⟨now, trace, state, next, hrun, hstep, hevents⟩ := hhistory.split hlog
  obtain ⟨hlater, -⟩ := windowStep_observed_iff.mp hstep
  rw [List.map_eq_append_iff] at hevents
  obtain ⟨first, second, rfl, -, hsecond⟩ := hevents
  obtain ⟨tr, rest, rfl, htr, -⟩ := List.map_eq_cons_iff.mp hsecond
  obtain ⟨hbefore, hrecord, hrest⟩ := execution_split_iff.mp hrun
  rw [htr, windowStep_recorded_iff] at hrecord
  obtain ⟨hobserved, hpost⟩ := hrecord
  calc
    observed ≤ tr.pre.now := (mem_of_observations (fun _ => rfl) hbefore hobserved).1
    _ = tr.post.now := by rw [hpost]
    _ ≤ state.now := hrest.monotone now_le_of_windowStep
    _ ≤ later := hlater

/-- Between two writes of a log without overtaking only a clear turns the
deadline back. -/
theorem observed_le_of_notOvertaken (hhistory : WindowHistory retry log)
    (horder : NotOvertaken log)
    {before between after : List WindowAct} {flow other : FlowId} {observed later : Time}
    (hlog : log = before ++ .recorded flow observed :: between ++
      .recorded other later :: after)
    (hclear : NoClear between) : observed ≤ later := by
  have hmem := observed_mem_of_recorded hhistory hlog
  rw [List.mem_append, List.mem_cons] at hmem
  rcases hmem with hbefore | heq | hbetween
  · -- the writer was waiting when the other wrote
    obtain ⟨first, second, rfl⟩ := List.append_of_mem hbefore
    exact horder first other later second flow observed between after
      (by simpa using hlog) hclear
  · cases heq
  · obtain ⟨first, second, rfl⟩ := List.append_of_mem hbetween
    have hread : log = before ++ .recorded flow observed :: first ++
        .observed other later :: (second ++ .recorded other later :: after) := by
      simpa using hlog
    exact observed_le_of_recorded hhistory hread

/-- The deadline that a check finds: none, or that of the latest write. -/
theorem tried_of_checked (hhistory : WindowHistory retry log)
    {before after : List WindowAct} {flow : FlowId} {now : Time} {tried : FlowTransport}
    (hlog : log = before ++ .checked flow now tried :: after) :
    (tried = .quic ∧ ∀ act ∈ before, act.write retry = none) ∨
    ∃ earlier act deadline between, before = earlier ++ act :: between ∧
      act.write retry = some deadline ∧ (∀ later ∈ between, later.write retry = none) ∧
      tried = transportAt deadline now := by
  obtain ⟨start, trace, pre, post, hrun, hstep, hevents⟩ := hhistory.split hlog
  obtain ⟨⟨-, htried⟩, -⟩ := windowStep_checked_iff.mp hstep
  have hlatest := latest_write hrun
  rw [hevents] at hlatest
  cases hlatest with
  | inl hquiet =>
      rw [hquiet.1] at htried
      exact .inl ⟨htried, hquiet.2⟩
  | inr hlast =>
      obtain ⟨earlier, act, between, hbefore, hwrite, hquiet⟩ := hlast
      exact .inr ⟨earlier, act, pre.deadline, between, hbefore, hwrite, hquiet, htried⟩

/-- The latest write of a list that ends in a write and some acts after it is
that write or one of the acts. -/
theorem latest_of_split {earlier tail before between : List WindowAct}
    {latest act : WindowAct}
    (hsplit : before ++ act :: between = earlier ++ latest :: tail)
    (hwrite : act.write retry ≠ none) (hquiet : ∀ later ∈ tail, later.write retry = none) :
    latest = act ∨ ∃ middle, between = middle ++ latest :: tail := by
  rw [List.append_eq_append_iff] at hsplit
  cases hsplit with
  | inl hlonger =>
      obtain ⟨rest, -, hrest⟩ := hlonger
      cases rest with
      | nil =>
          cases hrest
          exact .inl rfl
      | cons head middle =>
          cases hrest
          exact .inr ⟨middle, rfl⟩
  | inr hshorter =>
      obtain ⟨rest, -, hrest⟩ := hshorter
      cases rest with
      | nil =>
          cases hrest
          exact .inl rfl
      | cons head middle =>
          cases hrest
          exact absurd (hquiet act (by simp)) hwrite

theorem transportAt_some {deadline now : Time} :
    transportAt (some deadline) now = .grpc ↔ now < deadline := by
  simp [transportAt]

/-- The window keeps its law exactly when no write is overtaken. -/
theorem windowLaw_iff (hhistory : WindowHistory retry log) :
    WindowLaw retry log ↔ NotOvertaken log := by
  constructor
  · intro hlaw before flow observed waiting other later between after hlog hclear
    have hle := hlaw.advances (before ++ .observed flow observed :: waiting) other later
      between flow observed after hlog hclear
    exact Nat.le_of_add_le_add_right hle
  · intro horder
    refine ⟨?_, ?_, ?_⟩
    · intro before flow observed between other now tried after hlog hclear hnow
      cases tried_of_checked hhistory hlog with
      | inl hquiet => cases hquiet.2 (.recorded flow observed) (by simp)
      | inr hlatest =>
          obtain ⟨earlier, latest, deadline, tail, hsplit, hwrite, hquiet, rfl⟩ := hlatest
          cases latest_of_split hsplit (by simp [WindowAct.write]) hquiet with
          | inl heq =>
              subst heq
              cases hwrite
              exact transportAt_some.mpr hnow
          | inr hbetween =>
              obtain ⟨middle, rfl⟩ := hbetween
              cases latest with
              | recorded writer later =>
                  cases hwrite
                  have hle : observed ≤ later :=
                    observed_le_of_notOvertaken hhistory horder
                      (show log = before ++ .recorded flow observed :: middle ++
                        .recorded writer later ::
                          (tail ++ .checked other now _ :: after) by simpa using hlog)
                      fun clearer hmem => hclear clearer (by simp [hmem])
                  exact transportAt_some.mpr
                    (lt_of_lt_of_le hnow (Nat.add_le_add_right hle retry))
              | cleared clearer => exact absurd (by simp) (hclear clearer)
              | checked _ _ _ => cases hwrite
              | observed _ _ => cases hwrite
    · intro before other now tried after hlog hexpired
      cases tried_of_checked hhistory hlog with
      | inl hquiet => exact hquiet.1
      | inr hlatest =>
          obtain ⟨earlier, latest, deadline, tail, rfl, hwrite, hquiet, rfl⟩ := hlatest
          cases latest with
          | recorded writer observed =>
              cases hwrite
              have hle := hexpired earlier writer observed tail rfl
                (noRecord_of_write hquiet)
              simp only [transportAt, Option.any_some, decide_eq_true_eq]
              exact if_neg (Nat.not_lt.mpr hle)
          | cleared clearer =>
              cases hwrite
              rfl
          | checked _ _ _ => cases hwrite
          | observed _ _ => cases hwrite
    · intro before flow observed between other later after hlog hclear
      exact Nat.add_le_add_right
        (observed_le_of_notOvertaken hhistory horder hlog hclear) retry

end Law

end VpnBridge.Client
