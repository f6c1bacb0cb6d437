import Mathlib.Data.List.Forall2
import Mathlib.Data.List.Induction
import Mathlib.Order.Defs.PartialOrder

/-!
# Transition systems

A system whose parties interleave is a partial step function on states: it
refuses the events that cannot happen.  An execution is a list of transitions,
each with the states around it, so a statement about a run can speak of the
state in which something happened.
-/

namespace VpnBridge.TransitionSystem

structure Transition (State Event : Type) where
  pre : State
  event : Event
  post : State

/-- `Execution step start trace final`: the transitions of `trace` lead from
`start` to `final`. -/
inductive Execution {State Event : Type} (step : State → Event → Option State)
    (start : State) : List (Transition State Event) → State → Prop where
  | nil : Execution step start [] start
  | snoc {trace : List (Transition State Event)} {state next : State} {event : Event}
      (hrun : Execution step start trace state) (hstep : step state event = some next) :
      Execution step start (trace ++ [⟨state, event, next⟩]) next

section Executions

variable {State Event : Type} {step : State → Event → Option State}
variable {start middle final : State} {first second : List (Transition State Event)}

namespace Execution

theorem append (hfirst : Execution step start first middle)
    (hsecond : Execution step middle second final) :
    Execution step start (first ++ second) final := by
  induction hsecond with
  | nil =>
      rw [List.append_nil]
      exact hfirst
  | snoc hrun hstep ih =>
      rw [← List.append_assoc]
      exact .snoc ih hstep

theorem single {event : Event} (hstep : step start event = some final) :
    Execution step start [⟨start, event, final⟩] final :=
  .snoc .nil hstep

end Execution

@[simp]
theorem execution_nil_iff : Execution step start [] final ↔ final = start := by
  constructor
  · intro hrun
    generalize htrace : ([] : List (Transition State Event)) = trace at hrun
    cases hrun with
    | nil => rfl
    | snoc hrun hstep => simp at htrace
  · intro heq
    rw [heq]
    exact .nil

/-- The last transition of an execution. -/
theorem execution_snoc_iff {trace : List (Transition State Event)}
    {last : Transition State Event} :
    Execution step start (trace ++ [last]) final ↔
      Execution step start trace last.pre ∧
        step last.pre last.event = some last.post ∧ final = last.post := by
  constructor
  · intro hrun
    generalize htrace : trace ++ [last] = whole at hrun
    cases hrun with
    | nil => simp at htrace
    | snoc hrun hstep =>
        obtain ⟨rfl, hlast⟩ := List.append_inj' htrace rfl
        cases hlast
        exact ⟨hrun, hstep, rfl⟩
  · rintro ⟨hrun, hstep, rfl⟩
    exact .snoc hrun hstep

/-- An execution is one part followed by the other. -/
theorem execution_append_iff :
    Execution step start (first ++ second) final ↔
      ∃ middle, Execution step start first middle ∧
        Execution step middle second final := by
  constructor
  · induction second using List.reverseRecOn generalizing final with
    | nil =>
        intro hrun
        rw [List.append_nil] at hrun
        exact ⟨final, hrun, .nil⟩
    | append_singleton second last ih =>
        intro hrun
        rw [← List.append_assoc, execution_snoc_iff] at hrun
        obtain ⟨hrun, hstep, rfl⟩ := hrun
        obtain ⟨middle, hfirst, hsecond⟩ := ih hrun
        exact ⟨middle, hfirst, .snoc hsecond hstep⟩
  · rintro ⟨middle, hfirst, hsecond⟩
    exact hfirst.append hsecond

/-- The first transition of an execution. -/
theorem execution_cons_iff {head : Transition State Event} :
    Execution step start (head :: second) final ↔
      head.pre = start ∧ step head.pre head.event = some head.post ∧
        Execution step head.post second final := by
  rw [← List.singleton_append, execution_append_iff]
  constructor
  · rintro ⟨middle, hhead, hsecond⟩
    rw [← List.nil_append [head], execution_snoc_iff, execution_nil_iff] at hhead
    obtain ⟨hpre, hstep, rfl⟩ := hhead
    exact ⟨hpre, hstep, hsecond⟩
  · rintro ⟨rfl, hstep, hsecond⟩
    exact ⟨head.post, .single hstep, hsecond⟩

/-- An execution around one of its transitions. -/
theorem execution_split_iff {tr : Transition State Event} :
    Execution step start (first ++ tr :: second) final ↔
      Execution step start first tr.pre ∧ step tr.pre tr.event = some tr.post ∧
        Execution step tr.post second final := by
  rw [execution_append_iff]
  constructor
  · rintro ⟨middle, hfirst, hrest⟩
    obtain ⟨rfl, hstep, hsecond⟩ := execution_cons_iff.mp hrest
    exact ⟨hfirst, hstep, hsecond⟩
  · rintro ⟨hfirst, hstep, hsecond⟩
    exact ⟨tr.pre, hfirst, execution_cons_iff.mpr ⟨rfl, hstep, hsecond⟩⟩

namespace Execution

variable {trace : List (Transition State Event)}

theorem step_of_mem {tr : Transition State Event} (hrun : Execution step start trace final)
    (hmem : tr ∈ trace) : step tr.pre tr.event = some tr.post := by
  obtain ⟨before, after, rfl⟩ := List.append_of_mem hmem
  exact (execution_split_iff.mp hrun).2.1

/-- Of two transitions of an execution one comes first. -/
theorem ordered {left right : Transition State Event}
    (hrun : Execution step start trace final) (hleft : left ∈ trace) (hright : right ∈ trace) :
    left = right ∨
      (∃ between, between ⊆ trace ∧ Execution step left.post between right.pre) ∨
        ∃ between, between ⊆ trace ∧ Execution step right.post between left.pre := by
  obtain ⟨before, after, rfl⟩ := List.append_of_mem hleft
  obtain ⟨hbefore, -, hafter⟩ := execution_split_iff.mp hrun
  rw [List.mem_append, List.mem_cons] at hright
  rcases hright with hright | heq | hright
  · obtain ⟨first, second, rfl⟩ := List.append_of_mem hright
    exact .inr (.inr ⟨second, fun _ hmem => by simp [hmem], (execution_split_iff.mp hbefore).2.2⟩)
  · exact .inl heq.symm
  · obtain ⟨first, second, rfl⟩ := List.append_of_mem hright
    exact .inr (.inl ⟨first, fun _ hmem => by simp [hmem], (execution_split_iff.mp hafter).1⟩)

/-- What the transitions of an execution preserve holds after it. -/
theorem preserved (property : State → Prop) (hrun : Execution step start trace final)
    (hpreserved : ∀ tr ∈ trace, step tr.pre tr.event = some tr.post →
      property tr.pre → property tr.post)
    (hstart : property start) : property final := by
  induction hrun with
  | nil => exact hstart
  | snoc hrun hstep ih =>
      rw [List.forall_mem_append, List.forall_mem_singleton] at hpreserved
      exact hpreserved.2 hstep (ih hpreserved.1)

/-- What the transitions of an execution preserve holds on both sides of each. -/
theorem preserved_of_mem (property : State → Prop) (hrun : Execution step start trace final)
    (hpreserved : ∀ tr ∈ trace, step tr.pre tr.event = some tr.post →
      property tr.pre → property tr.post)
    (hstart : property start) {tr : Transition State Event} (hmem : tr ∈ trace) :
    property tr.pre ∧ property tr.post := by
  obtain ⟨before, after, rfl⟩ := List.append_of_mem hmem
  obtain ⟨hbefore, hstep, -⟩ := execution_split_iff.mp hrun
  have hpre : property tr.pre := hbefore.preserved property
    (fun other hother => hpreserved other (List.mem_append_left _ hother)) hstart
  exact ⟨hpre, hpreserved tr hmem hstep hpre⟩

/-- What every step preserves holds after every execution. -/
theorem invariant {property : State → Prop}
    (hpreserved : ∀ {state event next}, step state event = some next →
      property state → property next)
    (hrun : Execution step start trace final) (hstart : property start) :
    property final :=
  hrun.preserved property (fun _ _ hstep hpre => hpreserved hstep hpre) hstart

/-- A step-preserved property holds on both sides of every transition. -/
theorem invariant_of_mem {property : State → Prop}
    (hpreserved : ∀ {state event next}, step state event = some next →
      property state → property next)
    (hrun : Execution step start trace final) (hstart : property start)
    {tr : Transition State Event} (hmem : tr ∈ trace) :
    property tr.pre ∧ property tr.post :=
  hrun.preserved_of_mem property (fun _ _ hstep hpre => hpreserved hstep hpre) hstart hmem

/-- A quantity that no step decreases is at least as large at the end. -/
theorem monotone {Value : Type} [Preorder Value] {measure : State → Value}
    (hstep : ∀ {state event next}, step state event = some next →
      measure state ≤ measure next)
    (hrun : Execution step start trace final) : measure start ≤ measure final := by
  induction hrun with
  | nil => exact le_refl _
  | snoc hrun hlast ih => exact le_trans ih (hstep hlast)

/-- If something holds at the end but not at the start, some transition of the
execution made it hold. -/
theorem exists_first (property : State → Prop)
    (hrun : Execution step start trace final)
    (hstart : ¬ property start) (hfinal : property final) :
    ∃ before tr after, trace = before ++ tr :: after ∧
      ¬ property tr.pre ∧ property tr.post := by
  induction hrun with
  | nil => exact absurd hfinal hstart
  | @snoc trace state next event hrun hstep ih =>
      by_cases hstate : property state
      · obtain ⟨before, tr, after, rfl, hpre, hpost⟩ := ih hstate
        exact ⟨before, tr, after ++ [⟨state, event, next⟩], by simp, hpre, hpost⟩
      · exact ⟨trace, ⟨state, event, next⟩, [], rfl, hstate, hfinal⟩

end Execution

end Executions

/-! ## Replay -/

section Replay

variable {State Event : Type}

/-- Run a list of events, recording the transitions. -/
def replay (step : State → Event → Option State) :
    State → List Event → Option (List (Transition State Event) × State)
  | state, [] => some ([], state)
  | state, event :: events =>
      (step state event).bind fun next =>
        (replay step next events).map fun rest =>
          (⟨state, event, next⟩ :: rest.1, rest.2)

theorem execution_of_replay {step : State → Event → Option State} {start final : State}
    {events : List Event} {trace : List (Transition State Event)}
    (hreplay : replay step start events = some (trace, final)) :
    Execution step start trace final := by
  induction events generalizing start trace with
  | nil =>
      cases hreplay
      exact .nil
  | cons event events ih =>
      rw [replay, Option.bind_eq_some_iff] at hreplay
      obtain ⟨next, hstep, hreplay⟩ := hreplay
      obtain ⟨rest, hrest, heq⟩ := Option.map_eq_some_iff.mp hreplay
      cases heq
      exact execution_cons_iff.mpr ⟨rfl, hstep, ih hrest⟩

theorem events_of_replay {step : State → Event → Option State} {start final : State}
    {events : List Event} {trace : List (Transition State Event)}
    (hreplay : replay step start events = some (trace, final)) :
    trace.map Transition.event = events := by
  induction events generalizing start trace with
  | nil =>
      cases hreplay
      rfl
  | cons event events ih =>
      rw [replay, Option.bind_eq_some_iff] at hreplay
      obtain ⟨next, hstep, hreplay⟩ := hreplay
      obtain ⟨rest, hrest, heq⟩ := Option.map_eq_some_iff.mp hreplay
      cases heq
      rw [List.map_cons, ih hrest]

end Replay

/-! ## Simulation -/

section Simulation

variable {State Event State' Event' : Type}
variable {step : State → Event → Option State} {step' : State' → Event' → Option State'}

/-- Forward simulation, a transition being answered by any number of them.  The
premise sees where in the execution the transition stands, so it may use what
happens later. -/
theorem Execution.simulate {start final : State} {start' : State'}
    {trace : List (Transition State Event)}
    {related : State → State' → Prop}
    {answers : Transition State Event → List (Transition State' Event') → Prop}
    (hrun : Execution step start trace final) (hstart : related start start')
    (hstep : ∀ before tr after, trace = before ++ tr :: after →
      ∀ state', related tr.pre state' →
        ∃ piece next', Execution step' state' piece next' ∧
          related tr.post next' ∧ answers tr piece) :
    ∃ pieces final', Execution step' start' pieces.flatten final' ∧
      related final final' ∧ List.Forall₂ answers trace pieces := by
  induction hrun with
  | nil => exact ⟨[], start', .nil, hstart, .nil⟩
  | @snoc trace state next event hrun hlast ih =>
      obtain ⟨pieces, state', hrun', hrelated, hpieces⟩ :=
        ih fun before tr after htrace =>
          hstep before tr (after ++ [⟨state, event, next⟩]) (by simp [htrace])
      obtain ⟨piece, next', hpiece, hnext, hanswer⟩ :=
        hstep trace ⟨state, event, next⟩ [] rfl state' hrelated
      refine ⟨pieces ++ [piece], next', ?_, hnext, ?_⟩
      · rw [List.flatten_append, List.flatten_singleton]
        exact hrun'.append hpiece
      · exact List.rel_append hpieces (.cons hanswer .nil)

end Simulation

end VpnBridge.TransitionSystem
