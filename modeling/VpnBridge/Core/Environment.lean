import VpnBridge.Core.Interaction
import VpnBridge.Core.TransitionSystem

/-!
# Programs against an environment with a state

`Runs` lets every operation of a program be answered in any way.  When the
answers come from something that has a state of its own, a run of the program is
also an execution of that environment: each answer has to be one that the
environment can give in its state, and moves it to the next one.
-/

namespace VpnBridge.Interaction

open VpnBridge.TransitionSystem

variable {Op : Type} {Answer : Op → Type} {A B State : Type}
variable {step : State → Event Answer → Option State} {start final : State}
variable {trace : List (Transition State (Event Answer))}

/-- `RunsOn step program start trace final value`: from the state `start`, the
environment `step` answers the operations of `program` as in `trace`, which
leaves it in `final` and the program with `value`. -/
def RunsOn (step : State → Event Answer → Option State) (program : Prog Op Answer A)
    (start : State) (trace : List (Transition State (Event Answer))) (final : State)
    (value : A) : Prop :=
  Execution step start trace final ∧ Runs program (trace.map Transition.event) value

@[simp]
theorem runsOn_pure_iff {value result : A} :
    RunsOn step (pure value) start trace final result ↔
      trace = [] ∧ final = start ∧ result = value := by
  rw [RunsOn, runs_pure_iff, List.map_eq_nil_iff]
  constructor
  · rintro ⟨hrun, rfl, rfl⟩
    exact ⟨rfl, execution_nil_iff.mp hrun, rfl⟩
  · rintro ⟨rfl, rfl, rfl⟩
    exact ⟨.nil, rfl, rfl⟩

theorem runsOn_perform_iff {op : Op} {answer : Answer op} :
    RunsOn step (Prog.perform op) start trace final answer ↔
      step start ⟨op, answer⟩ = some final ∧ trace = [⟨start, ⟨op, answer⟩, final⟩] := by
  rw [RunsOn, runs_perform_iff, List.map_eq_singleton_iff]
  constructor
  · rintro ⟨hrun, ⟨pre, event, post⟩, rfl, rfl⟩
    obtain ⟨hpre, hstep, hrest⟩ := execution_cons_iff.mp hrun
    cases hpre
    obtain rfl := execution_nil_iff.mp hrest
    exact ⟨hstep, rfl⟩
  · rintro ⟨hstep, rfl⟩
    exact ⟨.single hstep, _, rfl, rfl⟩

/-- A program that starts with one operation. -/
theorem runsOn_perform_bind_iff {op : Op} {next : Answer op → Prog Op Answer B}
    {result : B} :
    RunsOn step (Prog.perform op >>= next) start trace final result ↔
      ∃ answer middle rest, trace = ⟨start, ⟨op, answer⟩, middle⟩ :: rest ∧
        step start ⟨op, answer⟩ = some middle ∧
          RunsOn step (next answer) middle rest final result := by
  rw [RunsOn, runs_perform_bind_iff]
  constructor
  · rintro ⟨hrun, answer, events, hevents, hnext⟩
    obtain ⟨tr, rest, rfl, htr, rfl⟩ := List.map_eq_cons_iff.mp hevents
    obtain ⟨rfl, hstep, hrest⟩ := execution_cons_iff.mp hrun
    obtain ⟨pre, event, post⟩ := tr
    cases htr
    exact ⟨answer, post, rest, rfl, hstep, hrest, hnext⟩
  · rintro ⟨answer, middle, rest, rfl, hstep, hrest, hnext⟩
    exact ⟨execution_cons_iff.mpr ⟨rfl, hstep, hrest⟩, answer, _, rfl, hnext⟩

/-- The runs of a sequence are the runs of its parts, one after the other. -/
theorem runsOn_bind_iff {program : Prog Op Answer A} {next : A → Prog Op Answer B}
    {result : B} :
    RunsOn step (program >>= next) start trace final result ↔
      ∃ value middle first second, trace = first ++ second ∧
        RunsOn step program start first middle value ∧
          RunsOn step (next value) middle second final result := by
  rw [RunsOn, runs_bind_iff]
  constructor
  · rintro ⟨hrun, value, firstEvents, secondEvents, hevents, hprogram, hnext⟩
    obtain ⟨first, second, rfl, rfl, rfl⟩ := List.map_eq_append_iff.mp hevents
    obtain ⟨middle, hfirst, hsecond⟩ := execution_append_iff.mp hrun
    exact ⟨value, middle, first, second, rfl, ⟨hfirst, hprogram⟩, hsecond, hnext⟩
  · rintro ⟨value, middle, first, second, rfl, ⟨hfirst, hprogram⟩, hsecond, hnext⟩
    exact ⟨hfirst.append hsecond, value, _, _, List.map_append, hprogram, hnext⟩

theorem runsOn_of_replay [DecidableEq Op] {program : Prog Op Answer A}
    {events : List (Event Answer)} {value : A}
    (hfollow : program.follow events = some value)
    (hreplay : replay step start events = some (trace, final)) :
    RunsOn step program start trace final value :=
  ⟨execution_of_replay hreplay, events_of_replay hreplay ▸ runs_of_follow hfollow⟩

end VpnBridge.Interaction
