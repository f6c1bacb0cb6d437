import VpnBridge.Core.Pool
import VpnBridge.Core.TransitionSystem

/-!
# Systems that spawn tasks

A system whose steps spawn tasks and let the spawned ones go on, next to whatever
else they do.  Each of its tasks follows the program that it was spawned with through
its own events, in whatever order the steps come.
-/

namespace VpnBridge.Interaction

open VpnBridge.TransitionSystem

variable {Op : Type} {Answer : Op → Type} {A State Input : Type}

/-- An unfinished run can be finished. -/
theorem Follows.exists_runs (environment : (op : Op) → Answer op)
    {program rest : Prog Op Answer A} {events : List (Event Answer)}
    (hfollows : Follows program events rest) :
    ∃ later value, Runs program (events ++ later) value := by
  induction hfollows with
  | start program =>
      obtain ⟨trace, value, hruns, -⟩ := VpnBridge.Interaction.exists_runs environment program
      exact ⟨trace, value, hruns⟩
  | call hnext ih =>
      obtain ⟨later, value, hruns⟩ := ih
      exact ⟨later, value, .call hruns⟩

/-- The events of a task that was spawned are those of an unfinished run of its program. -/
theorem Explained.exists_follows {programs tasks : List (Prog Op Answer A)}
    {log : List (ℕ × Event Answer)} (hexplained : Explained programs log tasks) (id : ℕ) :
    eventsOf id log = [] ∨
      ∃ program ∈ programs, ∃ rest, Follows program (eventsOf id log) rest := by
  rcases Nat.lt_or_ge id programs.length with hknown | hunknown
  · have hprogram := List.getElem?_eq_getElem hknown
    have hrest := List.getElem?_eq_getElem (hexplained.length ▸ hknown : id < tasks.length)
    exact .inr ⟨_, List.mem_of_getElem? hprogram, _,
      hexplained.follows id _ _ hprogram hrest⟩
  · refine .inl ?_
    rw [eventsOf, List.filterMap_eq_nil_iff]
    intro entry hentry
    exact if_neg (Nat.ne_of_lt (Nat.lt_of_lt_of_le (hexplained.known entry hentry) hunknown))

variable [DecidableEq Op]

/-- `Tends tasks spawned did next`: one step leaves the tasks alone, adds one, or lets one
of them go on. -/
inductive Tends (tasks : List (Prog Op Answer A)) :
    List (Prog Op Answer A) → List (ℕ × Event Answer) → List (Prog Op Answer A) → Prop where
  | keep : Tends tasks [] [] tasks
  | spawn (program : Prog Op Answer A) : Tends tasks [program] [] (tasks ++ [program])
  | advance {id : ℕ} {event : Event Answer} {next : List (Prog Op Answer A)}
      (hadvance : advanceAt tasks id event = some next) : Tends tasks [] [(id, event)] next

theorem Explained.tends {programs tasks next spawned : List (Prog Op Answer A)}
    {log did : List (ℕ × Event Answer)} (hexplained : Explained programs log tasks)
    (htends : Tends tasks spawned did next) :
    Explained (programs ++ spawned) (log ++ did) next := by
  cases htends with
  | keep =>
      rw [List.append_nil, List.append_nil]
      exact hexplained
  | spawn program =>
      rw [List.append_nil]
      exact hexplained.spawn program
  | advance hadvance =>
      rw [List.append_nil]
      exact hexplained.advance hadvance

/-- Every task of the system follows what it was spawned with. -/
theorem explained_of_execution {step : State → Input → Option State}
    {tasks : State → List (Prog Op Answer A)} {spawned : Input → List (Prog Op Answer A)}
    {did : Input → List (ℕ × Event Answer)}
    (htends : ∀ state input next, step state input = some next →
      Tends (tasks state) (spawned input) (did input) (tasks next))
    {start final : State} {trace : List (Transition State Input)} (hstart : tasks start = [])
    (hrun : Execution step start trace final) :
    Explained ((trace.map Transition.event).flatMap spawned)
      ((trace.map Transition.event).flatMap did) (tasks final) := by
  induction hrun with
  | nil =>
      rw [hstart]
      exact .nil
  | snoc hrun hstep ih =>
      rw [List.map_append, List.flatMap_append, List.flatMap_append, List.map_singleton,
        List.flatMap_singleton, List.flatMap_singleton]
      exact ih.tends (htends _ _ _ hstep)

end VpnBridge.Interaction
