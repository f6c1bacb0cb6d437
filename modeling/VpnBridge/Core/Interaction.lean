import Mathlib.Data.List.Basic

/-!
# Interactive programs

A task that talks to its environment is a program tree: it returns, or issues
an operation and continues with whatever answer comes back.  A run is the list
of operations issued with the answers they got.  `Runs` collects the runs for
every possible environment.
-/

namespace VpnBridge.Interaction

variable {Op : Type} {Answer : Op → Type} {A B Failure : Type}

inductive Prog (Op : Type) (Answer : Op → Type) (A : Type) where
  | done (value : A)
  | call (op : Op) (next : Answer op → Prog Op Answer A)

/-- An operation together with the answer it got. -/
abbrev Event (Answer : Op → Type) := Sigma Answer

/-- The outcome of a wait under a timer. -/
inductive Timed (A : Type) where
  | ready (value : A)
  | elapsed

/-- A wait whose timer ends what it is part of. -/
def Timed.toExcept : Timed A → Except Unit A
  | .ready value => .ok value
  | .elapsed => .error ()

namespace Prog

def bind (program : Prog Op Answer A) (next : A → Prog Op Answer B) :
    Prog Op Answer B :=
  match program with
  | .done value => next value
  | .call op resume => .call op fun answer => (resume answer).bind next

instance : Monad (Prog Op Answer) where
  pure := .done
  bind := bind

/-- Issue one operation and return its answer. -/
def perform (op : Op) : Prog Op Answer (Answer op) :=
  .call op .done

end Prog

/-- `Runs program trace value`: some environment answers the operations of
`program` as in `trace`, after which it returns `value`. -/
inductive Runs : Prog Op Answer A → List (Event Answer) → A → Prop where
  | done (value : A) : Runs (.done value) [] value
  | call {op : Op} {next : Answer op → Prog Op Answer A} {answer : Answer op}
      {trace : List (Event Answer)} {value : A}
      (hnext : Runs (next answer) trace value) :
      Runs (.call op next) (⟨op, answer⟩ :: trace) value

/-- Every program has a run against an environment that answers each operation
alike. -/
theorem exists_runs (environment : (op : Op) → Answer op) (program : Prog Op Answer A) :
    ∃ trace value, Runs program trace value ∧
      ∀ event ∈ trace, event.2 = environment event.1 := by
  induction program with
  | done value => exact ⟨[], value, .done value, nofun⟩
  | call op next ih =>
      obtain ⟨trace, value, hruns, hanswers⟩ := ih (environment op)
      exact ⟨⟨op, environment op⟩ :: trace, value, .call hruns,
        List.forall_mem_cons.mpr ⟨rfl, hanswers⟩⟩

/-- The value that a program returns when it is answered as in a list of events, if
these are the operations it issues. -/
def Prog.follow [DecidableEq Op] : Prog Op Answer A → List (Event Answer) → Option A
  | .done value, [] => some value
  | .done _, _ :: _ => none
  | .call _ _, [] => none
  | .call op next, event :: events =>
      if hop : event.1 = op then (next (hop ▸ event.2)).follow events else none

theorem runs_of_follow [DecidableEq Op] {program : Prog Op Answer A}
    {events : List (Event Answer)} {value : A}
    (hfollow : program.follow events = some value) : Runs program events value := by
  induction program generalizing events with
  | done result =>
      cases events with
      | nil =>
          cases hfollow
          exact .done value
      | cons event events => cases hfollow
  | call op next ih =>
      cases events with
      | nil => cases hfollow
      | cons event events =>
          obtain ⟨op', answer⟩ := event
          rw [Prog.follow, Option.dite_none_right_eq_some] at hfollow
          obtain ⟨rfl, hfollow⟩ := hfollow
          exact .call (ih answer hfollow)

/-! ## Runs of composed programs -/

@[simp]
theorem runs_done_iff {value result : A} {trace : List (Event Answer)} :
    Runs (.done value : Prog Op Answer A) trace result ↔
      trace = [] ∧ result = value := by
  constructor
  · intro hruns
    cases hruns
    exact ⟨rfl, rfl⟩
  · rintro ⟨rfl, rfl⟩
    exact .done _

@[simp]
theorem runs_pure_iff {value result : A} {trace : List (Event Answer)} :
    Runs (pure value : Prog Op Answer A) trace result ↔
      trace = [] ∧ result = value :=
  runs_done_iff

theorem runs_call_iff {op : Op} {next : Answer op → Prog Op Answer A}
    {trace : List (Event Answer)} {result : A} :
    Runs (.call op next) trace result ↔
      ∃ answer rest, trace = ⟨op, answer⟩ :: rest ∧
        Runs (next answer) rest result := by
  constructor
  · intro hruns
    cases hruns with
    | call hnext => exact ⟨_, _, rfl, hnext⟩
  · rintro ⟨answer, rest, rfl, hnext⟩
    exact .call hnext

@[simp]
theorem runs_perform_iff {op : Op} {trace : List (Event Answer)}
    {answer : Answer op} :
    Runs (Prog.perform op : Prog Op Answer _) trace answer ↔
      trace = [⟨op, answer⟩] := by
  rw [Prog.perform, runs_call_iff]
  constructor
  · rintro ⟨_, _, rfl, hdone⟩
    obtain ⟨rfl, rfl⟩ := runs_done_iff.mp hdone
    rfl
  · rintro rfl
    exact ⟨answer, [], rfl, .done answer⟩

/-- The runs of a sequence are the runs of its parts, one after the other. -/
theorem runs_bind_iff {program : Prog Op Answer A}
    {next : A → Prog Op Answer B} {trace : List (Event Answer)} {result : B} :
    Runs (program >>= next) trace result ↔
      ∃ value first second, trace = first ++ second ∧
        Runs program first value ∧ Runs (next value) second result := by
  induction program generalizing trace with
  | done value =>
      constructor
      · intro hnext
        exact ⟨value, [], trace, rfl, .done value, hnext⟩
      · rintro ⟨_, _, second, rfl, hdone, hnext⟩
        obtain ⟨rfl, rfl⟩ := runs_done_iff.mp hdone
        exact hnext
  | call op resume ih =>
      change Runs (.call op fun answer => resume answer >>= next) _ _ ↔ _
      rw [runs_call_iff]
      constructor
      · rintro ⟨answer, rest, rfl, hrest⟩
        obtain ⟨value, first, second, rfl, hfirst, hsecond⟩ := (ih answer).mp hrest
        exact ⟨value, _, second, rfl, .call hfirst, hsecond⟩
      · rintro ⟨value, first, second, rfl, hfirst, hsecond⟩
        obtain ⟨answer, rest, rfl, hrest⟩ := runs_call_iff.mp hfirst
        exact ⟨answer, rest ++ second, rfl,
          (ih answer).mpr ⟨value, rest, second, rfl, hrest, hsecond⟩⟩

/-- A sequence that ends with a computation. -/
theorem runs_bind_pure_iff {program : Prog Op Answer A} {convert : A → B}
    {trace : List (Event Answer)} {result : B} :
    Runs (program >>= fun value => pure (convert value)) trace result ↔
      ∃ value, Runs program trace value ∧ result = convert value := by
  rw [runs_bind_iff]
  constructor
  · rintro ⟨value, first, last, rfl, hprogram, hdone⟩
    obtain ⟨rfl, rfl⟩ := runs_done_iff.mp hdone
    exact ⟨value, by rwa [List.append_nil], rfl⟩
  · rintro ⟨value, hprogram, rfl⟩
    exact ⟨value, trace, [], (List.append_nil _).symm, hprogram, .done _⟩

/-- A sequence that starts with one operation. -/
theorem runs_perform_bind_iff {op : Op} {next : Answer op → Prog Op Answer B}
    {trace : List (Event Answer)} {result : B} :
    Runs (Prog.perform op >>= next) trace result ↔
      ∃ answer rest, trace = ⟨op, answer⟩ :: rest ∧ Runs (next answer) rest result :=
  runs_call_iff

/-! ## Programs that may fail

`ExceptT Failure` over programs is the `?` of the program text: a failure ends
the run. -/

@[simp]
theorem runs_run_pure_iff {value : A} {trace : List (Event Answer)}
    {result : Except Failure A} :
    Runs (pure value : ExceptT Failure (Prog Op Answer) A).run trace result ↔
      trace = [] ∧ result = .ok value :=
  runs_done_iff

@[simp]
theorem runs_run_throw_iff {failure : Failure} {trace : List (Event Answer)}
    {result : Except Failure A} :
    Runs (throw failure : ExceptT Failure (Prog Op Answer) A).run trace result ↔
      trace = [] ∧ result = .error failure :=
  runs_done_iff

@[simp]
theorem runs_run_lift_iff {program : Prog Op Answer A}
    {trace : List (Event Answer)} {result : Except Failure A} :
    Runs (ExceptT.lift program : ExceptT Failure (Prog Op Answer) A).run trace result ↔
      ∃ value, result = .ok value ∧ Runs program trace value := by
  change Runs (program >>= fun value => .done (.ok value)) trace result ↔ _
  rw [runs_bind_iff]
  constructor
  · rintro ⟨value, _, _, rfl, hfirst, hdone⟩
    obtain ⟨rfl, rfl⟩ := runs_done_iff.mp hdone
    exact ⟨value, rfl, by rwa [List.append_nil]⟩
  · rintro ⟨value, rfl, hruns⟩
    exact ⟨value, trace, [], (List.append_nil _).symm, hruns, .done _⟩

/-- A fallible sequence stops at the first failure. -/
theorem runs_run_bind_iff {program : ExceptT Failure (Prog Op Answer) A}
    {next : A → ExceptT Failure (Prog Op Answer) B}
    {trace : List (Event Answer)} {result : Except Failure B} :
    Runs (program >>= next).run trace result ↔
      (∃ failure, result = .error failure ∧
        Runs program.run trace (.error failure)) ∨
      (∃ value first second, trace = first ++ second ∧
        Runs program.run first (.ok value) ∧
          Runs (next value).run second result) := by
  rw [ExceptT.run_bind, runs_bind_iff]
  constructor
  · rintro ⟨outcome, first, second, rfl, hfirst, hsecond⟩
    cases outcome with
    | error failure =>
        obtain ⟨rfl, rfl⟩ := runs_done_iff.mp hsecond
        exact .inl ⟨failure, rfl, by rwa [List.append_nil]⟩
    | ok value => exact .inr ⟨value, first, second, rfl, hfirst, hsecond⟩
  · rintro (⟨failure, rfl, hruns⟩ | ⟨value, first, second, rfl, hfirst, hsecond⟩)
    · exact ⟨.error failure, trace, [], (List.append_nil _).symm, hruns, .done _⟩
    · exact ⟨.ok value, first, second, rfl, hfirst, hsecond⟩

/-- A step that cannot fail, in a fallible sequence. -/
theorem runs_run_lift_bind_iff {program : Prog Op Answer A}
    {next : A → ExceptT Failure (Prog Op Answer) B}
    {trace : List (Event Answer)} {result : Except Failure B} :
    Runs (ExceptT.lift program >>= next).run trace result ↔
      ∃ value first second, trace = first ++ second ∧
        Runs program first value ∧ Runs (next value).run second result := by
  rw [runs_run_bind_iff]
  constructor
  · rintro (⟨failure, _, hlift⟩ | ⟨value, first, second, rfl, hlift, hnext⟩)
    · obtain ⟨_, hok, _⟩ := runs_run_lift_iff.mp hlift
      cases hok
    · obtain ⟨_, hok, hprogram⟩ := runs_run_lift_iff.mp hlift
      cases hok
      exact ⟨value, first, second, rfl, hprogram, hnext⟩
  · rintro ⟨value, first, second, rfl, hprogram, hnext⟩
    exact .inr ⟨value, first, second, rfl,
      runs_run_lift_iff.mpr ⟨value, rfl, hprogram⟩, hnext⟩

/-- A fallible sequence that starts with one operation. -/
theorem runs_run_perform_bind_iff {op : Op}
    {next : Answer op → ExceptT Failure (Prog Op Answer) B}
    {trace : List (Event Answer)} {result : Except Failure B} :
    Runs (ExceptT.lift (Prog.perform op) >>= next).run trace result ↔
      ∃ answer rest, trace = ⟨op, answer⟩ :: rest ∧
        Runs (next answer).run rest result := by
  rw [runs_run_lift_bind_iff]
  constructor
  · rintro ⟨answer, first, second, rfl, hperform, hnext⟩
    rw [runs_perform_iff.mp hperform]
    exact ⟨answer, second, rfl, hnext⟩
  · rintro ⟨answer, rest, rfl, hnext⟩
    exact ⟨answer, [_], rest, rfl, runs_perform_iff.mpr rfl, hnext⟩

/-! ## Programs that may fail, under a timer -/

/-- A fallible sequence under a timer stops when the timer fires, and at the
first failure. -/
theorem runs_run_run_bind_iff
    {program : ExceptT Failure (ExceptT Unit (Prog Op Answer)) A}
    {next : A → ExceptT Failure (ExceptT Unit (Prog Op Answer)) B}
    {trace : List (Event Answer)} {result : Except Unit (Except Failure B)} :
    Runs (program >>= next).run.run trace result ↔
      (result = .error () ∧ Runs program.run.run trace (.error ())) ∨
      (∃ failure, result = .ok (.error failure) ∧
        Runs program.run.run trace (.ok (.error failure))) ∨
      (∃ value first second, trace = first ++ second ∧
        Runs program.run.run first (.ok (.ok value)) ∧
          Runs (next value).run.run second result) := by
  rw [ExceptT.run_bind, runs_run_bind_iff]
  constructor
  · rintro (⟨failure, rfl, hruns⟩ | ⟨outcome, first, second, rfl, hfirst, hsecond⟩)
    · exact .inl ⟨rfl, hruns⟩
    · cases outcome with
      | error failure =>
          obtain ⟨rfl, rfl⟩ := runs_run_pure_iff.mp hsecond
          exact .inr (.inl ⟨failure, rfl, by rwa [List.append_nil]⟩)
      | ok value => exact .inr (.inr ⟨value, first, second, rfl, hfirst, hsecond⟩)
  · rintro (⟨rfl, hruns⟩ | ⟨failure, rfl, hruns⟩ |
      ⟨value, first, second, rfl, hfirst, hsecond⟩)
    · exact .inl ⟨(), rfl, hruns⟩
    · exact .inr ⟨.error failure, trace, [], (List.append_nil _).symm, hruns,
        runs_run_pure_iff.mpr ⟨rfl, rfl⟩⟩
    · exact .inr ⟨.ok value, first, second, rfl, hfirst, hsecond⟩

end VpnBridge.Interaction
