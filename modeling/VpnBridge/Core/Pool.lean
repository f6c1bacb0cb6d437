import VpnBridge.Core.Interaction

/-!
# Pools of programs

Tasks that run at the same time, each a program of its own.  A step of the pool
answers the operation for which one of them waits.  Whatever the order of the
steps, each task follows its program through the events that are its own.
-/

namespace VpnBridge.Interaction

variable {Op Op' : Type} {Answer : Op → Type} {Answer' : Op' → Type} {A B Failure : Type}

/-! ## Unfinished runs -/

/-- `Follows program events rest`: answered as in `events`, `program` goes on as
`rest`. -/
inductive Follows : Prog Op Answer A → List (Event Answer) → Prog Op Answer A → Prop where
  | start (program : Prog Op Answer A) : Follows program [] program
  | call {op : Op} {next : Answer op → Prog Op Answer A} {answer : Answer op}
      {events : List (Event Answer)} {rest : Prog Op Answer A}
      (hnext : Follows (next answer) events rest) :
      Follows (.call op next) (⟨op, answer⟩ :: events) rest

variable {program rest : Prog Op Answer A} {events : List (Event Answer)} {op : Op}

theorem Follows.snoc {next : Answer op → Prog Op Answer A}
    (hfollows : Follows program events (.call op next)) (answer : Answer op) :
    Follows program (events ++ [⟨op, answer⟩]) (next answer) := by
  generalize hrest : Prog.call op next = rest at hfollows
  induction hfollows with
  | start program =>
      subst hrest
      exact .call (.start _)
  | call hnext ih => exact .call (ih hrest)

/-- A program that has been followed to its end has run. -/
theorem follows_done_iff {value : A} :
    Follows program events (.done value) ↔ Runs program events value := by
  constructor
  · intro hfollows
    generalize hrest : Prog.done value = rest at hfollows
    induction hfollows with
    | start program =>
        subst hrest
        exact .done value
    | call hnext ih => exact .call (ih hrest)
  · intro hruns
    induction hruns with
    | done value => exact .start _
    | call hnext ih => exact .call ih

theorem follows_pure {value : A}
    (hfollows : Follows (pure value : Prog Op Answer A) events rest) :
    events = [] ∧ rest = .done value := by
  generalize hprogram : (pure value : Prog Op Answer A) = program at hfollows
  cases hfollows with
  | start => exact ⟨rfl, hprogram.symm⟩
  | call hnext => cases hprogram

/-- A sequence is in its first part, or has run it and is in the second. -/
theorem follows_bind {next : A → Prog Op Answer B} {rest : Prog Op Answer B}
    (hfollows : Follows (program >>= next) events rest) :
    (∃ op resume, Follows program events (.call op resume) ∧
        rest = .call op fun answer => resume answer >>= next) ∨
      ∃ value first second, events = first ++ second ∧ Runs program first value ∧
        Follows (next value) second rest := by
  induction program generalizing events with
  | done value => exact .inr ⟨value, [], events, rfl, .done value, hfollows⟩
  | call op resume ih =>
      change Follows (.call op fun answer => resume answer >>= next) events rest at hfollows
      cases hfollows with
      | start => exact .inl ⟨op, resume, .start _, rfl⟩
      | @call _ _ answer later _ hnext =>
          rcases ih answer hnext with ⟨op', resume', hfirst, hrest⟩ |
            ⟨value, first, second, rfl, hfirst, hsecond⟩
          · exact .inl ⟨op', resume', .call hfirst, hrest⟩
          · exact .inr ⟨value, _, second, rfl, .call hfirst, hsecond⟩

/-! ## The operations of a program -/

/-- Every operation that the program may issue is one of these. -/
def Prog.Within (allowed : Op → Prop) : Prog Op Answer A → Prop
  | .done _ => True
  | .call op next => allowed op ∧ ∀ answer, (next answer).Within allowed

variable {allowed : Op → Prop}

theorem within_pure (value : A) : (pure value : Prog Op Answer A).Within allowed :=
  trivial

theorem within_bind {next : A → Prog Op Answer B} (hprogram : program.Within allowed)
    (hnext : ∀ value, (next value).Within allowed) : (program >>= next).Within allowed := by
  induction program with
  | done value => exact hnext value
  | call op resume ih => exact ⟨hprogram.1, fun answer => ih answer (hprogram.2 answer)⟩

theorem within_perform (hop : allowed op) :
    (Prog.perform op : Prog Op Answer (Answer op)).Within allowed :=
  ⟨hop, fun _ => trivial⟩

theorem within_run_bind {program : ExceptT Failure (Prog Op Answer) A}
    {next : A → ExceptT Failure (Prog Op Answer) B} (hprogram : program.run.Within allowed)
    (hnext : ∀ value, (next value).run.Within allowed) :
    (program >>= next).run.Within allowed := by
  rw [ExceptT.run_bind]
  apply within_bind hprogram
  intro outcome
  cases outcome with
  | error failure => trivial
  | ok value => exact hnext value

theorem within_run_lift {program : Prog Op Answer A} (hprogram : program.Within allowed) :
    (ExceptT.lift program : ExceptT Failure (Prog Op Answer) A).run.Within allowed :=
  within_bind hprogram fun _ => trivial

theorem Follows.within (hfollows : Follows program events rest)
    (hprogram : program.Within allowed) :
    (∀ event ∈ events, allowed event.1) ∧ rest.Within allowed := by
  induction hfollows with
  | start program => exact ⟨by simp, hprogram⟩
  | call hnext ih =>
      obtain ⟨hevents, hrest⟩ := ih (hprogram.2 _)
      exact ⟨List.forall_mem_cons.mpr ⟨hprogram.1, hevents⟩, hrest⟩

theorem Runs.within {value : A} (hruns : Runs program events value)
    (hprogram : program.Within allowed) : ∀ event ∈ events, allowed event.1 :=
  ((follows_done_iff.mpr hruns).within hprogram).1

/-! ## Programs over more operations -/

/-- Issue the operations of a program as operations of a larger kind. -/
def Prog.embed (inject : Op → Op') :
    Prog Op (fun op => Answer' (inject op)) A → Prog Op' Answer' A
  | .done value => .done value
  | .call op next => .call (inject op) fun answer => (next answer).embed inject

def embedEvent (inject : Op → Op') (event : Event fun op => Answer' (inject op)) :
    Event Answer' :=
  ⟨inject event.1, event.2⟩

theorem runs_embed_iff {inject : Op → Op'}
    {program : Prog Op (fun op => Answer' (inject op)) A} {events : List (Event Answer')}
    {value : A} :
    Runs (program.embed inject) events value ↔
      ∃ original, events = original.map (embedEvent inject) ∧
        Runs program original value := by
  induction program generalizing events with
  | done result =>
      rw [Prog.embed, runs_done_iff]
      constructor
      · rintro ⟨rfl, rfl⟩
        exact ⟨[], rfl, .done value⟩
      · rintro ⟨original, rfl, hruns⟩
        obtain ⟨rfl, rfl⟩ := runs_done_iff.mp hruns
        exact ⟨rfl, rfl⟩
  | call op next ih =>
      rw [Prog.embed, runs_call_iff]
      constructor
      · rintro ⟨answer, later, rfl, hlater⟩
        obtain ⟨original, rfl, hruns⟩ := (ih answer).mp hlater
        exact ⟨⟨op, answer⟩ :: original, rfl, .call hruns⟩
      · rintro ⟨original, rfl, hruns⟩
        obtain ⟨answer, later, rfl, hlater⟩ := runs_call_iff.mp hruns
        exact ⟨answer, _, rfl, (ih answer).mpr ⟨later, rfl, hlater⟩⟩

theorem within_embed {inject : Op → Op'} {allowed : Op' → Prop}
    (hallowed : ∀ op, allowed (inject op))
    (program : Prog Op (fun op => Answer' (inject op)) A) :
    (program.embed inject).Within allowed := by
  induction program with
  | done value => trivial
  | call op next ih => exact ⟨hallowed op, ih⟩

/-! ## What the tasks of a pool have done -/

/-- What one task did. -/
def eventsOf (id : ℕ) (log : List (ℕ × Event Answer)) : List (Event Answer) :=
  log.filterMap fun entry => if entry.1 = id then some entry.2 else none

theorem eventsOf_append (id : ℕ) (log later : List (ℕ × Event Answer)) :
    eventsOf id (log ++ later) = eventsOf id log ++ eventsOf id later :=
  List.filterMap_append

@[simp]
theorem eventsOf_singleton_self (id : ℕ) (event : Event Answer) :
    eventsOf id [(id, event)] = [event] := by
  simp [eventsOf]

@[simp]
theorem eventsOf_singleton_of_ne {id other : ℕ} (hother : id ≠ other) (event : Event Answer) :
    eventsOf other [(id, event)] = [] := by
  simp [eventsOf, hother]

/-- Each task of the pool has followed its program through its own events. -/
structure Explained (programs : List (Prog Op Answer A)) (log : List (ℕ × Event Answer))
    (pool : List (Prog Op Answer A)) : Prop where
  length : pool.length = programs.length
  known : ∀ entry ∈ log, entry.1 < programs.length
  follows : ∀ id program rest, programs[id]? = some program → pool[id]? = some rest →
    Follows program (eventsOf id log) rest

namespace Explained

variable {programs pool : List (Prog Op Answer A)} {log : List (ℕ × Event Answer)}

theorem nil : Explained ([] : List (Prog Op Answer A)) [] [] where
  length := rfl
  known := by simp
  follows := by simp

theorem spawn (hexplained : Explained programs log pool) (program : Prog Op Answer A) :
    Explained (programs ++ [program]) log (pool ++ [program]) where
  length := by simp [hexplained.length]
  known entry hentry := by
    rw [List.length_append, List.length_singleton]
    exact Nat.lt_succ_of_lt (hexplained.known entry hentry)
  follows id other rest hother hrest := by
    rcases Nat.lt_or_ge id programs.length with hold | hnew
    · rw [List.getElem?_append_left hold] at hother
      rw [List.getElem?_append_left (hexplained.length ▸ hold)] at hrest
      exact hexplained.follows id other rest hother hrest
    · have hnone : eventsOf id log = [] := by
        rw [eventsOf, List.filterMap_eq_nil_iff]
        intro entry hentry
        exact if_neg (Nat.ne_of_lt (Nat.lt_of_lt_of_le (hexplained.known entry hentry) hnew))
      rw [List.getElem?_append_right hnew] at hother
      rw [List.getElem?_append_right (hexplained.length ▸ hnew), hexplained.length] at hrest
      cases hother.symm.trans hrest
      rw [hnone]
      exact .start _

end Explained

/-! ## Steps of a pool -/

section Steps

variable [DecidableEq Op]

/-- Answer the operation for which a program waits. -/
def Prog.advance : Prog Op Answer A → Event Answer → Option (Prog Op Answer A)
  | .done _, _ => none
  | .call op next, event =>
      if hop : event.1 = op then some (next (hop ▸ event.2)) else none

theorem advance_eq_some_iff {event : Event Answer} {next : Prog Op Answer A} :
    program.advance event = some next ↔
      ∃ resume, program = .call event.1 resume ∧ next = resume event.2 := by
  cases program with
  | done value => simp [Prog.advance]
  | call op resume =>
      rw [Prog.advance, Option.dite_none_right_eq_some]
      constructor
      · rintro ⟨rfl, hnext⟩
        exact ⟨resume, rfl, (Option.some.inj hnext).symm⟩
      · rintro ⟨other, hcall, rfl⟩
        cases hcall
        exact ⟨rfl, rfl⟩

/-- Let one task of the pool go on. -/
def advanceAt (pool : List (Prog Op Answer A)) (id : ℕ) (event : Event Answer) :
    Option (List (Prog Op Answer A)) :=
  (pool[id]?.bind fun task => task.advance event).map fun next => pool.set id next

theorem Explained.advance {programs pool next : List (Prog Op Answer A)}
    {log : List (ℕ × Event Answer)} {id : ℕ} {event : Event Answer}
    (hexplained : Explained programs log pool)
    (hadvance : advanceAt pool id event = some next) :
    Explained programs (log ++ [(id, event)]) next := by
  obtain ⟨later, hlater, rfl⟩ := Option.map_eq_some_iff.mp hadvance
  obtain ⟨task, htask, hlater⟩ := Option.bind_eq_some_iff.mp hlater
  obtain ⟨resume, rfl, rfl⟩ := advance_eq_some_iff.mp hlater
  have hid : id < pool.length := (List.getElem?_eq_some_iff.mp htask).1
  constructor
  · rw [List.length_set, hexplained.length]
  · rw [List.forall_mem_append, List.forall_mem_singleton]
    exact ⟨hexplained.known, hexplained.length ▸ hid⟩
  · intro other program rest hprogram hrest
    rw [eventsOf_append]
    by_cases hother : id = other
    · subst hother
      rw [List.getElem?_set_self hid] at hrest
      cases hrest
      rw [eventsOf_singleton_self]
      exact (hexplained.follows id program _ hprogram htask).snoc event.2
    · rw [List.getElem?_set_ne hother] at hrest
      rw [eventsOf_singleton_of_ne hother, List.append_nil]
      exact hexplained.follows other program rest hprogram hrest

end Steps

end VpnBridge.Interaction
