import Mathlib.Algebra.Order.Group.Nat
import VpnBridge.Core.TransitionSystem

/-!
# Runs that go on forever

A behaviour is an infinite run.  What every step preserves holds all along it.  Fairness
says that what is possible again and again happens again and again, as a queue for a lock
or a timer provides.
-/

namespace VpnBridge.TransitionSystem

variable {State Event : Type} {step : State → Event → Option State} {start : State}

structure Behaviour (step : State → Event → Option State) (start : State) where
  state : ℕ → State
  event : ℕ → Event
  state_zero : state 0 = start
  step_eq : ∀ index, step (state index) (event index) = some (state (index + 1))

namespace Behaviour

/-- Whatever is possible again and again happens again and again. -/
def Fair (life : Behaviour step start) (possible : State → Prop) (occurs : Event → Prop) :
    Prop :=
  (∀ index, ∃ later ≥ index, possible (life.state later)) →
    ∀ index, ∃ later ≥ index, occurs (life.event later)

/-- The behaviour in which the events are the chosen ones. -/
def drive (step : State → Event → Option State) (start : State) (choose : ℕ → Event) :
    ℕ → State
  | 0 => start
  | index + 1 =>
      (step (drive step start choose index) (choose index)).getD (drive step start choose index)

/-- Events that are always possible make a behaviour. -/
def ofDrive (choose : ℕ → Event)
    (hpossible : ∀ index, (step (drive step start choose index) (choose index)).isSome = true) :
    Behaviour step start where
  state := drive step start choose
  event := choose
  state_zero := rfl
  step_eq index := by
    obtain ⟨next, hnext⟩ := Option.isSome_iff_exists.mp (hpossible index)
    rw [drive, hnext, Option.getD_some]

variable (life : Behaviour step start)

/-- The beginning of a behaviour is an execution. -/
theorem exists_execution (index : ℕ) :
    ∃ trace, Execution step start trace (life.state index) := by
  induction index with
  | zero =>
      rw [life.state_zero]
      exact ⟨[], .nil⟩
  | succ index ih =>
      obtain ⟨trace, hrun⟩ := ih
      exact ⟨_, .snoc hrun (life.step_eq index)⟩

theorem invariant (property : State → Prop)
    (hpreserved : ∀ {state event next}, step state event = some next →
      property state → property next)
    (hstart : property start) (index : ℕ) : property (life.state index) := by
  obtain ⟨_, hrun⟩ := life.exists_execution index
  exact hrun.invariant hpreserved hstart

/-- A quantity that no step decreases never falls. -/
theorem monotone {Value : Type} [Preorder Value] (measure : State → Value)
    (hstep : ∀ {state event next}, step state event = some next →
      measure state ≤ measure next)
    {index later : ℕ} (hle : index ≤ later) :
    measure (life.state index) ≤ measure (life.state later) := by
  induction later, hle using Nat.le_induction with
  | base => exact le_refl _
  | succ later _ ih => exact ih.trans (hstep (life.step_eq later))

/-- What no step takes away from some point on holds from there on. -/
theorem holds_from (property : State → Prop) {index : ℕ} (hindex : property (life.state index))
    (hkept : ∀ later ≥ index, property (life.state later) →
      property (life.state (later + 1))) :
    ∀ later ≥ index, property (life.state later) := by
  intro later hle
  induction later, hle using Nat.le_induction with
  | base => exact hindex
  | succ later hle ih => exact hkept later hle ih

/-- What holds until an event occurs holds when it first does. -/
theorem exists_occurrence (property : State → Prop) {occurs : Event → Prop} {index : ℕ}
    (hindex : property (life.state index))
    (hkept : ∀ later ≥ index, property (life.state later) → ¬ occurs (life.event later) →
      property (life.state (later + 1)))
    (hoccurs : ∃ later ≥ index, occurs (life.event later)) :
    ∃ later ≥ index, property (life.state later) ∧ occurs (life.event later) := by
  by_contra hnone
  have hholds := life.holds_from property hindex fun later hle hlater =>
    hkept later hle hlater fun hevent => hnone ⟨later, hle, hlater, hevent⟩
  obtain ⟨later, hle, hevent⟩ := hoccurs
  exact hnone ⟨later, hle, hholds later hle, hevent⟩

/-- A bounded quantity that no step decreases changes only so often. -/
theorem settles (measure : State → ℕ) {bound : ℕ}
    (hstep : ∀ {state event next}, step state event = some next →
      measure state ≤ measure next)
    (hbound : ∀ index, measure (life.state index) ≤ bound) (index : ℕ) :
    ∃ settled ≥ index, ∀ later ≥ settled,
      measure (life.state later) = measure (life.state settled) := by
  by_contra hnever
  have hgrows : ∀ count, ∃ later ≥ index, count ≤ measure (life.state later) := by
    intro count
    induction count with
    | zero => exact ⟨index, le_refl _, Nat.zero_le _⟩
    | succ count ih =>
        obtain ⟨later, hle, hcount⟩ := ih
        by_contra hsmall
        refine hnever ⟨later, hle, fun last hlast => ?_⟩
        have hmonotone := life.monotone measure hstep hlast
        by_contra hne
        exact hsmall ⟨last, hle.trans hlast, by omega⟩
  obtain ⟨later, -, hlarge⟩ := hgrows (bound + 1)
  exact absurd (hbound later) (by omega)

end Behaviour

end VpnBridge.TransitionSystem
