import Mathlib.Data.Option.Basic

/-!
# Checks and defaults

A validation that stops at its first failing check succeeds when every check passes, and a
default that passes its own check leaves the check to the values that are given.
-/

namespace VpnBridge.Checks

variable {Error Value : Type} {condition : Prop} [Decidable condition] {error : Error}

/-- A check before the others. -/
theorem refuse_eq_ok_iff {rest : Except Error Value} {value : Value} :
    (if condition then throw error else rest) = .ok value ↔
      ¬ condition ∧ rest = .ok value := by
  by_cases hcondition : condition
  · rw [if_pos hcondition]
    exact iff_of_false (by rintro ⟨⟩) fun hboth => hboth.1 hcondition
  · rw [if_neg hcondition]
    exact (and_iff_right hcondition).symm

/-- A check in a `do` block, where the rest stands on both sides. -/
theorem refuse_bind_eq_ok_iff {next : PUnit → Except Error Value} {rest : Except Error Value}
    {value : Value} :
    (if condition then throw error >>= next else rest) = .ok value ↔
      ¬ condition ∧ rest = .ok value :=
  refuse_eq_ok_iff

/-- Nothing follows the checks. -/
theorem done_iff : (pure () : Except Error Unit) = .ok () ↔ True :=
  iff_true_intro rfl

/-- What a check lets through is what comes out. -/
theorem checked_eq_ok_iff {check : Except Error Unit} {value result : Value} :
    (check >>= fun _ => pure value) = .ok result ↔ check = .ok () ∧ result = value := by
  cases check with
  | error failure => exact iff_of_false (by rintro ⟨⟩) (by rintro ⟨⟨⟩, -⟩)
  | ok done =>
      constructor
      · rintro ⟨⟩
        exact ⟨rfl, rfl⟩
      · rintro ⟨-, rfl⟩
        rfl

/-- A default that passes is never the reason for a failure. -/
theorem getD_passes_iff (check : Value → Prop) {default : Value} (hdefault : check default)
    {given : Option Value} : check (given.getD default) ↔ ∀ value ∈ given, check value := by
  cases given with
  | none => exact iff_of_true hdefault (by rintro value ⟨⟩)
  | some value =>
      constructor
      · rintro hcheck other ⟨⟩
        exact hcheck
      · intro hcheck
        exact hcheck value rfl

end VpnBridge.Checks
