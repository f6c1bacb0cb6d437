import Mathlib.Data.List.Basic

/-!
# Wholes and their pieces

A receiver that may take a part of what it is given gets pieces.  The wholes stay in
order and apart from each other, and every piece that is cut adds one to their number.
-/

namespace VpnBridge

variable {Symbol : Type}

/-- The wholes one after the other, each in as many pieces as it was cut into; an empty
one leaves no piece. -/
inductive Cut : List (List Symbol) → List (List Symbol) → Prop where
  | nil : Cut [] []
  | snoc {wholes pieces parts : List (List Symbol)} (hcut : Cut wholes pieces)
      (hparts : [] ∉ parts) : Cut (wholes ++ [parts.flatten]) (pieces ++ parts)

namespace Cut

variable {wholes pieces front : List (List Symbol)} {left right : List Symbol}

theorem nil_notMem (hcut : Cut wholes pieces) : [] ∉ pieces := by
  induction hcut with
  | nil => exact List.not_mem_nil
  | snoc hcut hparts ih =>
      rw [List.mem_append, not_or]
      exact ⟨ih, hparts⟩

/-- A whole in one piece. -/
theorem append_whole (hcut : Cut wholes pieces) (whole : List Symbol) :
    Cut (wholes ++ [whole]) (pieces ++ if whole = [] then [] else [whole]) := by
  by_cases hwhole : whole = []
  · rw [if_pos hwhole, hwhole]
    exact hcut.snoc List.not_mem_nil
  · rw [if_neg hwhole]
    have hparts : [] ∉ [whole] := by
      rw [List.mem_singleton]
      exact Ne.symm hwhole
    have hsnoc := hcut.snoc hparts
    rw [List.flatten_singleton] at hsnoc
    exact hsnoc

/-- The last piece is cut in two. -/
theorem split (hcut : Cut wholes pieces) (hpieces : pieces = front ++ [left ++ right])
    (hleft : left ≠ []) (hright : right ≠ []) : Cut wholes (front ++ [left, right]) := by
  induction hcut generalizing front with
  | nil => exact absurd hpieces.symm (List.append_ne_nil_of_right_ne_nil _ (List.cons_ne_nil _ _))
  | @snoc wholes pieces parts hcut hparts ih =>
      rcases List.eq_nil_or_concat parts with rfl | ⟨before, last, rfl⟩
      · rw [List.append_nil] at hpieces
        have hsplit := (ih hpieces).snoc hparts
        rw [List.append_nil] at hsplit
        exact hsplit
      · rw [List.concat_eq_append] at hpieces hparts ⊢
        rw [← List.append_assoc] at hpieces
        obtain ⟨rfl, hlast⟩ := List.append_inj' hpieces rfl
        obtain rfl := List.singleton_inj.mp hlast
        rw [List.mem_append, not_or] at hparts
        have hcuts : [] ∉ before ++ [left, right] := by
          simp only [List.mem_append, List.mem_cons, List.not_mem_nil, or_false, not_or]
          exact ⟨hparts.1, hleft.symm, hright.symm⟩
        have hsnoc := hcut.snoc hcuts
        rw [List.append_assoc]
        simpa using hsnoc

/-- Every whole that is not empty has a piece. -/
theorem length_le (hcut : Cut wholes pieces) :
    (wholes.filter fun whole => whole.length ≠ 0).length ≤ pieces.length := by
  induction hcut with
  | nil => exact Nat.le_refl _
  | @snoc wholes pieces parts hcut hparts ih =>
      rw [List.filter_append, List.length_append, List.length_append]
      apply Nat.add_le_add ih
      cases parts with
      | nil => exact Nat.le_refl _
      | cons part parts =>
          exact Nat.le_trans (List.length_filter_le _ _) (Nat.le_add_left _ _)

end Cut

end VpnBridge
