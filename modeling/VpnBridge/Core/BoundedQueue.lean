import Mathlib.Algebra.Order.BigOperators.Group.List
import Mathlib.Algebra.Order.Ring.Nat
import Mathlib.Data.List.Basic
import Mathlib.Data.Nat.Notation
import Mathlib.Order.Nat

/-!
# Bounded queues

A first-in first-out queue of bounded length, which remembers the items that have
left it.  Everything that ever went in is what has come out followed by what is
still inside, so what a reader has seen is always a prefix of what was put in.
-/

namespace VpnBridge.BoundedQueue

/-- A queue that holds at most `capacity` items. -/
structure Fifo (Item : Type) (capacity : ℕ) where
  /-- The items that have left the queue, oldest first. -/
  passed : List Item
  queue : List Item
  /-- Nothing more can be put in. -/
  closed : Bool
  bounded : queue.length ≤ capacity
  deriving DecidableEq

/-- A list grows along a list that it is the beginning of. -/
theorem isPrefix_snoc {Item : Type} {items all : List Item} {item : Item}
    (hitems : items <+: all) (hitem : all[items.length]? = some item) :
    items ++ [item] <+: all := by
  obtain ⟨rest, rfl⟩ := hitems
  rw [List.getElem?_append_right (le_refl _), Nat.sub_self] at hitem
  cases rest with
  | nil => cases hitem
  | cons head rest =>
      cases hitem
      exact ⟨rest, by rw [List.append_assoc, List.singleton_append]⟩

namespace Fifo

variable {Item : Type} {capacity : ℕ}

def empty : Fifo Item capacity := ⟨[], [], false, Nat.zero_le _⟩

/-- Everything that ever went in. -/
def pushed (fifo : Fifo Item capacity) : List Item :=
  fifo.passed ++ fifo.queue

/-- Put items in, if there is room. -/
def push (fifo : Fifo Item capacity) (items : List Item) : Option (Fifo Item capacity) :=
  if hroom : fifo.closed = false ∧ fifo.queue.length + items.length ≤ capacity then
    some { fifo with
      queue := fifo.queue ++ items
      bounded := by
        rw [List.length_append]
        exact hroom.2 }
  else none

/-- Take up to `count` items out. -/
def pop (fifo : Fifo Item capacity) (count : ℕ) : Fifo Item capacity where
  passed := fifo.passed ++ fifo.queue.take count
  queue := fifo.queue.drop count
  closed := fifo.closed
  bounded := by
    rw [List.length_drop]
    exact (Nat.sub_le _ _).trans fifo.bounded

def close (fifo : Fifo Item capacity) : Fifo Item capacity :=
  { fifo with closed := true }

variable {fifo next : Fifo Item capacity} {items : List Item}

theorem passed_isPrefix (fifo : Fifo Item capacity) : fifo.passed <+: fifo.pushed :=
  List.prefix_append _ _

theorem pushed_of_queue_eq_nil (hqueue : fifo.queue = []) : fifo.pushed = fifo.passed := by
  rw [pushed, hqueue, List.append_nil]

theorem push_eq_some_iff :
    fifo.push items = some next ↔
      fifo.closed = false ∧ fifo.queue.length + items.length ≤ capacity ∧
        next.passed = fifo.passed ∧ next.queue = fifo.queue ++ items ∧
          next.closed = false := by
  rw [push]
  split
  next hroom =>
    rw [Option.some.injEq]
    constructor
    · rintro rfl
      exact ⟨hroom.1, hroom.2, rfl, rfl, hroom.1⟩
    · rintro ⟨hopen, -, hpassed, hqueue, hclosed⟩
      cases next
      cases hpassed
      cases hqueue
      cases hclosed
      rw [mk.injEq]
      exact ⟨rfl, rfl, hopen⟩
  next hroom =>
    constructor
    · intro hnone
      cases hnone
    · rintro ⟨hopen, hlength, -⟩
      exact absurd ⟨hopen, hlength⟩ hroom

theorem exists_push (hopen : fifo.closed = false)
    (hroom : fifo.queue.length + items.length ≤ capacity) :
    ∃ next, fifo.push items = some next := by
  rw [push, dif_pos ⟨hopen, hroom⟩]
  exact ⟨_, rfl⟩

theorem pushed_of_push (hpush : fifo.push items = some next) :
    next.pushed = fifo.pushed ++ items := by
  obtain ⟨-, -, hpassed, hqueue, -⟩ := push_eq_some_iff.mp hpush
  rw [pushed, pushed, hpassed, hqueue, List.append_assoc]

/-- Items of bounded size make a queue of bounded size. -/
theorem length_flatMap_queue_le {Part : Type} {parts : Item → List Part} {size : ℕ}
    (hparts : ∀ item ∈ fifo.queue, (parts item).length ≤ size) :
    (fifo.queue.flatMap parts).length ≤ capacity * size := by
  have hsizes : ∀ length ∈ fifo.queue.map fun item => (parts item).length, length ≤ size :=
    List.forall_mem_map.mpr hparts
  calc
    (fifo.queue.flatMap parts).length = (fifo.queue.map fun item => (parts item).length).sum :=
      List.length_flatMap
    _ ≤ (fifo.queue.map fun item => (parts item).length).length * size :=
      List.sum_le_card_nsmul _ size hsizes
    _ = fifo.queue.length * size := by rw [List.length_map]
    _ ≤ capacity * size := Nat.mul_le_mul_right _ fifo.bounded

@[simp]
theorem passed_pop (fifo : Fifo Item capacity) (count : ℕ) :
    (fifo.pop count).passed = fifo.passed ++ fifo.queue.take count :=
  rfl

@[simp]
theorem pushed_pop (fifo : Fifo Item capacity) (count : ℕ) :
    (fifo.pop count).pushed = fifo.pushed := by
  rw [pushed, pop, List.append_assoc, List.take_append_drop, pushed]

end Fifo

end VpnBridge.BoundedQueue
