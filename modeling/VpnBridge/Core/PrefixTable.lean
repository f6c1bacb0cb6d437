import Mathlib.Data.Option.Basic
import Mathlib.Data.Nat.Notation
import Mathlib.Logic.Function.Basic
import Mathlib.Order.Nat

/-!
# Longest-prefix tables

A routing table maps prefixes to next hops, and an address is sent to the hop of
the longest prefix that covers it.  Of every length up to its width an address
has one covering prefix, so the longest entry is found by trying the lengths
downwards, and a table is determined on an address by its entries there.
-/

namespace VpnBridge.PrefixTable

/-- Prefixes over addresses: an address is covered by one prefix of each length
up to its width. -/
class PrefixSystem (Prefix : Type) (Address : outParam Type) where
  width : Address → ℕ
  length : Prefix → ℕ
  /-- The first `count` bits of an address. -/
  cover : Address → ℕ → Prefix
  length_cover : ∀ (address : Address) {count : ℕ}, count ≤ width address →
    length (cover address count) = count

/-- A routing table. -/
abbrev Table (Prefix Hop : Type) := Prefix → Option Hop

variable {Prefix Address Hop : Type} [PrefixSystem Prefix Address]

/-- `net` is one of the prefixes of `address`. -/
def Covers (net : Prefix) (address : Address) : Prop :=
  PrefixSystem.length net ≤ PrefixSystem.width Prefix address ∧
    PrefixSystem.cover address (PrefixSystem.length net) = net

instance [DecidableEq Prefix] (net : Prefix) (address : Address) :
    Decidable (Covers net address) :=
  inferInstanceAs (Decidable (_ ∧ _))

/-- The longest entry for `address` among those of at most `count` bits. -/
def longestUpTo (table : Table Prefix Hop) (address : Address) :
    ℕ → Option (Prefix × Hop)
  | 0 => (table (PrefixSystem.cover address 0)).map (PrefixSystem.cover address 0, ·)
  | count + 1 =>
      match table (PrefixSystem.cover address (count + 1)) with
      | some hop => some (PrefixSystem.cover address (count + 1), hop)
      | none => longestUpTo table address count

/-- The longest entry for `address`. -/
def longest (table : Table Prefix Hop) (address : Address) : Option (Prefix × Hop) :=
  longestUpTo table address (PrefixSystem.width Prefix address)

/-- Where `address` is sent. -/
def route (table : Table Prefix Hop) (address : Address) : Option Hop :=
  (longest table address).map Prod.snd

/-- The table with an entry for one more prefix, unless it has one already. -/
def addAbsent [DecidableEq Prefix] (table : Table Prefix Hop) (net : Prefix) (hop : Hop) :
    Table Prefix Hop :=
  if table net = none then Function.update table net (some hop) else table

section Additions

variable [DecidableEq Prefix] {table : Table Prefix Hop} {net key : Prefix} {hop : Hop}

theorem addAbsent_of_ne_none (hentry : table key ≠ none) :
    addAbsent table net hop key = table key := by
  rw [addAbsent]
  split
  next habsent =>
    apply Function.update_of_ne
    rintro rfl
    exact hentry habsent
  next => rfl

theorem addAbsent_self_ne_none : addAbsent table net hop net ≠ none := by
  rw [addAbsent]
  split
  next =>
    rw [Function.update_self]
    exact Option.some_ne_none _
  next hentry => exact hentry

theorem addAbsent_of_ne (hkey : key ≠ net) : addAbsent table net hop key = table key := by
  rw [addAbsent]
  split
  next => exact Function.update_of_ne hkey _ _
  next => rfl

theorem addAbsent_of_none (habsent : table net = none) :
    addAbsent table net hop net = some hop := by
  rw [addAbsent, if_pos habsent, Function.update_self]

end Additions

/-! ## The prefixes of an address -/

section Covering

variable {net other : Prefix} {address : Address}

theorem length_cover {count : ℕ} (hcount : count ≤ PrefixSystem.width Prefix address) :
    PrefixSystem.length (PrefixSystem.cover address count : Prefix) = count :=
  PrefixSystem.length_cover address hcount

theorem covers_cover {count : ℕ} (hcount : count ≤ PrefixSystem.width Prefix address) :
    Covers (PrefixSystem.cover address count : Prefix) address := by
  have hlength := length_cover hcount
  exact ⟨hlength.symm ▸ hcount, by rw [hlength]⟩

/-- An address has one prefix of each length. -/
theorem Covers.eq_of_length (hnet : Covers net address) (hother : Covers other address)
    (hlength : PrefixSystem.length net = PrefixSystem.length other) : net = other := by
  rw [← hnet.2, hlength, hother.2]

end Covering

/-! ## The longest entry -/

section Longest

variable {table : Table Prefix Hop} {address : Address} {net : Prefix} {hop : Hop}

theorem longestUpTo_eq_some_iff {count : ℕ}
    (hcount : count ≤ PrefixSystem.width Prefix address) :
    longestUpTo table address count = some (net, hop) ↔
      Covers net address ∧ PrefixSystem.length net ≤ count ∧ table net = some hop ∧
        ∀ other, Covers other address → PrefixSystem.length other ≤ count →
          table other ≠ none → PrefixSystem.length other ≤ PrefixSystem.length net := by
  induction count with
  | zero =>
      have hcover := covers_cover hcount
      have hlength := length_cover hcount
      simp only [longestUpTo, Option.map_eq_some_iff, Prod.mk.injEq]
      constructor
      · rintro ⟨_, hentry, rfl, rfl⟩
        refine ⟨hcover, hlength.le, hentry, ?_⟩
        intro other _ hle _
        exact hle.trans (Nat.zero_le _)
      · rintro ⟨hnet, hle, hentry, -⟩
        have heq : PrefixSystem.cover address 0 = net :=
          hcover.eq_of_length hnet (hlength.trans (Nat.le_zero.mp hle).symm)
        exact ⟨hop, heq ▸ hentry, heq, rfl⟩
  | succ count ih =>
      have hcover := covers_cover hcount
      have hlength := length_cover hcount
      rw [longestUpTo]
      split
      next first hfirst =>
        simp only [Option.some.injEq, Prod.mk.injEq]
        constructor
        · rintro ⟨rfl, rfl⟩
          refine ⟨hcover, hlength.le, hfirst, ?_⟩
          intro other _ hle _
          exact hle.trans hlength.ge
        · rintro ⟨hnet, hle, hentry, hmost⟩
          have hge := hmost _ hcover hlength.le (by rw [hfirst]; exact Option.some_ne_none _)
          rw [hlength] at hge
          have heq : PrefixSystem.cover address (count + 1) = net :=
            hcover.eq_of_length hnet (hlength.trans (Nat.le_antisymm hge hle))
          rw [heq, hentry] at hfirst
          exact ⟨heq, Option.some.inj hfirst.symm⟩
      next hnone =>
        rw [ih (Nat.le_of_succ_le hcount)]
        -- no entry has exactly `count + 1` bits
        have hshort : ∀ other, Covers other address → PrefixSystem.length other ≤ count + 1 →
            table other ≠ none → PrefixSystem.length other ≤ count := by
          intro other hother hle hentry
          refine Nat.le_of_lt_succ (lt_of_le_of_ne hle fun heq => hentry ?_)
          rw [hother.eq_of_length hcover (heq.trans hlength.symm)]
          exact hnone
        constructor
        · rintro ⟨hnet, hle, hentry, hmost⟩
          exact ⟨hnet, Nat.le_succ_of_le hle, hentry,
            fun other hother hle' hsome =>
              hmost other hother (hshort other hother hle' hsome) hsome⟩
        · rintro ⟨hnet, hle, hentry, hmost⟩
          refine ⟨hnet, hshort net hnet hle (by rw [hentry]; exact Option.some_ne_none _),
            hentry, ?_⟩
          intro other hother hle' hsome
          exact hmost other hother (Nat.le_succ_of_le hle') hsome

theorem longest_eq_some_iff :
    longest table address = some (net, hop) ↔
      Covers net address ∧ table net = some hop ∧
        ∀ other, Covers other address → table other ≠ none →
          PrefixSystem.length other ≤ PrefixSystem.length net := by
  rw [longest, longestUpTo_eq_some_iff (le_refl _)]
  constructor
  · rintro ⟨hnet, -, hentry, hmost⟩
    exact ⟨hnet, hentry, fun other hother hsome => hmost other hother hother.1 hsome⟩
  · rintro ⟨hnet, hentry, hmost⟩
    exact ⟨hnet, hnet.1, hentry, fun other hother _ hsome => hmost other hother hsome⟩

theorem longestUpTo_eq_none {count : ℕ} :
    longestUpTo table address count = none →
      ∀ length ≤ count, table (PrefixSystem.cover address length) = none := by
  induction count with
  | zero =>
      intro hnone length hle
      rw [Nat.le_zero.mp hle]
      exact Option.map_eq_none_iff.mp hnone
  | succ count ih =>
      intro hnone length hle
      rw [longestUpTo] at hnone
      split at hnone
      next => cases hnone
      next hentry =>
        rcases Nat.le_succ_iff.mp hle with hle | rfl
        · exact ih hnone length hle
        · exact hentry

theorem longest_eq_none_iff :
    longest table address = none ↔ ∀ net, Covers net address → table net = none := by
  constructor
  · intro hnone net hnet
    rw [← hnet.2]
    exact longestUpTo_eq_none hnone _ hnet.1
  · intro hall
    by_contra hsome
    obtain ⟨⟨net, hop⟩, hlongest⟩ := Option.ne_none_iff_exists'.mp hsome
    obtain ⟨hnet, hentry, -⟩ := longest_eq_some_iff.mp hlongest
    cases hentry.symm.trans (hall net hnet)

/-- An entry that no other entry for the address exceeds decides its route. -/
theorem route_eq_of_longest (hnet : Covers net address)
    (hmost : ∀ other, Covers other address → table other ≠ none →
      PrefixSystem.length other ≤ PrefixSystem.length net)
    (hentry : table net ≠ none) : route table address = table net := by
  obtain ⟨hop, hhop⟩ := Option.ne_none_iff_exists'.mp hentry
  rw [route, longest_eq_some_iff.mpr ⟨hnet, hhop, hmost⟩, hhop]
  rfl

theorem route_eq_none_iff :
    route table address = none ↔ ∀ net, Covers net address → table net = none := by
  rw [route, Option.map_eq_none_iff, longest_eq_none_iff]

/-- Every routed address has a longest entry. -/
theorem exists_longest (hroute : route table address ≠ none) :
    ∃ net, Covers net address ∧ table net ≠ none ∧
      (∀ other, Covers other address → table other ≠ none →
        PrefixSystem.length other ≤ PrefixSystem.length net) ∧
      route table address = table net := by
  obtain ⟨hop, hhop⟩ := Option.ne_none_iff_exists'.mp hroute
  obtain ⟨⟨net, _⟩, hlongest, rfl⟩ := Option.map_eq_some_iff.mp hhop
  obtain ⟨hnet, hentry, hmost⟩ := longest_eq_some_iff.mp hlongest
  have hsome : table net ≠ none := by
    rw [hentry]
    exact Option.some_ne_none _
  exact ⟨net, hnet, hsome, hmost, route_eq_of_longest hnet hmost hsome⟩

end Longest

end VpnBridge.PrefixTable
