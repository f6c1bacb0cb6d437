import Mathlib.Data.List.Infix
import VpnBridge.Core.TransitionSystem

/-!
# Pipelines

A stage takes the symbols of a stream in at one end and carries them out at the
other.  It may fail to carry some of them, but it does not change them, and it passes
the end of the stream on only after everything before it.  A hop is a system with a
stage in either direction.  Hops in a row are a hop again, so what the parts of a line
keep to is kept from one end of it to the other.
-/

namespace VpnBridge.Pipeline

open VpnBridge.TransitionSystem

variable {Symbol : Type}

/-- What has been seen of a stream in one place. -/
structure Tape (Symbol : Type) where
  symbols : List Symbol
  /-- The end of the stream has been seen. -/
  ended : Bool
  deriving DecidableEq

namespace Tape

def blank : Tape Symbol := ⟨[], false⟩

/-- The tape on the right is the one on the left, or shows more. -/
instance : PartialOrder (Tape Symbol) where
  le first second := first.symbols <+: second.symbols ∧ (first.ended = true → second = first)
  le_refl tape := ⟨List.prefix_refl _, fun _ => rfl⟩
  le_trans first second third hfirst hsecond := by
    refine ⟨hfirst.1.trans hsecond.1, fun hended => ?_⟩
    have hsame := hfirst.2 hended
    rw [hsame] at hsecond
    exact hsecond.2 hended
  le_antisymm first second hfirst hsecond := by
    obtain ⟨symbols, ended⟩ := first
    obtain ⟨symbols', ended'⟩ := second
    obtain rfl : symbols = symbols' := hfirst.1.eq_of_length_le hsecond.1.length_le
    cases ended with
    | true => exact (hfirst.2 rfl).symm
    | false =>
        cases ended' with
        | true => exact hsecond.2 rfl
        | false => rfl

theorem blank_le (tape : Tape Symbol) : blank ≤ tape :=
  ⟨List.nil_prefix, nofun⟩

/-- The number of things seen, the end being one of them. -/
def size (tape : Tape Symbol) : ℕ :=
  tape.symbols.length + tape.ended.toNat

theorem size_mono {first second : Tape Symbol} (hle : first ≤ second) :
    first.size ≤ second.size := by
  cases hended : first.ended with
  | true => rw [hle.2 hended]
  | false =>
      rw [size, hended]
      exact hle.1.length_le.trans (Nat.le_add_right _ _)

/-- A tape that shows less can go on with the next symbol, or with the end. -/
theorem exists_next {first second : Tape Symbol} (hle : first ≤ second)
    (hne : first ≠ second) : first.ended = false ∧
      ((∃ symbol, ⟨first.symbols ++ [symbol], false⟩ ≤ second) ∨
        ⟨first.symbols, true⟩ ≤ second) := by
  have hended : first.ended = false := Bool.of_not_eq_true fun hended => hne (hle.2 hended).symm
  refine ⟨hended, ?_⟩
  obtain ⟨rest, hrest⟩ := hle.1
  cases rest with
  | cons symbol rest =>
      refine .inl ⟨symbol, ⟨rest, ?_⟩, nofun⟩
      rw [List.append_assoc, List.singleton_append, hrest]
  | nil =>
      rw [List.append_nil] at hrest
      cases hend : second.ended with
      | true =>
          refine .inr ⟨hrest ▸ List.prefix_refl _, fun _ => ?_⟩
          rw [hrest, ← hend]
      | false =>
          refine absurd ?_ hne
          rw [mk.injEq, hended, hend]
          exact ⟨hrest, rfl⟩

end Tape

/-- What is seen in the second place has been seen in the first one, and unless something
may be lost between them, the end comes after everything. -/
def Conveys (lossy : Bool) (before after : Tape Symbol) : Prop :=
  after.symbols <+: before.symbols ∧
    (after.ended = true → lossy = false → after = before)

instance [DecidableEq Symbol] (lossy : Bool) (before after : Tape Symbol) :
    Decidable (Conveys lossy before after) :=
  inferInstanceAs (Decidable (_ ∧ _))

theorem conveys_of_le {before after : Tape Symbol} (hle : after ≤ before) (lossy : Bool) :
    Conveys lossy before after :=
  ⟨hle.1, fun hended _ => (hle.2 hended).symm⟩

theorem le_of_conveys {before after : Tape Symbol} (hconveys : Conveys false before after) :
    after ≤ before :=
  ⟨hconveys.1, fun hended => (hconveys.2 hended rfl).symm⟩

theorem Conveys.trans {lossy lossy' : Bool} {before middle after : Tape Symbol}
    (hfirst : Conveys lossy before middle) (hsecond : Conveys lossy' middle after) :
    Conveys (lossy || lossy') before after := by
  refine ⟨hsecond.1.trans hfirst.1, fun hended hwhole => ?_⟩
  rw [Bool.or_eq_false_iff] at hwhole
  have hsame := hsecond.2 hended hwhole.2
  rw [hsame] at hended ⊢
  exact hfirst.2 hended hwhole.1

/-! ## Stages -/

structure Stage (Symbol : Type) where
  taken : Tape Symbol
  carried : Tape Symbol
  /-- What has been taken may be lost inside. -/
  lossy : Bool
  /-- What has been carried out may not arrive. -/
  failed : Bool

namespace Stage

variable {first second : Stage Symbol}

def Faithful (stage : Stage Symbol) : Prop :=
  Conveys stage.lossy stage.taken stage.carried

/-- The second stage takes what the first one carries out. -/
def Feeds (first second : Stage Symbol) : Prop :=
  Conveys first.failed first.carried second.taken

instance [DecidableEq Symbol] : Decidable (first.Feeds second) :=
  inferInstanceAs (Decidable (Conveys _ _ _))

/-- One stage behind the other. -/
def pipe (first second : Stage Symbol) : Stage Symbol where
  taken := first.taken
  carried := second.carried
  lossy := first.lossy || first.failed || second.lossy
  failed := second.failed

theorem Faithful.pipe (hfirst : first.Faithful) (hfeeds : first.Feeds second)
    (hsecond : second.Faithful) : (first.pipe second).Faithful :=
  (Conveys.trans hfirst hfeeds).trans hsecond

/-- No more than `bound` symbols have been taken and not been carried out. -/
def Holds (bound : ℕ) (stage : Stage Symbol) : Prop :=
  stage.taken.symbols.length ≤ stage.carried.symbols.length + bound

/-- The symbols that the first stage has carried out and the second one has not taken. -/
def between (first second : Stage Symbol) : ℕ :=
  first.carried.symbols.length - second.taken.symbols.length

theorem Holds.pipe {bound bound' : ℕ} (hfirst : first.Holds bound)
    (hsecond : second.Holds bound') :
    (first.pipe second).Holds (bound + between first second + bound') := by
  have hgap : first.carried.symbols.length ≤
      second.taken.symbols.length + between first second := by
    rw [between]
    omega
  calc
    first.taken.symbols.length ≤ first.carried.symbols.length + bound := hfirst
    _ ≤ second.taken.symbols.length + between first second + bound :=
      Nat.add_le_add_right hgap _
    _ ≤ second.carried.symbols.length + bound' + between first second + bound :=
      Nat.add_le_add_right (Nat.add_le_add_right hsecond _) _
    _ = second.carried.symbols.length + (bound + between first second + bound') := by omega

theorem feeds_of_blank (hblank : second.taken = .blank) : first.Feeds second := by
  rw [Feeds, hblank]
  exact conveys_of_le (Tape.blank_le _) _

end Stage

/-! ## Hops -/

inductive Way where
  | forth
  | back
  deriving DecidableEq

def Way.other : Way → Way
  | .forth => .back
  | .back => .forth

/-- A system that stands between two others, with a stage in either direction.  Whatever
it does, both stages are faithful. -/
structure Hop (Symbol State Event : Type) where
  start : State
  step : State → Event → Option State
  stage : Way → State → Stage Symbol
  taken_start : ∀ way, (stage way start).taken = .blank
  faithful : ∀ {trace : List (Transition State Event)} {state : State},
    Execution step start trace state → ∀ way, (stage way state).Faithful

namespace Hop

variable {NearState NearEvent FarState FarEvent : Type}

section Join

variable (near : Hop Symbol NearState NearEvent) (far : Hop Symbol FarState FarEvent)

/-- Either hop takes what the other one carries towards it. -/
def Joined (state : NearState × FarState) : Prop :=
  (near.stage .forth state.1).Feeds (far.stage .forth state.2) ∧
    (far.stage .back state.2).Feeds (near.stage .back state.1)

instance [DecidableEq Symbol] (state : NearState × FarState) :
    Decidable (Joined near far state) :=
  inferInstanceAs (Decidable (_ ∧ _))

/-- A step of either hop.  It cannot take what the other one has not carried out. -/
def joinStep [DecidableEq Symbol] (state : NearState × FarState) :
    NearEvent ⊕ FarEvent → Option (NearState × FarState)
  | .inl event =>
      ((near.step state.1 event).map fun next => (next, state.2)).filter
        fun state => decide (Joined near far state)
  | .inr event =>
      ((far.step state.2 event).map fun next => (state.1, next)).filter
        fun state => decide (Joined near far state)

/-- The stages of two hops in a row. -/
def joinStage : Way → NearState × FarState → Stage Symbol
  | .forth, state => (near.stage .forth state.1).pipe (far.stage .forth state.2)
  | .back, state => (far.stage .back state.2).pipe (near.stage .back state.1)

/-- The symbols that one of the hops has carried out and the other one has not taken. -/
def between : Way → NearState × FarState → ℕ
  | .forth, state => (near.stage .forth state.1).between (far.stage .forth state.2)
  | .back, state => (far.stage .back state.2).between (near.stage .back state.1)

/-- What has happened in a row has happened in each of the two hops. -/
structure Ran (state : NearState × FarState) : Prop where
  near_run : ∃ trace, Execution near.step near.start trace state.1
  far_run : ∃ trace, Execution far.step far.start trace state.2
  joined : Joined near far state

end Join

variable {near : Hop Symbol NearState NearEvent} {far : Hop Symbol FarState FarEvent}
variable {state next : NearState × FarState}

theorem ran_start : Ran near far (near.start, far.start) where
  near_run := ⟨[], .nil⟩
  far_run := ⟨[], .nil⟩
  joined := ⟨Stage.feeds_of_blank (far.taken_start .forth),
    Stage.feeds_of_blank (near.taken_start .back)⟩

section Run

variable [DecidableEq Symbol]

theorem joinStep_inl_iff {event : NearEvent} :
    joinStep near far state (.inl event) = some next ↔
      near.step state.1 event = some next.1 ∧ next.2 = state.2 ∧ Joined near far next := by
  rw [joinStep, Option.filter_eq_some_iff, Option.map_eq_some_iff, decide_eq_true_iff]
  constructor
  · rintro ⟨⟨near', hstep, rfl⟩, hjoined⟩
    exact ⟨hstep, rfl, hjoined⟩
  · rintro ⟨hstep, hsame, hjoined⟩
    exact ⟨⟨next.1, hstep, Prod.ext rfl hsame.symm⟩, hjoined⟩

theorem joinStep_inr_iff {event : FarEvent} :
    joinStep near far state (.inr event) = some next ↔
      far.step state.2 event = some next.2 ∧ next.1 = state.1 ∧ Joined near far next := by
  rw [joinStep, Option.filter_eq_some_iff, Option.map_eq_some_iff, decide_eq_true_iff]
  constructor
  · rintro ⟨⟨far', hstep, rfl⟩, hjoined⟩
    exact ⟨hstep, rfl, hjoined⟩
  · rintro ⟨hstep, hsame, hjoined⟩
    exact ⟨⟨next.2, hstep, Prod.ext hsame.symm rfl⟩, hjoined⟩

theorem ran_step {event : NearEvent ⊕ FarEvent}
    (hstep : joinStep near far state event = some next) (hran : Ran near far state) :
    Ran near far next := by
  cases event with
  | inl event =>
      obtain ⟨hnear, hsame, hjoined⟩ := joinStep_inl_iff.mp hstep
      obtain ⟨trace, hrun⟩ := hran.near_run
      exact ⟨⟨_, .snoc hrun hnear⟩, hsame ▸ hran.far_run, hjoined⟩
  | inr event =>
      obtain ⟨hfar, hsame, hjoined⟩ := joinStep_inr_iff.mp hstep
      obtain ⟨trace, hrun⟩ := hran.far_run
      exact ⟨hsame ▸ hran.near_run, ⟨_, .snoc hrun hfar⟩, hjoined⟩

/-- Two hops in a row. -/
def join (near : Hop Symbol NearState NearEvent) (far : Hop Symbol FarState FarEvent) :
    Hop Symbol (NearState × FarState) (NearEvent ⊕ FarEvent) where
  start := (near.start, far.start)
  step := joinStep near far
  stage := joinStage near far
  taken_start
    | .forth => near.taken_start .forth
    | .back => far.taken_start .back
  faithful hrun way := by
    obtain ⟨⟨_, hnear⟩, ⟨_, hfar⟩, hforth, hback⟩ := Execution.invariant ran_step hrun ran_start
    cases way with
    | forth => exact (near.faithful hnear .forth).pipe hforth (far.faithful hfar .forth)
    | back => exact (far.faithful hfar .back).pipe hback (near.faithful hnear .back)

theorem ran_of_run {trace : List (Transition (NearState × FarState) (NearEvent ⊕ FarEvent))}
    (hrun : Execution (near.join far).step (near.join far).start trace state) :
    Ran near far state :=
  Execution.invariant ran_step hrun ran_start

/-- Two hops hold what either of them holds, and what is on the way between them. -/
theorem holds_join {way : Way} {bound bound' : ℕ} (hnear : (near.stage way state.1).Holds bound)
    (hfar : (far.stage way state.2).Holds bound') :
    ((near.join far).stage way state).Holds (bound + between near far way state + bound') := by
  cases way with
  | forth => exact hnear.pipe hfar
  | back =>
      have hpipe := hfar.pipe hnear
      rw [Nat.add_comm, Nat.add_comm bound', ← Nat.add_assoc] at hpipe
      exact hpipe

end Run

end Hop

end VpnBridge.Pipeline
