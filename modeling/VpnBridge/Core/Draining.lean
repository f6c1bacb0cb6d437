import Mathlib.Tactic.Linarith
import VpnBridge.Core.Pipeline

/-!
# Draining pipelines

A hop drains when it can only go on for so long with what it has taken, when it has
carried everything by the time it comes to rest, and when it then takes whatever comes
next.  Hops that drain do so in a row as well.
-/

namespace VpnBridge.Pipeline

open VpnBridge.TransitionSystem

variable {Symbol State Event : Type}

/-- What an event is to a hop. -/
inductive Motion where
  /-- The hop goes on with what it has taken. -/
  | within
  /-- A stage takes more. -/
  | takes (way : Way)
  | foreign
  deriving DecidableEq

namespace Hop

variable (hop : Hop Symbol State Event)

/-- Nothing has been lost or broken off. -/
def Intact (state : State) : Prop :=
  ∀ way, (hop.stage way state).lossy = false ∧ (hop.stage way state).failed = false

/-- The hop can be in this state, is intact, and has what it needs to go on. -/
structure Live (ready : State → Prop) (state : State) : Prop where
  reached : ∃ trace, Execution hop.step hop.start trace state
  intact : hop.Intact state
  ready : ready state

/-- The hop cannot go on with what it has taken. -/
def Rests (motion : State → Event → Motion) (state : State) : Prop :=
  ∀ event, motion state event = .within → hop.step state event = none

end Hop

/-- What a step of a draining hop does.  `pending` bounds the steps that are left to a stage
with what it has taken; each symbol taken adds at most `cost` to it, and each one carried
takes something off it. -/
structure Drives (hop : Hop Symbol State Event) (cost : ℕ) (pending : Way → State → ℕ)
    (state next : State) (motion : Motion) : Prop where
  intact : hop.Intact next
  taken_le : ∀ way, (hop.stage way state).taken ≤ (hop.stage way next).taken
  taken_eq : ∀ way, motion ≠ .takes way →
    (hop.stage way next).taken = (hop.stage way state).taken
  taken_lt : ∀ way, motion = .takes way →
    (hop.stage way state).taken.size < (hop.stage way next).taken.size
  carried_le : ∀ way, (hop.stage way state).carried ≤ (hop.stage way next).carried
  pending_le : ∀ way, pending way next + (hop.stage way next).carried.size ≤
    pending way state + (hop.stage way state).carried.size +
      cost * ((hop.stage way next).taken.size - (hop.stage way state).taken.size)
  pending_lt : motion = .within →
    pending .forth next + pending .back next < pending .forth state + pending .back state

/-- What a step of one stage does to its two ends. -/
structure Advances (way : Way) (cost : ℕ) (motion : Motion)
    (taken taken' carried carried' : Tape Symbol) (pending pending' : ℕ) : Prop where
  within_or : motion = .within ∨ motion = .takes way
  taken_le : taken ≤ taken'
  taken_eq : motion = .within → taken' = taken
  taken_lt : motion = .takes way → taken.size < taken'.size
  carried_le : carried ≤ carried'
  pending_le : pending' + carried'.size ≤ pending + carried.size + cost * (taken'.size - taken.size)
  pending_lt : motion = .within → pending' < pending

theorem Advances.of_within {way : Way} {cost pending pending' : ℕ}
    {taken taken' carried carried' : Tape Symbol} (htaken : taken' = taken)
    (hcarried : carried ≤ carried') (hpending : pending' + carried'.size ≤ pending + carried.size)
    (hless : pending' < pending) :
    Advances way cost .within taken taken' carried carried' pending pending' :=
  ⟨.inl rfl, htaken.ge, fun _ => htaken, nofun, hcarried,
    hpending.trans (Nat.le_add_right _ _), fun _ => hless⟩

theorem Advances.of_takes {way : Way} {cost pending pending' : ℕ}
    {taken taken' carried carried' : Tape Symbol} (htaken : taken ≤ taken')
    (hsize : taken.size < taken'.size) (hcarried : carried ≤ carried')
    (hpending : pending' + carried'.size ≤
      pending + carried.size + cost * (taken'.size - taken.size)) :
    Advances way cost (.takes way) taken taken' carried carried' pending pending' :=
  ⟨.inr rfl, htaken, nofun, fun _ => hsize, hcarried, hpending, nofun⟩

/-- The step moves nothing but one stage. -/
theorem drives_of_advances {hop : Hop Symbol State Event} {cost : ℕ} {pending : Way → State → ℕ}
    {state next : State} {motion : Motion} (way : Way) (hintact : hop.Intact next)
    (htaken : (hop.stage way.other next).taken = (hop.stage way.other state).taken)
    (hcarried : (hop.stage way.other next).carried = (hop.stage way.other state).carried)
    (hpending : pending way.other next = pending way.other state)
    (hadvances : Advances way cost motion (hop.stage way state).taken (hop.stage way next).taken
      (hop.stage way state).carried (hop.stage way next).carried (pending way state)
      (pending way next)) :
    Drives hop cost pending state next motion := by
  have hways (other : Way) : other = way ∨ other = way.other := by
    cases other <;> cases way <;> first | exact .inl rfl | exact .inr rfl
  refine ⟨hintact, fun other => ?_, fun other hmotion => ?_, fun other hmotion => ?_,
    fun other => ?_, fun other => ?_, fun hmotion => ?_⟩
  · rcases hways other with rfl | rfl
    · exact hadvances.taken_le
    · exact htaken.ge
  · rcases hways other with rfl | rfl
    · exact hadvances.taken_eq (hadvances.within_or.resolve_right hmotion)
    · exact htaken
  · rcases hadvances.within_or with hwithin | htakes
    · cases hwithin.symm.trans hmotion
    · cases htakes.symm.trans hmotion
      exact hadvances.taken_lt htakes
  · rcases hways other with rfl | rfl
    · exact hadvances.carried_le
    · exact hcarried.ge
  · rcases hways other with rfl | rfl
    · exact hadvances.pending_le
    · rw [hcarried, hpending]
      exact Nat.le_add_right _ _
  · have hless := hadvances.pending_lt hmotion
    cases way with
    | forth => exact Nat.add_lt_add_of_lt_of_le hless hpending.le
    | back => exact Nat.add_lt_add_of_le_of_lt hpending.le hless

/-- A hop that does not stop before it has carried everything. -/
structure Drains (hop : Hop Symbol State Event) where
  ready : State → Prop
  motion : State → Event → Motion
  cost : ℕ
  pending : Way → State → ℕ
  drives : ∀ {state next : State} {event : Event}, hop.Live ready state →
    hop.step state event = some next → motion state event ≠ .foreign →
    ready next ∧ Drives hop cost pending state next (motion state event)
  settled : ∀ {state : State}, hop.Live ready state → hop.Rests motion state →
    ∀ way, (hop.stage way state).carried = (hop.stage way state).taken
  takes : ∀ {state : State}, hop.Live ready state → hop.Rests motion state →
    ∀ way, (hop.stage way state).taken.ended = false →
    (∀ symbol, ∃ event next, motion state event = .takes way ∧
      hop.step state event = some next ∧
      (hop.stage way next).taken = ⟨(hop.stage way state).taken.symbols ++ [symbol], false⟩) ∧
    ∃ event next, motion state event = .takes way ∧ hop.step state event = some next ∧
      (hop.stage way next).taken = ⟨(hop.stage way state).taken.symbols, true⟩

namespace Drains

section Runs

variable {hop : Hop Symbol State Event} {state final : State}
variable {moves : List (Transition State Event)}

/-- The steps that are left to both stages. -/
def work (drains : Drains hop) (state : State) : ℕ :=
  drains.pending .forth state + drains.pending .back state

theorem live_step (drains : Drains hop) {next : State} {event : Event}
    (hlive : hop.Live drains.ready state) (hstep : hop.step state event = some next)
    (hmotion : drains.motion state event ≠ .foreign) : hop.Live drains.ready next := by
  obtain ⟨hready, hdrives⟩ := drains.drives hlive hstep hmotion
  obtain ⟨trace, hrun⟩ := hlive.reached
  exact ⟨⟨_, .snoc hrun hstep⟩, hdrives.intact, hready⟩

/-- A hop that takes nothing more can only go on for so long. -/
theorem work_run (drains : Drains hop) (hlive : hop.Live drains.ready state)
    (hmoves : ∀ tr ∈ moves, drains.motion tr.pre tr.event = .within)
    (hrun : Execution hop.step state moves final) :
    moves.length + drains.work final ≤ drains.work state ∧ hop.Live drains.ready final ∧
      ∀ way, (hop.stage way final).taken = (hop.stage way state).taken := by
  induction hrun with
  | nil => exact ⟨by simp, hlive, fun _ => rfl⟩
  | @snoc moves middle next event hrun hstep ih =>
      rw [List.forall_mem_append, List.forall_mem_singleton] at hmoves
      obtain ⟨hwork, hmiddle, htaken⟩ := ih hmoves.1
      have hforeign : drains.motion middle event ≠ .foreign := by
        rw [hmoves.2]
        exact nofun
      have hdrives := (drains.drives hmiddle hstep hforeign).2
      refine ⟨?_, drains.live_step hmiddle hstep hforeign, fun way => ?_⟩
      · have hless : drains.work next < drains.work middle := hdrives.pending_lt hmoves.2
        rw [List.length_append, List.length_singleton]
        omega
      · rw [hdrives.taken_eq way (by rw [hmoves.2]; exact nofun), htaken way]

/-- However the hop goes on with what it has taken, it goes on for so long only, and when
it cannot go on any more it has carried everything. -/
structure ComesThrough (drains : Drains hop) (state : State) : Prop where
  bounded : ∀ moves final, (∀ tr ∈ moves, drains.motion tr.pre tr.event = .within) →
    Execution hop.step state moves final → moves.length + drains.work final ≤ drains.work state
  carried : ∀ moves final, (∀ tr ∈ moves, drains.motion tr.pre tr.event = .within) →
    Execution hop.step state moves final → hop.Rests drains.motion final →
      ∀ way, (hop.stage way final).carried = (hop.stage way state).taken

theorem comesThrough (drains : Drains hop) (hlive : hop.Live drains.ready state) :
    drains.ComesThrough state where
  bounded _ _ hmoves hrun := (drains.work_run hlive hmoves hrun).1
  carried _ _ hmoves hrun hrests way := by
    obtain ⟨-, hfinal, htaken⟩ := drains.work_run hlive hmoves hrun
    rw [drains.settled hfinal hrests way, htaken way]

/-- A hop with no steps left to it rests. -/
theorem rests_of_work_eq_zero (drains : Drains hop) (hlive : hop.Live drains.ready state)
    (hwork : drains.work state = 0) : hop.Rests drains.motion state := by
  intro event hmotion
  by_contra hsome
  obtain ⟨next, hstep⟩ := Option.ne_none_iff_exists'.mp hsome
  have hless := (drains.drives hlive hstep (by rw [hmotion]; exact nofun)).2.pending_lt hmotion
  rw [work] at hwork
  omega

end Runs

/-! ## Two hops in a row -/

section Join

variable {NearState NearEvent FarState FarEvent : Type} [DecidableEq Symbol]
variable {near : Hop Symbol NearState NearEvent} {far : Hop Symbol FarState FarEvent}

/-- What an event of one of the hops is to the row. -/
def joinMotion (drainsNear : Drains near) (drainsFar : Drains far)
    (state : NearState × FarState) : NearEvent ⊕ FarEvent → Motion
  | .inl event =>
      match drainsNear.motion state.1 event with
      | .takes .back => .within
      | motion => motion
  | .inr event =>
      match drainsFar.motion state.2 event with
      | .takes .forth => .within
      | motion => motion

def joinReady (drainsNear : Drains near) (drainsFar : Drains far)
    (state : NearState × FarState) : Prop :=
  drainsNear.ready state.1 ∧ drainsFar.ready state.2

/-- The steps that are left to one stage behind another: what the first one has carried
and the second one has not taken counts as well. -/
def linkWork (cost first gap second : ℕ) : ℕ :=
  (cost + 2) * first + (cost + 1) * gap + second

def joinPending (drainsNear : Drains near) (drainsFar : Drains far) :
    Way → NearState × FarState → ℕ
  | .forth, state =>
      linkWork drainsFar.cost (drainsNear.pending .forth state.1)
        ((near.stage .forth state.1).carried.size - (far.stage .forth state.2).taken.size)
        (drainsFar.pending .forth state.2)
  | .back, state =>
      linkWork drainsNear.cost (drainsFar.pending .back state.2)
        ((far.stage .back state.2).carried.size - (near.stage .back state.1).taken.size)
        (drainsNear.pending .back state.1)

def joinCost (drainsNear : Drains near) (drainsFar : Drains far) : ℕ :=
  (drainsFar.cost + 2) * drainsNear.cost + (drainsNear.cost + 2) * drainsFar.cost

/-- The first stage moves. -/
theorem linkWork_first (cost second : ℕ) {first first' carried carried' taken added : ℕ}
    (hfirst : first' + carried' ≤ first + carried + added) (hcarried : carried ≤ carried')
    (htaken : taken ≤ carried) :
    linkWork cost first' (carried' - taken) second + (first + added - first') ≤
      linkWork cost first (carried - taken) second + (cost + 2) * added := by
  obtain ⟨more, rfl⟩ := Nat.exists_eq_add_of_le hcarried
  obtain ⟨gap, rfl⟩ := Nat.exists_eq_add_of_le htaken
  obtain ⟨less, hless⟩ : ∃ less, first + added = first' + less + more :=
    ⟨first + added - first' - more, by omega⟩
  have hmore : taken + gap + more - taken = gap + more := by omega
  have hgap : taken + gap - taken = gap := by omega
  have hrest : first + added - first' = less + more := by omega
  have hscaled : (cost + 2) * (first + added) = (cost + 2) * (first' + less + more) := by
    rw [hless]
  rw [linkWork, linkWork, hmore, hgap, hrest]
  linarith [hscaled, Nat.zero_le (cost * less)]

/-- The second stage moves. -/
theorem linkWork_second (cost first second second' : ℕ) {carried taken taken' : ℕ}
    (hle : taken ≤ taken') (htaken : taken' ≤ carried) :
    linkWork cost first (carried - taken') second' + (cost * (taken' - taken) +
        (taken' - taken) + second) =
      linkWork cost first (carried - taken) second + second' := by
  obtain ⟨more, rfl⟩ := Nat.exists_eq_add_of_le hle
  obtain ⟨gap, rfl⟩ := Nat.exists_eq_add_of_le htaken
  have hmore : taken + more - taken = more := by omega
  have hgap : taken + more + gap - (taken + more) = gap := by omega
  have hboth : taken + more + gap - taken = more + gap := by omega
  rw [linkWork, linkWork, hmore, hgap, hboth]
  linarith

end Join

/-- What a step of one hop costs a row in which that hop is the first on the way `out` and
the second on the other way. -/
theorem spends {hop : Hop Symbol State Event} {cost : ℕ} {pending : Way → State → ℕ}
    {state next : State} {motion : Motion} (hdrives : Drives hop cost pending state next motion)
    (hforeign : motion ≠ .foreign) (out : Way) (cost' first second : ℕ) {taken carried : ℕ}
    (htaken : taken ≤ (hop.stage out state).carried.size)
    (hcarried : (hop.stage out.other next).taken.size ≤ carried) :
    linkWork cost' (pending out next) ((hop.stage out next).carried.size - taken) second ≤
        linkWork cost' (pending out state) ((hop.stage out state).carried.size - taken) second +
          (cost' + 2) * cost * ((hop.stage out next).taken.size -
            (hop.stage out state).taken.size) ∧
      linkWork cost first (carried - (hop.stage out.other next).taken.size)
            (pending out.other next) + (hop.stage out.other next).carried.size ≤
        linkWork cost first (carried - (hop.stage out.other state).taken.size)
          (pending out.other state) + (hop.stage out.other state).carried.size ∧
      (motion ≠ .takes out →
        linkWork cost' (pending out next) ((hop.stage out next).carried.size - taken) second +
            linkWork cost first (carried - (hop.stage out.other next).taken.size)
              (pending out.other next) <
          linkWork cost' (pending out state) ((hop.stage out state).carried.size - taken) second +
            linkWork cost first (carried - (hop.stage out.other state).taken.size)
              (pending out.other state)) := by
  have hfirst := linkWork_first cost' second (hdrives.pending_le out)
    (Tape.size_mono (hdrives.carried_le out)) htaken
  have hsecond := linkWork_second cost first (pending out.other state) (pending out.other next)
    (Tape.size_mono (hdrives.taken_le out.other)) hcarried
  have hpending := hdrives.pending_le out.other
  have hcarried := Tape.size_mono (hdrives.carried_le out.other)
  rw [← Nat.mul_assoc] at hfirst
  refine ⟨by omega, by omega, fun hout => ?_⟩
  rw [hdrives.taken_eq out hout, Nat.sub_self, Nat.mul_zero, Nat.mul_zero] at hfirst
  cases motion with
  | foreign => exact absurd rfl hforeign
  | within =>
      have hless : pending out next + pending out.other next <
          pending out state + pending out.other state := by
        have hboth := hdrives.pending_lt rfl
        cases out with
        | forth => exact hboth
        | back => exact (Nat.add_comm _ _).trans_lt (hboth.trans_eq (Nat.add_comm _ _))
      rw [hdrives.taken_eq out.other nofun, Nat.sub_self, Nat.mul_zero] at hsecond
      rw [hdrives.taken_eq out.other nofun]
      omega
  | takes way =>
      have hmore := hdrives.taken_lt way rfl
      obtain rfl : way = out.other := by
        cases way <;> cases out <;> first | rfl | exact absurd rfl hout
      omega

/-! ## Two hops in a row, while neither fails -/

section JoinLive

variable {NearState NearEvent FarState FarEvent : Type}
variable {near : Hop Symbol NearState NearEvent} {far : Hop Symbol FarState FarEvent}
variable {state : NearState × FarState}

/-- Between intact hops nothing is lost. -/
theorem joined_iff {near' : NearState} {far' : FarState} (hnear : near.Intact near')
    (hfar : far.Intact far') :
    Hop.Joined near far (near', far') ↔
      (far.stage .forth far').taken ≤ (near.stage .forth near').carried ∧
        (near.stage .back near').taken ≤ (far.stage .back far').carried := by
  rw [Hop.Joined, Stage.Feeds, Stage.Feeds, (hnear .forth).2, (hfar .back).2]
  exact and_congr ⟨le_of_conveys, fun hle => conveys_of_le hle _⟩
    ⟨le_of_conveys, fun hle => conveys_of_le hle _⟩

variable [DecidableEq Symbol]

theorem intact_join_iff :
    (near.join far).Intact state ↔ near.Intact state.1 ∧ far.Intact state.2 := by
  have hforth : (near.join far).stage .forth state =
      (near.stage .forth state.1).pipe (far.stage .forth state.2) := rfl
  have hback : (near.join far).stage .back state =
      (far.stage .back state.2).pipe (near.stage .back state.1) := rfl
  constructor
  · intro hintact
    have hlossy := hintact .forth
    have hlossy' := hintact .back
    simp only [hforth, hback, Stage.pipe, Bool.or_eq_false_iff] at hlossy hlossy'
    constructor
    · rintro (_ | _)
      · exact hlossy.1.1
      · exact ⟨hlossy'.1.2, hlossy'.2⟩
    · rintro (_ | _)
      · exact ⟨hlossy.1.2, hlossy.2⟩
      · exact hlossy'.1.1
  · rintro ⟨hnear, hfar⟩ (_ | _)
    · simp only [hforth, Stage.pipe, Bool.or_eq_false_iff]
      exact ⟨⟨hnear .forth, (hfar .forth).1⟩, (hfar .forth).2⟩
    · simp only [hback, Stage.pipe, Bool.or_eq_false_iff]
      exact ⟨⟨hfar .back, (hnear .back).1⟩, (hnear .back).2⟩

variable {drainsNear : Drains near} {drainsFar : Drains far}

/-- A row that nothing has befallen. -/
structure LiveRow (drainsNear : Drains near) (drainsFar : Drains far)
    (state : NearState × FarState) : Prop where
  near_live : near.Live drainsNear.ready state.1
  far_live : far.Live drainsFar.ready state.2
  forth : (far.stage .forth state.2).taken ≤ (near.stage .forth state.1).carried
  back : (near.stage .back state.1).taken ≤ (far.stage .back state.2).carried

theorem liveRow_of_live (hlive : (near.join far).Live (joinReady drainsNear drainsFar) state) :
    LiveRow drainsNear drainsFar state := by
  obtain ⟨⟨trace, hrun⟩, hintact, hnearReady, hfarReady⟩ := hlive
  obtain ⟨hnear, hfar⟩ := intact_join_iff.mp hintact
  have hran := Hop.ran_of_run hrun
  obtain ⟨hforth, hback⟩ := (joined_iff hnear hfar).mp hran.joined
  exact ⟨⟨hran.near_run, hnear, hnearReady⟩, ⟨hran.far_run, hfar, hfarReady⟩, hforth, hback⟩

/-- The near hop can do what it could do alone, as long as it finds what it takes. -/
theorem step_inl {event : NearEvent} {near' : NearState} (hrow : LiveRow drainsNear drainsFar state)
    (hstep : near.step state.1 event = some near')
    (hmotion : drainsNear.motion state.1 event ≠ .foreign)
    (htaken : (near.stage .back near').taken ≤ (far.stage .back state.2).carried) :
    (near.join far).step state (.inl event) = some (near', state.2) := by
  have hdrives := (drainsNear.drives hrow.near_live hstep hmotion).2
  exact Hop.joinStep_inl_iff.mpr ⟨hstep, rfl,
    (joined_iff hdrives.intact hrow.far_live.intact).mpr
      ⟨hrow.forth.trans (hdrives.carried_le .forth), htaken⟩⟩

theorem step_inr {event : FarEvent} {far' : FarState} (hrow : LiveRow drainsNear drainsFar state)
    (hstep : far.step state.2 event = some far')
    (hmotion : drainsFar.motion state.2 event ≠ .foreign)
    (htaken : (far.stage .forth far').taken ≤ (near.stage .forth state.1).carried) :
    (near.join far).step state (.inr event) = some (state.1, far') := by
  have hdrives := (drainsFar.drives hrow.far_live hstep hmotion).2
  exact Hop.joinStep_inr_iff.mpr ⟨hstep, rfl,
    (joined_iff hrow.near_live.intact hdrives.intact).mpr
      ⟨htaken, hrow.back.trans (hdrives.carried_le .back)⟩⟩

/-- When a row rests, so do both of its hops. -/
theorem rests_near (hrow : LiveRow drainsNear drainsFar state)
    (hrests : (near.join far).Rests (joinMotion drainsNear drainsFar) state) :
    near.Rests drainsNear.motion state.1 := by
  intro event hmotion
  by_contra hsome
  obtain ⟨near', hstep⟩ := Option.ne_none_iff_exists'.mp hsome
  have hforeign : drainsNear.motion state.1 event ≠ .foreign := by rw [hmotion]; exact nofun
  have hsame := (drainsNear.drives hrow.near_live hstep hforeign).2.taken_eq .back
    (by rw [hmotion]; exact nofun)
  have hnone := hrests (.inl event) (by rw [joinMotion, hmotion])
  rw [step_inl hrow hstep hforeign (hsame ▸ hrow.back)] at hnone
  cases hnone

theorem rests_far (hrow : LiveRow drainsNear drainsFar state)
    (hrests : (near.join far).Rests (joinMotion drainsNear drainsFar) state) :
    far.Rests drainsFar.motion state.2 := by
  intro event hmotion
  by_contra hsome
  obtain ⟨far', hstep⟩ := Option.ne_none_iff_exists'.mp hsome
  have hforeign : drainsFar.motion state.2 event ≠ .foreign := by rw [hmotion]; exact nofun
  have hsame := (drainsFar.drives hrow.far_live hstep hforeign).2.taken_eq .forth
    (by rw [hmotion]; exact nofun)
  have hnone := hrests (.inr event) (by rw [joinMotion, hmotion])
  rw [step_inr hrow hstep hforeign (hsame ▸ hrow.forth)] at hnone
  cases hnone

/-- At rest the far hop has taken what the near one has carried. -/
theorem forth_eq (hrow : LiveRow drainsNear drainsFar state)
    (hrests : (near.join far).Rests (joinMotion drainsNear drainsFar) state) :
    (far.stage .forth state.2).taken = (near.stage .forth state.1).carried := by
  by_contra hne
  obtain ⟨hopen, hnext⟩ := Tape.exists_next hrow.forth hne
  obtain ⟨hsymbol, hend⟩ :=
    drainsFar.takes hrow.far_live (rests_far hrow hrests) .forth hopen
  obtain ⟨event, far', hmotion, hstep, htaken⟩ : ∃ event far',
      drainsFar.motion state.2 event = .takes .forth ∧ far.step state.2 event = some far' ∧
        (far.stage .forth far').taken ≤ (near.stage .forth state.1).carried := by
    rcases hnext with ⟨symbol, hle⟩ | hle
    · obtain ⟨event, far', hmotion, hstep, htaken⟩ := hsymbol symbol
      exact ⟨event, far', hmotion, hstep, htaken ▸ hle⟩
    · obtain ⟨event, far', hmotion, hstep, htaken⟩ := hend
      exact ⟨event, far', hmotion, hstep, htaken ▸ hle⟩
  have hnone := hrests (.inr event) (by rw [joinMotion, hmotion])
  rw [step_inr hrow hstep (by rw [hmotion]; exact nofun) htaken] at hnone
  cases hnone

theorem back_eq (hrow : LiveRow drainsNear drainsFar state)
    (hrests : (near.join far).Rests (joinMotion drainsNear drainsFar) state) :
    (near.stage .back state.1).taken = (far.stage .back state.2).carried := by
  by_contra hne
  obtain ⟨hopen, hnext⟩ := Tape.exists_next hrow.back hne
  obtain ⟨hsymbol, hend⟩ :=
    drainsNear.takes hrow.near_live (rests_near hrow hrests) .back hopen
  obtain ⟨event, near', hmotion, hstep, htaken⟩ : ∃ event near',
      drainsNear.motion state.1 event = .takes .back ∧ near.step state.1 event = some near' ∧
        (near.stage .back near').taken ≤ (far.stage .back state.2).carried := by
    rcases hnext with ⟨symbol, hle⟩ | hle
    · obtain ⟨event, near', hmotion, hstep, htaken⟩ := hsymbol symbol
      exact ⟨event, near', hmotion, hstep, htaken ▸ hle⟩
    · obtain ⟨event, near', hmotion, hstep, htaken⟩ := hend
      exact ⟨event, near', hmotion, hstep, htaken ▸ hle⟩
  have hnone := hrests (.inl event) (by rw [joinMotion, hmotion])
  rw [step_inl hrow hstep (by rw [hmotion]; exact nofun) htaken] at hnone
  cases hnone

/-- A step of the near hop is a step of the row. -/
theorem drives_inl {event : NearEvent} {near' : NearState}
    (hrow : LiveRow drainsNear drainsFar state)
    (hforeign : drainsNear.motion state.1 event ≠ .foreign)
    (hdrives : Drives near drainsNear.cost drainsNear.pending state.1 near'
      (drainsNear.motion state.1 event))
    (hback : (near.stage .back near').taken ≤ (far.stage .back state.2).carried) :
    Drives (near.join far) (joinCost drainsNear drainsFar) (joinPending drainsNear drainsFar)
      state (near', state.2) (joinMotion drainsNear drainsFar state (.inl event)) := by
  obtain ⟨hforth_work, hback_work, hless⟩ := spends hdrives hforeign .forth drainsFar.cost
    (drainsFar.pending .back state.2) (drainsFar.pending .forth state.2)
    (Tape.size_mono hrow.forth) (Tape.size_mono hback)
  have hcost := Nat.mul_le_mul_right
    ((near.stage .forth near').taken.size - (near.stage .forth state.1).taken.size)
    (Nat.le_add_right ((drainsFar.cost + 2) * drainsNear.cost)
      ((drainsNear.cost + 2) * drainsFar.cost))
  have hforth (hmotion : joinMotion drainsNear drainsFar state (.inl event) ≠ .takes .forth) :
      drainsNear.motion state.1 event ≠ .takes .forth :=
    fun heq => hmotion (by rw [joinMotion, heq])
  refine ⟨intact_join_iff.mpr ⟨hdrives.intact, hrow.far_live.intact⟩, ?_, ?_, ?_, ?_, ?_, ?_⟩
  · rintro (_ | _)
    · exact hdrives.taken_le .forth
    · exact le_refl _
  · rintro (_ | _) hmotion
    · exact hdrives.taken_eq .forth (hforth hmotion)
    · rfl
  · rintro (_ | _) hmotion
    · refine hdrives.taken_lt .forth ?_
      rw [joinMotion] at hmotion
      split at hmotion
      next => cases hmotion
      next => exact hmotion
    · rw [joinMotion] at hmotion
      split at hmotion
      next => cases hmotion
      next hother => exact absurd hmotion hother
  · rintro (_ | _)
    · exact le_refl _
    · exact hdrives.carried_le .back
  · rintro (_ | _)
    · exact (Nat.add_le_add_right (hforth_work.trans (Nat.add_le_add_left hcost _)) _).trans
        (le_of_eq (Nat.add_right_comm _ _ _))
    · exact hback_work.trans (Nat.le_add_right _ _)
  · intro hmotion
    exact hless (hforth (by rw [hmotion]; exact nofun))

theorem drives_inr {event : FarEvent} {far' : FarState}
    (hrow : LiveRow drainsNear drainsFar state)
    (hforeign : drainsFar.motion state.2 event ≠ .foreign)
    (hdrives : Drives far drainsFar.cost drainsFar.pending state.2 far'
      (drainsFar.motion state.2 event))
    (hforth : (far.stage .forth far').taken ≤ (near.stage .forth state.1).carried) :
    Drives (near.join far) (joinCost drainsNear drainsFar) (joinPending drainsNear drainsFar)
      state (state.1, far') (joinMotion drainsNear drainsFar state (.inr event)) := by
  obtain ⟨hback_work, hforth_work, hless⟩ := spends hdrives hforeign .back drainsNear.cost
    (drainsNear.pending .forth state.1) (drainsNear.pending .back state.1)
    (Tape.size_mono hrow.back) (Tape.size_mono hforth)
  have hcost := Nat.mul_le_mul_right
    ((far.stage .back far').taken.size - (far.stage .back state.2).taken.size)
    (Nat.le_add_left ((drainsNear.cost + 2) * drainsFar.cost)
      ((drainsFar.cost + 2) * drainsNear.cost))
  have hback (hmotion : joinMotion drainsNear drainsFar state (.inr event) ≠ .takes .back) :
      drainsFar.motion state.2 event ≠ .takes .back :=
    fun heq => hmotion (by rw [joinMotion, heq])
  refine ⟨intact_join_iff.mpr ⟨hrow.near_live.intact, hdrives.intact⟩, ?_, ?_, ?_, ?_, ?_, ?_⟩
  · rintro (_ | _)
    · exact le_refl _
    · exact hdrives.taken_le .back
  · rintro (_ | _) hmotion
    · rfl
    · exact hdrives.taken_eq .back (hback hmotion)
  · rintro (_ | _) hmotion
    · rw [joinMotion] at hmotion
      split at hmotion
      next => cases hmotion
      next hother => exact absurd hmotion hother
    · refine hdrives.taken_lt .back ?_
      rw [joinMotion] at hmotion
      split at hmotion
      next => cases hmotion
      next => exact hmotion
  · rintro (_ | _)
    · exact hdrives.carried_le .forth
    · exact le_refl _
  · rintro (_ | _)
    · exact hforth_work.trans (Nat.le_add_right _ _)
    · exact (Nat.add_le_add_right (hback_work.trans (Nat.add_le_add_left hcost _)) _).trans
        (le_of_eq (Nat.add_right_comm _ _ _))
  · intro hmotion
    rw [Nat.add_comm, Nat.add_comm (joinPending drainsNear drainsFar .forth state)]
    exact hless (hback (by rw [hmotion]; exact nofun))

/-- Draining hops in a row drain. -/
def join (drainsNear : Drains near) (drainsFar : Drains far) : Drains (near.join far) where
  ready := joinReady drainsNear drainsFar
  motion := joinMotion drainsNear drainsFar
  cost := joinCost drainsNear drainsFar
  pending := joinPending drainsNear drainsFar
  drives {state next event} hlive hstep hmotion := by
    have hrow := liveRow_of_live hlive
    cases event with
    | inl event =>
        have hforeign : drainsNear.motion state.1 event ≠ .foreign :=
          fun heq => hmotion (by rw [joinMotion, heq])
        obtain ⟨hnear, hsame, hjoined⟩ := Hop.joinStep_inl_iff.mp hstep
        obtain ⟨near', far'⟩ := next
        obtain rfl : far' = state.2 := hsame
        obtain ⟨hready, hdrives⟩ := drainsNear.drives hrow.near_live hnear hforeign
        refine ⟨⟨hready, hrow.far_live.ready⟩, drives_inl hrow hforeign hdrives ?_⟩
        exact ((joined_iff hdrives.intact hrow.far_live.intact).mp hjoined).2
    | inr event =>
        have hforeign : drainsFar.motion state.2 event ≠ .foreign :=
          fun heq => hmotion (by rw [joinMotion, heq])
        obtain ⟨hfar, hsame, hjoined⟩ := Hop.joinStep_inr_iff.mp hstep
        obtain ⟨near', far'⟩ := next
        obtain rfl : near' = state.1 := hsame
        obtain ⟨hready, hdrives⟩ := drainsFar.drives hrow.far_live hfar hforeign
        refine ⟨⟨hrow.near_live.ready, hready⟩, drives_inr hrow hforeign hdrives ?_⟩
        exact ((joined_iff hrow.near_live.intact hdrives.intact).mp hjoined).1
  settled {state} hlive hrests way := by
    have hrow := liveRow_of_live hlive
    have hnear := drainsNear.settled hrow.near_live (rests_near hrow hrests)
    have hfar := drainsFar.settled hrow.far_live (rests_far hrow hrests)
    cases way with
    | forth => exact (hfar .forth).trans ((forth_eq hrow hrests).trans (hnear .forth))
    | back => exact (hnear .back).trans ((back_eq hrow hrests).trans (hfar .back))
  takes {state} hlive hrests way hopen := by
    have hrow := liveRow_of_live hlive
    cases way with
    | forth =>
        have hstep {event near'} (hmotion : drainsNear.motion state.1 event = .takes .forth)
            (hnear : near.step state.1 event = some near') :
            (near.join far).step state (.inl event) = some (near', state.2) := by
          have hforeign : drainsNear.motion state.1 event ≠ .foreign := by rw [hmotion]; exact nofun
          have hsame := (drainsNear.drives hrow.near_live hnear hforeign).2.taken_eq .back
            (by rw [hmotion]; exact nofun)
          exact step_inl hrow hnear hforeign (hsame ▸ hrow.back)
        obtain ⟨hsymbol, event, near', hmotion, hnear, htaken⟩ :=
          drainsNear.takes hrow.near_live (rests_near hrow hrests) .forth hopen
        refine ⟨fun symbol => ?_, .inl event, (near', state.2), by rw [joinMotion, hmotion],
          hstep hmotion hnear, htaken⟩
        obtain ⟨event, near', hmotion, hnear, htaken⟩ := hsymbol symbol
        exact ⟨.inl event, (near', state.2), by rw [joinMotion, hmotion], hstep hmotion hnear,
          htaken⟩
    | back =>
        have hstep {event far'} (hmotion : drainsFar.motion state.2 event = .takes .back)
            (hfar : far.step state.2 event = some far') :
            (near.join far).step state (.inr event) = some (state.1, far') := by
          have hforeign : drainsFar.motion state.2 event ≠ .foreign := by rw [hmotion]; exact nofun
          have hsame := (drainsFar.drives hrow.far_live hfar hforeign).2.taken_eq .forth
            (by rw [hmotion]; exact nofun)
          exact step_inr hrow hfar hforeign (hsame ▸ hrow.forth)
        obtain ⟨hsymbol, event, far', hmotion, hfar, htaken⟩ :=
          drainsFar.takes hrow.far_live (rests_far hrow hrests) .back hopen
        refine ⟨fun symbol => ?_, .inr event, (state.1, far'), by rw [joinMotion, hmotion],
          hstep hmotion hfar, htaken⟩
        obtain ⟨event, far', hmotion, hfar, htaken⟩ := hsymbol symbol
        exact ⟨.inr event, (state.1, far'), by rw [joinMotion, hmotion], hstep hmotion hfar,
          htaken⟩

end JoinLive

end Drains

end VpnBridge.Pipeline
