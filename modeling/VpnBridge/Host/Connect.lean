import Mathlib.Data.List.Chain
import Mathlib.Order.Lattice
import Mathlib.Tactic.Ring
import VpnBridge.Core.TransitionSystem
import VpnBridge.Host.Tunnel

/-!
# The connect loop in time

`Client::open` dials the agent until it answers, resting after every failure, and puts
one timer on the handshake that follows.  Time is a number of milliseconds here; it
cannot pass a deadline that the task waits for.
-/

namespace VpnBridge.Host

open VpnBridge.Interaction VpnBridge.Proto VpnBridge.TransitionSystem

inductive DialPhase where
  /-- In `timeout(dial, TcpStream::connect(..))`. -/
  | dialing (began : ℕ)
  /-- In `sleep(retry)`. -/
  | resting (wakes : ℕ)
  /-- In `timeout(dial, handshake(..))`. -/
  | handshaking (began : ℕ)
  | returned (answer : Timed (Except IoError Response))

structure Opening where
  now : ℕ
  phase : DialPhase
  /-- When each attempt to connect began. -/
  attempts : List ℕ

inductive DialEvent where
  | tick (duration : ℕ)
  | connected
  | refused (failure : IoError)
  /-- The timer of the attempt, or of the handshake, fires. -/
  | elapsed
  /-- The rest is over. -/
  | woke
  | shaken (answer : Except IoError Response)

namespace Opening

def start (begin : ℕ) : Opening := ⟨begin, .dialing begin, [begin]⟩

/-- The time that the task waits for, if it waits. -/
def deadline (cfg : ServerConfig) (opening : Opening) : Option ℕ :=
  match opening.phase with
  | .dialing began => some (began + cfg.connectTimeoutMs)
  | .resting wakes => some wakes
  | .handshaking began => some (began + cfg.connectTimeoutMs)
  | .returned _ => none

def step (cfg : ServerConfig) (opening : Opening) : DialEvent → Option Opening
  | .tick duration =>
      if ∀ time ∈ opening.deadline cfg, opening.now + duration ≤ time then
        some { opening with now := opening.now + duration }
      else none
  | .connected =>
      match opening.phase with
      | .dialing _ => some { opening with phase := .handshaking opening.now }
      | _ => none
  | .refused _ =>
      match opening.phase with
      | .dialing _ =>
          some { opening with phase := .resting (opening.now + cfg.reconnectIntervalMs) }
      | _ => none
  | .elapsed =>
      match opening.phase with
      | .dialing began =>
          if opening.now = began + cfg.connectTimeoutMs then
            some { opening with phase := .resting (opening.now + cfg.reconnectIntervalMs) }
          else none
      | .handshaking began =>
          if opening.now = began + cfg.connectTimeoutMs then
            some { opening with phase := .returned .elapsed }
          else none
      | _ => none
  | .woke =>
      match opening.phase with
      | .resting wakes =>
          if opening.now = wakes then
            some { opening with
              phase := .dialing opening.now
              attempts := opening.attempts ++ [opening.now] }
          else none
      | _ => none
  | .shaken answer =>
      match opening.phase with
      | .handshaking _ => some { opening with phase := .returned (.ready answer) }
      | _ => none

/-- The attempts still go on. -/
def Trying (opening : Opening) : Prop :=
  (∃ began, opening.phase = .dialing began) ∨ ∃ wakes, opening.phase = .resting wakes

/-- From `up` on the agent answers: an attempt that begins then is not refused, and is
not made to wait longer than `within`. -/
def Answers (up within : ℕ) (trace : List (Transition Opening DialEvent)) : Prop :=
  ∀ tr ∈ trace, ∀ began, up ≤ began → tr.pre.phase = .dialing began →
    (∀ failure, tr.event ≠ .refused failure) ∧
      ∀ duration, tr.event = .tick duration → tr.pre.now + duration ≤ began + within

/-- `Answers` for one transition, to be evaluated. -/
def answersAt (up within : ℕ) (tr : Transition Opening DialEvent) : Bool :=
  match tr.pre.phase, tr.event with
  | .dialing began, .refused _ => began < up
  | .dialing began, .tick duration => began < up || tr.pre.now + duration ≤ began + within
  | _, _ => true

theorem answers_of_all {up within : ℕ} {trace : List (Transition Opening DialEvent)}
    (hall : trace.all (answersAt up within) = true) : Answers up within trace := by
  intro tr htr began hup hphase
  have hcheck := List.all_eq_true.mp hall tr htr
  rw [answersAt, hphase] at hcheck
  refine ⟨fun failure hevent => ?_, fun duration hevent => ?_⟩
  · rw [hevent] at hcheck
    exact absurd (of_decide_eq_true hcheck) (Nat.not_lt.mpr hup)
  · rw [hevent] at hcheck
    rcases Bool.or_eq_true_iff.mp hcheck with hbefore | hsoon
    · exact absurd (of_decide_eq_true hbefore) (Nat.not_lt.mpr hup)
    · exact of_decide_eq_true hsoon

/-! ## What a step does -/

variable {cfg : ServerConfig} {opening next : Opening} {event : DialEvent}

inductive Does (cfg : ServerConfig) (opening : Opening) : DialEvent → Opening → Prop where
  | tick {duration : ℕ}
      (hpass : ∀ time ∈ opening.deadline cfg, opening.now + duration ≤ time) :
      Does cfg opening (.tick duration) { opening with now := opening.now + duration }
  | connected {began : ℕ} (hdialing : opening.phase = .dialing began) :
      Does cfg opening .connected { opening with phase := .handshaking opening.now }
  | refused {began : ℕ} {failure : IoError} (hdialing : opening.phase = .dialing began) :
      Does cfg opening (.refused failure)
        { opening with phase := .resting (opening.now + cfg.reconnectIntervalMs) }
  | gaveUp {began : ℕ} (hdialing : opening.phase = .dialing began)
      (hnow : opening.now = began + cfg.connectTimeoutMs) :
      Does cfg opening .elapsed
        { opening with phase := .resting (opening.now + cfg.reconnectIntervalMs) }
  | woke (hresting : opening.phase = .resting opening.now) :
      Does cfg opening .woke { opening with
        phase := .dialing opening.now
        attempts := opening.attempts ++ [opening.now] }
  | late {began : ℕ} (hshaking : opening.phase = .handshaking began) :
      Does cfg opening .elapsed { opening with phase := .returned .elapsed }
  | shaken {began : ℕ} {answer : Except IoError Response}
      (hshaking : opening.phase = .handshaking began) :
      Does cfg opening (.shaken answer) { opening with phase := .returned (.ready answer) }

theorem does_of_step (hstep : opening.step cfg event = some next) :
    Does cfg opening event next := by
  cases event with
  | tick duration =>
      obtain ⟨hpass, hnext⟩ := Option.ite_none_right_eq_some.mp hstep
      cases hnext
      exact .tick hpass
  | connected =>
      rw [step] at hstep
      split at hstep
      next began hdialing =>
        cases hstep
        exact .connected hdialing
      next => cases hstep
  | refused failure =>
      rw [step] at hstep
      split at hstep
      next began hdialing =>
        cases hstep
        exact .refused hdialing
      next => cases hstep
  | elapsed =>
      rw [step] at hstep
      split at hstep
      next began hdialing =>
        obtain ⟨hnow, hnext⟩ := Option.ite_none_right_eq_some.mp hstep
        cases hnext
        exact .gaveUp hdialing hnow
      next began hshaking =>
        obtain ⟨-, hnext⟩ := Option.ite_none_right_eq_some.mp hstep
        cases hnext
        exact .late hshaking
      next => cases hstep
  | woke =>
      rw [step] at hstep
      split at hstep
      next wakes hresting =>
        obtain ⟨rfl, hnext⟩ := Option.ite_none_right_eq_some.mp hstep
        cases hnext
        exact .woke hresting
      next => cases hstep
  | shaken answer =>
      rw [step] at hstep
      split at hstep
      next began hshaking =>
        cases hstep
        exact .shaken hshaking
      next => cases hstep

/-! ## How the attempts are spaced -/

/-- One attempt begins at least a rest after the one before, and at most a timeout later. -/
def Spaced (cfg : ServerConfig) (earlier later : ℕ) : Prop :=
  earlier + cfg.reconnectIntervalMs ≤ later ∧
    later ≤ earlier + cfg.connectTimeoutMs + cfg.reconnectIntervalMs

/-- Where the task stands relative to its last attempt. -/
structure Paced (cfg : ServerConfig) (begin : ℕ) (opening : Opening) : Prop where
  first : opening.attempts.head? = some begin
  spaced : opening.attempts.IsChain (Spaced cfg)
  dialing : ∀ began, opening.phase = .dialing began →
    opening.attempts.getLast? = some began ∧ began ≤ opening.now ∧
      opening.now ≤ began + cfg.connectTimeoutMs
  resting : ∀ wakes, opening.phase = .resting wakes →
    ∃ last, opening.attempts.getLast? = some last ∧ last ≤ opening.now ∧
      opening.now ≤ wakes ∧ Spaced cfg last wakes

theorem paced_start (begin : ℕ) : (start begin).Paced cfg begin where
  first := rfl
  spaced := List.isChain_singleton _
  dialing began hdialing := by
    cases hdialing
    exact ⟨rfl, le_refl _, Nat.le_add_right _ _⟩
  resting _ hresting := by cases hresting

theorem paced_step {begin : ℕ} (hstep : opening.step cfg event = some next)
    (hpaced : opening.Paced cfg begin) : next.Paced cfg begin := by
  obtain ⟨hfirst, hspaced, hdialing, hresting⟩ := hpaced
  cases does_of_step hstep with
  | tick hpass =>
      refine ⟨hfirst, hspaced, fun began hphase => ?_, fun wakes hphase => ?_⟩
      · obtain ⟨hlast, hbegan, -⟩ := hdialing began hphase
        exact ⟨hlast, hbegan.trans (Nat.le_add_right _ _), hpass _ (by rw [deadline, hphase]; rfl)⟩
      · obtain ⟨last, hlast, hafter, -, hwakes⟩ := hresting wakes hphase
        exact ⟨last, hlast, hafter.trans (Nat.le_add_right _ _),
          hpass _ (by rw [deadline, hphase]; rfl), hwakes⟩
  | connected => exact ⟨hfirst, hspaced, nofun, nofun⟩
  | @refused began failure hphase =>
      obtain ⟨hlast, hbegan, hnow⟩ := hdialing began hphase
      refine ⟨hfirst, hspaced, nofun, fun wakes hwakes => ?_⟩
      cases hwakes
      exact ⟨began, hlast, hbegan, Nat.le_add_right _ _, Nat.add_le_add_right hbegan _,
        Nat.add_le_add_right hnow _⟩
  | @gaveUp began hphase hnow =>
      obtain ⟨hlast, hbegan, -⟩ := hdialing began hphase
      refine ⟨hfirst, hspaced, nofun, fun wakes hwakes => ?_⟩
      cases hwakes
      exact ⟨began, hlast, hbegan, Nat.le_add_right _ _, Nat.add_le_add_right hbegan _,
        Nat.add_le_add_right hnow.le _⟩
  | woke hphase =>
      obtain ⟨last, hlast, -, -, hwakes⟩ := hresting _ hphase
      refine ⟨?_, ?_, fun began hbegan => ?_, nofun⟩
      · rw [List.head?_append, hfirst]
        rfl
      · rw [List.isChain_append]
        refine ⟨hspaced, List.isChain_singleton _, fun earlier hearlier later hlater => ?_⟩
        cases hlast.symm.trans hearlier
        cases hlater
        exact hwakes
      · cases hbegan
        exact ⟨List.getLast?_concat, le_refl _, Nat.le_add_right _ _⟩
  | late => exact ⟨hfirst, hspaced, nofun, nofun⟩
  | shaken => exact ⟨hfirst, hspaced, nofun, nofun⟩

theorem paced_run {begin : ℕ} {trace : List (Transition Opening DialEvent)}
    (hrun : Execution (step cfg) (start begin) trace opening) : opening.Paced cfg begin :=
  Execution.invariant paced_step hrun (paced_start begin)

/-- The last of a number of spaced attempts. -/
theorem last_of_spaced {first last : ℕ} {attempts : List ℕ}
    (hspaced : (first :: attempts).IsChain (Spaced cfg))
    (hlast : (first :: attempts).getLast? = some last) :
    first + attempts.length * cfg.reconnectIntervalMs ≤ last ∧
      last ≤ first + attempts.length * (cfg.connectTimeoutMs + cfg.reconnectIntervalMs) := by
  induction attempts generalizing first with
  | nil =>
      cases hlast
      simp
  | cons second attempts ih =>
      rw [List.isChain_cons_cons] at hspaced
      rw [List.getLast?_cons_cons] at hlast
      obtain ⟨hlower, hupper⟩ := ih hspaced.2 hlast
      obtain ⟨hafter, hbefore⟩ := hspaced.1
      rw [List.length_cons, Nat.succ_mul, Nat.succ_mul]
      omega

/-! ## When it comes through -/

/-- The last time at which an attempt can begin, when the agent answers from `up` on. -/
def lastChance (cfg : ServerConfig) (begin up : ℕ) : ℕ :=
  max up begin + cfg.connectTimeoutMs + cfg.reconnectIntervalMs

/-- No attempt begins later than that, and one that the agent answers does not wait. -/
structure Recovers (cfg : ServerConfig) (begin up within : ℕ) (opening : Opening) : Prop where
  dialing : ∀ began, opening.phase = .dialing began →
    began ≤ lastChance cfg begin up ∧ (up ≤ began → opening.now ≤ began + within)
  resting : ∀ wakes, opening.phase = .resting wakes → wakes ≤ lastChance cfg begin up
  shaking : ∀ began, opening.phase = .handshaking began →
    began ≤ lastChance cfg begin up + within ∧ opening.now ≤ began + cfg.connectTimeoutMs

theorem recovers_start (begin up within : ℕ) : (start begin).Recovers cfg begin up within where
  dialing began hdialing := by
    cases hdialing
    refine ⟨?_, fun _ => Nat.le_add_right _ _⟩
    rw [lastChance, Nat.add_assoc]
    exact Nat.le_add_right_of_le (le_max_right _ _)
  resting _ hresting := by cases hresting
  shaking _ hshaking := by cases hshaking

theorem recovers_step {begin up within : ℕ} (hwithin : within < cfg.connectTimeoutMs)
    (hanswers : ∀ began, up ≤ began → opening.phase = .dialing began →
      (∀ failure, event ≠ .refused failure) ∧
        ∀ duration, event = .tick duration → opening.now + duration ≤ began + within)
    (hstep : opening.step cfg event = some next) (hpaced : opening.Paced cfg begin)
    (hrecovers : opening.Recovers cfg begin up within) :
    next.Recovers cfg begin up within := by
  obtain ⟨hdialing, hresting, hshaking⟩ := hrecovers
  have hup : up ≤ max up begin := le_max_left _ _
  -- an attempt that fails began before the agent was there
  have hearly : ∀ began, opening.phase = .dialing began → began < up →
      opening.now + cfg.reconnectIntervalMs ≤ lastChance cfg begin up := by
    intro began hphase hbefore
    obtain ⟨-, -, hnow⟩ := hpaced.dialing began hphase
    rw [lastChance]
    omega
  cases does_of_step hstep with
  | @tick duration hpass =>
      refine ⟨fun began hphase => ?_, hresting, fun began hphase => ?_⟩
      · exact ⟨(hdialing began hphase).1,
          fun hafter => (hanswers began hafter hphase).2 duration rfl⟩
      · exact ⟨(hshaking began hphase).1, hpass _ (by rw [deadline, hphase]; rfl)⟩
  | @connected began hphase =>
      refine ⟨nofun, nofun, fun shaken hshaken => ?_⟩
      cases hshaken
      refine ⟨?_, Nat.le_add_right _ _⟩
      obtain ⟨hchance, hwait⟩ := hdialing began hphase
      rcases Nat.lt_or_ge began up with hbefore | hafter
      · exact (Nat.le_add_right _ _).trans ((hearly began hphase hbefore).trans
          (Nat.le_add_right _ _))
      · exact (hwait hafter).trans (Nat.add_le_add_right hchance _)
  | @refused began failure hphase =>
      refine ⟨nofun, fun wakes hwakes => ?_, nofun⟩
      cases hwakes
      rcases Nat.lt_or_ge began up with hbefore | hafter
      · exact hearly began hphase hbefore
      · exact absurd rfl ((hanswers began hafter hphase).1 failure)
  | @gaveUp began hphase hnow =>
      refine ⟨nofun, fun wakes hwakes => ?_, nofun⟩
      cases hwakes
      rcases Nat.lt_or_ge began up with hbefore | hafter
      · exact hearly began hphase hbefore
      · have hwait := (hdialing began hphase).2 hafter
        omega
  | woke hphase =>
      refine ⟨fun began hbegan => ?_, nofun, nofun⟩
      cases hbegan
      exact ⟨hresting _ hphase, fun _ => Nat.le_add_right _ _⟩
  | late => exact ⟨nofun, nofun, nofun⟩
  | shaken => exact ⟨nofun, nofun, nofun⟩

theorem recovers_run {begin up within : ℕ} (hwithin : within < cfg.connectTimeoutMs)
    {trace : List (Transition Opening DialEvent)} (hanswers : Answers up within trace)
    (hrun : Execution (step cfg) (start begin) trace opening) :
    opening.Recovers cfg begin up within :=
  (hrun.preserved
    (fun opening => opening.Paced cfg begin ∧ opening.Recovers cfg begin up within)
    (fun tr htr hstep hpre => ⟨paced_step hstep hpre.1,
      recovers_step hwithin (hanswers tr htr) hstep hpre.1 hpre.2⟩)
    ⟨paced_start begin, recovers_start begin up within⟩).2

/-- A task that has not returned lets time pass until its deadline, and then goes on. -/
theorem exists_next {time : ℕ} (hdeadline : opening.deadline cfg = some time)
    (hbefore : opening.now ≤ time) :
    (opening.now < time ∧ (opening.step cfg (.tick 1)).isSome = true) ∨
    opening.now = time ∧
      ((opening.step cfg .elapsed).isSome = true ∨ (opening.step cfg .woke).isSome = true) := by
  rcases hbefore.lt_or_eq with hlt | heq
  · have hpass : ∀ other ∈ opening.deadline cfg, opening.now + 1 ≤ other := by
      intro other hother
      rw [hdeadline, Option.mem_some_iff] at hother
      exact hother ▸ hlt
    refine .inl ⟨hlt, ?_⟩
    rw [step, if_pos hpass]
    rfl
  · refine .inr ⟨heq, ?_⟩
    rw [deadline] at hdeadline
    split at hdeadline
    next began hphase =>
      cases hdeadline
      exact .inl (by simp [step, hphase, heq])
    next wakes hphase =>
      cases hdeadline
      exact .inr (by simp [step, hphase, heq])
    next began hphase =>
      cases hdeadline
      exact .inl (by simp [step, hphase, heq])
    next => cases hdeadline

theorem answers_snoc {up within : ℕ} {trace : List (Transition Opening DialEvent)}
    (hanswers : Answers up within trace)
    (hevent : ∀ began, opening.phase = .dialing began → event = .connected) :
    Answers up within (trace ++ [⟨opening, event, next⟩]) := by
  refine List.forall_mem_append.mpr ⟨hanswers, List.forall_mem_singleton.mpr ?_⟩
  intro began _ hphase
  obtain rfl := hevent began hphase
  exact ⟨nofun, nofun⟩

/-- A task that has not returned can go on in a way that an answering agent allows. -/
theorem exists_answering (cfg : ServerConfig) {up within : ℕ}
    {trace : List (Transition Opening DialEvent)}
    (hanswers : Answers up within trace) (hopen : ∀ answer, opening.phase ≠ .returned answer)
    (hwakes : ∀ wakes, opening.phase = .resting wakes → opening.now ≤ wakes) :
    ∃ event next, opening.step cfg event = some next ∧ event ≠ .tick 0 ∧
      Answers up within (trace ++ [⟨opening, event, next⟩]) := by
  cases hphase : opening.phase with
  | dialing began =>
      exact ⟨.connected, _, by rw [step, hphase], nofun, answers_snoc hanswers fun _ _ => rfl⟩
  | resting wakes =>
      have hresting : ∀ began, opening.phase ≠ .dialing began := by
        intro began hdialing
        cases hphase.symm.trans hdialing
      have hdeadline : opening.deadline cfg = some wakes := by
        rw [deadline, hphase]
      rcases (hwakes wakes hphase).lt_or_eq with hlt | heq
      · have hpass : ∀ time ∈ opening.deadline cfg, opening.now + 1 ≤ time := by
          intro time htime
          rw [hdeadline, Option.mem_some_iff] at htime
          exact htime ▸ hlt
        exact ⟨.tick 1, _, if_pos hpass, by simp,
          answers_snoc hanswers fun began hdialing => absurd hdialing (hresting began)⟩
      · have hstep : (opening.step cfg .woke).isSome = true := by simp [step, hphase, heq]
        obtain ⟨next, hnext⟩ := Option.isSome_iff_exists.mp hstep
        exact ⟨.woke, next, hnext, nofun,
          answers_snoc hanswers fun began hdialing => absurd hdialing (hresting began)⟩
  | handshaking began =>
      refine ⟨.shaken (.ok .ok), _, by rw [step, hphase], nofun,
        answers_snoc hanswers fun other hdialing => ?_⟩
      cases hphase.symm.trans hdialing
  | returned answer => exact absurd hphase (hopen answer)

end Opening

/-- While the agent cannot be reached, the attempts go on at a steady pace: each begins at
least one rest after the one before and at most a timeout later, so their number follows
from the time that has passed. -/
theorem connect_paced {cfg : ServerConfig} {begin : ℕ}
    {trace : List (Transition Opening DialEvent)} {opening : Opening}
    (hrun : Execution (Opening.step cfg) (.start begin) trace opening) :
    opening.attempts.IsChain (Opening.Spaced cfg) ∧
      (opening.Trying →
        begin + (opening.attempts.length - 1) * cfg.reconnectIntervalMs ≤ opening.now ∧
        opening.now ≤ begin + opening.attempts.length *
          (cfg.connectTimeoutMs + cfg.reconnectIntervalMs)) := by
  have hpaced := Opening.paced_run hrun
  refine ⟨hpaced.spaced, fun htrying => ?_⟩
  obtain ⟨last, hlast, hafter, hbefore⟩ : ∃ last, opening.attempts.getLast? = some last ∧
      last ≤ opening.now ∧
        opening.now ≤ last + (cfg.connectTimeoutMs + cfg.reconnectIntervalMs) := by
    rcases htrying with ⟨began, hphase⟩ | ⟨wakes, hphase⟩
    · obtain ⟨hlast, hbegan, hnow⟩ := hpaced.dialing began hphase
      exact ⟨began, hlast, hbegan, by omega⟩
    · obtain ⟨last, hlast, hafter, hnow, hwakes⟩ := hpaced.resting wakes hphase
      have hlate := hwakes.2
      exact ⟨last, hlast, hafter, by omega⟩
  have hfirst := hpaced.first
  have hspaced := hpaced.spaced
  cases hattempts : opening.attempts with
  | nil =>
      rw [hattempts] at hfirst
      cases hfirst
  | cons first attempts =>
      rw [hattempts] at hfirst hspaced hlast
      cases hfirst
      obtain ⟨hlower, hupper⟩ := Opening.last_of_spaced hspaced hlast
      rw [List.length_cons, Nat.add_sub_cancel, Nat.succ_mul]
      omega

/-- The configuration of the test that lets the agent come up late. -/
def retryingConfig : ServerConfig :=
  { ServerConfig.sample with
    token := "test-token"
    connectTimeoutMs := 50
    reconnectIntervalMs := 20 }

/-- Three attempts, of which the first is refused and the second times out. -/
theorem connect_paced_sample :
    ∃ trace opening, Execution (Opening.step retryingConfig) (.start 0) trace opening ∧
      opening.attempts = [0, 20, 90] ∧
      opening.attempts.IsChain (Opening.Spaced retryingConfig) := by
  have hfacts : (replay (Opening.step retryingConfig) (.start 0)
      [.refused ⟨.other, "connection refused"⟩, .tick 20, .woke, .tick 50, .elapsed,
        .tick 20, .woke]).map (fun result => result.2.attempts) =
        some [0, 20, 90] := by
    rfl
  obtain ⟨⟨trace, opening⟩, hreplay, hattempts⟩ := Option.map_eq_some_iff.mp hfacts
  have hrun := execution_of_replay hreplay
  exact ⟨trace, opening, hrun, hattempts, (connect_paced hrun).1⟩

/-- Once the agent answers, `open` comes through: it connects within one timeout, one rest
and the agent's own delay, it returns within one timeout more, and until then it can always
go on, also in a way that leaves the agent answering. -/
theorem connect_recovers {cfg : ServerConfig} {begin up within : ℕ}
    (hwithin : within < cfg.connectTimeoutMs)
    {trace : List (Transition Opening DialEvent)} {opening : Opening}
    (hanswers : Opening.Answers up within trace)
    (hrun : Execution (Opening.step cfg) (.start begin) trace opening) :
    (opening.Trying →
      opening.now ≤ max up begin + cfg.connectTimeoutMs + cfg.reconnectIntervalMs + within) ∧
    ((∀ answer, opening.phase ≠ .returned answer) →
      opening.now ≤ max up begin + cfg.connectTimeoutMs + cfg.reconnectIntervalMs + within +
        cfg.connectTimeoutMs ∧
      ∃ time, opening.deadline cfg = some time ∧
        ((opening.now < time ∧ (opening.step cfg (.tick 1)).isSome = true) ∨
        opening.now = time ∧ ((opening.step cfg .elapsed).isSome = true ∨
          (opening.step cfg .woke).isSome = true)) ∧
        ∃ event next, opening.step cfg event = some next ∧ event ≠ .tick 0 ∧
          Opening.Answers up within (trace ++ [⟨opening, event, next⟩])) := by
  have hpaced := Opening.paced_run hrun
  have hrecovers := Opening.recovers_run hwithin hanswers hrun
  have htrying : opening.Trying →
      opening.now ≤ Opening.lastChance cfg begin up + within := by
    rintro (⟨began, hphase⟩ | ⟨wakes, hphase⟩)
    · obtain ⟨hchance, hwait⟩ := hrecovers.dialing began hphase
      rcases Nat.lt_or_ge began up with hbefore | hafter
      · have hnow := (hpaced.dialing began hphase).2.2
        rw [Opening.lastChance]
        omega
      · exact (hwait hafter).trans (Nat.add_le_add_right hchance _)
    · obtain ⟨last, -, -, hnow, -⟩ := hpaced.resting wakes hphase
      exact hnow.trans ((hrecovers.resting wakes hphase).trans (Nat.le_add_right _ _))
  refine ⟨htrying, fun hopen => ?_⟩
  have hanswering := Opening.exists_answering cfg hanswers hopen
    fun wakes hphase => (hpaced.resting wakes hphase).choose_spec.2.2.1
  cases hphase : opening.phase with
  | dialing began =>
      have hdeadline : opening.deadline cfg = some (began + cfg.connectTimeoutMs) := by
        rw [Opening.deadline, hphase]
      exact ⟨(htrying (.inl ⟨began, hphase⟩)).trans (Nat.le_add_right _ _), _, hdeadline,
        Opening.exists_next hdeadline (hpaced.dialing began hphase).2.2, hanswering⟩
  | resting wakes =>
      have hdeadline : opening.deadline cfg = some wakes := by
        rw [Opening.deadline, hphase]
      obtain ⟨last, -, -, hnow, -⟩ := hpaced.resting wakes hphase
      exact ⟨(htrying (.inr ⟨wakes, hphase⟩)).trans (Nat.le_add_right _ _), _, hdeadline,
        Opening.exists_next hdeadline hnow, hanswering⟩
  | handshaking began =>
      have hdeadline : opening.deadline cfg = some (began + cfg.connectTimeoutMs) := by
        rw [Opening.deadline, hphase]
      obtain ⟨hbegan, hnow⟩ := hrecovers.shaking began hphase
      exact ⟨hnow.trans (Nat.add_le_add_right hbegan _), _, hdeadline,
        Opening.exists_next hdeadline hnow, hanswering⟩
  | returned answer => exact absurd hphase (hopen answer)

/-- The agent comes up while the task rests after its first attempt, and has not accepted
the second one ten milliseconds after it began. -/
theorem connect_recovers_sample :
    ∃ trace opening, Execution (Opening.step retryingConfig) (.start 0) trace opening ∧
      opening.attempts = [0, 20] ∧ opening.now = 30 ∧
      opening.now ≤ max 15 0 + 50 + 20 + 10 := by
  have hfacts : (replay (Opening.step retryingConfig) (.start 0)
      [.refused ⟨.other, "connection refused"⟩, .tick 20, .woke, .tick 10]).map
      (fun result => (result.2, result.1.all (Opening.answersAt 15 10))) =
        some (⟨30, .dialing 20, [0, 20]⟩, true) := by
    rfl
  obtain ⟨⟨trace, opening⟩, hreplay, hfacts⟩ := Option.map_eq_some_iff.mp hfacts
  obtain ⟨rfl, hall⟩ := Prod.mk.inj hfacts
  have hrun := execution_of_replay hreplay
  have hanswers := Opening.answers_of_all hall
  exact ⟨trace, _, hrun, rfl, rfl,
    (connect_recovers (by decide) hanswers hrun).1 (.inl ⟨20, rfl⟩)⟩

end VpnBridge.Host
