import VpnBridge.Core.TransitionSystem
import VpnBridge.Proto.Datagram

/-!
# UDP relays of the servers

The VM agent and the proxy server relay a UDP session with the same two loops.
The loop from the socket to the tunnel restarts its timer for every datagram, and
sees the other direction through a counter, which it reads only when the timer
fires.  Time is a number here; it cannot pass a deadline that a loop waits for.
-/

namespace VpnBridge.Relay

open VpnBridge.Proto VpnBridge.TransitionSystem

/-- The loop from the socket to the tunnel. -/
inductive ServerDownlink where
  /-- Not polled yet. -/
  | starting
  /-- In `timeout(idle, recv)`. -/
  | waiting (deadline : ℕ)
  | writing (payload : List UInt8)
  deriving DecidableEq

/-- The frame that is being written to the tunnel. -/
def ServerDownlink.held : ServerDownlink → List UInt8
  | .starting => []
  | .waiting _ => []
  | .writing payload => datagramBuf payload

/-- The idle timeout of a server, and what its relay returns when it strikes. -/
structure UdpServer where
  idle : ℕ
  idleResult : Except IoError Unit

/-- `relay_udp` of the VM agent. -/
def vmRelayUdp (idle : ℕ) : UdpServer := ⟨idle, .ok ()⟩

/-- `relay_udp` of the proxy server. -/
def proxyRelayUdp (idle : ℕ) : UdpServer := ⟨idle, .error ⟨.timedOut, "UDP flow idle"⟩⟩

/-- How a session ends, and when. -/
inductive SessionEnd where
  | idle (time : ℕ) (result : Except IoError Unit)
  | other
  deriving DecidableEq

structure UdpSession where
  now : ℕ
  /-- The counter that the loop to the socket bumps. -/
  activity : ℕ
  seen : ℕ
  downlink : ServerDownlink
  /-- The datagrams sent on the socket. -/
  uploaded : List (List UInt8)
  /-- The datagrams received from the socket. -/
  received : List (List UInt8)
  /-- The bytes written to the tunnel. -/
  carried : List UInt8
  /-- When the last datagram was relayed, or the session began. -/
  last : ℕ
  ended : Option SessionEnd

inductive SessionEvent where
  | tick (duration : ℕ)
  /-- The first poll of the loop to the tunnel. -/
  | start
  /-- A datagram of the tunnel has been sent on the socket. -/
  | uploaded (payload : List UInt8)
  | received (payload : List UInt8)
  | written
  /-- The timer fires. -/
  | elapsed
  /-- Anything else that ends the session. -/
  | fail
  deriving DecidableEq

/-- How much time passes. -/
def SessionEvent.duration : SessionEvent → ℕ
  | .tick duration => duration
  | _ => 0

namespace UdpSession

def start (time : ℕ) : UdpSession where
  now := time
  activity := 0
  seen := 0
  downlink := .starting
  uploaded := []
  received := []
  carried := []
  last := time
  ended := none

/-- Time may pass until the deadline of a waiting loop. -/
def mayPass (session : UdpSession) (duration : ℕ) : Bool :=
  match session.downlink with
  | .starting => duration == 0
  | .waiting deadline => session.now + duration ≤ deadline
  | .writing _ => true

/-- A step of a session that is not over. -/
def advance (server : UdpServer) (session : UdpSession) : SessionEvent → Option UdpSession
  | .tick duration =>
      if session.mayPass duration = true then
        some { session with now := session.now + duration }
      else none
  | .start =>
      if session.downlink = .starting then
        some { session with
          seen := session.activity
          downlink := .waiting (session.now + server.idle) }
      else none
  | .uploaded payload =>
      some { session with
        activity := session.activity + 1
        uploaded := session.uploaded ++ [payload]
        last := session.now }
  | .received payload =>
      match session.downlink with
      | .waiting _ =>
          some { session with
            downlink := .writing payload
            received := session.received ++ [payload] }
      | _ => none
  | .written =>
      match session.downlink with
      | .writing payload =>
          some { session with
            downlink := .waiting (session.now + server.idle)
            carried := session.carried ++ datagramBuf payload
            last := session.now }
      | _ => none
  | .elapsed =>
      match session.downlink with
      | .waiting deadline =>
          if session.now = deadline then
            if session.activity = session.seen then
              some { session with ended := some (.idle session.now server.idleResult) }
            else
              some { session with
                seen := session.activity
                downlink := .waiting (session.now + server.idle) }
          else none
      | _ => none
  | .fail => some { session with ended := some .other }

def step (server : UdpServer) (session : UdpSession) (event : SessionEvent) :
    Option UdpSession :=
  if session.ended.isNone = true then session.advance server event else none

/-- No time passes while the loop to the tunnel writes. -/
def NeverBlocks (trace : List (Transition UdpSession SessionEvent)) : Prop :=
  ∀ tr ∈ trace, ∀ payload duration, tr.pre.downlink = .writing payload →
    tr.event = .tick duration → duration = 0

/-- What a step does. -/
inductive Does (server : UdpServer) (session : UdpSession) :
    SessionEvent → UdpSession → Prop where
  | tick {duration : ℕ} (hpass : session.mayPass duration = true) :
      Does server session (.tick duration) { session with now := session.now + duration }
  | start (hstarting : session.downlink = .starting) :
      Does server session .start { session with
        seen := session.activity
        downlink := .waiting (session.now + server.idle) }
  | uploaded {payload : List UInt8} :
      Does server session (.uploaded payload) { session with
        activity := session.activity + 1
        uploaded := session.uploaded ++ [payload]
        last := session.now }
  | received {payload : List UInt8} {deadline : ℕ}
      (hwaiting : session.downlink = .waiting deadline) :
      Does server session (.received payload) { session with
        downlink := .writing payload
        received := session.received ++ [payload] }
  | written {payload : List UInt8} (hwriting : session.downlink = .writing payload) :
      Does server session .written { session with
        downlink := .waiting (session.now + server.idle)
        carried := session.carried ++ datagramBuf payload
        last := session.now }
  | idle (hwaiting : session.downlink = .waiting session.now)
      (hsame : session.activity = session.seen) :
      Does server session .elapsed
        { session with ended := some (.idle session.now server.idleResult) }
  | sampled (hwaiting : session.downlink = .waiting session.now)
      (hdiffer : session.activity ≠ session.seen) :
      Does server session .elapsed { session with
        seen := session.activity
        downlink := .waiting (session.now + server.idle) }
  | fail : Does server session .fail { session with ended := some .other }

variable {server : UdpServer} {session next : UdpSession} {event : SessionEvent}

theorem does_of_step (hstep : session.step server event = some next) :
    session.ended = none ∧ Does server session event next := by
  obtain ⟨hlive, hstep⟩ := Option.ite_none_right_eq_some.mp hstep
  refine ⟨Option.isNone_iff_eq_none.mp hlive, ?_⟩
  cases event with
  | tick duration =>
      obtain ⟨hpass, hnext⟩ := Option.ite_none_right_eq_some.mp hstep
      cases hnext
      exact .tick hpass
  | start =>
      obtain ⟨hstarting, hnext⟩ := Option.ite_none_right_eq_some.mp hstep
      cases hnext
      exact .start hstarting
  | uploaded payload =>
      cases hstep
      exact .uploaded
  | received payload =>
      rw [advance] at hstep
      split at hstep
      next deadline hwaiting =>
        cases hstep
        exact .received hwaiting
      next => cases hstep
  | written =>
      rw [advance] at hstep
      split at hstep
      next payload hwriting =>
        cases hstep
        exact .written hwriting
      next => cases hstep
  | elapsed =>
      rw [advance] at hstep
      split at hstep
      next deadline hwaiting =>
        obtain ⟨rfl, hnext⟩ := Option.ite_none_right_eq_some.mp hstep
        split at hnext
        next hsame =>
          cases hnext
          exact .idle hwaiting hsame
        next hdiffer =>
          cases hnext
          exact .sampled hwaiting hdiffer
      next => cases hstep
  | fail =>
      cases hstep
      exact .fail

/-! ## Not too early -/

/-- The timer counts from the last datagram or later, unless the counter tells of one. -/
structure Timed (idle : ℕ) (session : UdpSession) : Prop where
  counted : session.seen ≤ session.activity
  last_le : session.last ≤ session.now
  waiting : ∀ deadline, session.downlink = .waiting deadline →
    session.now ≤ deadline ∧ deadline ≤ session.now + idle ∧
      (session.activity = session.seen → session.last + idle ≤ deadline)
  ended : ∀ time result, session.ended = some (.idle time result) →
    session.last + idle ≤ time

theorem timed_start (time : ℕ) : (start time).Timed server.idle where
  counted := le_refl _
  last_le := le_refl _
  waiting _ hwaiting := by cases hwaiting
  ended _ _ hended := by cases hended

theorem timed_step (hstep : session.step server event = some next)
    (htimed : session.Timed server.idle) : next.Timed server.idle := by
  obtain ⟨hlive, hdoes⟩ := does_of_step hstep
  obtain ⟨hcounted, hlast, hwaiting, hended⟩ := htimed
  cases hdoes with
  | tick hpass =>
      refine ⟨hcounted, hlast.trans (Nat.le_add_right _ _), fun deadline hdownlink => ?_, hended⟩
      obtain ⟨-, hbound, hsampled⟩ := hwaiting deadline hdownlink
      change session.downlink = .waiting deadline at hdownlink
      rw [mayPass, hdownlink] at hpass
      exact ⟨of_decide_eq_true hpass, by simp only; omega, hsampled⟩
  | start =>
      refine ⟨le_refl _, hlast, fun deadline hdownlink => ?_, hended⟩
      cases hdownlink
      exact ⟨Nat.le_add_right _ _, le_refl _, fun _ => Nat.add_le_add_right hlast _⟩
  | uploaded =>
      refine ⟨hcounted.trans (Nat.le_succ _), le_refl _, fun deadline hdownlink => ?_, ?_⟩
      · obtain ⟨hbefore, hbound, -⟩ := hwaiting deadline hdownlink
        refine ⟨hbefore, hbound, fun hsame => ?_⟩
        exact absurd (hsame.symm ▸ hcounted) (Nat.not_succ_le_self _)
      · intro time result hresult
        cases hlive.symm.trans hresult
  | received => exact ⟨hcounted, hlast, nofun, hended⟩
  | written =>
      refine ⟨hcounted, le_refl _, fun deadline hdownlink => ?_, ?_⟩
      · cases hdownlink
        exact ⟨Nat.le_add_right _ _, le_refl _, fun _ => le_refl _⟩
      · intro time result hresult
        cases hlive.symm.trans hresult
  | idle hnow hsame =>
      refine ⟨hcounted, hlast, hwaiting, fun time result hresult => ?_⟩
      cases hresult
      exact (hwaiting _ hnow).2.2 hsame
  | sampled =>
      refine ⟨le_refl _, hlast, fun later hlater => ?_, hended⟩
      cases hlater
      exact ⟨Nat.le_add_right _ _, le_refl _, fun _ => Nat.add_le_add_right hlast _⟩
  | fail => exact ⟨hcounted, hlast, hwaiting, nofun⟩

theorem timed_run {begin : ℕ} {trace : List (Transition UdpSession SessionEvent)}
    (hrun : Execution (step server) (start begin) trace session) :
    session.Timed server.idle :=
  Execution.invariant timed_step hrun (timed_start begin)

/-! ## Not too late -/

/-- The timer fires within two idle times of the last datagram, and within one when the
counter tells of it. -/
structure Prompt (idle : ℕ) (session : UdpSession) : Prop where
  waiting : ∀ deadline, session.downlink = .waiting deadline →
    deadline ≤ session.last + 2 * idle ∧
      (session.activity ≠ session.seen → deadline ≤ session.last + idle)
  busy : session.now ≤ session.last + 2 * idle
  starting : session.downlink = .starting → session.now = session.last
  ended : ∀ time result, session.ended = some (.idle time result) →
    time ≤ session.last + 2 * idle

theorem prompt_start (begin : ℕ) : (start begin).Prompt server.idle where
  waiting _ hwaiting := by cases hwaiting
  busy := Nat.le_add_right _ _
  starting _ := rfl
  ended _ _ hended := by cases hended

theorem prompt_step (hstep : session.step server event = some next)
    (hblocks : ∀ payload duration, session.downlink = .writing payload →
      event = .tick duration → duration = 0)
    (htimed : session.Timed server.idle) (hprompt : session.Prompt server.idle) :
    next.Prompt server.idle := by
  obtain ⟨hlive, hdoes⟩ := does_of_step hstep
  obtain ⟨hwaiting, hbusy, hstarting, hended⟩ := hprompt
  cases hdoes with
  | @tick duration hpass =>
      have hpassed : session.now + duration ≤ session.last + 2 * server.idle ∧
          (session.downlink = .starting → session.now + duration = session.last) := by
        rw [mayPass] at hpass
        split at hpass
        next hfirst =>
          obtain rfl : duration = 0 := beq_iff_eq.mp hpass
          exact ⟨hbusy, hstarting⟩
        next deadline hdownlink =>
          refine ⟨(of_decide_eq_true hpass).trans (hwaiting _ hdownlink).1, fun hfirst => ?_⟩
          cases hdownlink.symm.trans hfirst
        next payload hdownlink =>
          obtain rfl := hblocks payload duration hdownlink rfl
          exact ⟨hbusy, hstarting⟩
      exact ⟨hwaiting, hpassed.1, hpassed.2, hended⟩
  | start hfirst =>
      refine ⟨fun deadline hdownlink => ?_, hbusy, nofun, hended⟩
      cases hdownlink
      have hnow := hstarting hfirst
      exact ⟨by simp only; omega, fun hdiffer => absurd rfl hdiffer⟩
  | uploaded =>
      refine ⟨fun deadline hdownlink => ?_, Nat.le_add_right _ _, fun _ => rfl, ?_⟩
      · obtain ⟨-, hbound, -⟩ := htimed.waiting deadline hdownlink
        exact ⟨by simp only; omega, fun _ => hbound⟩
      · intro time result hresult
        cases hlive.symm.trans hresult
  | received => exact ⟨nofun, hbusy, nofun, hended⟩
  | written =>
      refine ⟨fun deadline hdownlink => ?_, Nat.le_add_right _ _, nofun, ?_⟩
      · cases hdownlink
        exact ⟨by simp only; omega, fun _ => le_refl _⟩
      · intro time result hresult
        cases hlive.symm.trans hresult
  | idle =>
      refine ⟨hwaiting, hbusy, hstarting, fun time result hresult => ?_⟩
      cases hresult
      exact hbusy
  | sampled hnow hdiffer =>
      have hrecent := (hwaiting _ hnow).2 hdiffer
      refine ⟨fun later hlater => ?_, hbusy, nofun, hended⟩
      cases hlater
      exact ⟨by simp only; omega, fun hsame => absurd rfl hsame⟩
  | fail => exact ⟨hwaiting, hbusy, hstarting, nofun⟩

theorem prompt_run {begin : ℕ} {trace : List (Transition UdpSession SessionEvent)}
    (hrun : Execution (step server) (start begin) trace session)
    (hblocks : NeverBlocks trace) : session.Prompt server.idle := by
  refine (hrun.preserved (fun session => session.Timed server.idle ∧ session.Prompt server.idle)
    (fun tr htr hstep hpre => ?_) ⟨timed_start begin, prompt_start begin⟩).2
  exact ⟨timed_step hstep hpre.1,
    prompt_step hstep (hblocks tr htr) hpre.1 hpre.2⟩

/-- A session that waits lets time pass until its deadline, and then fires. -/
theorem exists_progress {deadline : ℕ} (hlive : session.ended = none)
    (hwaiting : session.downlink = .waiting deadline) (hbefore : session.now ≤ deadline) :
    (session.now < deadline ∧
      session.step server (.tick 1) = some { session with now := session.now + 1 }) ∨
      session.now = deadline ∧ (session.step server .elapsed).isSome = true := by
  have hrunning := Option.isNone_iff_eq_none.mpr hlive
  rcases hbefore.lt_or_eq with hlt | heq
  · refine .inl ⟨hlt, ?_⟩
    rw [step, if_pos hrunning, advance, if_pos]
    rw [mayPass, hwaiting]
    exact decide_eq_true hlt
  · refine .inr ⟨heq, ?_⟩
    rw [step, if_pos hrunning, advance, hwaiting]
    simp only [heq, if_true]
    split <;> rfl

/-! ## Nothing is lost -/

/-- The tunnel gets the datagrams of the socket in order, empty ones included. -/
def Conserves (session : UdpSession) : Prop :=
  session.carried ++ session.downlink.held = session.received.flatMap datagramBuf

theorem conserves_step (hstep : session.step server event = some next)
    (hconserves : session.Conserves) : next.Conserves := by
  rw [Conserves] at hconserves ⊢
  cases (does_of_step hstep).2 with
  | tick => exact hconserves
  | start hfirst =>
      rw [hfirst] at hconserves
      exact hconserves
  | uploaded => exact hconserves
  | received hwaiting =>
      rw [hwaiting, ServerDownlink.held, List.append_nil] at hconserves
      rw [List.flatMap_append, List.flatMap_singleton, hconserves]
      rfl
  | written hwriting =>
      rw [hwriting] at hconserves
      exact (List.append_nil _).trans hconserves
  | idle => exact hconserves
  | sampled hwaiting =>
      rw [hwaiting] at hconserves
      exact hconserves
  | fail => exact hconserves

theorem conserves_run {begin : ℕ} {trace : List (Transition UdpSession SessionEvent)}
    (hrun : Execution (step server) (start begin) trace session) : session.Conserves :=
  Execution.invariant conserves_step hrun (Eq.refl [])

end UdpSession

/-- A session is torn down for idleness no earlier than one idle time after the last
datagram, and no later than two when the tunnel takes every write at once: time cannot go
on beyond that before the timer has ended the session. -/
theorem udp_idle_window {server : UdpServer} {begin : ℕ}
    {trace : List (Transition UdpSession SessionEvent)} {session : UdpSession}
    (hrun : Execution (UdpSession.step server) (.start begin) trace session) :
    (∀ time result, session.ended = some (.idle time result) →
      session.last + server.idle ≤ time) ∧
    (UdpSession.NeverBlocks trace →
      (∀ time result, session.ended = some (.idle time result) →
        time ≤ session.last + 2 * server.idle) ∧
      session.now ≤ session.last + 2 * server.idle) ∧
    ∀ deadline, session.ended = none → session.downlink = .waiting deadline →
      (session.now < deadline ∧ session.step server (.tick 1) =
        some { session with now := session.now + 1 }) ∨
      session.now = deadline ∧ (session.step server .elapsed).isSome = true := by
  have htimed := UdpSession.timed_run hrun
  refine ⟨htimed.ended, fun hblocks => ?_, fun deadline hlive hwaiting => ?_⟩
  · have hprompt := UdpSession.prompt_run hrun hblocks
    exact ⟨hprompt.ended, hprompt.busy⟩
  · exact UdpSession.exists_progress hlive hwaiting (htimed.waiting deadline hwaiting).1

/-- Ten units of idle time, a datagram in either direction, and no more: the counter is
sampled once before the timer ends the session. -/
theorem udp_idle_window_sample :
    ∃ trace session, Execution (UdpSession.step (vmRelayUdp 10)) (.start 0) trace session ∧
      session.last = 5 ∧ session.ended = some (.idle 23 (.ok ())) ∧
        session.last + 10 ≤ 23 ∧ 23 ≤ session.last + 2 * 10 := by
  have hfacts : (replay (UdpSession.step (vmRelayUdp 10)) (.start 0)
      [.start, .tick 3, .received [1], .written, .tick 2, .uploaded [2], .tick 8, .elapsed,
        .tick 10, .elapsed]).map
      (fun result => (result.2.last, result.2.ended, result.1.all fun tr =>
        tr.pre.downlink.held = [] || tr.event.duration == 0)) =
        some (5, some (.idle 23 (.ok ())), true) := by
    decide
  obtain ⟨⟨trace, session⟩, hreplay, hfacts⟩ := Option.map_eq_some_iff.mp hfacts
  simp only [Prod.mk.injEq] at hfacts
  obtain ⟨hlast, hended, hall⟩ := hfacts
  have hrun := execution_of_replay hreplay
  have hblocks : UdpSession.NeverBlocks trace := by
    intro tr htr payload duration hwriting htick
    have hcheck := List.all_eq_true.mp hall tr htr
    rw [hwriting, htick] at hcheck
    exact beq_iff_eq.mp hcheck
  exact ⟨trace, session, hrun, hlast, hended, (udp_idle_window hrun).1 23 _ hended,
    ((udp_idle_window hrun).2.1 hblocks).1 23 _ hended⟩

end VpnBridge.Relay
