import Mathlib.Logic.Function.Basic
import VpnBridge.Core.TransitionSystem
import VpnBridge.Proto.Wire

/-!
# Idle TCP flows of the proxy server

`relay_tcp` copies in both directions and runs a timer beside them.  A copying
loop tells the timer that something moved only when it has written a whole
chunk, through a notification that is remembered once.
-/

namespace VpnBridge.Relay

open VpnBridge.Proto VpnBridge.TransitionSystem

/-! ## Notifications -/

/-- `tokio::sync::Notify` with one task that waits. -/
structure Notify where
  /-- The task waits in `notified`. -/
  waiting : Bool
  /-- The waiting task has been notified, and not polled since. -/
  handed : Bool
  permit : Bool
  deriving DecidableEq

namespace Notify

def new : Notify := ⟨false, false, false⟩

def notifyOne (notify : Notify) : Notify :=
  if notify.waiting = true then { notify with waiting := false, handed := true }
  else { notify with permit := true }

/-- A poll of `notified`: whether it is ready. -/
def poll (notify : Notify) : Bool × Notify :=
  if notify.handed = true then (true, { notify with handed := false })
  else if notify.permit = true then (true, { notify with permit := false })
  else (false, { notify with waiting := true })

/-- The next poll is ready. -/
def signalled (notify : Notify) : Bool :=
  notify.handed || notify.permit

@[simp]
theorem signalled_notifyOne (notify : Notify) : notify.notifyOne.signalled = true := by
  rw [notifyOne]
  split
  · rfl
  · exact Bool.or_true _

@[simp]
theorem fst_poll (notify : Notify) : notify.poll.1 = notify.signalled := by
  rw [poll, signalled]
  split
  next hhanded => rw [hhanded, Bool.true_or]
  next hhanded =>
    rw [Bool.eq_false_of_not_eq_true hhanded, Bool.false_or]
    split
    next hpermit => exact hpermit.symm
    next hpermit => exact (Bool.eq_false_of_not_eq_true hpermit).symm

end Notify

/-! ## Copying -/

inductive Direction where
  | upload
  | download
  deriving DecidableEq

inductive CopyPhase where
  | reading
  /-- In `write_all`: what is left of the chunk, and when the chunk was read. -/
  | writing (rest : List UInt8) (readAt : ℕ)
  /-- In `shutdown`. -/
  | closing
  | finished (result : Except IoError Unit)
  deriving DecidableEq

structure Copy where
  phase : CopyPhase
  /-- The bytes read from the source. -/
  taken : List UInt8
  /-- The bytes that the destination has accepted. -/
  carried : List UInt8

inductive CopyEvent where
  | chunk (bytes : List UInt8)
  | sourceEnd
  | readError (failure : IoError)
  /-- The destination accepts `count` bytes. -/
  | take (count : ℕ)
  | writeError (failure : IoError)
  | shutdown (answer : Except IoError Unit)

namespace Copy

def start : Copy := ⟨.reading, [], []⟩

/-- A step of `copy_with_activity`, and whether it calls `notify_one`. -/
def copyWithActivity (now : ℕ) (copy : Copy) : CopyEvent → Option (Copy × Bool)
  | .chunk bytes =>
      match copy.phase with
      | .reading =>
          if bytes ≠ [] ∧ bytes.length ≤ 16 * 1024 then
            some ({ copy with
              phase := .writing bytes now
              taken := copy.taken ++ bytes }, false)
          else none
      | _ => none
  | .sourceEnd =>
      match copy.phase with
      | .reading => some ({ copy with phase := .closing }, false)
      | _ => none
  | .readError failure =>
      match copy.phase with
      | .reading => some ({ copy with phase := .finished (.error failure) }, false)
      | _ => none
  | .take count =>
      match copy.phase with
      | .writing rest readAt =>
          if 0 < count ∧ count < rest.length then
            some ({ copy with
              phase := .writing (rest.drop count) readAt
              carried := copy.carried ++ rest.take count }, false)
          else if count = rest.length then
            some ({ copy with phase := .reading, carried := copy.carried ++ rest }, true)
          else none
      | _ => none
  | .writeError failure =>
      match copy.phase with
      | .writing _ _ => some ({ copy with phase := .finished (.error failure) }, false)
      | _ => none
  | .shutdown answer =>
      match copy.phase with
      | .closing => some ({ copy with phase := .finished answer }, false)
      | _ => none

/-- The chunk being written was read less than `idle` before `time`. -/
def stalled (idle time : ℕ) (copy : Copy) : Bool :=
  match copy.phase with
  | .writing _ readAt => time < readAt + idle
  | _ => false

/-- What the destination has accepted is what was read, as far as it has got. -/
def Faithful (copy : Copy) : Prop :=
  match copy.phase with
  | .writing rest _ => copy.carried ++ rest = copy.taken
  | .finished (.error _) => copy.carried <+: copy.taken
  | _ => copy.carried = copy.taken

end Copy

/-! ## The relay -/

/-- How a flow ends, and when. -/
inductive TcpEnd where
  | idle (time : ℕ)
  | relayed (time : ℕ) (result : Except IoError Unit)
  deriving DecidableEq

/-- What `relay_tcp` returns. -/
def TcpEnd.result : TcpEnd → Except IoError Unit
  | .idle _ => .error ⟨.timedOut, "TCP flow idle"⟩
  | .relayed _ result => result

structure TcpFlow where
  now : ℕ
  copies : Direction → Copy
  activity : Notify
  /-- The deadline of the timer, once `wait_for_idle` has been polled. -/
  timer : Option ℕ
  ended : Option TcpEnd

inductive TcpEvent where
  | tick (duration : ℕ)
  | copy (direction : Direction) (event : CopyEvent)
  /-- A turn of the loop of `wait_for_idle`. -/
  | turn

namespace TcpFlow

def start (begin : ℕ) : TcpFlow where
  now := begin
  copies _ := .start
  activity := .new
  timer := none
  ended := none

/-- `try_join!` of the two directions. -/
def tryJoin (copies : Direction → Copy) : Option (Except IoError Unit) :=
  match (copies .upload).phase, (copies .download).phase with
  | .finished (.error failure), _ => some (.error failure)
  | _, .finished (.error failure) => some (.error failure)
  | .finished (.ok _), .finished (.ok _) => some (.ok ())
  | _, _ => none

/-- When the timer completes, if nothing resets it. -/
def deadline (idle : ℕ) (flow : TcpFlow) : ℕ :=
  flow.timer.getD (flow.now + idle)

/-- A turn of `wait_for_idle`: the notification is polled before the timer. -/
def waitForIdle (idle : ℕ) (flow : TcpFlow) : TcpFlow :=
  match flow.activity.poll with
  | (true, activity) => { flow with activity := activity, timer := some (flow.now + idle) }
  | (false, activity) =>
      { flow with
        activity := activity
        timer := some (flow.deadline idle)
        ended := if flow.deadline idle ≤ flow.now then some (.idle flow.now) else none }

/-- A step of a direction, and of `try_join!` after it. -/
def relay (flow : TcpFlow) (direction : Direction) (copy : Copy) (moved : Bool) : TcpFlow :=
  let copies := Function.update flow.copies direction copy
  { flow with
    copies := copies
    activity := if moved = true then flow.activity.notifyOne else flow.activity
    ended := (tryJoin copies).map (.relayed flow.now) }

/-- A step of `relay_tcp`. -/
def step (idle : ℕ) (flow : TcpFlow) (event : TcpEvent) : Option TcpFlow :=
  if flow.ended.isNone = true then
    match event with
    | .tick duration => some { flow with now := flow.now + duration }
    | .copy direction event =>
        ((flow.copies direction).copyWithActivity flow.now event).map fun (copy, moved) =>
          flow.relay direction copy moved
    | .turn => some (flow.waitForIdle idle)
  else none

/-- A chunk is read, or the whole of one has been written. -/
def Active (tr : Transition TcpFlow TcpEvent) : Prop :=
  match tr.event with
  | .copy _ (.chunk _) => True
  | .copy direction (.take _) => (tr.post.copies direction).phase = .reading
  | _ => False

/-- Nothing is read and no chunk is written in the `idle` before `time`. -/
def Quiet (idle time : ℕ) (trace : List (Transition TcpFlow TcpEvent)) : Prop :=
  ∀ tr ∈ trace, Active tr → tr.pre.now + idle ≤ time

end TcpFlow

/-! ## One direction -/

namespace Copy

/-- What a step of a direction does. -/
inductive Does (now : ℕ) (copy : Copy) : CopyEvent → Copy → Bool → Prop where
  | chunk {bytes : List UInt8} (hreading : copy.phase = .reading) :
      Does now copy (.chunk bytes) { copy with
        phase := .writing bytes now
        taken := copy.taken ++ bytes } false
  | sourceEnd (hreading : copy.phase = .reading) :
      Does now copy .sourceEnd { copy with phase := .closing } false
  | readError {failure : IoError} (hreading : copy.phase = .reading) :
      Does now copy (.readError failure)
        { copy with phase := .finished (.error failure) } false
  | takePart {rest : List UInt8} {readAt count : ℕ}
      (hwriting : copy.phase = .writing rest readAt) :
      Does now copy (.take count) { copy with
        phase := .writing (rest.drop count) readAt
        carried := copy.carried ++ rest.take count } false
  | takeRest {rest : List UInt8} {readAt : ℕ} (hwriting : copy.phase = .writing rest readAt) :
      Does now copy (.take rest.length)
        { copy with phase := .reading, carried := copy.carried ++ rest } true
  | writeError {rest : List UInt8} {readAt : ℕ} {failure : IoError}
      (hwriting : copy.phase = .writing rest readAt) :
      Does now copy (.writeError failure)
        { copy with phase := .finished (.error failure) } false
  | shutdown {answer : Except IoError Unit} (hclosing : copy.phase = .closing) :
      Does now copy (.shutdown answer) { copy with phase := .finished answer } false

variable {now : ℕ} {copy next : Copy} {event : CopyEvent} {moved : Bool}

theorem does_of_copyWithActivity
    (hstep : copy.copyWithActivity now event = some (next, moved)) :
    Does now copy event next moved := by
  cases event with
  | chunk bytes =>
      rw [copyWithActivity] at hstep
      split at hstep
      next hreading =>
        obtain ⟨-, hnext⟩ := Option.ite_none_right_eq_some.mp hstep
        cases hnext
        exact .chunk hreading
      next => cases hstep
  | sourceEnd =>
      rw [copyWithActivity] at hstep
      split at hstep
      next hreading =>
        cases hstep
        exact .sourceEnd hreading
      next => cases hstep
  | readError failure =>
      rw [copyWithActivity] at hstep
      split at hstep
      next hreading =>
        cases hstep
        exact .readError hreading
      next => cases hstep
  | take count =>
      rw [copyWithActivity] at hstep
      split at hstep
      next rest readAt hwriting =>
        split at hstep
        next =>
          cases hstep
          exact .takePart hwriting
        next =>
          obtain ⟨rfl, hnext⟩ := Option.ite_none_right_eq_some.mp hstep
          cases hnext
          exact .takeRest hwriting
      next => cases hstep
  | writeError failure =>
      rw [copyWithActivity] at hstep
      split at hstep
      next rest readAt hwriting =>
        cases hstep
        exact .writeError hwriting
      next => cases hstep
  | shutdown answer =>
      rw [copyWithActivity] at hstep
      split at hstep
      next hclosing =>
        cases hstep
        exact .shutdown hclosing
      next => cases hstep

/-- A chunk stays with the loop until it is written or the write fails. -/
theorem Does.writing {rest : List UInt8} {readAt : ℕ} (hdoes : Does now copy event next moved)
    (hwriting : copy.phase = .writing rest readAt) :
    moved = true ∨ (∃ later, next.phase = .writing later readAt) ∨
      ∃ failure, next.phase = .finished (.error failure) := by
  cases hdoes with
  | chunk hreading => cases hreading.symm.trans hwriting
  | sourceEnd hreading => cases hreading.symm.trans hwriting
  | readError hreading => cases hreading.symm.trans hwriting
  | takePart hbefore =>
      cases hbefore.symm.trans hwriting
      exact .inr (.inl ⟨_, rfl⟩)
  | takeRest => exact .inl rfl
  | writeError => exact .inr (.inr ⟨_, rfl⟩)
  | shutdown hclosing => cases hclosing.symm.trans hwriting

/-- A chunk that is being written was read at the time it says. -/
theorem Does.of_writing {rest : List UInt8} {readAt : ℕ}
    (hdoes : Does now copy event next moved) (hwriting : next.phase = .writing rest readAt) :
    ((∃ bytes, event = .chunk bytes) ∧ readAt = now) ∨
      ∃ before, copy.phase = .writing before readAt := by
  cases hdoes with
  | chunk =>
      cases hwriting
      exact .inl ⟨⟨_, rfl⟩, rfl⟩
  | takePart hbefore =>
      cases hwriting
      exact .inr ⟨_, hbefore⟩
  | sourceEnd => cases hwriting
  | readError => cases hwriting
  | takeRest => cases hwriting
  | writeError => cases hwriting
  | shutdown => cases hwriting

theorem Does.phase_of_chunk {bytes : List UInt8}
    (hdoes : Does now copy (.chunk bytes) next moved) : next.phase = .writing bytes now := by
  cases hdoes with
  | chunk => rfl

/-- The loop goes back to reading only when it has told the timer. -/
theorem Does.moved_of_take {count : ℕ} (hdoes : Does now copy (.take count) next moved)
    (hreading : next.phase = .reading) : moved = true := by
  cases hdoes with
  | takePart => cases hreading
  | takeRest => rfl

theorem faithful_start : start.Faithful :=
  Eq.refl []

theorem Does.faithful (hdoes : Does now copy event next moved) (hfaithful : copy.Faithful) :
    next.Faithful := by
  rw [Faithful] at hfaithful
  cases hdoes with
  | chunk hreading =>
      rw [hreading] at hfaithful
      exact congrArg (· ++ _) hfaithful
  | sourceEnd hreading =>
      rw [hreading] at hfaithful
      exact hfaithful
  | readError hreading =>
      rw [hreading] at hfaithful
      exact ⟨[], (List.append_nil _).trans hfaithful⟩
  | @takePart rest readAt count hwriting =>
      rw [hwriting] at hfaithful
      change copy.carried ++ rest.take count ++ rest.drop count = copy.taken
      rw [List.append_assoc, List.take_append_drop, hfaithful]
  | takeRest hwriting =>
      rw [hwriting] at hfaithful
      exact hfaithful
  | writeError hwriting =>
      rw [hwriting] at hfaithful
      exact ⟨_, hfaithful⟩
  | @shutdown answer hclosing =>
      rw [hclosing] at hfaithful
      cases answer with
      | ok => exact hfaithful
      | error failure => exact ⟨[], (List.append_nil _).trans hfaithful⟩

end Copy

/-! ## The timer -/

namespace TcpFlow

variable {idle : ℕ} {flow next : TcpFlow} {event : TcpEvent}

/-- The timer will not strike less than `idle` after `time`, or is about to be reset. -/
def Accounted (idle : ℕ) (flow : TcpFlow) (time : ℕ) : Prop :=
  flow.activity.signalled = true ∨ time + idle ≤ flow.deadline idle

/-- A chunk that was read at `time` is still being written. -/
def Writing (flow : TcpFlow) (time : ℕ) : Prop :=
  ∃ direction rest, (flow.copies direction).phase = .writing rest time

/-- What a step of the relay does. -/
inductive Does (idle : ℕ) (flow : TcpFlow) : TcpEvent → TcpFlow → Prop where
  | tick {duration : ℕ} :
      Does idle flow (.tick duration) { flow with now := flow.now + duration }
  | copy {direction : Direction} {event : CopyEvent} {copy : Copy} {moved : Bool}
      (hcopy : Copy.Does flow.now (flow.copies direction) event copy moved) :
      Does idle flow (.copy direction event) (flow.relay direction copy moved)
  | turn : Does idle flow .turn (flow.waitForIdle idle)

theorem does_of_step (hstep : flow.step idle event = some next) :
    flow.ended = none ∧ Does idle flow event next := by
  obtain ⟨hlive, hstep⟩ := Option.ite_none_right_eq_some.mp hstep
  refine ⟨Option.isNone_iff_eq_none.mp hlive, ?_⟩
  cases event with
  | tick duration =>
      cases hstep
      exact .tick
  | copy direction event =>
      obtain ⟨⟨copy, moved⟩, hcopy, hnext⟩ := Option.map_eq_some_iff.mp hstep
      cases hnext
      exact .copy (Copy.does_of_copyWithActivity hcopy)
  | turn =>
      cases hstep
      exact .turn

@[simp]
theorem copies_relay_self (direction : Direction) (copy : Copy) (moved : Bool) :
    (flow.relay direction copy moved).copies direction = copy :=
  Function.update_self ..

theorem copies_relay_of_ne {direction other : Direction} (hother : other ≠ direction)
    (copy : Copy) (moved : Bool) :
    (flow.relay direction copy moved).copies other = flow.copies other :=
  Function.update_of_ne hother ..

/-- A loop that has called `notify_one` is heard. -/
theorem signalled_relay {direction : Direction} {copy : Copy} {moved : Bool}
    (hsignalled : moved = true ∨ flow.activity.signalled = true) :
    (flow.relay direction copy moved).activity.signalled = true := by
  rw [relay]
  cases moved with
  | true => exact Notify.signalled_notifyOne _
  | false => exact hsignalled.resolve_left Bool.false_ne_true

/-- A failed direction ends the flow. -/
theorem isSome_tryJoin_of_error {copies : Direction → Copy} {direction : Direction}
    {failure : IoError} (hfailed : (copies direction).phase = .finished (.error failure)) :
    (tryJoin copies).isSome = true := by
  rw [tryJoin]
  cases direction with
  | upload =>
      rw [hfailed]
      rfl
  | download =>
      rw [hfailed]
      split
      next => rfl
      next => rfl
      next hfinished => cases hfinished
      next hother _ => exact (hother failure rfl).elim

@[simp]
theorem copies_waitForIdle : (flow.waitForIdle idle).copies = flow.copies := by
  rw [waitForIdle]
  split <;> rfl

@[simp]
theorem now_waitForIdle : (flow.waitForIdle idle).now = flow.now := by
  rw [waitForIdle]
  split <;> rfl

/-- A turn that finds no notification leaves the timer where it was. -/
theorem deadline_waitForIdle (hquiet : flow.activity.signalled = false) :
    (flow.waitForIdle idle).deadline idle = flow.deadline idle := by
  rw [← Notify.fst_poll] at hquiet
  rw [waitForIdle]
  split
  next hpoll =>
    rw [hpoll] at hquiet
    cases hquiet
  next => rfl

/-- A turn that finds a notification resets the timer. -/
theorem deadline_waitForIdle_of_signalled (hsignalled : flow.activity.signalled = true) :
    (flow.waitForIdle idle).deadline idle = flow.now + idle := by
  rw [← Notify.fst_poll] at hsignalled
  rw [waitForIdle]
  split
  next => rfl
  next hpoll =>
    rw [hpoll] at hsignalled
    cases hsignalled

/-- The idle task ends a flow in a turn of its loop, with no notification pending
and the deadline past. -/
theorem turn_of_ended {time : ℕ} (hstep : flow.step idle event = some next)
    (hended : next.ended = some (.idle time)) :
    event = .turn ∧ time = flow.now ∧ flow.activity.signalled = false ∧
      flow.deadline idle ≤ flow.now := by
  obtain ⟨hlive, hdoes⟩ := does_of_step hstep
  cases hdoes with
  | tick => cases hlive.symm.trans hended
  | copy hcopy =>
      obtain ⟨result, -, hresult⟩ := Option.map_eq_some_iff.mp hended
      cases hresult
  | turn =>
      rw [waitForIdle] at hended
      split at hended
      next => cases hlive.symm.trans hended
      next activity hpoll =>
        obtain ⟨hstruck, hended⟩ := Option.ite_none_right_eq_some.mp hended
        cases hended
        have hquiet := congrArg Prod.fst hpoll
        rw [Notify.fst_poll] at hquiet
        exact ⟨rfl, rfl, hquiet, hstruck⟩

theorem Does.now_le (hdoes : Does idle flow event next) : flow.now ≤ next.now := by
  cases hdoes with
  | tick => exact Nat.le_add_right _ _
  | copy => exact le_refl _
  | turn => rw [now_waitForIdle]

/-- What the timer takes account of, it goes on taking account of. -/
theorem Does.accounted {time : ℕ} (hdoes : Does idle flow event next)
    (htime : time ≤ flow.now) (haccounted : flow.Accounted idle time) :
    next.Accounted idle time := by
  cases hdoes with
  | tick =>
      refine haccounted.imp_right fun hdeadline => hdeadline.trans ?_
      rw [deadline, deadline]
      cases flow.timer with
      | none => exact Nat.add_le_add_right (Nat.le_add_right _ _) _
      | some deadline => exact le_refl _
  | copy => exact haccounted.imp_left fun hsignalled => signalled_relay (.inr hsignalled)
  | turn =>
      refine .inr ?_
      by_cases hsignalled : flow.activity.signalled = true
      · rw [deadline_waitForIdle_of_signalled hsignalled]
        exact Nat.add_le_add_right htime _
      · rw [deadline_waitForIdle (Bool.eq_false_of_not_eq_true hsignalled)]
        exact haccounted.resolve_left hsignalled

/-- A chunk that was being written still is, or has been told to the timer, or the flow
is over. -/
theorem Does.writing {time : ℕ} (hdoes : Does idle flow event next)
    (hlive : next.ended = none) (hwriting : flow.Writing time) :
    next.Accounted idle time ∨ next.Writing time := by
  obtain ⟨direction, rest, hwriting⟩ := hwriting
  cases hdoes with
  | tick => exact .inr ⟨direction, rest, hwriting⟩
  | @copy moving event copy moved hcopy =>
      by_cases hsame : direction = moving
      · subst hsame
        obtain hmoved | ⟨later, hlater⟩ | ⟨failure, hfailed⟩ := hcopy.writing hwriting
        · exact .inl (.inl (signalled_relay (.inl hmoved)))
        · refine .inr ⟨direction, later, ?_⟩
          rw [copies_relay_self, hlater]
        · have hphase :
              ((flow.relay direction copy moved).copies direction).phase =
                .finished (.error failure) := by
            rw [copies_relay_self, hfailed]
          have hover := isSome_tryJoin_of_error hphase
          rw [relay, Option.map_eq_none_iff] at hlive
          rw [relay, hlive] at hover
          cases hover
      · refine .inr ⟨direction, rest, ?_⟩
        rw [copies_relay_of_ne hsame, hwriting]
  | turn =>
      refine .inr ⟨direction, rest, ?_⟩
      rw [copies_waitForIdle, hwriting]

/-- A chunk that is being written was being written before, or has just been read. -/
theorem Does.of_writing {time : ℕ} (hdoes : Does idle flow event next)
    (hwriting : next.Writing time) :
    flow.Writing time ∨ Active ⟨flow, event, next⟩ ∧ flow.now = time := by
  obtain ⟨direction, rest, hwriting⟩ := hwriting
  cases hdoes with
  | tick => exact .inl ⟨direction, rest, hwriting⟩
  | @copy moving event copy moved hcopy =>
      by_cases hsame : direction = moving
      · subst hsame
        rw [copies_relay_self] at hwriting
        obtain ⟨⟨bytes, rfl⟩, rfl⟩ | ⟨before, hbefore⟩ := hcopy.of_writing hwriting
        · exact .inr ⟨trivial, rfl⟩
        · exact .inl ⟨direction, before, hbefore⟩
      · rw [copies_relay_of_ne hsame] at hwriting
        exact .inl ⟨direction, rest, hwriting⟩
  | turn =>
      rw [copies_waitForIdle] at hwriting
      exact .inl ⟨direction, rest, hwriting⟩

/-- A read leaves a chunk to write, and a finished write is told to the timer. -/
theorem Does.active (hdoes : Does idle flow event next)
    (hactive : Active ⟨flow, event, next⟩) :
    next.Accounted idle flow.now ∨ next.Writing flow.now := by
  cases hdoes with
  | @copy direction event copy moved hcopy =>
      cases event with
      | chunk bytes =>
          refine .inr ⟨direction, bytes, ?_⟩
          rw [copies_relay_self, hcopy.phase_of_chunk]
      | take count =>
          simp only [Active, copies_relay_self] at hactive
          exact .inl (.inl (signalled_relay (.inl (hcopy.moved_of_take hactive))))
      | _ => exact hactive.elim
  | tick => exact hactive.elim
  | turn => exact hactive.elim

/-- In a live flow all that has moved is accounted for, except the chunks that are still
being written. -/
theorem covered_run {begin : ℕ} {trace : List (Transition TcpFlow TcpEvent)}
    (hrun : Execution (step idle) (start begin) trace flow) (hlive : flow.ended = none) :
    ∀ tr ∈ trace, Active tr → tr.pre.now ≤ flow.now ∧
      (flow.Accounted idle tr.pre.now ∨ flow.Writing tr.pre.now) := by
  induction hrun with
  | nil => exact fun tr hmem => (List.not_mem_nil hmem).elim
  | @snoc trace state next event hrun hstep ih =>
      obtain ⟨hbefore, hdoes⟩ := does_of_step hstep
      rw [List.forall_mem_append, List.forall_mem_singleton]
      refine ⟨fun tr hmem hactive => ?_, fun hactive => ⟨hdoes.now_le, hdoes.active hactive⟩⟩
      obtain ⟨htime, hcovered⟩ := ih hbefore tr hmem hactive
      refine ⟨htime.trans hdoes.now_le, ?_⟩
      cases hcovered with
      | inl haccounted => exact .inl (hdoes.accounted htime haccounted)
      | inr hwriting => exact hdoes.writing hlive hwriting

/-- A chunk that is being written was read in the run, when it says. -/
theorem recorded_run {begin time : ℕ} {trace : List (Transition TcpFlow TcpEvent)}
    (hrun : Execution (step idle) (start begin) trace flow) (hwriting : flow.Writing time) :
    ∃ tr ∈ trace, Active tr ∧ tr.pre.now = time := by
  induction hrun with
  | nil =>
      obtain ⟨direction, rest, hwriting⟩ := hwriting
      cases hwriting
  | @snoc trace state next event hrun hstep ih =>
      obtain hbefore | hread := (does_of_step hstep).2.of_writing hwriting
      · obtain ⟨tr, hmem, hactive⟩ := ih hbefore
        exact ⟨tr, List.mem_append_left _ hmem, hactive⟩
      · exact ⟨_, List.mem_append_right _ (List.mem_singleton_self _), hread⟩

theorem stalled_eq_false_iff {time : ℕ} :
    (∀ direction, (flow.copies direction).stalled idle time = false) ↔
      ∀ readAt, flow.Writing readAt → readAt + idle ≤ time := by
  constructor
  · rintro hstalled readAt ⟨direction, rest, hwriting⟩
    have hcopy := hstalled direction
    rw [Copy.stalled, hwriting] at hcopy
    exact not_lt.mp (of_decide_eq_false hcopy)
  · intro hwriting direction
    rw [Copy.stalled]
    split
    next rest readAt hphase =>
      exact decide_eq_false (not_lt.mpr (hwriting readAt ⟨direction, rest, hphase⟩))
    next => rfl

theorem faithful_step (hstep : flow.step idle event = some next)
    (hfaithful : ∀ direction, (flow.copies direction).Faithful) (direction : Direction) :
    (next.copies direction).Faithful := by
  cases (does_of_step hstep).2 with
  | tick => exact hfaithful direction
  | @copy moving event copy moved hcopy =>
      by_cases hsame : direction = moving
      · subst hsame
        rw [copies_relay_self]
        exact hcopy.faithful (hfaithful direction)
      · rw [copies_relay_of_ne hsame]
        exact hfaithful direction
  | turn =>
      rw [copies_waitForIdle]
      exact hfaithful direction

theorem faithful_run {begin : ℕ} {trace : List (Transition TcpFlow TcpEvent)}
    (hrun : Execution (step idle) (start begin) trace flow) :
    ∀ direction, (flow.copies direction).Faithful :=
  Execution.invariant faithful_step hrun fun _ => Copy.faithful_start

theorem finished_of_tryJoin {copies : Direction → Copy} (hjoin : tryJoin copies = some (.ok ()))
    (direction : Direction) : (copies direction).phase = .finished (.ok ()) := by
  rw [tryJoin] at hjoin
  split at hjoin
  next => cases hjoin
  next => cases hjoin
  next hupload hdownload =>
    cases direction with
    | upload => exact hupload
    | download => exact hdownload
  next => cases hjoin

theorem tryJoin_of_relayed {begin time : ℕ} {result : Except IoError Unit}
    {trace : List (Transition TcpFlow TcpEvent)}
    (hrun : Execution (step idle) (start begin) trace flow)
    (hended : flow.ended = some (.relayed time result)) : tryJoin flow.copies = some result := by
  cases hrun with
  | nil => cases hended
  | snoc hrun hstep =>
      obtain ⟨hlive, hdoes⟩ := does_of_step hstep
      cases hdoes with
      | tick => cases hlive.symm.trans hended
      | copy =>
          obtain ⟨joined, hjoin, hresult⟩ := Option.map_eq_some_iff.mp hended
          cases hresult
          exact hjoin
      | turn =>
          rw [waitForIdle] at hended
          split at hended
          next => cases hlive.symm.trans hended
          next =>
            obtain ⟨-, hidle⟩ := Option.ite_none_right_eq_some.mp hended
            cases hidle

/-- A relay that returns `Ok` has carried both directions to their ends. -/
theorem carried_of_relayed {begin time : ℕ} {trace : List (Transition TcpFlow TcpEvent)}
    (hrun : Execution (step idle) (start begin) trace flow)
    (hended : flow.ended = some (.relayed time (.ok ()))) (direction : Direction) :
    (flow.copies direction).carried = (flow.copies direction).taken := by
  have hfaithful := faithful_run hrun direction
  rw [Copy.Faithful, finished_of_tryJoin (tryJoin_of_relayed hrun hended) direction] at hfaithful
  exact hfaithful

end TcpFlow

/-- When a flow ends as idle, nothing was read and no chunk was written in the idle time
before, exactly if no direction is held up with a chunk that it read in that time. -/
theorem idle_end_quiet_iff {idle begin time : ℕ}
    {trace : List (Transition TcpFlow TcpEvent)} {flow next : TcpFlow} {event : TcpEvent}
    (hrun : Execution (TcpFlow.step idle) (.start begin) trace flow)
    (hstep : flow.step idle event = some next) (hended : next.ended = some (.idle time)) :
    TcpFlow.Quiet idle time (trace ++ [⟨flow, event, next⟩]) ↔
      ∀ direction, (flow.copies direction).stalled idle flow.now = false := by
  obtain ⟨rfl, rfl, hquiet, hstruck⟩ := TcpFlow.turn_of_ended hstep hended
  have hlive := (TcpFlow.does_of_step hstep).1
  rw [TcpFlow.stalled_eq_false_iff, TcpFlow.Quiet, List.forall_mem_append,
    List.forall_mem_singleton]
  constructor
  · intro hbefore readAt hwriting
    obtain ⟨tr, hmem, hactive, rfl⟩ := TcpFlow.recorded_run hrun hwriting
    exact hbefore.1 tr hmem hactive
  · intro hwriting
    refine ⟨fun tr hmem hactive => ?_, fun hactive => hactive.elim⟩
    obtain ⟨-, haccounted | hpending⟩ := TcpFlow.covered_run hrun hlive tr hmem hactive
    · have hdeadline := haccounted.resolve_left (Bool.eq_false_iff.mp hquiet)
      exact hdeadline.trans hstruck
    · exact hwriting _ hpending

/-- What is read and written at 5 puts the end off to 15. -/
theorem idle_end_quiet_sample :
    ∃ trace flow next, Execution (TcpFlow.step 10) (.start 0) trace flow ∧
      flow.step 10 .turn = some next ∧ next.ended = some (.idle 15) ∧
        TcpFlow.Quiet 10 15 (trace ++ [⟨flow, .turn, next⟩]) := by
  have hfacts : ((replay (TcpFlow.step 10) (.start 0)
      [.turn, .tick 5, .copy .upload (.chunk [7]), .copy .upload (.take 1), .turn,
        .tick 10]).bind fun result => (result.2.step 10 .turn).map fun next =>
      ((result.2.copies .upload).stalled 10 result.2.now,
        (result.2.copies .download).stalled 10 result.2.now, next.ended)) =
      some (false, false, some (.idle 15)) := by
    decide
  obtain ⟨⟨trace, flow⟩, hreplay, hfacts⟩ := Option.bind_eq_some_iff.mp hfacts
  obtain ⟨next, hstep, hfacts⟩ := Option.map_eq_some_iff.mp hfacts
  simp only [Prod.mk.injEq] at hfacts
  obtain ⟨hupload, hdownload, hended⟩ := hfacts
  have hrun := execution_of_replay hreplay
  refine ⟨trace, flow, next, hrun, hstep, hended,
    (idle_end_quiet_iff hrun hstep hended).mpr fun direction => ?_⟩
  cases direction with
  | upload => exact hupload
  | download => exact hdownload

/-- A chunk read at 5 that the destination does not take: the flow ends as idle at 10. -/
theorem stalled_flow_ended :
    ∃ trace flow next, Execution (TcpFlow.step 10) (.start 0) trace flow ∧
      flow.step 10 .turn = some next ∧ next.ended = some (.idle 10) ∧
        ¬ TcpFlow.Quiet 10 10 trace := by
  have hfacts : ((replay (TcpFlow.step 10) (.start 0)
      [.turn, .tick 5, .copy .download (.chunk [7]), .tick 5]).bind fun result =>
      (result.2.step 10 .turn).map fun next =>
        ((result.2.copies .download).phase, next.ended)) =
      some (.writing [7] 5, some (.idle 10)) := by
    decide
  obtain ⟨⟨trace, flow⟩, hreplay, hfacts⟩ := Option.bind_eq_some_iff.mp hfacts
  obtain ⟨next, hstep, hfacts⟩ := Option.map_eq_some_iff.mp hfacts
  obtain ⟨hphase, hended⟩ := Prod.mk.inj hfacts
  have hrun := execution_of_replay hreplay
  have hwriting : flow.Writing 5 := ⟨.download, [7], hphase⟩
  refine ⟨trace, flow, next, hrun, hstep, hended, fun hquiet => ?_⟩
  obtain ⟨tr, hmem, hactive, htr⟩ := TcpFlow.recorded_run hrun hwriting
  have hbefore := hquiet tr hmem hactive
  rw [htr] at hbefore
  exact absurd hbefore (by decide)

end VpnBridge.Relay
