import VpnBridge.Client.QuicSlot

/-!
# One connection for all opens

However many opens there are, one of them at a time connects, and only while the slot has no
live connection.  So the handshakes of a run are as many as its live connections have been
lost, and one more if one is live at the end.
-/

namespace VpnBridge.Client

open VpnBridge.Net VpnBridge.Proto VpnBridge.TransitionSystem

/-- A handshake completes. -/
def handshakes (tr : Transition State Event) : Bool :=
  match tr.event with
  | .resume _ (.connected _) => true
  | _ => false

/-- The slot loses its live connection. -/
def loses (tr : Transition State Event) : Bool :=
  tr.pre.shared.liveSlot.isSome && tr.post.shared.liveSlot.isNone

section Sharing

variable {cfg : ClientConfig} {now : Time} {trace : List (Transition State Event)}
variable {final : State} {tr : Transition State Event}

theorem liveSlot_congr {shared next : Shared} (hslot : next.slot = shared.slot)
    (hconnections : next.connections = shared.connections) :
    next.liveSlot = shared.liveSlot := by
  rw [Shared.liveSlot, Shared.liveSlot, hslot, hconnections]

theorem liveSlot_connect (shared : Shared) (conn : ConnId) :
    (shared.connect conn).liveSlot = some conn := by
  simp [Shared.connect, Shared.liveSlot]

/-- A connection that closes is lost to the slot, if it was there. -/
theorem liveSlot_close_cases (shared : Shared) (conn : ConnId) :
    (shared.close conn).liveSlot = shared.liveSlot ∨
      shared.slot = some conn ∧ (shared.close conn).liveSlot = none := by
  by_cases hslot : shared.slot = some conn
  · refine .inr ⟨hslot, ?_⟩
    simp [Shared.liveSlot, Shared.close, hslot]
  · refine .inl ?_
    cases hother : shared.slot with
    | none => simp [Shared.liveSlot, Shared.close, hother]
    | some other =>
        have hne : other ≠ conn := by
          rintro rfl
          exact hslot hother
        simp [Shared.liveSlot, Shared.close, hother, Option.filter_some,
          Function.update_of_ne hne]

theorem event_of_handshakes (hhandshake : handshakes tr = true) :
    ∃ flow conn, tr.event = .resume flow (.connected conn) := by
  rw [handshakes] at hhandshake
  split at hhandshake
  next flow conn hevent => exact ⟨flow, conn, hevent⟩
  next => cases hhandshake

/-- A handshake finds the slot without a live connection and leaves it with one. -/
theorem liveSlot_of_handshake (hinv : SlotInvariant tr.pre)
    (hstep : step cfg tr.pre tr.event = some tr.post) (hhandshake : handshakes tr = true) :
    tr.pre.shared.liveSlot = none ∧ ∃ conn, tr.post.shared.liveSlot = some conn := by
  obtain ⟨flow, conn, hevent⟩ := event_of_handshakes hhandshake
  rw [hevent, step_resume_iff] at hstep
  obtain ⟨call, shared, point, hopen, hresumes, hpost⟩ := hstep
  have hheld : tr.pre.held flow = call.point.held := by
    rw [State.held, hopen, Option.elim_some]
  rw [hpost]
  generalize call.point = source at hresumes hheld
  cases hresumes with
  | connected hfresh =>
      refine ⟨hinv.dead ?_, conn, liveSlot_connect _ _⟩
      rw [hinv.holder_eq flow hheld]
      exact Option.some_ne_none flow

/-- Nothing else gives the slot a live connection. -/
theorem liveSlot_of_not_handshake (hstep : step cfg tr.pre tr.event = some tr.post)
    (hother : handshakes tr = false) :
    tr.post.shared.liveSlot = tr.pre.shared.liveSlot ∨
      tr.post.shared.liveSlot = none ∧
        ((∃ conn, tr.event = .close conn ∧ tr.pre.shared.slot = some conn) ∨
          ∃ flow conn, Invalidates tr flow conn) := by
  cases hevent : tr.event with
  | tick delta =>
      rw [hevent, step_tick_iff] at hstep
      exact .inl (by rw [hstep]; rfl)
  | start flow cmd target =>
      rw [hevent, step_start_iff] at hstep
      exact .inl (by rw [hstep.2])
  | close conn =>
      rw [hevent, step_close_iff] at hstep
      rw [hstep.2]
      rcases liveSlot_close_cases tr.pre.shared conn with hsame | ⟨hslot, hnone⟩
      · exact .inl hsame
      · exact .inr ⟨hnone, .inl ⟨conn, rfl, hslot⟩⟩
  | resume flow input =>
      rw [handshakes, hevent] at hother
      rw [hevent, step_resume_iff] at hstep
      obtain ⟨call, shared, point, hopen, hresumes, hpost⟩ := hstep
      have heffect := hresumes.slotEffect
      rw [hpost]
      generalize hsource : call.point = source at heffect
      cases heffect with
      | kept _ _ hslot _ hconnections => exact .inl (liveSlot_congr hslot hconnections)
      | locked => exact .inl rfl
      | released => exact .inl rfl
      | stored => cases hother
      | @emptied conn error point hfree hpoint =>
          refine .inr ⟨rfl, .inr ⟨flow, conn, ⟨_, hevent⟩, ?_⟩⟩
          rw [State.pointOf, hopen, Option.map_some, hsource]
          rfl

/-- What an open obtains is the live connection of the slot. -/
theorem liveSlot_of_obtains {flow : FlowId} {conn : ConnId}
    (hstep : step cfg tr.pre tr.event = some tr.post) (hobtains : Obtains tr flow conn) :
    tr.post.shared.liveSlot = some conn := by
  obtain ⟨call, input, shared, point, hopen, hresumes, hpost⟩ :=
    resumes_of_held hstep (by rw [hobtains.2]; exact hobtains.1)
  have hsource : tr.pre.held flow = call.point.held := by
    rw [State.held, hopen, Option.elim_some]
  have hpoint := hobtains.2
  rw [hpost, State.held_update_self] at hpoint
  rw [hpost]
  rcases hresumes.of_connection hpoint with ⟨hheld, -⟩ | ⟨-, hlive, rfl⟩ | ⟨-, -, -, rfl⟩
  · exact absurd (hsource.trans hheld) hobtains.1
  · exact hlive
  · exact liveSlot_connect _ _

theorem countP_step (hinv : SlotInvariant tr.pre)
    (hstep : step cfg tr.pre tr.event = some tr.post) :
    (handshakes tr).toNat + tr.pre.shared.liveSlot.isSome.toNat =
      (loses tr).toNat + tr.post.shared.liveSlot.isSome.toNat := by
  cases hhandshake : handshakes tr with
  | true =>
      obtain ⟨hpre, conn, hpost⟩ := liveSlot_of_handshake hinv hstep hhandshake
      rw [loses, hpre, hpost]
      rfl
  | false =>
      rcases liveSlot_of_not_handshake hstep hhandshake with hsame | ⟨hnone, -⟩
      · rw [loses, hsame]
        cases tr.pre.shared.liveSlot <;> rfl
      · rw [loses, hnone]
        cases tr.pre.shared.liveSlot <;> rfl

theorem countP_run (hrun : Run cfg now trace final) :
    trace.countP handshakes =
      trace.countP loses + final.shared.liveSlot.isSome.toNat := by
  induction hrun with
  | nil => rfl
  | @snoc trace state next event hrun hstep ih =>
      have hinv := hrun.invariant slotInvariant_of_step (slotInvariant_new now)
      have hcount := @countP_step cfg ⟨state, event, next⟩ hinv hstep
      change _ + state.shared.liveSlot.isSome.toNat =
        _ + next.shared.liveSlot.isSome.toNat at hcount
      have hbit (bit : Bool) : (if bit = true then 1 else 0) = bit.toNat := by cases bit <;> rfl
      rw [List.countP_append, List.countP_append, List.countP_singleton, List.countP_singleton,
        hbit, hbit, ih]
      omega

/-- The handshakes of a run, one at a time, make up for the live connections it has lost, by
their end or to an open that failed, and every open obtains the live connection. -/
theorem connections_accounted (hrun : Run cfg now trace final) :
    trace.countP handshakes =
        trace.countP loses + final.shared.liveSlot.isSome.toNat ∧
      (∀ tr ∈ trace, loses tr = true →
        (∃ conn, tr.event = .close conn ∧ tr.pre.shared.slot = some conn) ∨
          ∃ flow conn, Invalidates tr flow conn) ∧
      (∀ tr ∈ trace, ∀ flow conn, Obtains tr flow conn →
        tr.post.shared.liveSlot = some conn) ∧
      ∀ first second, final.held first = .lock → final.held second = .lock →
        first = second := by
  refine ⟨countP_run hrun, fun tr hmem hloses => ?_, fun tr hmem flow conn hobtains =>
    liveSlot_of_obtains (hrun.step_of_mem hmem) hobtains, fun first second hfirst hsecond => ?_⟩
  · rw [loses, Bool.and_eq_true, Option.isSome_iff_ne_none, Option.isNone_iff_eq_none] at hloses
    cases hhandshake : handshakes tr with
    | true =>
        obtain ⟨-, conn, hpost⟩ := liveSlot_of_handshake (slotInvariant_of_run hrun hmem).1
          (hrun.step_of_mem hmem) hhandshake
        cases hpost.symm.trans hloses.2
    | false =>
        rcases liveSlot_of_not_handshake (hrun.step_of_mem hmem) hhandshake with
          hsame | ⟨-, hcause⟩
        · exact absurd (hsame.symm.trans hloses.2) hloses.1
        · exact hcause
  · have hinv := hrun.invariant slotInvariant_of_step (slotInvariant_new now)
    have hfirst := hinv.holder_eq first hfirst
    exact Option.some.inj (hfirst.symm.trans (hinv.holder_eq second hsecond))

end Sharing

/-- Two opens share a connection, it closes, and a third open makes another one. -/
def sharingEvents : List Event :=
  [.start 0 .connectTcp sampleTarget, .start 1 .bindUdp sampleTarget,
    .start 2 .connectTcp sampleTarget, .resume 0 .proceed, .resume 1 .proceed,
    .resume 0 .connecting, .resume 0 (.connected 7), .resume 1 .proceed, .close 7,
    .resume 2 .proceed, .resume 2 .connecting, .resume 2 (.connected 8)]

theorem connections_accounted_sample :
    ∃ trace final, Run .sample 0 trace final ∧ trace.countP handshakes = 2 ∧
      trace.countP loses + final.shared.liveSlot.isSome.toNat = 2 := by
  have hfacts : (replay (step .sample) (State.new 0) sharingEvents).map
      (fun result => result.1.countP handshakes) = some 2 := by
    decide
  obtain ⟨⟨trace, final⟩, hreplay, hcount⟩ := Option.map_eq_some_iff.mp hfacts
  have hrun : Run .sample 0 trace final := execution_of_replay hreplay
  exact ⟨trace, final, hrun, hcount, (connections_accounted hrun).1.symm.trans hcount⟩

end VpnBridge.Client
