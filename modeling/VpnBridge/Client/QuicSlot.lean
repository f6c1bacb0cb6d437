import VpnBridge.Client.SlotInvariant

/-!
# Evictions from the connection slot

`invalidate` empties the slot whatever it holds.  A failed open so evicts the
connection it failed on, unless another open has replaced that connection in
the slot since the failed open obtained it.
-/

namespace VpnBridge.Client

open VpnBridge.Net VpnBridge.Proto VpnBridge.TransitionSystem

/-- The connection on which an open that is about to invalidate has failed. -/
def OpenPoint.failedOn : OpenPoint → Option ConnId
  | .invalidate conn _ => some conn
  | _ => none

/-- An open that failed on `conn` invalidates. -/
def Invalidates (tr : Transition State Event) (flow : FlowId) (conn : ConnId) : Prop :=
  (∃ input, tr.event = .resume flow input) ∧
    (tr.pre.pointOf flow).bind OpenPoint.failedOn = some conn

/-- An open comes to hold `conn`. -/
def Obtains (tr : Transition State Event) (flow : FlowId) (conn : ConnId) : Prop :=
  tr.pre.held flow ≠ .connection conn ∧ tr.post.held flow = .connection conn

/-- The handshake of an open completes, and the slot takes its connection. -/
def Stores (tr : Transition State Event) (conn : ConnId) : Prop :=
  ∃ flow, tr.event = .resume flow (.connected conn)

/-- Failed opens evict their own connections, and nothing else does. -/
structure EvictsOwn (trace : List (Transition State Event)) : Prop where
  /-- An invalidation leaves every other live connection in the slot. -/
  keeps : ∀ tr ∈ trace, ∀ flow conn, Invalidates tr flow conn →
    tr.post.shared.slot ≠ some conn ∧
      ∀ other, other ≠ conn → tr.pre.shared.liveSlot = some other →
        tr.post.shared.liveSlot = some other
  /-- A live connection leaves the slot for an open that failed on it. -/
  removes : ∀ tr ∈ trace, ∀ conn, tr.pre.shared.liveSlot = some conn →
    tr.post.shared.slot ≠ some conn → ∃ flow, Invalidates tr flow conn

/-- When an open invalidates, no connection that was stored after it obtained
its own is live in the slot. -/
def NotReplaced (trace : List (Transition State Event)) : Prop :=
  ∀ before got waiting stored between lost after flow conn next,
    trace = before ++ got :: waiting ++ stored :: between ++ lost :: after →
    Obtains got flow conn → Stores stored next → Invalidates lost flow conn →
      lost.pre.shared.liveSlot ≠ some next

theorem slot_of_liveSlot {shared : Shared} {conn : ConnId}
    (hlive : shared.liveSlot = some conn) : shared.slot = some conn := by
  rw [Shared.liveSlot, Option.filter_eq_some_iff] at hlive
  exact hlive.1

section Evictions

variable {cfg : ClientConfig} {tr : Transition State Event} {flow : FlowId} {conn : ConnId}

/-- What a transition of the client does to the slot. -/
theorem slot_cases (hstep : step cfg tr.pre tr.event = some tr.post) :
    tr.post.shared.slot = tr.pre.shared.slot ∨
      (∃ flow conn, tr.event = .resume flow (.connected conn) ∧
        tr.pre.held flow = .lock ∧ tr.post.shared.slot = some conn) ∨
      ∃ flow conn, Invalidates tr flow conn ∧ tr.post.shared.slot = none := by
  cases hevent : tr.event with
  | tick delta =>
      rw [hevent, step_tick_iff] at hstep
      exact .inl (by rw [hstep])
  | close closed =>
      rw [hevent, step_close_iff] at hstep
      exact .inl (by rw [hstep.2]; rfl)
  | start flow cmd target =>
      rw [hevent, step_start_iff] at hstep
      exact .inl (by rw [hstep.2])
  | resume flow input =>
      rw [hevent, step_resume_iff] at hstep
      obtain ⟨call, shared, point, hopen, hresumes, hpost⟩ := hstep
      have heffect := hresumes.slotEffect
      rw [hpost]
      generalize hsource : call.point = source at heffect
      cases heffect with
      | kept _ _ hslot _ _ => exact .inl hslot
      | locked => exact .inl rfl
      | released => exact .inl rfl
      | @stored since conn hfresh =>
          refine .inr (.inl ⟨flow, conn, rfl, ?_, rfl⟩)
          rw [State.held, hopen, Option.elim_some, hsource]
          rfl
      | @emptied conn error point hfree hpoint =>
          refine .inr (.inr ⟨flow, conn, ⟨⟨_, hevent⟩, ?_⟩, rfl⟩)
          rw [State.pointOf, hopen, Option.map_some, hsource]
          rfl

/-- What an open obtains is what the slot holds then. -/
theorem slot_of_obtains (hstep : step cfg tr.pre tr.event = some tr.post)
    (hobtains : Obtains tr flow conn) : tr.post.shared.slot = some conn := by
  obtain ⟨call, input, shared, point, hopen, hresumes, hpost⟩ :=
    resumes_of_held hstep (by rw [hobtains.2]; exact hobtains.1)
  have hsource : tr.pre.held flow = call.point.held := by
    rw [State.held, hopen, Option.elim_some]
  have hpoint := hobtains.2
  rw [hpost, State.held_update_self] at hpoint
  rw [hpost]
  rcases hresumes.of_connection hpoint with ⟨hheld, -⟩ | ⟨-, hlive, rfl⟩ | ⟨-, -, -, rfl⟩
  · exact absurd (hsource.trans hheld) hobtains.1
  · exact slot_of_liveSlot hlive
  · rfl

/-- The slot takes a connection only from a handshake. -/
theorem stores_of_slot (hstep : step cfg tr.pre tr.event = some tr.post)
    (hpre : tr.pre.shared.slot ≠ some conn) (hpost : tr.post.shared.slot = some conn) :
    Stores tr conn := by
  rcases slot_cases hstep with hsame | ⟨flow, stored, hevent, -, hslot⟩ |
    ⟨flow, failed, -, hempty⟩
  · exact absurd (hsame.symm.trans hpost) hpre
  · cases hslot.symm.trans hpost
    exact ⟨flow, hevent⟩
  · cases hempty.symm.trans hpost

theorem unused_of_stores (hstep : step cfg tr.pre tr.event = some tr.post)
    (hstores : Stores tr conn) : tr.pre.shared.connections conn = .unused := by
  obtain ⟨flow, hevent⟩ := hstores
  rw [hevent, step_resume_iff] at hstep
  obtain ⟨call, shared, point, -, hresumes, -⟩ := hstep
  generalize call.point = source at hresumes
  cases hresumes with
  | connected hfresh => exact hfresh

theorem slot_of_invalidates (hstep : step cfg tr.pre tr.event = some tr.post)
    (hinvalidates : Invalidates tr flow conn) : tr.post.shared.slot = none := by
  obtain ⟨⟨input, hevent⟩, hfailed⟩ := hinvalidates
  rw [hevent, step_resume_iff] at hstep
  obtain ⟨call, shared, point, hopen, hresumes, hpost⟩ := hstep
  rw [State.pointOf, hopen, Option.map_some, Option.bind_some] at hfailed
  rw [hpost]
  generalize call.point = source at hresumes hfailed
  cases hresumes with
  | invalidated => rfl
  | _ => cases hfailed

/-- An open that is about to invalidate holds the connection it failed on. -/
theorem held_of_invalidates (hinvalidates : Invalidates tr flow conn) :
    tr.pre.held flow = .connection conn := by
  have hfailed := hinvalidates.2
  rw [State.held]
  cases hopen : tr.pre.opens flow with
  | none => simp [State.pointOf, hopen] at hfailed
  | some call =>
      rw [State.pointOf, hopen, Option.map_some, Option.bind_some] at hfailed
      rw [Option.elim_some]
      cases hpoint : call.point with
      | invalidate failed error =>
          rw [hpoint] at hfailed
          cases hfailed
          rfl
      | _ =>
          rw [hpoint] at hfailed
          cases hfailed

/-- A live connection leaves the slot only by an invalidation. -/
theorem invalidates_of_slot (hstep : step cfg tr.pre tr.event = some tr.post)
    (hinv : SlotInvariant tr.pre) (hpre : tr.pre.shared.liveSlot = some conn)
    (hpost : tr.post.shared.slot ≠ some conn) :
    ∃ other failed, Invalidates tr other failed := by
  rcases slot_cases hstep with hsame | ⟨holder, stored, -, hlock, -⟩ |
    ⟨other, failed, hinvalidates, -⟩
  · exact absurd (hsame.trans (slot_of_liveSlot hpre)) hpost
  · -- whoever connects found no live connection in the slot
    have hdead := hinv.dead (by rw [hinv.holder_eq holder hlock]; nofun)
    cases hdead.symm.trans hpre
  · exact ⟨other, failed, hinvalidates⟩

end Evictions

section Runs

variable {cfg : ClientConfig} {now : Time} {trace : List (Transition State Event)}
variable {final : State}

/-- A connection that is stored while an open holds one is another. -/
theorem ne_of_stores (hrun : Run cfg now trace final)
    {before waiting rest : List (Transition State Event)}
    {got stored : Transition State Event} {flow : FlowId} {conn next : ConnId}
    (htrace : trace = before ++ got :: (waiting ++ stored :: rest))
    (hobtains : Obtains got flow conn) (hstores : Stores stored next) : next ≠ conn := by
  have hmem : got ∈ trace := by simp [htrace]
  have hinv := (slotInvariant_of_run hrun hmem).2
  rw [htrace, Run, execution_split_iff] at hrun
  obtain ⟨hwaiting, hstored, -⟩ := execution_split_iff.mp hrun.2.2
  have hmade := hwaiting.invariant (fun hstep => made_of_step hstep)
    (hinv.made flow conn hobtains.2)
  intro heq
  exact hmade (heq ▸ unused_of_stores hstored hstores)

/-- If the slot holds another connection when an open invalidates, that one was
stored after the open obtained its own. -/
theorem exists_stored (hrun : Run cfg now trace final)
    {start after : List (Transition State Event)} {lost : Transition State Event}
    {flow : FlowId} {conn other : ConnId} (htrace : trace = start ++ lost :: after)
    (hinvalidates : Invalidates lost flow conn) (hother : other ≠ conn)
    (hslot : lost.pre.shared.slot = some other) :
    ∃ before got waiting stored between,
      start = before ++ got :: waiting ++ stored :: between ∧
        Obtains got flow conn ∧ Stores stored other := by
  rw [htrace, Run, execution_split_iff] at hrun
  obtain ⟨before, got, rest, rfl, hpre, hpost⟩ :=
    hrun.1.exists_first (fun state => state.held flow = .connection conn)
      nofun (held_of_invalidates hinvalidates)
  obtain ⟨-, hgot, hrest⟩ := execution_split_iff.mp hrun.1
  have hobtained := slot_of_obtains hgot ⟨hpre, hpost⟩
  obtain ⟨waiting, stored, between, rfl, hmissing, hstored⟩ :=
    hrest.exists_first (fun state => state.shared.slot = some other)
      (by rw [hobtained]; exact fun heq => hother (Option.some.inj heq).symm) hslot
  obtain ⟨-, hstep, -⟩ := execution_split_iff.mp hrest
  exact ⟨before, got, waiting, stored, between, by simp, ⟨hpre, hpost⟩,
    stores_of_slot hstep hmissing hstored⟩

/-- In every run, whatever the interleaving, failed opens evict only their own
connections exactly when none is replaced before its open invalidates. -/
theorem evictsOwn_iff (hrun : Run cfg now trace final) :
    EvictsOwn trace ↔ NotReplaced trace := by
  constructor
  · intro hevicts before got waiting stored between lost after flow conn next htrace
      hobtains hstores hinvalidates hlive
    have hmem : lost ∈ trace := by simp [htrace]
    have hdistinct : next ≠ conn :=
      ne_of_stores hrun
        (show trace = before ++ got :: (waiting ++ stored :: (between ++ lost :: after)) by
          simp [htrace])
        hobtains hstores
    have hkept := (hevicts.keeps lost hmem flow conn hinvalidates).2 next hdistinct hlive
    have hempty := slot_of_invalidates (hrun.step_of_mem hmem) hinvalidates
    rw [slot_of_liveSlot hkept] at hempty
    cases hempty
  · intro hreplaced
    have hown : ∀ lost ∈ trace, ∀ flow conn, Invalidates lost flow conn →
        ∀ other, lost.pre.shared.liveSlot = some other → other = conn := by
      intro lost hmem flow conn hinvalidates other hlive
      by_contra hother
      obtain ⟨start, after, htrace⟩ := List.append_of_mem hmem
      obtain ⟨before, got, waiting, stored, between, rfl, hobtains, hstores⟩ :=
        exists_stored hrun htrace hinvalidates hother (slot_of_liveSlot hlive)
      exact hreplaced before got waiting stored between lost after flow conn other htrace
        hobtains hstores hinvalidates hlive
    refine ⟨?_, ?_⟩
    · intro tr hmem flow conn hinvalidates
      refine ⟨?_, fun other hother hlive => ?_⟩
      · rw [slot_of_invalidates (hrun.step_of_mem hmem) hinvalidates]
        nofun
      · exact absurd (hown tr hmem flow conn hinvalidates other hlive) hother
    · intro tr hmem conn hlive hgone
      obtain ⟨flow, failed, hinvalidates⟩ :=
        invalidates_of_slot (hrun.step_of_mem hmem)
          (slotInvariant_of_run hrun hmem).1 hlive hgone
      rw [hown tr hmem flow failed hinvalidates conn hlive]
      exact ⟨flow, hinvalidates⟩

end Runs

/-- Two opens share a connection.  It refuses the first one a stream and is evicted, still
alive; when the second one fails on it too, the slot is empty. -/
def ownEvents : List Event :=
  [.start 0 .connectTcp sampleTarget, .start 1 .bindUdp sampleTarget, .resume 0 .proceed,
    .resume 0 .connecting, .resume 1 .proceed, .resume 0 (.connected 0), .resume 1 .proceed,
    .resume 1 .ready, .resume 0 (.failed ["too many streams"]), .resume 0 .proceed, .close 0,
    .resume 1 (.failed ["connection lost"]), .resume 1 .proceed]

theorem evictsOwn_sample :
    ∃ trace final, Run ClientConfig.sample 0 trace final ∧
      final.shared.slot = none ∧ EvictsOwn trace := by
  have hfacts : (replay (step ClientConfig.sample) (State.new 0) ownEvents).map
      (fun result => (result.2.shared.slot, result.1.all fun tr =>
        tr.event.resumed.all fun resumed =>
          ((tr.pre.pointOf resumed.1).bind OpenPoint.failedOn).all fun conn =>
            tr.pre.shared.liveSlot.all (· = conn))) = some (none, true) := by
    decide
  obtain ⟨⟨trace, final⟩, hreplay, hfacts⟩ := Option.map_eq_some_iff.mp hfacts
  obtain ⟨hslot, hown⟩ := Prod.mk.injEq _ _ _ _ ▸ hfacts
  have hrun := execution_of_replay hreplay
  refine ⟨trace, final, hrun, hslot, (evictsOwn_iff hrun).mpr ?_⟩
  intro before got waiting stored between lost after flow conn next htrace hobtains hstores
    hinvalidates hlive
  have hdistinct : next ≠ conn :=
    ne_of_stores hrun
      (show trace = before ++ got :: (waiting ++ stored :: (between ++ lost :: after)) by
        simp [htrace])
      hobtains hstores
  obtain ⟨⟨input, hevent⟩, hfailed⟩ := hinvalidates
  have hlost := List.all_eq_true.mp hown lost (by simp [htrace])
  simp only [hevent, Event.resumed, Option.all_some, hfailed, hlive, decide_eq_true_eq] at hlost
  exact hdistinct hlost

/-- The first open obtains connection 0, which then closes.  Before it notices,
the second finds the slot without a live connection and stores connection 1. -/
def replacedEvents : List Event :=
  [.start 0 .connectTcp sampleTarget, .resume 0 .proceed, .resume 0 .connecting,
    .resume 0 (.connected 0), .resume 0 .ready, .resume 0 .ready, .close 0,
    .start 1 .connectTcp sampleTarget, .resume 1 .proceed, .resume 1 .connecting,
    .resume 1 (.connected 1), .resume 1 .ready, .resume 1 .ready,
    .resume 0 (.failed ["connection lost"])]

/-- The first open evicts connection 1, which is live and has served the second. -/
theorem replaced_connection_evicted :
    ClientConfig.sample.validate = .ok () ∧
    ∃ trace final, Run ClientConfig.sample 0 trace final ∧ ¬ EvictsOwn trace := by
  have hfacts : ((replay (step ClientConfig.sample) (State.new 0) replacedEvents).bind
      fun result => (step ClientConfig.sample result.2 (.resume 0 .proceed)).map
        fun post => ((result.2.pointOf 0).bind OpenPoint.failedOn,
          result.2.shared.liveSlot, post.shared.slot)) = some (some 0, some 1, none) := by
    decide
  obtain ⟨⟨trace, state⟩, hreplay, hfacts⟩ := Option.bind_eq_some_iff.mp hfacts
  obtain ⟨post, hstep, hfacts⟩ := Option.map_eq_some_iff.mp hfacts
  simp only [Prod.mk.injEq] at hfacts
  obtain ⟨hfailed, hlive, hempty⟩ := hfacts
  refine ⟨ClientConfig.validate_sample, _, _, .snoc (execution_of_replay hreplay) hstep,
    fun hevicts => ?_⟩
  have hkept := (hevicts.keeps ⟨state, .resume 0 .proceed, post⟩ (by simp) 0 0
    ⟨⟨_, rfl⟩, hfailed⟩).2 1 (by decide) hlive
  rw [slot_of_liveSlot hkept] at hempty
  cases hempty

end VpnBridge.Client
