import VpnBridge.Relay.TcpIdle

/-!
# Half-closed TCP flows of the proxy server

Each direction of a relayed flow ends on its own: at the end of its source it
shuts its destination down, and the other direction goes on.  What a direction
has asked of its destination is read off the phase in which its loop stands.
-/

namespace VpnBridge.Relay

open VpnBridge.Proto VpnBridge.TransitionSystem

namespace CopyEvent

/-- The source has ended, and the loop calls `shutdown` on its destination. -/
def closes : CopyEvent → Bool
  | .sourceEnd => true
  | _ => false

/-- The call of `shutdown` returns, and the destination is shut down. -/
def shuts : CopyEvent → Bool
  | .shutdown (.ok _) => true
  | _ => false

/-- The call of `shutdown` fails. -/
def failsToShut : CopyEvent → Bool
  | .shutdown (.error _) => true
  | _ => false

/-- A read or a write fails. -/
def fails : CopyEvent → Bool
  | .readError _ => true
  | .writeError _ => true
  | _ => false

end CopyEvent

/-- Whether an event is one of `kind` in `direction`. -/
def TcpEvent.isCopy (kind : CopyEvent → Bool) (direction : Direction) : TcpEvent → Bool
  | .copy moving event => decide (moving = direction) && kind event
  | _ => false

/-- How often a direction did something of `kind`. -/
def occurrences (kind : CopyEvent → Bool) (direction : Direction)
    (trace : List (Transition TcpFlow TcpEvent)) : ℕ :=
  trace.countP fun tr => tr.event.isCopy kind direction

section Occurrences

variable {kind : CopyEvent → Bool} {direction : Direction}

theorem occurrences_append (before after : List (Transition TcpFlow TcpEvent)) :
    occurrences kind direction (before ++ after) =
      occurrences kind direction before + occurrences kind direction after :=
  List.countP_append

theorem occurrences_snoc (trace : List (Transition TcpFlow TcpEvent))
    (tr : Transition TcpFlow TcpEvent) :
    occurrences kind direction (trace ++ [tr]) =
      occurrences kind direction trace +
        if tr.event.isCopy kind direction = true then 1 else 0 := by
  rw [occurrences_append, occurrences, occurrences, List.countP_singleton]

theorem isCopy_self (event : CopyEvent) :
    (TcpEvent.copy direction event).isCopy kind direction = kind event := by
  rw [TcpEvent.isCopy, decide_eq_true rfl, Bool.true_and]

theorem isCopy_of_ne {moving : Direction} (hother : moving ≠ direction) (event : CopyEvent) :
    (TcpEvent.copy moving event).isCopy kind direction = false := by
  rw [TcpEvent.isCopy, decide_eq_false hother, Bool.false_and]

end Occurrences

/-! ## What a direction has done -/

/-- How often a loop has called `shutdown`, how the calls returned, and how often a
read or a write has failed. -/
structure CopyCounts where
  closes : ℕ
  shuts : ℕ
  failsToShut : ℕ
  fails : ℕ
  deriving DecidableEq

namespace CopyCounts

def add (counts : CopyCounts) (event : CopyEvent) : CopyCounts where
  closes := counts.closes + if event.closes = true then 1 else 0
  shuts := counts.shuts + if event.shuts = true then 1 else 0
  failsToShut := counts.failsToShut + if event.failsToShut = true then 1 else 0
  fails := counts.fails + if event.fails = true then 1 else 0

/-- The counts behind a phase. -/
def Explain (counts : CopyCounts) : CopyPhase → Prop
  | .reading => counts = ⟨0, 0, 0, 0⟩
  | .writing _ _ => counts = ⟨0, 0, 0, 0⟩
  | .closing => counts = ⟨1, 0, 0, 0⟩
  | .finished (.ok _) => counts = ⟨1, 1, 0, 0⟩
  | .finished (.error _) => counts = ⟨1, 0, 1, 0⟩ ∨ counts = ⟨0, 0, 0, 1⟩

/-- Nothing more is asked of a destination than one `shutdown`. -/
theorem Explain.bounds {counts : CopyCounts} {phase : CopyPhase}
    (hexplain : counts.Explain phase) :
    counts.closes ≤ 1 ∧ counts.shuts + counts.failsToShut ≤ counts.closes ∧
      (0 < counts.fails → counts.closes = 0) := by
  unfold Explain at hexplain
  split at hexplain
  case h_5 =>
    obtain rfl | rfl := hexplain
    · decide
    · decide
  all_goals
    subst hexplain
    decide

end CopyCounts

/-- A step of a loop adds what it does to the counts. -/
theorem Copy.Does.explain {now : ℕ} {counts : CopyCounts} {copy next : Copy}
    {event : CopyEvent} {moved : Bool} (hdoes : Copy.Does now copy event next moved)
    (hexplain : counts.Explain copy.phase) : (counts.add event).Explain next.phase := by
  cases hdoes with
  | chunk hreading =>
      rw [hreading] at hexplain
      exact hexplain
  | sourceEnd hreading =>
      rw [hreading] at hexplain
      cases hexplain
      rfl
  | readError hreading =>
      rw [hreading] at hexplain
      cases hexplain
      exact .inr rfl
  | takePart hwriting =>
      rw [hwriting] at hexplain
      exact hexplain
  | takeRest hwriting =>
      rw [hwriting] at hexplain
      exact hexplain
  | writeError hwriting =>
      rw [hwriting] at hexplain
      cases hexplain
      exact .inr rfl
  | @shutdown answer hclosing =>
      rw [hclosing] at hexplain
      cases hexplain
      cases answer with
      | ok => rfl
      | error failure => exact .inl rfl

/-- What is carried is the start of what was read. -/
theorem Copy.Faithful.isPrefix {copy : Copy} (hfaithful : copy.Faithful) :
    copy.carried <+: copy.taken := by
  rw [Copy.Faithful] at hfaithful
  split at hfaithful
  next rest readAt hwriting => exact ⟨rest, hfaithful⟩
  next failure hfailed => exact hfaithful
  next => exact ⟨[], (List.append_nil _).trans hfaithful⟩

namespace TcpFlow

variable {idle begin : ℕ} {flow next : TcpFlow} {event : TcpEvent}
variable {trace : List (Transition TcpFlow TcpEvent)}

/-- What a direction has done in a run. -/
def counts (direction : Direction) (trace : List (Transition TcpFlow TcpEvent)) :
    CopyCounts where
  closes := occurrences CopyEvent.closes direction trace
  shuts := occurrences CopyEvent.shuts direction trace
  failsToShut := occurrences CopyEvent.failsToShut direction trace
  fails := occurrences CopyEvent.fails direction trace

theorem counts_snoc_self {direction : Direction} {copyEvent : CopyEvent} :
    counts direction (trace ++ [⟨flow, .copy direction copyEvent, next⟩]) =
      (counts direction trace).add copyEvent := by
  simp only [counts, occurrences_snoc, isCopy_self, CopyCounts.add]

theorem counts_snoc_of_ne {direction moving : Direction} (hother : moving ≠ direction)
    {copyEvent : CopyEvent} :
    counts direction (trace ++ [⟨flow, .copy moving copyEvent, next⟩]) =
      counts direction trace := by
  simp only [counts, occurrences_snoc, isCopy_of_ne hother, Bool.false_eq_true, if_false,
    Nat.add_zero]

theorem Does.explain {direction : Direction} (hdoes : Does idle flow event next)
    (hexplain : (counts direction trace).Explain (flow.copies direction).phase) :
    (counts direction (trace ++ [⟨flow, event, next⟩])).Explain
      (next.copies direction).phase := by
  cases hdoes with
  | tick =>
      simp only [counts, occurrences_snoc] at hexplain ⊢
      exact hexplain
  | @copy moving event copy moved hcopy =>
      by_cases hsame : moving = direction
      · subst hsame
        rw [copies_relay_self, counts_snoc_self]
        exact hcopy.explain hexplain
      · rw [copies_relay_of_ne (Ne.symm hsame), counts_snoc_of_ne hsame]
        exact hexplain
  | turn =>
      rw [copies_waitForIdle]
      simp only [counts, occurrences_snoc] at hexplain ⊢
      exact hexplain

theorem explain_run (hrun : Execution (step idle) (start begin) trace flow)
    (direction : Direction) :
    (counts direction trace).Explain (flow.copies direction).phase := by
  induction hrun with
  | nil => rfl
  | snoc hrun hstep ih => exact (does_of_step hstep).2.explain ih

/-! ## The other direction -/

/-- A live flow has no direction that has failed. -/
theorem tryJoin_eq_none_step (hstep : flow.step idle event = some next)
    (hjoin : flow.ended = none → tryJoin flow.copies = none) :
    next.ended = none → tryJoin next.copies = none := by
  obtain ⟨hbefore, hdoes⟩ := does_of_step hstep
  intro hlive
  cases hdoes with
  | tick => exact hjoin hbefore
  | copy hcopy => exact Option.map_eq_none_iff.mp hlive
  | turn =>
      rw [copies_waitForIdle]
      exact hjoin hbefore

theorem tryJoin_eq_none_run (hrun : Execution (step idle) (start begin) trace flow)
    (hlive : flow.ended = none) : tryJoin flow.copies = none := by
  have hjoin : flow.ended = none → tryJoin flow.copies = none :=
    hrun.preserved (fun state => state.ended = none → tryJoin state.copies = none)
      (fun _ _ hstep => tryJoin_eq_none_step hstep) fun _ => rfl
  exact hjoin hlive

theorem tryJoin_eq_none_iff {copies : Direction → Copy} :
    tryJoin copies = none ↔
      (∀ direction failure, (copies direction).phase ≠ .finished (.error failure)) ∧
        ∃ direction, (copies direction).phase ≠ .finished (.ok ()) := by
  constructor
  · intro hjoin
    refine ⟨fun direction failure hfailed => ?_, ?_⟩
    · have hover := isSome_tryJoin_of_error hfailed
      rw [hjoin] at hover
      cases hover
    · by_contra hfinished
      simp only [not_exists, not_not] at hfinished
      rw [tryJoin, hfinished .upload, hfinished .download] at hjoin
      cases hjoin
  · rintro ⟨hwell, direction, hunfinished⟩
    cases hjoin : tryJoin copies with
    | none => rfl
    | some result =>
        cases result with
        | ok => exact absurd (finished_of_tryJoin hjoin direction) hunfinished
        | error failure =>
            rw [tryJoin] at hjoin
            split at hjoin
            next hfailed => exact absurd hfailed (hwell _ _)
            next hfailed _ => exact absurd hfailed (hwell _ _)
            next => cases hjoin
            next => cases hjoin

/-- A direction that has not failed ends a flow only together with the other. -/
theorem ended_relay_eq_none {direction : Direction} {copy : Copy} {moved : Bool}
    (hjoin : tryJoin flow.copies = none)
    (hwell : ∀ failure, copy.phase ≠ .finished (.error failure))
    (hopen : copy.phase ≠ .finished (.ok ()) ∨
      ∃ other, other ≠ direction ∧ (flow.copies other).phase ≠ .finished (.ok ())) :
    (flow.relay direction copy moved).ended = none := by
  apply Option.map_eq_none_iff.mpr
  apply tryJoin_eq_none_iff.mpr
  refine ⟨fun other failure => ?_, ?_⟩
  · by_cases hother : other = direction
    · rw [hother, Function.update_self]
      exact hwell failure
    · rw [Function.update_of_ne hother]
      exact (tryJoin_eq_none_iff.mp hjoin).1 other failure
  · obtain hopen | ⟨other, hother, hopen⟩ := hopen
    · exact ⟨direction, by rwa [Function.update_self]⟩
    · exact ⟨other, by rwa [Function.update_of_ne hother]⟩

/-- A step of one direction leaves the other as it was. -/
theorem copies_of_copy {direction other : Direction} {copyEvent : CopyEvent}
    (hstep : flow.step idle (.copy direction copyEvent) = some next)
    (hother : other ≠ direction) : next.copies other = flow.copies other := by
  cases (does_of_step hstep).2 with
  | copy hcopy => exact copies_relay_of_ne hother _ _

/-- The end of a source leaves the flow up. -/
theorem ended_of_sourceEnd {direction : Direction}
    (hrun : Execution (step idle) (start begin) trace flow)
    (hstep : flow.step idle (.copy direction .sourceEnd) = some next) :
    next.ended = none := by
  obtain ⟨hlive, hdoes⟩ := does_of_step hstep
  have hjoin := tryJoin_eq_none_run hrun hlive
  cases hdoes with
  | copy hcopy =>
      cases hcopy with
      | sourceEnd hreading =>
          apply ended_relay_eq_none hjoin
          · intro failure hphase
            cases hphase
          · refine .inl fun hphase => ?_
            cases hphase

/-- So does the end of the `shutdown` behind it, as long as the other goes on. -/
theorem ended_of_shutdown {direction other : Direction}
    (hrun : Execution (step idle) (start begin) trace flow)
    (hstep : flow.step idle (.copy direction (.shutdown (.ok ()))) = some next)
    (hother : other ≠ direction)
    (hopen : (flow.copies other).phase ≠ .finished (.ok ())) : next.ended = none := by
  obtain ⟨hlive, hdoes⟩ := does_of_step hstep
  have hjoin := tryJoin_eq_none_run hrun hlive
  cases hdoes with
  | copy hcopy =>
      cases hcopy with
      | shutdown hclosing =>
          apply ended_relay_eq_none hjoin
          · intro failure hphase
            cases hphase
          · exact .inr ⟨other, hother, hopen⟩

/-- A destination is shut down when all that was read has been written to it. -/
theorem carried_of_sourceEnd {direction : Direction}
    (hrun : Execution (step idle) (start begin) trace flow)
    (hstep : flow.step idle (.copy direction .sourceEnd) = some next) :
    (flow.copies direction).carried = (flow.copies direction).taken := by
  have hfaithful := faithful_run hrun direction
  cases (does_of_step hstep).2 with
  | copy hcopy =>
      cases hcopy with
      | sourceEnd hreading =>
          rw [Copy.Faithful, hreading] at hfaithful
          exact hfaithful

/-- What holds of a direction at every moment of a flow. -/
structure HalfClose (flow : TcpFlow) (trace : List (Transition TcpFlow TcpEvent))
    (direction : Direction) : Prop where
  written : (flow.copies direction).carried <+: (flow.copies direction).taken
  /-- `shutdown` is called at most once, and returns at most once. -/
  once : occurrences CopyEvent.closes direction trace ≤ 1 ∧
    occurrences CopyEvent.shuts direction trace +
        occurrences CopyEvent.failsToShut direction trace ≤
      occurrences CopyEvent.closes direction trace
  /-- It is called at the end of the source, with all that was read written. -/
  atEnd : ∀ tr ∈ trace, tr.event = .copy direction .sourceEnd →
    (tr.pre.copies direction).carried = (tr.pre.copies direction).taken
  /-- The other direction goes on. -/
  other : ∀ tr ∈ trace, ∀ other, other ≠ direction →
    (tr.event = .copy direction .sourceEnd →
      tr.post.ended = none ∧ tr.post.copies other = tr.pre.copies other) ∧
    (tr.event = .copy direction (.shutdown (.ok ())) →
      (tr.pre.copies other).phase ≠ .finished (.ok ()) →
        tr.post.ended = none ∧ tr.post.copies other = tr.pre.copies other)
  /-- A relay that returns `Ok` has delivered everything and shut down. -/
  complete : ∀ fin, flow.ended = some fin → fin.result = .ok () →
    (flow.copies direction).carried = (flow.copies direction).taken ∧
      occurrences CopyEvent.closes direction trace = 1 ∧
      occurrences CopyEvent.shuts direction trace = 1
  /-- A direction that fails never shuts its destination down. -/
  failed : 0 < occurrences CopyEvent.fails direction trace →
    occurrences CopyEvent.closes direction trace = 0

end TcpFlow

/-- Every flow relays what it reads, and ends its directions one by one. -/
theorem tcp_half_close {idle begin : ℕ} {trace : List (Transition TcpFlow TcpEvent)}
    {flow : TcpFlow} (hrun : Execution (TcpFlow.step idle) (.start begin) trace flow)
    (direction : Direction) : flow.HalfClose trace direction := by
  have hexplain := TcpFlow.explain_run hrun direction
  obtain ⟨hcloses, hanswers, hfails⟩ := hexplain.bounds
  refine ⟨(TcpFlow.faithful_run hrun direction).isPrefix, ⟨hcloses, hanswers⟩,
    fun tr hmem hevent => ?_, fun tr hmem other hother => ⟨fun hevent => ?_,
    fun hevent hopen => ?_⟩, fun fin hended hresult => ?_, hfails⟩
  · obtain ⟨before, after, rfl⟩ := List.append_of_mem hmem
    obtain ⟨hbefore, hstep, -⟩ := execution_split_iff.mp hrun
    rw [hevent] at hstep
    exact TcpFlow.carried_of_sourceEnd hbefore hstep
  · obtain ⟨before, after, rfl⟩ := List.append_of_mem hmem
    obtain ⟨hbefore, hstep, -⟩ := execution_split_iff.mp hrun
    rw [hevent] at hstep
    exact ⟨TcpFlow.ended_of_sourceEnd hbefore hstep, TcpFlow.copies_of_copy hstep hother⟩
  · obtain ⟨before, after, rfl⟩ := List.append_of_mem hmem
    obtain ⟨hbefore, hstep, -⟩ := execution_split_iff.mp hrun
    rw [hevent] at hstep
    exact ⟨TcpFlow.ended_of_shutdown hbefore hstep hother hopen,
      TcpFlow.copies_of_copy hstep hother⟩
  · cases fin with
    | idle time => cases hresult
    | relayed time result =>
        cases hresult
        have hjoin := TcpFlow.tryJoin_of_relayed hrun hended
        rw [TcpFlow.finished_of_tryJoin hjoin direction] at hexplain
        have hcounts : TcpFlow.counts direction trace = ⟨1, 1, 0, 0⟩ := hexplain
        exact ⟨TcpFlow.carried_of_relayed hrun hended direction,
          congrArg CopyCounts.closes hcounts, congrArg CopyCounts.shuts hcounts⟩

/-- The peer half-closes after one byte, and the answer still comes through. -/
theorem tcp_half_close_sample :
    ∃ trace flow, Execution (TcpFlow.step 10) (.start 0) trace flow ∧
      flow.ended = some (.relayed 3 (.ok ())) ∧
      (flow.copies .download).taken = [8, 9] ∧ flow.HalfClose trace .download := by
  have hfacts : ((replay (TcpFlow.step 10) (.start 0)
      [.turn, .copy .upload (.chunk [7]), .copy .upload (.take 1),
        .copy .upload .sourceEnd, .copy .upload (.shutdown (.ok ())), .tick 3,
        .copy .download (.chunk [8, 9]), .copy .download (.take 2),
        .copy .download .sourceEnd, .copy .download (.shutdown (.ok ()))]).map
      fun result => (result.2.ended, (result.2.copies .download).taken)) =
      some (some (.relayed 3 (.ok ())), [8, 9]) := by
    decide
  obtain ⟨⟨trace, flow⟩, hreplay, hfacts⟩ := Option.map_eq_some_iff.mp hfacts
  obtain ⟨hended, htaken⟩ := Prod.mk.inj hfacts
  have hrun := execution_of_replay hreplay
  exact ⟨trace, flow, hrun, hended, htaken, tcp_half_close hrun .download⟩

end VpnBridge.Relay
