import VpnBridge.Core.Draining
import VpnBridge.Grpc.Progress
import VpnBridge.Relay.TcpHalfClose
import VpnBridge.Relay.TcpLine

/-!
# TCP flows come through

As long as nothing fails, no relay keeps back what it has read: it can only go on for so
long without reading more, and when it cannot go on any more it has passed everything on
and waits for the next byte.  A whole line does the same, whichever of its parts goes on
first.
-/

namespace VpnBridge.Relay

open VpnBridge.Grpc VpnBridge.Pipeline VpnBridge.Proto VpnBridge.TransitionSystem

/-- The way on which a direction leads. -/
def Direction.way : Direction → Way
  | .upload => .forth
  | .download => .back

/-- The relays need nothing but what they have read. -/
def Always {State : Type} (_ : State) : Prop := True

/-! ## The clients and the agent -/

/-- What an event is to the direction. -/
def TransferEvent.motion (way : Way) : TransferEvent → Motion
  | .chunk _ => .takes way
  | .sourceEnd => .takes way
  | .readError _ => .foreign
  | .take _ => .within
  | .writeError _ => .foreign
  | .flushed => .within
  | .shutdown (.ok _) => .within
  | .shutdown (.error _) => .foreign

namespace Transfer

/-- The steps that are left to the direction. -/
def pending (transfer : Transfer) : ℕ :=
  transfer.buffer.length +
    match transfer.state with
    | .running => if transfer.readDone = true then 2 else 0
    | .shuttingDown => 1
    | .done _ => 0

def takenTape (transfer : Transfer) : Tape UInt8 := ⟨transfer.taken, transfer.readDone⟩

def carriedTape (transfer : Transfer) : Tape UInt8 := ⟨transfer.carried, transfer.closed⟩

variable {transfer next : Transfer} {event : TransferEvent} {way : Way}

theorem Does.advances (hdoes : Does transfer event next) (hmotion : event.motion way ≠ .foreign) :
    Advances way 2 (event.motion way) transfer.takenTape next.takenTape transfer.carriedTape
      next.carriedTape transfer.pending next.pending := by
  cases hdoes with
  | @chunk bytes hrunning hopen hbytes =>
      have hlength := List.length_pos_of_ne_nil hbytes
      refine .of_takes ⟨List.prefix_append _ _, fun hover => ?_⟩ ?_ (le_refl _) ?_
      · cases hopen.symm.trans hover
      · simp only [takenTape, Tape.size, List.length_append]
        omega
      · simp only [takenTape, carriedTape, closed, pending, Tape.size, List.length_append]
        omega
  | sourceEnd hrunning hopen =>
      refine .of_takes ⟨List.prefix_refl _, fun hover => ?_⟩ ?_ (le_refl _) ?_
      · cases hopen.symm.trans hover
      · simp only [takenTape, Tape.size, hopen, Bool.toNat_true, Bool.toNat_false]
        omega
      · simp only [takenTape, carriedTape, closed, pending, Tape.size, hrunning, hopen,
          Bool.toNat_true, Bool.toNat_false, if_true]
        omega
  | readError => exact absurd rfl hmotion
  | take hrunning hcount hle =>
      refine .of_within rfl ⟨List.prefix_append _ _, fun hover => ?_⟩ ?_ ?_
      · cases (closed_of_running hrunning).symm.trans hover
      · simp only [carriedTape, closed, pending, Tape.size, List.length_append, List.length_take,
          List.length_drop]
        omega
      · simp only [pending, List.length_drop]
        omega
  | writeError => exact absurd rfl hmotion
  | flushed hrunning hover hbuffer =>
      refine .of_within rfl ⟨List.prefix_refl _, fun hover => ?_⟩ ?_ ?_
      · cases (closed_of_running hrunning).symm.trans hover
      · simp only [carriedTape, closed, pending, Tape.size, hrunning, hover, Bool.toNat_true,
          Bool.toNat_false, if_true]
        omega
      · simp only [pending, hrunning, hover, if_true]
        omega
  | @shutdown answer hshutting =>
      cases answer with
      | error failure => exact absurd rfl hmotion
      | ok value =>
          refine .of_within rfl ⟨List.prefix_refl _, fun _ => ?_⟩ ?_ ?_
          · simp only [carriedTape, closed, hshutting]
          · simp only [carriedTape, closed, pending, Tape.size, hshutting]
            omega
          · simp only [pending, hshutting]
            omega

/-- Only a failure leaves the direction with an error. -/
theorem Does.state_ne (hdoes : Does transfer event next) (hmotion : event.motion way ≠ .foreign)
    (halive : ∀ failure, transfer.state ≠ .done (.error failure)) (failure : IoError) :
    next.state ≠ .done (.error failure) := by
  cases hdoes with
  | chunk => exact halive failure
  | sourceEnd => exact halive failure
  | readError => exact absurd rfl hmotion
  | take => exact halive failure
  | writeError => exact absurd rfl hmotion
  | flushed => exact nofun
  | @shutdown answer =>
      cases answer with
      | ok value => exact nofun
      | error failure => exact absurd rfl hmotion

end Transfer

namespace Splice

variable {splice next : Splice} {event : SpliceEvent}

theorem failed_eq_false_iff :
    splice.failed = false ↔
      ∀ direction failure, (splice.transfers direction).state ≠ .done (.error failure) := by
  constructor
  · intro hfailed direction failure hstate
    rw [failed, ended] at hfailed
    cases direction with
    | upload =>
        rw [hstate] at hfailed
        cases hfailed
    | download =>
        rw [hstate] at hfailed
        split at hfailed
        next => cases hfailed
        next hnone =>
          split at hnone
          next => exact hnone _ rfl
          next => exact hnone _ rfl
          next hdone => cases hdone
          next hother _ => exact hother _ rfl
  · intro halive
    rw [failed]
    split
    next failure hended =>
      rw [ended] at hended
      split at hended
      next hupload => exact absurd hupload (halive .upload _)
      next hdownload _ => exact absurd hdownload (halive .download _)
      next => cases hended
      next => cases hended
    next => rfl

theorem intact_iff : hop.Intact splice ↔ splice.failed = false :=
  ⟨fun hintact => (hintact .forth).2, fun hfailed _ => ⟨rfl, hfailed⟩⟩

/-- A flow goes on until both directions have ended. -/
theorem ended_eq_none {direction : Direction} (hfailed : splice.failed = false)
    (hstate : ∀ result, (splice.transfers direction).state ≠ .done result) :
    splice.ended = none := by
  have halive := failed_eq_false_iff.mp hfailed
  rw [ended]
  split
  next hupload => exact absurd hupload (halive .upload _)
  next hdownload _ => exact absurd hdownload (halive .download _)
  next hupload hdownload =>
    cases direction with
    | upload => exact absurd hupload (hstate _)
    | download => exact absurd hdownload (hstate _)
  next => rfl

/-- What an event is to the flow. -/
def motion (event : SpliceEvent) : Motion := event.event.motion event.direction.way

theorem drives_step (hlive : hop.Live Always splice) (hstep : hop.step splice event = some next)
    (hmotion : motion event ≠ .foreign) :
    Drives hop 2 (fun way splice => (splice.transfers (.ofWay way)).pending) splice next
      (motion event) := by
  obtain ⟨direction, event⟩ := event
  obtain ⟨-, hdoes, hothers⟩ := transfers_of_step hstep
  have halive := failed_eq_false_iff.mp (intact_iff.mp hlive.intact)
  have hintact : hop.Intact next := by
    refine intact_iff.mpr (failed_eq_false_iff.mpr fun other => ?_)
    by_cases hmoved : other = direction
    · rw [hmoved]
      exact hdoes.state_ne hmotion (halive _)
    · rw [hothers other hmoved]
      exact halive other
  have hadvances := hdoes.advances hmotion
  cases direction with
  | upload =>
      have hother := hothers .download nofun
      exact drives_of_advances .forth hintact (congrArg Transfer.takenTape hother)
        (congrArg Transfer.carriedTape hother) (congrArg Transfer.pending hother) hadvances
  | download =>
      have hother := hothers .upload nofun
      exact drives_of_advances .back hintact (congrArg Transfer.takenTape hother)
        (congrArg Transfer.carriedTape hother) (congrArg Transfer.pending hother) hadvances

theorem sound_of_live (hlive : hop.Live Always splice) (direction : Direction) :
    (splice.transfers direction).Sound := by
  obtain ⟨_, hrun⟩ := hlive.reached
  exact sound_run hrun direction

/-- A direction that has not ended can do what it could do alone. -/
theorem step_of_transfer {direction : Direction} {event : TransferEvent} {transfer : Transfer}
    (hlive : hop.Live Always splice)
    (hstate : ∀ result, (splice.transfers direction).state ≠ .done result)
    (hstep : (splice.transfers direction).step event = some transfer) :
    hop.step splice ⟨direction, event⟩ =
      some ⟨Function.update splice.transfers direction transfer⟩ := by
  change splice.step ⟨direction, event⟩ = _
  have hrunning := ended_eq_none (intact_iff.mp hlive.intact) hstate
  rw [step, if_pos (Option.isNone_iff_eq_none.mpr hrunning),
    hstep]
  rfl

/-- At rest a direction has written all it has read, and reads on unless that was all. -/
theorem rests_direction (hlive : hop.Live Always splice)
    (hrests : hop.Rests (fun _ => motion) splice)
    (direction : Direction) :
    (splice.transfers direction).carriedTape = (splice.transfers direction).takenTape ∧
      ((splice.transfers direction).readDone = false →
        (splice.transfers direction).state = .running ∧
          (splice.transfers direction).buffer = []) := by
  have hsound := sound_of_live hlive direction
  have hconserved := hsound.conserved
  have hnone (event : TransferEvent) (hmotion : event.motion direction.way = .within)
      (hstate : ∀ result, (splice.transfers direction).state ≠ .done result) :
      (splice.transfers direction).step event = none := by
    by_contra hsome
    obtain ⟨transfer, hstep⟩ := Option.ne_none_iff_exists'.mp hsome
    cases (hrests ⟨direction, event⟩ hmotion).symm.trans (step_of_transfer hlive hstate hstep)
  cases hstate : (splice.transfers direction).state with
  | running =>
      have hdone (result : Except IoError Unit) :
          (splice.transfers direction).state ≠ .done result := by rw [hstate]; exact nofun
      have hbuffer : (splice.transfers direction).buffer = [] := by
        by_contra hbuffer
        have hlength := List.length_pos_of_ne_nil hbuffer
        have hstuck := hnone (.take (splice.transfers direction).buffer.length) rfl hdone
        rw [Transfer.step, if_pos ⟨hstate, hlength, le_refl _⟩] at hstuck
        cases hstuck
      have hopen : (splice.transfers direction).readDone = false := by
        refine Bool.eq_false_of_not_eq_true fun hover => ?_
        have hstuck := hnone .flushed rfl hdone
        rw [Transfer.step, if_pos ⟨hstate, hover, hbuffer⟩] at hstuck
        cases hstuck
      rw [hbuffer, List.append_nil] at hconserved
      refine ⟨?_, fun _ => ⟨rfl, hbuffer⟩⟩
      rw [Transfer.carriedTape, Transfer.takenTape, hconserved, hopen,
        Transfer.closed_of_running hstate]
  | shuttingDown =>
      have hdone (result : Except IoError Unit) :
          (splice.transfers direction).state ≠ .done result := by rw [hstate]; exact nofun
      have hstuck := hnone (.shutdown (.ok ())) rfl hdone
      rw [Transfer.step, if_pos hstate] at hstuck
      cases hstuck
  | done result =>
      cases result with
      | error failure =>
          have hintact := failed_eq_false_iff.mp (intact_iff.mp hlive.intact)
          exact absurd hstate (hintact direction failure)
      | ok value =>
          have hclosed : (splice.transfers direction).closed = true := by
            rw [Transfer.closed, hstate]
          obtain ⟨hover, hbuffer⟩ := hsound.closed hclosed
          rw [hbuffer, List.append_nil] at hconserved
          refine ⟨?_, fun hopen => ?_⟩
          · rw [Transfer.carriedTape, Transfer.takenTape, hconserved, hover, hclosed]
          · cases hover.symm.trans hopen

theorem taken_update (way : Way) (transfer : Transfer) :
    (hop.stage way ⟨Function.update splice.transfers (.ofWay way) transfer⟩).taken =
      ⟨transfer.taken, transfer.readDone⟩ := by
  change Transfer.takenTape
    (Function.update splice.transfers (.ofWay way) transfer (.ofWay way)) = _
  rw [Function.update_self, Transfer.takenTape]

/-- The relays of the clients and of the agent do not stop before they have to. -/
def drains : Drains hop where
  ready := Always
  motion _ := motion
  cost := 2
  pending way splice := (splice.transfers (.ofWay way)).pending
  drives hlive hstep hmotion := ⟨trivial, drives_step hlive hstep hmotion⟩
  settled hlive hrests way := (rests_direction hlive hrests (.ofWay way)).1
  takes {splice} hlive hrests way hopen := by
    obtain ⟨hstate, hbuffer⟩ := (rests_direction hlive hrests (.ofWay way)).2 hopen
    have hdone (result : Except IoError Unit) :
        (splice.transfers (.ofWay way)).state ≠ .done result := by rw [hstate]; exact nofun
    have hroom : (splice.transfers (.ofWay way)).buffer.length + 1 ≤ copyBufferSize := by
      rw [hbuffer]
      decide
    have hway : (Direction.ofWay way).way = way := by cases way <;> rfl
    refine ⟨fun symbol => ?_, ?_⟩
    · have hstep : (splice.transfers (.ofWay way)).step (.chunk [symbol]) = some _ :=
        if_pos ⟨hstate, hopen, List.cons_ne_nil _ _, hroom⟩
      refine ⟨⟨.ofWay way, .chunk [symbol]⟩, _, congrArg Motion.takes hway,
        step_of_transfer hlive hdone hstep, ?_⟩
      exact (taken_update way _).trans (congrArg (Tape.mk _) hopen)
    · have hstep : (splice.transfers (.ofWay way)).step .sourceEnd = some _ :=
        if_pos ⟨hstate, hopen, hroom⟩
      refine ⟨⟨.ofWay way, .sourceEnd⟩, _, congrArg Motion.takes hway,
        step_of_transfer hlive hdone hstep, ?_⟩
      exact taken_update way _

end Splice

/-! ## The proxy server -/

/-- What an event is to the direction. -/
def CopyEvent.motion (way : Way) : CopyEvent → Motion
  | .chunk _ => .takes way
  | .sourceEnd => .takes way
  | .readError _ => .foreign
  | .take _ => .within
  | .writeError _ => .foreign
  | .shutdown (.ok _) => .within
  | .shutdown (.error _) => .foreign

namespace Copy

/-- The steps that are left to the direction. -/
def pending (copy : Copy) : ℕ :=
  match copy.phase with
  | .reading => 0
  | .writing rest _ => rest.length + 1
  | .closing => 1
  | .finished _ => 0

def takenTape (copy : Copy) : Tape UInt8 := ⟨copy.taken, copy.closed⟩

def carriedTape (copy : Copy) : Tape UInt8 := ⟨copy.carried, copy.closed⟩

variable {now : ℕ} {copy next : Copy} {event : CopyEvent} {moved : Bool} {way : Way}

/-- What the destination accepts. -/
theorem exists_of_take {count : ℕ}
    (hstep : copy.copyWithActivity now (.take count) = some (next, moved)) :
    ∃ rest readAt, copy.phase = .writing rest readAt ∧ next.taken = copy.taken ∧
      next.closed = false ∧ next.carried = copy.carried ++ rest.take count ∧
      next.pending < copy.pending ∧
      next.pending + (rest.take count).length ≤ copy.pending := by
  rw [copyWithActivity] at hstep
  split at hstep
  next rest readAt hwriting =>
    have hpending : copy.pending = rest.length + 1 := by rw [pending, hwriting]
    rw [hpending]
    refine ⟨rest, readAt, hwriting, ?_⟩
    split at hstep
    next hpart =>
      cases hstep
      refine ⟨rfl, rfl, rfl, ?_⟩
      simp only [pending, List.length_drop, List.length_take]
      omega
    next =>
      obtain ⟨hcount, hnext⟩ := Option.ite_none_right_eq_some.mp hstep
      cases hnext
      rw [hcount, List.take_length]
      exact ⟨rfl, rfl, rfl, Nat.succ_pos _, by simp [pending]⟩
  next => cases hstep

theorem nonempty_of_chunk {bytes : List UInt8}
    (hstep : copy.copyWithActivity now (.chunk bytes) = some (next, moved)) :
    0 < bytes.length := by
  rw [copyWithActivity] at hstep
  split at hstep
  next =>
    obtain ⟨⟨hbytes, -⟩, -⟩ := Option.ite_none_right_eq_some.mp hstep
    exact List.length_pos_of_ne_nil hbytes
  next => cases hstep

theorem chunk_of_reading (hreading : copy.phase = .reading) (symbol : UInt8) :
    copy.copyWithActivity now (.chunk [symbol]) =
      some ({ copy with phase := .writing [symbol] now, taken := copy.taken ++ [symbol] },
        false) := by
  rw [copyWithActivity, hreading]
  exact if_pos ⟨List.cons_ne_nil _ _, Nat.one_le_ofNat⟩

theorem sourceEnd_of_reading (hreading : copy.phase = .reading) :
    copy.copyWithActivity now .sourceEnd = some ({ copy with phase := .closing }, false) := by
  rw [copyWithActivity, hreading]

theorem advances_of_copyWithActivity
    (hstep : copy.copyWithActivity now event = some (next, moved))
    (hmotion : event.motion way ≠ .foreign) :
    Advances way 2 (event.motion way) copy.takenTape next.takenTape copy.carriedTape
      next.carriedTape copy.pending next.pending := by
  cases event with
  | chunk bytes =>
      have hbytes := nonempty_of_chunk hstep
      cases does_of_copyWithActivity hstep with
      | chunk hreading =>
          have hopen : copy.closed = false := by rw [closed, hreading]
          refine .of_takes ⟨List.prefix_append _ _, fun hover => ?_⟩ ?_
            ⟨List.prefix_refl _, fun hover => ?_⟩ ?_
          · cases hopen.symm.trans hover
          · simp only [takenTape, Tape.size, closed, hreading, List.length_append]
            omega
          · cases hopen.symm.trans hover
          · simp only [takenTape, carriedTape, pending, Tape.size, closed, hreading,
              List.length_append]
            omega
  | sourceEnd =>
      cases does_of_copyWithActivity hstep with
      | sourceEnd hreading =>
          have hopen : copy.closed = false := by rw [closed, hreading]
          refine .of_takes ⟨List.prefix_refl _, fun hover => ?_⟩ ?_
            ⟨List.prefix_refl _, fun hover => ?_⟩ ?_
          · cases hopen.symm.trans hover
          · simp only [takenTape, Tape.size, closed, hreading, Bool.toNat_true, Bool.toNat_false]
            omega
          · cases hopen.symm.trans hover
          · simp only [takenTape, carriedTape, pending, Tape.size, closed, hreading,
              Bool.toNat_true, Bool.toNat_false]
            omega
  | readError failure => exact absurd rfl hmotion
  | take count =>
      obtain ⟨rest, readAt, hwriting, htaken, hclosed, hcarried, hless, hspent⟩ :=
        exists_of_take hstep
      have hopen : copy.closed = false := by rw [closed, hwriting]
      have hsame : next.takenTape = copy.takenTape := by
        rw [takenTape, takenTape, htaken, hclosed, hopen]
      refine .of_within hsame ⟨⟨_, hcarried.symm⟩, fun hover => ?_⟩ ?_ hless
      · cases hopen.symm.trans hover
      · simp only [carriedTape, Tape.size, hcarried, hclosed, hopen, List.length_append]
        omega
  | writeError failure => exact absurd rfl hmotion
  | shutdown answer =>
      cases answer with
      | error failure => exact absurd rfl hmotion
      | ok value =>
          cases does_of_copyWithActivity hstep with
          | shutdown hclosing =>
              have hclosed : copy.closed = true := by rw [closed, hclosing]
              refine .of_within ?_ ⟨List.prefix_refl _, fun _ => ?_⟩ ?_ ?_
              · simp only [takenTape, closed, hclosing]
              · simp only [carriedTape, closed, hclosing]
              · simp only [carriedTape, pending, Tape.size, closed, hclosing]
                omega
              · simp only [pending, hclosing]
                omega

/-- Only a failure leaves the direction with an error. -/
theorem Does.phase_ne (hdoes : Does now copy event next moved)
    (hmotion : event.motion way ≠ .foreign) (failure : IoError) :
    next.phase ≠ .finished (.error failure) := by
  cases hdoes with
  | chunk => exact nofun
  | sourceEnd => exact nofun
  | readError => exact absurd rfl hmotion
  | takePart => exact nofun
  | takeRest => exact nofun
  | writeError => exact absurd rfl hmotion
  | @shutdown answer =>
      cases answer with
      | ok value => exact nofun
      | error failure => exact absurd rfl hmotion

end Copy

namespace TcpFlow

variable {idle begin : ℕ} {flow next : TcpFlow} {event : TcpEvent}

theorem intact_iff : (hop idle begin).Intact flow ↔ flow.failed = false :=
  ⟨fun hintact => (hintact .forth).2, fun hfailed _ => ⟨rfl, hfailed⟩⟩

theorem tryJoin_ne_error {copies : Direction → Copy}
    (halive : ∀ direction failure, (copies direction).phase ≠ .finished (.error failure))
    (failure : IoError) : tryJoin copies ≠ some (.error failure) := by
  intro hjoin
  rw [tryJoin] at hjoin
  split at hjoin
  next hupload => exact halive .upload _ hupload
  next hdownload _ => exact halive .download _ hdownload
  next => cases hjoin
  next => cases hjoin

theorem failed_relay {direction : Direction} {copy : Copy} {moved : Bool}
    (halive : ∀ other failure, ((flow.relay direction copy moved).copies other).phase ≠
      .finished (.error failure)) :
    (flow.relay direction copy moved).failed = false := by
  rw [failed]
  split
  next failure hended =>
    obtain ⟨ended, hended, hresult⟩ := Option.map_eq_some_iff.mp hended
    obtain ⟨result, hjoin, rfl⟩ := Option.map_eq_some_iff.mp hended
    cases hresult
    exact absurd hjoin (tryJoin_ne_error halive _)
  next => rfl

/-- A flow that has not failed goes on, or both of its directions have ended. -/
theorem ended_or_finished (hlive : (hop idle begin).Live Always flow) :
    (flow.ended = none ∧
        ∀ direction failure, (flow.copies direction).phase ≠ .finished (.error failure)) ∨
      flow.ended ≠ none ∧ ∀ direction, (flow.copies direction).phase = .finished (.ok ()) := by
  obtain ⟨trace, hrun⟩ := hlive.reached
  have hfailed := intact_iff.mp hlive.intact
  cases hended : flow.ended with
  | none =>
      refine .inl ⟨rfl, fun direction failure hphase => ?_⟩
      have hsome := isSome_tryJoin_of_error hphase
      rw [tryJoin_eq_none_run hrun hended] at hsome
      cases hsome
  | some ended =>
      refine .inr ⟨nofun, ?_⟩
      rw [failed, hended] at hfailed
      cases ended with
      | idle time => cases hfailed
      | relayed time result =>
          cases result with
          | error failure => cases hfailed
          | ok value => exact finished_of_tryJoin (tryJoin_of_relayed hrun hended)

/-- What an event is to the flow. -/
def motion : TcpEvent → Motion
  | .tick _ => .foreign
  | .copy direction event => event.motion direction.way
  | .turn => .foreign

theorem drives_step (hlive : (hop idle begin).Live Always flow)
    (hstep : (hop idle begin).step flow event = some next) (hmotion : motion event ≠ .foreign) :
    Drives (hop idle begin) 2 (fun way flow => (flow.copies (.ofWay way)).pending) flow next
      (motion event) := by
  cases event with
  | tick => exact absurd rfl hmotion
  | turn => exact absurd rfl hmotion
  | copy direction event =>
      obtain ⟨hrunning, hstep⟩ := Option.ite_none_right_eq_some.mp hstep
      obtain ⟨⟨copy, moved⟩, hcopy, hnext⟩ := Option.map_eq_some_iff.mp hstep
      obtain rfl : flow.relay direction copy moved = next := hnext
      have hadvances := Copy.advances_of_copyWithActivity hcopy hmotion
      have halive := ((ended_or_finished hlive).resolve_right fun hdone =>
        hdone.1 (Option.isNone_iff_eq_none.mp hrunning)).2
      have hintact : (hop idle begin).Intact (flow.relay direction copy moved) := by
        refine intact_iff.mpr (failed_relay fun other failure => ?_)
        by_cases hmoved : other = direction
        · rw [hmoved, copies_relay_self]
          exact (Copy.does_of_copyWithActivity hcopy).phase_ne hmotion failure
        · rw [copies_relay_of_ne hmoved]
          exact halive other failure
      cases direction with
      | upload =>
          have hother : (flow.relay .upload copy moved).copies .download = flow.copies .download :=
            copies_relay_of_ne (by decide) copy moved
          rw [← copies_relay_self .upload copy moved] at hadvances
          exact drives_of_advances .forth hintact (congrArg Copy.takenTape hother)
            (congrArg Copy.carriedTape hother) (congrArg Copy.pending hother) hadvances
      | download =>
          have hother : (flow.relay .download copy moved).copies .upload = flow.copies .upload :=
            copies_relay_of_ne (by decide) copy moved
          rw [← copies_relay_self .download copy moved] at hadvances
          exact drives_of_advances .back hintact (congrArg Copy.takenTape hother)
            (congrArg Copy.carriedTape hother) (congrArg Copy.pending hother) hadvances

/-- A flow that goes on lets a direction do what it could do alone. -/
theorem step_of_copy {direction : Direction} {event : CopyEvent} {copy : Copy} {moved : Bool}
    (hrunning : flow.ended = none)
    (hstep : (flow.copies direction).copyWithActivity flow.now event = some (copy, moved)) :
    (hop idle begin).step flow (.copy direction event) =
      some (flow.relay direction copy moved) := by
  change flow.step idle (.copy direction event) = _
  rw [step, if_pos (Option.isNone_iff_eq_none.mpr hrunning)]
  simp only [hstep, Option.map_some]

/-- At rest a direction has written all it has read, and reads on unless that was all. -/
theorem rests_direction (hlive : (hop idle begin).Live Always flow)
    (hrests : (hop idle begin).Rests (fun _ => motion) flow) (direction : Direction) :
    (flow.copies direction).carriedTape = (flow.copies direction).takenTape ∧
      ((flow.copies direction).closed = false →
        flow.ended = none ∧ (flow.copies direction).phase = .reading) := by
  obtain ⟨_, hrun⟩ := hlive.reached
  have hfaithful := faithful_run hrun direction
  rw [Copy.Faithful] at hfaithful
  rw [Copy.carriedTape, Copy.takenTape]
  rcases ended_or_finished hlive with ⟨hrunning, halive⟩ | ⟨-, hfinished⟩
  · have hnone (event : CopyEvent) (hmotion : event.motion direction.way = .within) :
        (flow.copies direction).copyWithActivity flow.now event = none := by
      by_contra hsome
      obtain ⟨⟨copy, moved⟩, hstep⟩ := Option.ne_none_iff_exists'.mp hsome
      cases (hrests (.copy direction event) hmotion).symm.trans (step_of_copy hrunning hstep)
    cases hphase : (flow.copies direction).phase with
    | reading =>
        rw [hphase] at hfaithful
        exact ⟨congrArg (Tape.mk · _) hfaithful, fun _ => ⟨hrunning, rfl⟩⟩
    | writing rest readAt =>
        have hstuck := hnone (.take rest.length) rfl
        rw [Copy.copyWithActivity, hphase] at hstuck
        simp only [lt_irrefl, and_false, if_false, if_true] at hstuck
        cases hstuck
    | closing =>
        have hstuck := hnone (.shutdown (.ok ())) rfl
        rw [Copy.copyWithActivity, hphase] at hstuck
        cases hstuck
    | finished result =>
        cases result with
        | error failure => exact absurd hphase (halive direction failure)
        | ok value =>
            have hclosed : (flow.copies direction).closed = true := by rw [Copy.closed, hphase]
            rw [hphase] at hfaithful
            refine ⟨congrArg (Tape.mk · _) hfaithful, fun hopen => ?_⟩
            cases hclosed.symm.trans hopen
  · have hphase := hfinished direction
    have hclosed : (flow.copies direction).closed = true := by rw [Copy.closed, hphase]
    rw [hphase] at hfaithful
    refine ⟨congrArg (Tape.mk · _) hfaithful, fun hopen => ?_⟩
    cases hclosed.symm.trans hopen

/-- The relay of the proxy server does not stop before it has to. -/
def drains (idle begin : ℕ) : Drains (hop idle begin) where
  ready := Always
  motion _ := motion
  cost := 2
  pending way flow := (flow.copies (.ofWay way)).pending
  drives hlive hstep hmotion := ⟨trivial, drives_step hlive hstep hmotion⟩
  settled hlive hrests way := (rests_direction hlive hrests (.ofWay way)).1
  takes {flow} hlive hrests way hopen := by
    obtain ⟨hrunning, hreading⟩ := (rests_direction hlive hrests (.ofWay way)).2 hopen
    have hway : (Direction.ofWay way).way = way := by cases way <;> rfl
    refine ⟨fun symbol => ?_, ?_⟩
    · refine ⟨.copy (.ofWay way) (.chunk [symbol]), _, congrArg Motion.takes hway,
        step_of_copy hrunning (Copy.chunk_of_reading hreading symbol), ?_⟩
      exact congrArg Copy.takenTape (copies_relay_self _ _ _)
    · refine ⟨.copy (.ofWay way) .sourceEnd, _, congrArg Motion.takes hway,
        step_of_copy hrunning (Copy.sourceEnd_of_reading hreading), ?_⟩
      exact congrArg Copy.takenTape (copies_relay_self _ _ _)

end TcpFlow

/-! ## Lines -/

def hostDrains : Drains hostLine := Splice.drains.join Splice.drains

def quicDrains (idle begin : ℕ) : Drains (quicLine idle begin) :=
  Splice.drains.join (TcpFlow.drains idle begin)

def grpcDrains (response idle begin : ℕ) : Drains (grpcLine response idle begin) :=
  Splice.drains.join ((Tunnel.drains response).join (TcpFlow.drains idle begin))

/-- While the relays of the line have not failed, it goes on. -/
theorem live_hostLine {trace : List (Transition (Splice × Splice) (SpliceEvent ⊕ SpliceEvent))}
    {host agent : Splice} (hrun : Execution hostLine.step hostLine.start trace (host, agent))
    (hhost : host.failed = false) (hagent : agent.failed = false) :
    hostLine.Live hostDrains.ready (host, agent) :=
  ⟨⟨trace, hrun⟩,
    Drains.intact_join_iff.mpr ⟨Splice.intact_iff.mpr hhost, Splice.intact_iff.mpr hagent⟩,
    trivial, trivial⟩

theorem live_quicLine {idle begin : ℕ}
    {trace : List (Transition (Splice × TcpFlow) (SpliceEvent ⊕ TcpEvent))} {client : Splice}
    {server : TcpFlow}
    (hrun : Execution (quicLine idle begin).step (quicLine idle begin).start trace
      (client, server))
    (hclient : client.failed = false) (hserver : server.failed = false) :
    (quicLine idle begin).Live (quicDrains idle begin).ready (client, server) :=
  ⟨⟨trace, hrun⟩,
    Drains.intact_join_iff.mpr ⟨Splice.intact_iff.mpr hclient, TcpFlow.intact_iff.mpr hserver⟩,
    trivial, trivial⟩

theorem live_grpcLine {response idle begin : ℕ}
    {trace : List (Transition (Splice × Tunnel × TcpFlow) (SpliceEvent ⊕ TunnelEvent ⊕ TcpEvent))}
    {client : Splice} {tunnel : Tunnel} {server : TcpFlow}
    (hrun : Execution (grpcLine response idle begin).step (grpcLine response idle begin).start
      trace (client, tunnel, server))
    (hclient : client.failed = false) (hup : tunnel.up.failed = false)
    (hdown : tunnel.down.failed = false) (hready : tunnel.Ready response)
    (hserver : server.failed = false) :
    (grpcLine response idle begin).Live (grpcDrains response idle begin).ready
      (client, tunnel, server) := by
  have htunnel : (Tunnel.hop response).Intact tunnel := by
    rintro (_ | _)
    · exact ⟨hup, rfl⟩
    · exact ⟨hdown, rfl⟩
  refine ⟨⟨trace, hrun⟩, ?_, trivial, hready, trivial⟩
  exact Drains.intact_join_iff.mpr ⟨Splice.intact_iff.mpr hclient,
    Drains.intact_join_iff.mpr ⟨htunnel, TcpFlow.intact_iff.mpr hserver⟩⟩

/-- From any state in which nothing has failed, every line carries through what the two ends
have sent, and the end of it, whichever of its parts goes on first. -/
theorem tcp_comes_through (response idle begin : ℕ) :
    (∀ trace host agent, Execution hostLine.step hostLine.start trace (host, agent) →
      host.failed = false → agent.failed = false → hostDrains.ComesThrough (host, agent)) ∧
    (∀ trace client server, Execution (quicLine idle begin).step (quicLine idle begin).start
        trace (client, server) → client.failed = false → server.failed = false →
      (quicDrains idle begin).ComesThrough (client, server)) ∧
    ∀ trace client tunnel server, Execution (grpcLine response idle begin).step
        (grpcLine response idle begin).start trace (client, tunnel, server) →
      client.failed = false → tunnel.up.failed = false → tunnel.down.failed = false →
      tunnel.Ready response → server.failed = false →
      (grpcDrains response idle begin).ComesThrough (client, tunnel, server) := by
  refine ⟨fun trace host agent hrun hhost hagent => ?_,
    fun trace client server hrun hclient hserver => ?_,
    fun trace client tunnel server hrun hclient hup hdown hready hserver => ?_⟩
  · exact hostDrains.comesThrough (live_hostLine hrun hhost hagent)
  · exact (quicDrains idle begin).comesThrough (live_quicLine hrun hclient hserver)
  · exact (grpcDrains response idle begin).comesThrough
      (live_grpcLine hrun hclient hup hdown hready hserver)

/-- A line goes through the first events, to a state that passes the check, and from there
through the other ones, without taking any more, until it has no steps left. -/
def goesThrough {State Event : Type} {hop : Hop UInt8 State Event} (drains : Drains hop)
    (check : State → Bool) (first rest : List Event) : Bool :=
  ((replay hop.step hop.start first).bind fun taken =>
    (replay hop.step taken.2 rest).map fun carried =>
      check taken.2 && carried.1.all (fun tr => drains.motion tr.pre tr.event = .within) &&
        drains.work carried.2 == 0).getD false

theorem exists_of_goesThrough {State Event : Type} {hop : Hop UInt8 State Event}
    {drains : Drains hop} {check : State → Bool} {first rest : List Event}
    (hgoes : goesThrough drains check first rest = true) :
    ∃ trace state moves final, Execution hop.step hop.start trace state ∧ check state = true ∧
      Execution hop.step state moves final ∧
      (∀ tr ∈ moves, drains.motion tr.pre tr.event = .within) ∧ drains.work final = 0 := by
  rw [goesThrough, Option.getD_eq_iff] at hgoes
  rcases hgoes with hgoes | ⟨-, hgoes⟩
  · obtain ⟨⟨trace, state⟩, hfirst, hgoes⟩ := Option.bind_eq_some_iff.mp hgoes
    obtain ⟨⟨moves, final⟩, hrest, hgoes⟩ := Option.map_eq_some_iff.mp hgoes
    rw [Bool.and_eq_true, Bool.and_eq_true, List.all_eq_true, beq_iff_eq] at hgoes
    exact ⟨trace, state, moves, final, execution_of_replay hfirst, hgoes.1.1,
      execution_of_replay hrest, fun tr hmem => of_decide_eq_true (hgoes.1.2 tr hmem), hgoes.2⟩
  · cases hgoes

/-- The client has read three bytes and the end; then they go up each of the lines. -/
theorem tcp_comes_through_sample :
    (∃ state moves final, Execution hostLine.step state moves final ∧
      moves.length + hostDrains.work final ≤ hostDrains.work state ∧
      hostLine.Rests hostDrains.motion final ∧
      final.2.carried .upload = ⟨[1, 2, 3], true⟩) ∧
    (∃ state moves final, Execution (quicLine 10 0).step state moves final ∧
      moves.length + (quicDrains 10 0).work final ≤ (quicDrains 10 0).work state ∧
      (quicLine 10 0).Rests (quicDrains 10 0).motion final ∧
      final.2.carried .upload = ⟨[1, 2, 3], true⟩) ∧
    ∃ state moves final, Execution (grpcLine 0 10 0).step state moves final ∧
      moves.length + (grpcDrains 0 10 0).work final ≤ (grpcDrains 0 10 0).work state ∧
      (grpcLine 0 10 0).Rests (grpcDrains 0 10 0).motion final ∧
      final.2.2.carried .upload = ⟨[1, 2, 3], true⟩ := by
  have hhost : goesThrough hostDrains
      (fun state => (state.1.taken .upload = ⟨[1, 2, 3], true⟩ ∧ state.1.failed = false ∧
        state.2.failed = false : Bool))
      ((sampleTransferEvents.take 2).map .inl)
      ((sampleTransferEvents.drop 2).map .inl ++ sampleTransferEvents.map .inr) = true := by
    decide
  have hquic : goesThrough (quicDrains 10 0)
      (fun state => (state.1.taken .upload = ⟨[1, 2, 3], true⟩ ∧ state.1.failed = false ∧
        state.2.failed = false : Bool))
      ((sampleTransferEvents.take 2).map .inl)
      ((sampleTransferEvents.drop 2).map .inl ++ sampleCopyEvents.map .inr) = true := by
    decide
  have hgrpc : goesThrough (grpcDrains 0 10 0)
      (fun state => (state.1.taken .upload = ⟨[1, 2, 3], true⟩ ∧ state.1.failed = false ∧
        state.2.1.up.failed = false ∧ state.2.1.down.failed = false ∧
        state.2.1.up.inbound.readerGone = false ∧ state.2.1.down.inbound.readerGone = false ∧
        state.2.2.failed = false : Bool))
      ((sampleTransferEvents.take 2).map .inl)
      ((sampleTransferEvents.drop 2).map .inl ++
        (sampleLaneEvents.map fun event => .inr (.inl (.up event))) ++
        sampleCopyEvents.map fun event => .inr (.inr event)) = true := by
    decide
  refine ⟨?_, ?_, ?_⟩
  · obtain ⟨trace, ⟨host, agent⟩, moves, final, hrun, hcheck, hmoves, hwithin, hwork⟩ :=
      exists_of_goesThrough hhost
    obtain ⟨htaken, hclient, hserver⟩ := of_decide_eq_true hcheck
    have hthrough := (tcp_comes_through 0 10 0).1 trace host agent hrun hclient hserver
    have hfinal := (hostDrains.work_run (live_hostLine hrun hclient hserver) hwithin hmoves).2.1
    have hrests := hostDrains.rests_of_work_eq_zero hfinal hwork
    exact ⟨_, moves, final, hmoves, hthrough.bounded _ _ hwithin hmoves, hrests,
      (hthrough.carried _ _ hwithin hmoves hrests .forth).trans htaken⟩
  · obtain ⟨trace, ⟨client, server⟩, moves, final, hrun, hcheck, hmoves, hwithin, hwork⟩ :=
      exists_of_goesThrough hquic
    obtain ⟨htaken, hclient, hserver⟩ := of_decide_eq_true hcheck
    have hthrough := (tcp_comes_through 0 10 0).2.1 trace client server hrun hclient hserver
    have hfinal :=
      ((quicDrains 10 0).work_run (live_quicLine hrun hclient hserver) hwithin hmoves).2.1
    have hrests := (quicDrains 10 0).rests_of_work_eq_zero hfinal hwork
    exact ⟨_, moves, final, hmoves, hthrough.bounded _ _ hwithin hmoves, hrests,
      (hthrough.carried _ _ hwithin hmoves hrests .forth).trans htaken⟩
  · obtain ⟨trace, ⟨client, tunnel, server⟩, moves, final, hrun, hcheck, hmoves, hwithin,
      hwork⟩ := exists_of_goesThrough hgrpc
    obtain ⟨htaken, hclient, hup, hdown, hupReader, hdownReader, hserver⟩ :=
      of_decide_eq_true hcheck
    have hready : tunnel.Ready 0 := ⟨Nat.zero_le _, hupReader, hdownReader⟩
    have hthrough := (tcp_comes_through 0 10 0).2.2 trace client tunnel server hrun hclient hup
      hdown hready hserver
    have hfinal := ((grpcDrains 0 10 0).work_run
      (live_grpcLine hrun hclient hup hdown hready hserver) hwithin hmoves).2.1
    have hrests := (grpcDrains 0 10 0).rests_of_work_eq_zero hfinal hwork
    exact ⟨_, moves, final, hmoves, hthrough.bounded _ _ hwithin hmoves, hrests,
      (hthrough.carried _ _ hwithin hmoves hrests .forth).trans htaken⟩

end VpnBridge.Relay
