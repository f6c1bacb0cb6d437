import VpnBridge.Core.Pipeline
import VpnBridge.Relay.TcpIdle

/-!
# TCP flows of the clients and of the agent

The host and the agent splice two streams with `copy_bidirectional`; the proxy client
runs `copy` and `shutdown` for either direction under `try_join!`.  The loops of the
two are tokio's and follow its documentation: either way a direction reads ahead into
a buffer of 8 KiB while it writes, and shuts its destination down once the source has
ended and the buffer is empty.
-/

namespace VpnBridge.Relay

open VpnBridge.Pipeline VpnBridge.Proto VpnBridge.TransitionSystem

/-- The size of the buffer of `copy`. -/
def copyBufferSize : ℕ := 8 * 1024

inductive TransferState where
  | running
  /-- In `shutdown`. -/
  | shuttingDown
  | done (result : Except IoError Unit)
  deriving DecidableEq

/-- One direction. -/
structure Transfer where
  state : TransferState
  /-- The source has ended. -/
  readDone : Bool
  /-- The bytes that have been read and not been written. -/
  buffer : List UInt8
  /-- The bytes read from the source. -/
  taken : List UInt8
  /-- The bytes that the destination has accepted. -/
  carried : List UInt8

inductive TransferEvent where
  | chunk (bytes : List UInt8)
  | sourceEnd
  | readError (failure : IoError)
  /-- The destination accepts `count` bytes. -/
  | take (count : ℕ)
  /-- A write or a flush fails. -/
  | writeError (failure : IoError)
  /-- The last flush returns, and so does `copy`. -/
  | flushed
  | shutdown (answer : Except IoError Unit)

namespace Transfer

def start : Transfer := ⟨.running, false, [], [], []⟩

def step (transfer : Transfer) : TransferEvent → Option Transfer
  | .chunk bytes =>
      if transfer.state = .running ∧ transfer.readDone = false ∧ bytes ≠ [] ∧
          transfer.buffer.length + bytes.length ≤ copyBufferSize then
        some { transfer with
          buffer := transfer.buffer ++ bytes
          taken := transfer.taken ++ bytes }
      else none
  | .sourceEnd =>
      if transfer.state = .running ∧ transfer.readDone = false ∧
          transfer.buffer.length < copyBufferSize then
        some { transfer with readDone := true }
      else none
  | .readError failure =>
      if transfer.state = .running ∧ transfer.readDone = false then
        some { transfer with state := .done (.error failure) }
      else none
  | .take count =>
      if transfer.state = .running ∧ 0 < count ∧ count ≤ transfer.buffer.length then
        some { transfer with
          buffer := transfer.buffer.drop count
          carried := transfer.carried ++ transfer.buffer.take count }
      else none
  | .writeError failure =>
      if transfer.state = .running then
        some { transfer with state := .done (.error failure) }
      else none
  | .flushed =>
      if transfer.state = .running ∧ transfer.readDone = true ∧ transfer.buffer = [] then
        some { transfer with state := .shuttingDown }
      else none
  | .shutdown answer =>
      if transfer.state = .shuttingDown then some { transfer with state := .done answer }
      else none

/-- The destination has been shut down, or is being shut down. -/
def closed (transfer : Transfer) : Bool :=
  match transfer.state with
  | .running => false
  | .shuttingDown => true
  | .done (.ok _) => true
  | .done (.error _) => false

end Transfer

/-- A flow between two streams: the first one uploads to the second. -/
structure Splice where
  transfers : Direction → Transfer

structure SpliceEvent where
  direction : Direction
  event : TransferEvent

namespace Splice

def start : Splice := ⟨fun _ => .start⟩

/-- What `copy_bidirectional` returns: the first failure, or how much it has copied in
either direction. -/
def ended (splice : Splice) : Option (Except IoError (ℕ × ℕ)) :=
  match (splice.transfers .upload).state, (splice.transfers .download).state with
  | .done (.error failure), _ => some (.error failure)
  | _, .done (.error failure) => some (.error failure)
  | .done (.ok _), .done (.ok _) =>
      some (.ok ((splice.transfers .upload).carried.length,
        (splice.transfers .download).carried.length))
  | _, _ => none

def failed (splice : Splice) : Bool :=
  match splice.ended with
  | some (.error _) => true
  | _ => false

def step (splice : Splice) (event : SpliceEvent) : Option Splice :=
  if splice.ended.isNone = true then
    ((splice.transfers event.direction).step event.event).map fun transfer =>
      ⟨Function.update splice.transfers event.direction transfer⟩
  else none

end Splice

/-! ## One direction -/

namespace Transfer

/-- What a step does. -/
inductive Does (transfer : Transfer) : TransferEvent → Transfer → Prop where
  | chunk {bytes : List UInt8} (hrunning : transfer.state = .running)
      (hopen : transfer.readDone = false) (hbytes : bytes ≠ []) :
      Does transfer (.chunk bytes) { transfer with
        buffer := transfer.buffer ++ bytes
        taken := transfer.taken ++ bytes }
  | sourceEnd (hrunning : transfer.state = .running) (hopen : transfer.readDone = false) :
      Does transfer .sourceEnd { transfer with readDone := true }
  | readError {failure : IoError} :
      Does transfer (.readError failure) { transfer with state := .done (.error failure) }
  | take {count : ℕ} (hrunning : transfer.state = .running) (hcount : 0 < count)
      (hle : count ≤ transfer.buffer.length) :
      Does transfer (.take count) { transfer with
        buffer := transfer.buffer.drop count
        carried := transfer.carried ++ transfer.buffer.take count }
  | writeError {failure : IoError} :
      Does transfer (.writeError failure) { transfer with state := .done (.error failure) }
  | flushed (hrunning : transfer.state = .running) (hover : transfer.readDone = true)
      (hbuffer : transfer.buffer = []) :
      Does transfer .flushed { transfer with state := .shuttingDown }
  | shutdown {answer : Except IoError Unit} (hshutting : transfer.state = .shuttingDown) :
      Does transfer (.shutdown answer) { transfer with state := .done answer }

variable {transfer next : Transfer} {event : TransferEvent}

theorem does_of_step (hstep : transfer.step event = some next) : Does transfer event next := by
  cases event with
  | chunk bytes =>
      obtain ⟨⟨hrunning, hopen, hbytes, -⟩, hnext⟩ := Option.ite_none_right_eq_some.mp hstep
      cases hnext
      exact .chunk hrunning hopen hbytes
  | sourceEnd =>
      obtain ⟨⟨hrunning, hopen, -⟩, hnext⟩ := Option.ite_none_right_eq_some.mp hstep
      cases hnext
      exact .sourceEnd hrunning hopen
  | readError failure =>
      obtain ⟨-, hnext⟩ := Option.ite_none_right_eq_some.mp hstep
      cases hnext
      exact .readError
  | take count =>
      obtain ⟨⟨hrunning, hcount, hle⟩, hnext⟩ := Option.ite_none_right_eq_some.mp hstep
      cases hnext
      exact .take hrunning hcount hle
  | writeError failure =>
      obtain ⟨-, hnext⟩ := Option.ite_none_right_eq_some.mp hstep
      cases hnext
      exact .writeError
  | flushed =>
      obtain ⟨⟨hrunning, hover, hbuffer⟩, hnext⟩ := Option.ite_none_right_eq_some.mp hstep
      cases hnext
      exact .flushed hrunning hover hbuffer
  | shutdown answer =>
      obtain ⟨hshutting, hnext⟩ := Option.ite_none_right_eq_some.mp hstep
      cases hnext
      exact .shutdown hshutting

/-- What holds of a direction in every state. -/
structure Sound (transfer : Transfer) : Prop where
  conserved : transfer.carried ++ transfer.buffer = transfer.taken
  closed : transfer.closed = true → transfer.readDone = true ∧ transfer.buffer = []

theorem sound_start : start.Sound where
  conserved := rfl
  closed hclosed := by cases hclosed

theorem closed_of_running (hrunning : transfer.state = .running) : transfer.closed = false := by
  rw [closed, hrunning]

theorem Does.sound (hdoes : Does transfer event next) (hsound : transfer.Sound) :
    next.Sound := by
  obtain ⟨hconserved, hclosed⟩ := hsound
  cases hdoes with
  | chunk hrunning =>
      refine ⟨?_, fun hnext => ?_⟩
      · rw [← List.append_assoc, hconserved]
      · cases (closed_of_running hrunning).symm.trans hnext
  | sourceEnd hrunning =>
      refine ⟨hconserved, fun hnext => ?_⟩
      cases (closed_of_running hrunning).symm.trans hnext
  | readError => exact ⟨hconserved, nofun⟩
  | take hrunning hcount hle =>
      refine ⟨?_, fun hnext => ?_⟩
      · rw [List.append_assoc, List.take_append_drop, hconserved]
      · cases (closed_of_running hrunning).symm.trans hnext
  | writeError => exact ⟨hconserved, nofun⟩
  | flushed hrunning hover hbuffer => exact ⟨hconserved, fun _ => ⟨hover, hbuffer⟩⟩
  | shutdown hshutting =>
      refine ⟨hconserved, fun _ => hclosed ?_⟩
      rw [Transfer.closed, hshutting]

/-- What has been written is what has been read, as far as it goes. -/
theorem Sound.carried_le (hsound : transfer.Sound) :
    (⟨transfer.carried, transfer.closed⟩ : Tape UInt8) ≤ ⟨transfer.taken, transfer.readDone⟩ := by
  refine ⟨⟨_, hsound.conserved⟩, fun hclosed => ?_⟩
  change transfer.closed = true at hclosed
  obtain ⟨hover, hbuffer⟩ := hsound.closed hclosed
  have hconserved := hsound.conserved
  rw [hbuffer, List.append_nil] at hconserved
  rw [hconserved, hclosed, hover]

end Transfer

/-! ## Both directions -/

/-- The direction that leads from the near end to the far one. -/
def Direction.ofWay : Way → Direction
  | .forth => .upload
  | .back => .download

namespace Splice

variable {splice next : Splice} {event : SpliceEvent}

/-- What a step does. -/
theorem transfers_of_step (hstep : splice.step event = some next) :
    splice.ended = none ∧ Transfer.Does (splice.transfers event.direction) event.event
        (next.transfers event.direction) ∧
      ∀ direction, direction ≠ event.direction →
        next.transfers direction = splice.transfers direction := by
  obtain ⟨hrunning, hstep⟩ := Option.ite_none_right_eq_some.mp hstep
  obtain ⟨transfer, htransfer, rfl⟩ := Option.map_eq_some_iff.mp hstep
  refine ⟨Option.isNone_iff_eq_none.mp hrunning, ?_, fun direction hother => ?_⟩
  · simp only [Function.update_self]
    exact Transfer.does_of_step htransfer
  · exact Function.update_of_ne hother _ _

theorem sound_step (hstep : splice.step event = some next)
    (hsound : ∀ direction, (splice.transfers direction).Sound) (direction : Direction) :
    (next.transfers direction).Sound := by
  obtain ⟨-, hdoes, hothers⟩ := transfers_of_step hstep
  by_cases hmoved : direction = event.direction
  · rw [hmoved]
    exact hdoes.sound (hsound _)
  · rw [hothers direction hmoved]
    exact hsound direction

theorem sound_run {trace : List (Transition Splice SpliceEvent)}
    (hrun : Execution step start trace splice) (direction : Direction) :
    (splice.transfers direction).Sound :=
  Execution.invariant sound_step hrun (fun _ => Transfer.sound_start) direction

/-- What the relay has read from the source of a direction. -/
def taken (splice : Splice) (direction : Direction) : Tape UInt8 :=
  ⟨(splice.transfers direction).taken, (splice.transfers direction).readDone⟩

/-- What it has written to the destination. -/
def carried (splice : Splice) (direction : Direction) : Tape UInt8 :=
  ⟨(splice.transfers direction).carried, (splice.transfers direction).closed⟩

def stage (way : Way) (splice : Splice) : Stage UInt8 where
  taken := splice.taken (.ofWay way)
  carried := splice.carried (.ofWay way)
  lossy := false
  failed := splice.failed

/-- The flow as a part of a line. -/
def hop : Hop UInt8 Splice SpliceEvent where
  start := start
  step := step
  stage := stage
  taken_start _ := rfl
  faithful hrun way := conveys_of_le (sound_run hrun (.ofWay way)).carried_le _

end Splice

end VpnBridge.Relay
