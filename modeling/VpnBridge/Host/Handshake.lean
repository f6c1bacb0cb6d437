import VpnBridge.Host.Tunnel
import VpnBridge.Proto.ResponseCodec
import VpnBridge.Proto.Truncation
import VpnBridge.Server.Verdict

/-!
# The handshake of client and server

The two sides of a flow over a reliable byte stream: what the client sends is
what the server reads and the other way round, and no timer of the handshake
fires.  Then the client learns the verdict on its request, and after Ok each
side's relay starts with the first byte of the other's, unless the name of the
target was cut inside a character on its way.
-/

namespace VpnBridge.Host

open VpnBridge.Interaction VpnBridge.Net VpnBridge.Proto VpnBridge.Server

/-! ## The client's side -/

/-- No timer fired and no write failed; the tunnel delivers `stream`. -/
def undisturbed (stream : List UInt8) : TunnelEvent → Prop
  | ⟨.send _, answer⟩ => answer = .ready (.ok ())
  | ⟨.flush, answer⟩ => answer = .ready (.ok ())
  | ⟨.receive, answer⟩ => answer = .ready stream
  | _ => True

def sentByEvent : TunnelEvent → List UInt8
  | ⟨.send bytes, _⟩ => bytes
  | _ => []

/-- The bytes of the client's handshake. -/
def sentBytes (trace : List TunnelEvent) : List UInt8 :=
  trace.flatMap sentByEvent

theorem runs_issue_iff {op : TunnelOp} {A : Type} {convert : TunnelAnswer op → A}
    {trace : List TunnelEvent} {outcome : A} :
    Runs (do let answer ← issue op; return convert answer) trace outcome ↔
      ∃ answer, trace = [⟨op, answer⟩] ∧ outcome = convert answer := by
  constructor
  · intro hruns
    obtain ⟨answer, rest, rfl, hdone⟩ := runs_perform_bind_iff.mp hruns
    obtain ⟨rfl, rfl⟩ := runs_pure_iff.mp hdone
    exact ⟨answer, rfl, rfl⟩
  · rintro ⟨answer, rfl, rfl⟩
    exact runs_perform_bind_iff.mpr ⟨answer, [], rfl, runs_pure_iff.mpr ⟨rfl, rfl⟩⟩

theorem runs_writeTo {request : Request}
    (hlength : (asBytes request.token).length ≤ 255) {trace : List TunnelEvent}
    {outcome : Except Unit (Except IoError Unit)} {stream : List UInt8}
    (hruns : Runs (request.writeTo : ExceptT IoError Timeout Unit).run.run trace outcome)
    (hcalm : ∀ event ∈ trace, undisturbed stream event) :
    sentBytes trace = request.buf ∧ outcome = .ok (.ok ()) := by
  rw [Request.writeTo, if_neg (by omega), runs_run_run_bind_iff] at hruns
  rcases hruns with ⟨rfl, hsend⟩ | ⟨failure, rfl, hsend⟩ |
    ⟨_, first, second, rfl, hsend, hflush⟩
  · obtain ⟨answer, rfl, houtcome⟩ := runs_issue_iff.mp hsend
    rw [hcalm _ List.mem_cons_self] at houtcome
    cases houtcome
  · obtain ⟨answer, rfl, houtcome⟩ := runs_issue_iff.mp hsend
    rw [hcalm _ List.mem_cons_self] at houtcome
    cases houtcome
  · obtain ⟨sent, rfl, _⟩ := runs_issue_iff.mp hsend
    obtain ⟨flushed, rfl, rfl⟩ := runs_issue_iff.mp hflush
    have hanswer : flushed = .ready (.ok ()) := hcalm ⟨.flush, flushed⟩ (by simp)
    rw [hanswer]
    exact ⟨List.append_nil _, rfl⟩

theorem runs_receive {trace : List TunnelEvent}
    {outcome : Except Unit (Except IoError (Response × List UInt8))}
    {stream : List UInt8}
    (hruns : Runs (do
      let stream ← receive
      match Response.readFrom.run stream with
      | .error failure => throw failure
      | .ok (response, rest) => return (response, rest) :
        ExceptT IoError Timeout (Response × List UInt8)).run.run trace outcome)
    (hcalm : ∀ event ∈ trace, undisturbed stream event) :
    sentBytes trace = [] ∧ outcome = .ok (Response.readFrom.run stream) := by
  rcases runs_run_run_bind_iff.mp hruns with ⟨rfl, hreceive⟩ | ⟨failure, rfl, hreceive⟩ |
    ⟨received, first, second, rfl, hreceive, hdecode⟩
  · obtain ⟨answer, rfl, houtcome⟩ := runs_issue_iff.mp hreceive
    rw [hcalm _ List.mem_cons_self] at houtcome
    cases houtcome
  · obtain ⟨answer, rfl, houtcome⟩ := runs_issue_iff.mp hreceive
    rw [hcalm _ List.mem_cons_self] at houtcome
    cases houtcome
  · obtain ⟨answer, rfl, houtcome⟩ := runs_issue_iff.mp hreceive
    rw [hcalm _ List.mem_cons_self] at houtcome
    cases houtcome
    cases hdecoded : Response.readFrom.run stream with
    | error failure =>
        simp only [hdecoded] at hdecode
        obtain ⟨rfl, rfl⟩ := runs_run_pure_iff.mp hdecode
        exact ⟨rfl, rfl⟩
    | ok decoded =>
        simp only [hdecoded] at hdecode
        obtain ⟨rfl, rfl⟩ := runs_run_pure_iff.mp hdecode
        exact ⟨rfl, rfl⟩

/-- An undisturbed handshake sends the request and decodes what comes back. -/
theorem runs_handshake {request : Request}
    (hlength : (asBytes request.token).length ≤ 255) {trace : List TunnelEvent}
    {outcome : Except Unit (Except IoError (Response × List UInt8))}
    {stream : List UInt8}
    (hruns : Runs (handshake request).run.run trace outcome)
    (hcalm : ∀ event ∈ trace, undisturbed stream event) :
    sentBytes trace = request.buf ∧ outcome = .ok (Response.readFrom.run stream) := by
  have hwrites : ∀ {first : List TunnelEvent} {written},
      (∀ event ∈ first, undisturbed stream event) →
      Runs (request.writeTo : ExceptT IoError Timeout Unit).run.run first written →
        sentBytes first = request.buf ∧ written = .ok (.ok ()) :=
    fun hcalm hruns => runs_writeTo hlength hruns hcalm
  rcases runs_run_run_bind_iff.mp hruns with ⟨rfl, hwrite⟩ | ⟨failure, rfl, hwrite⟩ |
    ⟨_, first, second, rfl, hwrite, hrest⟩
  · cases (hwrites hcalm hwrite).2
  · cases (hwrites hcalm hwrite).2
  · have hfirst := hwrites (fun event hmem =>
      hcalm event (List.mem_append_left second hmem)) hwrite
    have hsecond : ∀ event ∈ second, undisturbed stream event :=
      fun event hmem => hcalm event (List.mem_append_right first hmem)
    obtain ⟨hsent, rfl⟩ := runs_receive hrest hsecond
    refine ⟨?_, rfl⟩
    rw [sentBytes, List.flatMap_append, ← sentBytes, ← sentBytes, hfirst.1, hsent,
      List.append_nil]

/-- The outcome of a handshake that lets `open` succeed, with what is left to read. -/
def opened : Except Unit (Except IoError (Response × List UInt8)) → Option (List UInt8)
  | .ok (.ok (response, rest)) => if response.status = .ok then some rest else none
  | _ => none

theorem sentBytes_connectAgent {cfg : ServerConfig} {trace : List TunnelEvent}
    (hruns : Runs (connectAgent cfg) trace ()) : sentBytes trace = [] := by
  obtain ⟨connected, rest, rfl, hrest⟩ := runs_perform_bind_iff.mp hruns
  split at hrest
  · obtain ⟨answer, last, rfl, hdone⟩ := runs_perform_bind_iff.mp hrest
    obtain ⟨rfl, _⟩ := runs_pure_iff.mp hdone
    rfl
  · obtain ⟨rfl, _⟩ := runs_pure_iff.mp hrest
    rfl

/-- An undisturbed `open` sends the request and succeeds on an Ok response. -/
theorem runs_openTunnel {cfg : ServerConfig} {cmd : Cmd} {target : Address}
    (hlength : (asBytes cfg.token).length ≤ 255) {trace : List TunnelEvent}
    {result : Except AnyhowError (List UInt8)} {stream : List UInt8}
    (hruns : Runs (openTunnel cfg cmd target).run trace result)
    (hcalm : ∀ event ∈ trace, undisturbed stream event) :
    sentBytes trace = Request.buf ⟨cmd, cfg.token, target⟩ ∧
      result.toOption = opened (.ok (Response.readFrom.run stream)) := by
  obtain ⟨_, first, rest, rfl, hconnect, hrest⟩ := runs_run_lift_bind_iff.mp hruns
  obtain ⟨outcome, second, last, rfl, hhandshake, hlast⟩ :=
    runs_run_lift_bind_iff.mp hrest
  obtain ⟨hsent, rfl⟩ := runs_handshake hlength hhandshake fun event hmem =>
    hcalm event (List.mem_append_right first (List.mem_append_left last hmem))
  have hend : last = [] ∧
      result.toOption = opened (.ok (Response.readFrom.run stream)) := by
    cases hdecoded : Response.readFrom.run stream with
    | error failure =>
        simp only [hdecoded] at hlast
        obtain ⟨rfl, rfl⟩ := runs_run_throw_iff.mp hlast
        exact ⟨rfl, rfl⟩
    | ok decoded =>
        simp only [hdecoded] at hlast
        by_cases hok : decoded.1.status = .ok
        · rw [if_neg (not_not_intro hok)] at hlast
          obtain ⟨rfl, rfl⟩ := runs_run_pure_iff.mp hlast
          exact ⟨rfl, (if_pos hok).symm⟩
        · rw [if_pos hok] at hlast
          obtain ⟨rfl, rfl⟩ := runs_run_throw_iff.mp hlast
          exact ⟨rfl, (if_neg hok).symm⟩
  obtain ⟨rfl, hresult⟩ := hend
  refine ⟨?_, hresult⟩
  rw [List.append_nil, sentBytes, List.flatMap_append, ← sentBytes, ← sentBytes,
    sentBytes_connectAgent hconnect, hsent, List.nil_append]

/-! ## The two sides together -/

/-- The server reads `request` and then `flow`: off one stream, or, over gRPC, off
the first frame and the frames after it. -/
def Arrives (request flow : List UInt8) (trace : List ServerEvent) : Prop :=
  (∃ timeoutSecs rest,
    trace = ⟨.awaitRequest timeoutSecs, .ready (.ok (request ++ flow))⟩ :: rest) ∨
  (∃ timeoutSecs rest,
    trace = ⟨.firstMessage timeoutSecs, .ready (.ok (some ⟨request⟩))⟩ :: rest ∧
    ∀ frames, ⟨.spawnPumps, frames⟩ ∈ rest → frames.flatMap TunnelFrame.payload = flow)

/-- A run of a client and a run of a server over one reliable stream, where the
client's relay writes `flow` behind its handshake. -/
structure Joint (clientTrace : List TunnelEvent) (flow : List UInt8)
    (trace : List ServerEvent) : Prop where
  client : ∀ event ∈ clientTrace, undisturbed (tunnelBytes trace) event
  server : ∀ event ∈ trace, delivered event
  arrives : Arrives (sentBytes clientTrace) flow trace

/-- The handshake did its work: `outcome` is what the client's `open` returned. -/
structure Agreement (server : Endpoint) (request : Request) (flow : List UInt8)
    (trace : List ServerEvent) (outcome : Option (List UInt8)) : Prop where
  /-- One response, before any relayed byte, and the client decodes the verdict. -/
  response : ∃ response, Answered response flow trace ∧
    response.status = verdict server request trace ∧
    ∃ message, Response.readFrom.run (tunnelBytes trace) =
      .ok (⟨verdict server request trace, message⟩, relayedBytes trace)
  /-- `open` succeeds when every stage did. -/
  opens : outcome.isSome ↔ tokenMatches server.token request.token = true ∧
    server.allowed (resolution request.target trace) ≠ [] ∧
    ∃ event ∈ trace, connected event ≠ none
  /-- Each relay reads exactly what the other writes. -/
  aligned : ∀ rest, outcome = some rest → rest = relayedBytes trace ∧
    ∃ event ∈ trace, (∃ idleSecs, event.1 = .relayTcp idleSecs flow) ∨
      ∃ idleSecs, event.1 = .relayUdp idleSecs flow
  /-- Nothing follows a refusal. -/
  refused : outcome = none → ∀ event ∈ trace, event.1.isRelay = false

/-- The server decodes what the client encoded. -/
theorem exists_enters {server : Endpoint} {request : Request} {target : Address}
    {flow : List UInt8} {trace : List ServerEvent}
    (hlength : (asBytes request.token).length ≤ 255)
    (hreceived : request.target.received = some target)
    (hsession : Session server trace) (harrives : Arrives request.buf flow trace) :
    ∃ rest, Enters trace ⟨request.cmd, request.token, target⟩ flow rest := by
  rcases harrives with ⟨timeoutSecs, rest, rfl⟩ | ⟨timeoutSecs, rest, rfl, hframes⟩
  · exact ⟨rest, .stream (readFrom_received hlength hreceived flow)⟩
  · have hread := readFrom_received hlength hreceived []
    rw [List.append_nil] at hread
    rcases hsession with hturned | ⟨decoded, inbound, last, response, henters, _⟩
    · cases hturned with
      | frame hunread =>
          obtain ⟨failure, herror⟩ := hunread _ rfl
          cases hread.symm.trans herror
    · cases henters with
      | frame hdecoded =>
          cases hread.symm.trans hdecoded
          have hflow := hframes _ List.mem_cons_self
          exact ⟨last, hflow ▸ .frame hread⟩

theorem allowed_singleton_eq_nil_iff {server : Endpoint} {addr : SocketAddr} :
    server.allowed [addr] = [] ↔ server.permits addr.ip = false := by
  rw [Endpoint.allowed, List.filter_eq_nil_iff]
  simp

/-- The verdict does not depend on what a target loses on its way. -/
theorem verdict_received {server : Endpoint} {request : Request} {target : Address}
    {trace : List ServerEvent} (hreceived : request.target.received = some target) :
    verdict server ⟨request.cmd, request.token, target⟩ trace =
      verdict server request trace := by
  obtain ⟨cmd, token, address⟩ := request
  cases address with
  | ip addr =>
      cases addr with
      | v4 addr =>
          cases hreceived
          rfl
      | v6 addr =>
          -- The policy looks at the address alone, which does travel.
          cases hreceived
          simp only [verdict, resolution, allowed_singleton_eq_nil_iff, SocketAddr.ip,
            List.cons_ne_nil]
  | domain host port =>
      simp only [Address.received, Option.map_eq_some_iff] at hreceived
      obtain ⟨name, _, rfl⟩ := hreceived
      rfl

/-- Ok is the verdict of exactly the runs in which every stage succeeded. -/
theorem verdict_eq_ok_iff {server : Endpoint} {request : Request}
    {trace : List ServerEvent} :
    verdict server request trace = .ok ↔
      tokenMatches server.token request.token = true ∧
      server.allowed (resolution request.target trace) ≠ [] ∧
      ∃ event ∈ trace, connected event ≠ none := by
  have hdialed : (trace.any fun event => (connected event).isSome) = true ↔
      ∃ event ∈ trace, connected event ≠ none := by
    simp only [List.any_eq_true, Option.isSome_iff_ne_none]
  have hempty : resolution request.target trace = [] →
      server.allowed (resolution request.target trace) = [] := by
    intro hnil
    rw [hnil]
    rfl
  rw [← hdialed]
  unfold verdict
  split
  · next htoken =>
      rw [htoken]
      exact ⟨nofun, fun hall => nomatch hall.1⟩
  · next htoken =>
      rw [Bool.not_eq_false] at htoken
      split
      · next hnone => exact ⟨nofun, fun hall => absurd (hempty hnone) hall.2.1⟩
      · split
        · next hdenied => exact ⟨nofun, fun hall => absurd hdenied hall.2.1⟩
        · next hadmitted =>
            split
            · next hopen => exact ⟨fun _ => ⟨htoken, hadmitted, hopen⟩, fun _ => rfl⟩
            · next hclosed =>
                exact ⟨fun hok => absurd hok (dialStatus_ne_ok trace),
                  fun hall => absurd hall.2.2 hclosed⟩

/-- Two sides over a reliable stream agree, when the request arrives. -/
theorem agreement_of_joint {server : Endpoint} {request : Request} {target : Address}
    {flow : List UInt8} {clientTrace : List TunnelEvent} {trace : List ServerEvent}
    (hlength : (asBytes request.token).length ≤ 255)
    (hreceived : request.target.received = some target)
    (hsession : Session server trace) (hjoint : Joint clientTrace flow trace)
    (hsent : sentBytes clientTrace = request.buf) :
    Agreement server request flow trace
      (opened (.ok (Response.readFrom.run (tunnelBytes trace)))) := by
  obtain ⟨rest, henters⟩ :=
    exists_enters hlength hreceived hsession (hsent ▸ hjoint.arrives)
  obtain ⟨response, hanswered, hstatus⟩ :=
    answered_of_session hsession henters hjoint.server
  rw [verdict_received hreceived] at hstatus
  have hread := reads_response response (relayedBytes trace)
  rw [← hanswered.tunnelBytes_eq, hstatus] at hread
  have houtcome : opened (.ok (Response.readFrom.run (tunnelBytes trace))) =
      if verdict server request trace = .ok then some (relayedBytes trace) else none := by
    rw [hread]
    rfl
  rw [houtcome]
  refine ⟨⟨response, hanswered, hstatus, _, hread⟩, ?_, ?_, ?_⟩
  · rw [← verdict_eq_ok_iff]
    split
    · next hok => exact ⟨fun _ => hok, fun _ => rfl⟩
    · next hrefused => exact ⟨nofun, fun hok => absurd hok hrefused⟩
  · intro leftover hleftover
    split at hleftover
    · next hok =>
        cases hleftover
        exact ⟨rfl, hanswered.exists_relay (hstatus.trans hok)⟩
    · cases hleftover
  · intro hnone
    split at hnone
    · cases hnone
    · next hrefused =>
        exact hanswered.isRelay_of_refused fun hok => hrefused (hstatus.symm.trans hok)

/-! ## When client and server agree -/

/-- An environment in which nothing goes wrong on the client's side. -/
def steady (stream : List UInt8) : (op : TunnelOp) → TunnelAnswer op
  | .connect _ _ _ => ()
  | .setNodelay => .ok ()
  | .send _ => .ready (.ok ())
  | .flush => .ready (.ok ())
  | .receive => .ready stream

theorem undisturbed_of_steady {stream : List UInt8} {event : TunnelEvent}
    (hanswer : event.2 = steady stream event.1) : undisturbed stream event := by
  obtain ⟨op, answer⟩ := event
  cases op with
  | connect dialMs retryMs agent => trivial
  | setNodelay => trivial
  | send bytes => exact hanswer
  | flush => exact hanswer
  | receive => exact hanswer

/-- The runs of the host's `Client::open`. -/
def OpenRuns (cfg : ServerConfig) (request : Request) (trace : List TunnelEvent)
    (outcome : Option (List UInt8)) : Prop :=
  ∃ result, Runs (openTunnel cfg request.cmd request.target).run trace result ∧
    outcome = result.toOption

/-- The runs of the handshake alone, as the proxy client performs it. -/
def HandshakeRuns (request : Request) (trace : List TunnelEvent)
    (outcome : Option (List UInt8)) : Prop :=
  ∃ result, Runs (handshake request).run.run trace result ∧ outcome = opened result

/-- Every joint run of these clients and this server ends in agreement. -/
def Agrees (server : Endpoint) (serverRuns : List ServerEvent → Prop)
    (clientRuns : List TunnelEvent → Option (List UInt8) → Prop) (request : Request) :
    Prop :=
  ∀ flow clientTrace outcome trace, clientRuns clientTrace outcome → serverRuns trace →
    Joint clientTrace flow trace → Agreement server request flow trace outcome

/-- A server that read nothing did not answer. -/
theorem not_agreement_singleton {server : Endpoint} {request : Request}
    {flow : List UInt8} {event : ServerEvent} {outcome : Option (List UInt8)}
    (hentry : event.1.isSend = false) :
    ¬ Agreement server request flow [event] outcome := by
  intro hagreement
  obtain ⟨response, ⟨before, after, hsplit, _⟩, _⟩ := hagreement.response
  have hmem : (⟨.send response.buf, .ok ()⟩ : ServerEvent) ∈ [event] := by
    rw [hsplit]
    exact List.mem_append_right before List.mem_cons_self
  rw [← List.mem_singleton.mp hmem] at hentry
  cases hentry

/-- A joint run in which the request arrives unreadable. -/
theorem exists_joint_of_unread {clientRuns : List TunnelEvent → Option (List UInt8) → Prop}
    {request : Request} {event : ServerEvent}
    (hclient : ∀ trace outcome stream, clientRuns trace outcome →
      (∀ event ∈ trace, undisturbed stream event) → sentBytes trace = request.buf)
    (hplays : ∀ stream, ∃ trace outcome, clientRuns trace outcome ∧
      ∀ event ∈ trace, undisturbed stream event)
    (hdelivered : delivered event) (harrives : Arrives request.buf [] [event]) :
    ∃ clientTrace outcome, clientRuns clientTrace outcome ∧
      Joint clientTrace [] [event] := by
  obtain ⟨clientTrace, outcome, hruns, hcalm⟩ := hplays (tunnelBytes [event])
  refine ⟨clientTrace, outcome, hruns, hcalm, List.forall_mem_singleton.mpr hdelivered, ?_⟩
  rw [hclient clientTrace outcome _ hruns hcalm]
  exact harrives

/-- Agreement for one kind of client and one entry of one server. -/
theorem agrees_iff {server : Endpoint} {serverRuns : List ServerEvent → Prop}
    {clientRuns : List TunnelEvent → Option (List UInt8) → Prop} {request : Request}
    (hlength : (asBytes request.token).length ≤ 255)
    (hsession : ∀ trace, serverRuns trace → Session server trace)
    (hunread : ∀ failure, Request.readFrom.run (request.buf ++ []) = .error failure →
      ∃ event, serverRuns [event] ∧ event.1.isSend = false ∧ delivered event ∧
        Arrives request.buf [] [event])
    (hclient : ∀ trace outcome stream, clientRuns trace outcome →
      (∀ event ∈ trace, undisturbed stream event) →
        sentBytes trace = request.buf ∧
          outcome = opened (.ok (Response.readFrom.run stream)))
    (hplays : ∀ stream, ∃ trace outcome, clientRuns trace outcome ∧
      ∀ event ∈ trace, undisturbed stream event) :
    Agrees server serverRuns clientRuns request ↔ request.target.CutsCleanly := by
  constructor
  · intro hagrees
    by_contra hcut
    obtain ⟨failure, herror⟩ := readFrom_eq_error hlength hcut []
    obtain ⟨event, hruns, hentry, hdelivered, harrives⟩ := hunread failure herror
    obtain ⟨clientTrace, outcome, hclientRuns, hjoint⟩ := exists_joint_of_unread
      (fun trace outcome stream hruns hcalm => (hclient trace outcome stream hruns hcalm).1)
      hplays hdelivered harrives
    exact not_agreement_singleton hentry
      (hagrees [] clientTrace outcome [event] hclientRuns hruns hjoint)
  · intro hcut flow clientTrace outcome trace hclientRuns hruns hjoint
    obtain ⟨target, hreceived⟩ := exists_received_of_cutsCleanly hcut
    obtain ⟨hsent, rfl⟩ := hclient clientTrace outcome _ hclientRuns hjoint.client
    exact agreement_of_joint hlength hreceived (hsession trace hruns) hjoint hsent

section Clients

variable {cfg : ServerConfig} {request : Request}

theorem openRuns_spec (hlength : (asBytes request.token).length ≤ 255)
    (htoken : request.token = cfg.token) {trace : List TunnelEvent}
    {outcome : Option (List UInt8)} {stream : List UInt8}
    (hruns : OpenRuns cfg request trace outcome)
    (hcalm : ∀ event ∈ trace, undisturbed stream event) :
    sentBytes trace = request.buf ∧
      outcome = opened (.ok (Response.readFrom.run stream)) := by
  obtain ⟨result, hruns, rfl⟩ := hruns
  obtain ⟨cmd, token, target⟩ := request
  subst htoken
  exact runs_openTunnel hlength hruns hcalm

theorem exists_openRuns (cfg : ServerConfig) (request : Request) (stream : List UInt8) :
    ∃ trace outcome, OpenRuns cfg request trace outcome ∧
      ∀ event ∈ trace, undisturbed stream event := by
  obtain ⟨trace, result, hruns, hanswers⟩ :=
    exists_runs (steady stream) (openTunnel cfg request.cmd request.target).run
  exact ⟨trace, _, ⟨result, hruns, rfl⟩,
    fun event hmem => undisturbed_of_steady (hanswers event hmem)⟩

theorem handshakeRuns_spec (hlength : (asBytes request.token).length ≤ 255)
    {trace : List TunnelEvent} {outcome : Option (List UInt8)} {stream : List UInt8}
    (hruns : HandshakeRuns request trace outcome)
    (hcalm : ∀ event ∈ trace, undisturbed stream event) :
    sentBytes trace = request.buf ∧
      outcome = opened (.ok (Response.readFrom.run stream)) := by
  obtain ⟨result, hruns, rfl⟩ := hruns
  obtain ⟨hsent, rfl⟩ := runs_handshake hlength hruns hcalm
  exact ⟨hsent, rfl⟩

theorem exists_handshakeRuns (request : Request) (stream : List UInt8) :
    ∃ trace outcome, HandshakeRuns request trace outcome ∧
      ∀ event ∈ trace, undisturbed stream event := by
  obtain ⟨trace, result, hruns, hanswers⟩ :=
    exists_runs (steady stream) (handshake request).run.run
  exact ⟨trace, _, ⟨result, hruns, rfl⟩,
    fun event hmem => undisturbed_of_steady (hanswers event hmem)⟩

end Clients

section Servers

variable {Net : Type} [IpNetwork Net]

def VmRuns (agent : VmConfig Net) (trace : List ServerEvent) : Prop :=
  ∃ result, Runs (Vm.handle agent).run trace result

def QuicRuns (proxy : Server.ServerConfig Net) (trace : List ServerEvent) : Prop :=
  ∃ result, Runs (Proxy.handleStream proxy).run trace result

def GrpcRuns (proxy : Server.ServerConfig Net) (trace : List ServerEvent) : Prop :=
  ∃ result, Runs (Proxy.grpcOpen proxy).run trace result

/-- Client and server agree on the outcome of every handshake, for every entry of
every server, exactly when the target's name was not cut inside a character. -/
theorem handshake_agrees_iff (request : Request)
    (hlength : (asBytes request.token).length ≤ 255) :
    (∀ (cfg : ServerConfig) (agent : VmConfig Net), cfg.token = request.token →
      (Agrees (Vm.endpoint agent) (VmRuns agent) (OpenRuns cfg request) request ↔
        request.target.CutsCleanly)) ∧
    (∀ proxy : Server.ServerConfig Net,
      (Agrees (Proxy.endpoint proxy) (QuicRuns proxy) (HandshakeRuns request) request ↔
        request.target.CutsCleanly)) ∧
    ∀ proxy : Server.ServerConfig Net,
      (Agrees (Proxy.endpoint proxy) (GrpcRuns proxy) (HandshakeRuns request) request ↔
        request.target.CutsCleanly) := by
  refine ⟨?_, ?_, ?_⟩
  · intro cfg agent htoken
    refine agrees_iff hlength (fun trace hruns => ?_) (fun failure hread => ?_)
      (fun _ _ _ hruns hcalm => openRuns_spec hlength htoken.symm hruns hcalm)
      (exists_openRuns cfg request)
    · obtain ⟨result, hruns⟩ := hruns
      exact session_of_handle hruns
    · exact ⟨_, ⟨_, Endpoint.runs_handleStream_of_unread hread⟩, rfl, trivial,
        .inl ⟨_, [], rfl⟩⟩
  · intro proxy
    refine agrees_iff hlength (fun trace hruns => ?_) (fun failure hread => ?_)
      (fun _ _ _ hruns hcalm => handshakeRuns_spec hlength hruns hcalm)
      (exists_handshakeRuns request)
    · obtain ⟨result, hruns⟩ := hruns
      exact session_of_handleStream hruns
    · exact ⟨_, ⟨_, Endpoint.runs_handleStream_of_unread hread⟩, rfl, trivial,
        .inl ⟨_, [], rfl⟩⟩
  · intro proxy
    refine agrees_iff hlength (fun trace hruns => ?_) (fun failure hread => ?_)
      (fun _ _ _ hruns hcalm => handshakeRuns_spec hlength hruns hcalm)
      (exists_handshakeRuns request)
    · obtain ⟨result, hruns⟩ := hruns
      exact session_of_grpcOpen hruns
    · rw [List.append_nil] at hread
      have hfirst : Request.readFrom.run (TunnelFrame.mk request.buf).payload =
        .error failure := hread
      exact ⟨_, ⟨_, runs_grpcOpen_of_unread hfirst⟩, rfl, trivial,
        .inr ⟨_, [], rfl, nofun⟩⟩

end Servers

/-- A flow to an address, opened by the host through the agent. -/
theorem handshake_agrees_sample :
    ∃ clientTrace outcome trace,
      OpenRuns .sample ⟨.connectTcp, "", .ip (.new (.v4 ⟨⟨[10, 1, 2, 3], rfl⟩⟩) 443)⟩
        clientTrace outcome ∧
      VmRuns (.sample [] [] : VmConfig IpNet) trace ∧ Joint clientTrace [1, 2, 3] trace ∧
      Agreement (Vm.endpoint (.sample [] [] : VmConfig IpNet))
        ⟨.connectTcp, "", .ip (.new (.v4 ⟨⟨[10, 1, 2, 3], rfl⟩⟩) 443)⟩ [1, 2, 3] trace
        outcome ∧
      outcome.isSome = true := by
  let request : Request :=
    ⟨.connectTcp, "", .ip (.new (.v4 ⟨⟨[10, 1, 2, 3], rfl⟩⟩) 443)⟩
  let server := Vm.endpoint (.sample [] [] : VmConfig IpNet)
  have hencodable : request.Encodable := ⟨by decide, trivial⟩
  obtain ⟨rest, result, hruns, ⟨event, hmem, hconnected⟩, hdelivered⟩ :=
    server.exists_runs_handleRequest (.new (.v4 ⟨⟨[10, 1, 2, 3], rfl⟩⟩) 443) rfl [1, 2, 3]
  let entry : ServerEvent := ⟨.awaitRequest 10, .ready (.ok (request.buf ++ [1, 2, 3]))⟩
  have hentry : delivered entry := trivial
  have hhandle : VmRuns (.sample [] [] : VmConfig IpNet) (entry :: rest) :=
    ⟨result, Endpoint.runs_handleStream_of_read (readFrom_buf hencodable [1, 2, 3]) hruns⟩
  obtain ⟨clientTrace, outcome, hopen, hcalm⟩ :=
    exists_openRuns .sample request (tunnelBytes (entry :: rest))
  have hsent := (openRuns_spec (by decide) rfl hopen hcalm).1
  have hjoint : Joint clientTrace [1, 2, 3] (entry :: rest) :=
    ⟨hcalm, List.forall_mem_cons.mpr ⟨hentry, hdelivered⟩, .inl ⟨10, rest, by rw [hsent]⟩⟩
  have hagreement := ((handshake_agrees_iff request (by decide)).1 .sample _ rfl).mpr trivial
    [1, 2, 3] clientTrace outcome _ hopen hhandle hjoint
  refine ⟨clientTrace, outcome, _, hopen, hhandle, hjoint, hagreement, ?_⟩
  have hadmitted : server.allowed [.new (.v4 ⟨⟨[10, 1, 2, 3], rfl⟩⟩) 443] ≠ [] := by decide
  refine hagreement.opens.mpr
    ⟨tokenMatches_self "", hadmitted, event, List.mem_cons_of_mem _ hmem, ?_⟩
  rw [hconnected]
  exact nofun

/-! ## A name cut inside a character -/

/-- A name of 256 bytes whose last character takes two of them. -/
def longName : String :=
  String.ofList (List.replicate 254 'a' ++ ['é'])

theorem not_cutsCleanly_longName : ¬ (Address.domain longName 443).CutsCleanly := by
  have hchars : longName.toList = List.replicate 254 'a' ++ ['é'] := String.toList_ofList
  have hone : 'a'.utf8Size = 1 := by decide
  have hlast : (encodeChars ['é']).length = 2 := by decide
  have hlong : (asBytes longName).length = 254 * 1 + 2 := by
    rw [asBytes_eq_encodeChars, hchars, encodeChars_append, List.length_append,
      length_encodeChars_replicate, hone, hlast]
  rw [cutsCleanly_iff_isCharBoundary (by omega)]
  rintro ⟨kept, hkept, hlength⟩
  rw [hchars] at hkept
  -- With the last character the text is too long, without it too short.
  rcases List.prefix_concat_iff.mp hkept with rfl | hkept
  · rw [encodeChars_append, List.length_append, length_encodeChars_replicate, hone,
      hlast] at hlength
    omega
  · obtain ⟨hcount, hreplicate⟩ := List.prefix_replicate_iff.mp hkept
    rw [hreplicate, length_encodeChars_replicate, hone] at hlength
    omega

/-- The client encodes a request for the long name without an error, and the agent
ends the session without a word. -/
theorem handshake_disagrees :
    (∃ bytes, writeToVec (Request.writeTo ⟨.connectTcp, "", .domain longName 443⟩) [] =
      (.ok (), bytes)) ∧
    ∃ clientTrace outcome trace,
      OpenRuns .sample ⟨.connectTcp, "", .domain longName 443⟩ clientTrace outcome ∧
      VmRuns (.sample [] [] : VmConfig IpNet) trace ∧ Joint clientTrace [] trace ∧
      tunnelBytes trace = [] ∧
      ¬ Agreement (Vm.endpoint (.sample [] [] : VmConfig IpNet))
        ⟨.connectTcp, "", .domain longName 443⟩ [] trace outcome := by
  let request : Request := ⟨.connectTcp, "", .domain longName 443⟩
  let entry : ServerEvent := ⟨.awaitRequest 10, .ready (.ok (request.buf ++ []))⟩
  have hlength : (asBytes request.token).length ≤ 255 := by decide
  have hcut : ¬ request.target.CutsCleanly := not_cutsCleanly_longName
  refine ⟨⟨_, writeToVec_request _ _⟩, ?_⟩
  obtain ⟨failure, hread⟩ := readFrom_eq_error hlength hcut []
  have hentry : delivered entry := trivial
  obtain ⟨clientTrace, outcome, hopen, hjoint⟩ := exists_joint_of_unread
    (fun _ _ _ hruns hcalm => (openRuns_spec hlength rfl hruns hcalm).1)
    (exists_openRuns .sample request) hentry (.inl ⟨10, [], rfl⟩)
  exact ⟨clientTrace, outcome, [entry], hopen,
    ⟨_, Endpoint.runs_handleStream_of_unread hread⟩, hjoint, rfl,
    not_agreement_singleton rfl⟩

end VpnBridge.Host
