import VpnBridge.Host.Handshake
import VpnBridge.Server.Commands

/-!
# Flows and their destinations

The IP stack hands a flow over with the address that the application has dialled.  The
flow's task opens a tunnel for that address; the server at the other end of the tunnel then
touches nothing but this address, with the protocol of the flow, and the two relays continue
each other.
-/

namespace VpnBridge.Relay

open VpnBridge.Host VpnBridge.Interaction VpnBridge.Net VpnBridge.Proto VpnBridge.Server

/-- What the IP stack hands over, with the address that the application has dialled. -/
inductive IpStackStream where
  | tcp (destination : SocketAddr)
  | udp (destination : SocketAddr)
  | unknownTransport
  | unknownNetwork

/-- What the task of a flow comes to. -/
inductive FlowEnd where
  /-- `relay_tcp`, over what is left of the tunnel. -/
  | relayTcp (inbound : List UInt8)
  | relayUdp (inbound : List UInt8)
  /-- The local connection is shut down. -/
  | shutDown
  /-- The local flow is only dropped. -/
  | dropped
  deriving DecidableEq

/-- The task that `dispatch` spawns, where `openFlow` opens the tunnel and `refused` is what
becomes of a TCP flow without one. -/
def dispatch (refused : FlowEnd) (openFlow : Cmd → Address → TunnelProg (Option (List UInt8))) :
    IpStackStream → Option (TunnelProg FlowEnd)
  | .tcp destination => some do
      match ← openFlow .connectTcp (.ip destination) with
      | none => return refused
      | some inbound => return .relayTcp inbound
  | .udp destination => some do
      match ← openFlow .bindUdp (.ip destination) with
      | none => return .dropped
      | some inbound => return .relayUdp inbound
  | .unknownTransport => none
  | .unknownNetwork => none

/-- The host's `dispatch`: the application, whose handshake is complete, is sent a FIN when
there is no tunnel. -/
def hostDispatch (cfg : Host.ServerConfig) : IpStackStream → Option (TunnelProg FlowEnd) :=
  dispatch .shutDown fun cmd target => do
    let opened ← (openTunnel cfg cmd target).run
    return opened.toOption

/-- The proxy client's `dispatch`, with the attempt of its `open` that decides. -/
def clientDispatch (token : String) : IpStackStream → Option (TunnelProg FlowEnd) :=
  dispatch .dropped fun cmd target => do
    let answered ← (handshake ⟨cmd, token, target⟩).run.run
    return opened answered

/-- The command and the destination of a flow. -/
def IpStackStream.flow : IpStackStream → Option (Cmd × SocketAddr)
  | .tcp destination => some (.connectTcp, destination)
  | .udp destination => some (.bindUdp, destination)
  | .unknownTransport => none
  | .unknownNetwork => none

def FlowEnd.relay : Cmd → List UInt8 → FlowEnd
  | .connectTcp, inbound => .relayTcp inbound
  | .bindUdp, inbound => .relayUdp inbound

/-- What becomes of a flow without a tunnel. -/
def FlowEnd.refusal (refused : FlowEnd) : Cmd → FlowEnd
  | .connectTcp => refused
  | .bindUdp => .dropped

/-- How a flow fares between its task, which ended with `finish`, and the session `trace` of
the server, when the task's relay writes `flow`. -/
structure Bridged (server : Endpoint) (token : String) (refused : FlowEnd) (cmd : Cmd)
    (destination : SocketAddr) (flow : List UInt8) (trace : List ServerEvent)
    (finish : FlowEnd) : Prop where
  /-- No name is looked up. -/
  names : ∀ event ∈ trace, event.1.resolved = none
  /-- Nothing but the destination is dialled, and only if the policy admits it. -/
  dials : ∀ event ∈ trace, ∀ peer, event.1.peer = some peer →
    peer.ip = destination.ip ∧ peer.port = destination.port ∧
      server.permits destination.ip = true
  /-- The sockets are of the flow's protocol. -/
  suits : ∀ event ∈ trace, Suits cmd event.1
  /-- The flow is relayed when the server has connected to the destination. -/
  relays : (∃ inbound, finish = .relay cmd inbound) ↔
    tokenMatches server.token token = true ∧ server.permits destination.ip = true ∧
      ∃ event ∈ trace, connected event ≠ none
  /-- Then either relay reads what the other one writes. -/
  aligned : ∀ inbound, finish = .relay cmd inbound → inbound = relayedBytes trace ∧
    ∃ event ∈ trace, (∃ idleSecs, event.1 = .relayTcp idleSecs flow) ∨
      ∃ idleSecs, event.1 = .relayUdp idleSecs flow
  /-- Otherwise it ends on either side. -/
  ends : (∀ inbound, finish ≠ .relay cmd inbound) →
    finish = refused.refusal cmd ∧ ∀ event ∈ trace, event.1.isRelay = false

/-- Every flow of this `dispatch` is bridged by every session of this server. -/
def Bridges (server : Endpoint) (serverRuns : List ServerEvent → Prop) (token : String)
    (refused : FlowEnd) (dispatch : IpStackStream → Option (TunnelProg FlowEnd)) : Prop :=
  ∀ stream task flow clientTrace finish trace, dispatch stream = some task →
    Runs task clientTrace finish → serverRuns trace → Joint clientTrace flow trace →
      ∃ cmd destination, stream.flow = some (cmd, destination) ∧
        Bridged server token refused cmd destination flow trace finish

/-! ## The server's side -/

section Sessions

variable {server : Endpoint} {token : String} {cmd : Cmd} {addr : SocketAddr}
variable {trace rest : List ServerEvent} {flow : List UInt8}

/-- Flow labels and scopes do not travel. -/
theorem exists_received (destination : SocketAddr) :
    ∃ addr : SocketAddr, (Address.ip destination).received = some (.ip addr) ∧
      addr.ip = destination.ip ∧ addr.port = destination.port := by
  cases destination with
  | v4 addr => exact ⟨_, rfl, rfl, rfl⟩
  | v6 addr => exact ⟨_, rfl, rfl, rfl⟩

/-- To read a request, a server neither looks up nor dials. -/
theorem mem_of_enters {request : Request} (henters : Enters trace request flow rest)
    {event : ServerEvent} (hmem : event ∈ trace) :
    (event.1.resolved = none ∧ event.1.peer = none) ∨ event ∈ rest := by
  cases henters with
  | stream =>
      rcases List.mem_cons.mp hmem with rfl | hrest
      · exact .inl ⟨rfl, rfl⟩
      · exact .inr hrest
  | frame =>
      rcases List.mem_cons.mp hmem with rfl | hmem
      · exact .inl ⟨rfl, rfl⟩
      · rcases List.mem_cons.mp hmem with rfl | hrest
        · exact .inl ⟨rfl, rfl⟩
        · exact .inr hrest

/-- A session that has read a request for an address looks nothing up and dials nothing
else. -/
theorem dials_of_session {Net : Type} [IpNetwork Net] {allow deny : List Net}
    (hpermits : server.permits = permits allow deny) (hsession : Session server trace)
    (henters : Enters trace ⟨cmd, token, .ip addr⟩ flow rest) :
    ∀ event ∈ trace, event.1.resolved = none ∧
      ∀ peer, event.1.peer = some peer → peer = addr ∧ server.permits addr.ip = true := by
  intro event hmem
  rcases authorizedSession_of_session hpermits hsession with
    huntouched | ⟨request, inbound, rest', henters', hauthorized⟩
  · obtain ⟨hname, hdial, -⟩ := not_touches_iff.mp (huntouched event hmem)
    refine ⟨hname, fun peer hpeer => ?_⟩
    rw [isDial_of_peer hpeer] at hdial
    cases hdial
  · obtain ⟨rfl, rfl, rfl⟩ := henters.unique henters'
    rcases mem_of_enters henters hmem with ⟨hname, hpeer⟩ | hrest
    · exact ⟨hname, fun peer heq => nomatch hpeer.symm.trans heq⟩
    · refine ⟨?_, fun peer hpeer => ?_⟩
      · cases hname : event.1.resolved with
        | none => rfl
        | some name => cases hauthorized.lookups event hrest name.1 name.2 hname
      · obtain ⟨before, after, hsplit⟩ := List.append_of_mem hrest
        obtain ⟨⟨candidates, hresolved, hcandidate⟩, hadmitted, _⟩ :=
          hauthorized.connects before event after peer hsplit hpeer
        -- The candidates of an address are the address.
        cases hresolved
        cases List.mem_singleton.mp hcandidate
        exact ⟨rfl, hpermits ▸ hadmitted⟩

end Sessions

/-! ## The task of a flow -/

/-- The end of a flow whose tunnel came to `opening`. -/
def FlowEnd.after (refused : FlowEnd) (cmd : Cmd) : Option (List UInt8) → FlowEnd
  | none => refused.refusal cmd
  | some inbound => .relay cmd inbound

section Tasks

variable {refused : FlowEnd} {openFlow : Cmd → Address → TunnelProg (Option (List UInt8))}

/-- A task opens one tunnel, for the flow that it was spawned for. -/
theorem dispatch_eq (stream : IpStackStream) :
    dispatch refused openFlow stream = stream.flow.map fun flow => do
      let opening ← openFlow flow.1 (.ip flow.2)
      return .after refused flow.1 opening := by
  cases stream with
  | tcp destination =>
      exact congrArg some (congrArg (bind _) (funext fun opening => by cases opening <;> rfl))
  | udp destination =>
      exact congrArg some (congrArg (bind _) (funext fun opening => by cases opening <;> rfl))
  | unknownTransport => rfl
  | unknownNetwork => rfl

theorem runs_dispatch {stream : IpStackStream} {task : TunnelProg FlowEnd}
    (htask : dispatch refused openFlow stream = some task) {trace : List TunnelEvent}
    {finish : FlowEnd} (hruns : Runs task trace finish) :
    ∃ cmd destination opening, stream.flow = some (cmd, destination) ∧
      Runs (openFlow cmd (.ip destination)) trace opening ∧
      finish = .after refused cmd opening := by
  rw [dispatch_eq, Option.map_eq_some_iff] at htask
  obtain ⟨⟨cmd, destination⟩, hflow, rfl⟩ := htask
  obtain ⟨opening, hopen, hfinish⟩ := runs_bind_pure_iff.mp hruns
  exact ⟨cmd, destination, opening, hflow, hopen, hfinish⟩

theorem relay_injective {cmd : Cmd} {inbound inbound' : List UInt8}
    (hsame : FlowEnd.relay cmd inbound = .relay cmd inbound') : inbound = inbound' := by
  cases cmd with
  | connectTcp => exact FlowEnd.relayTcp.inj hsame
  | bindUdp => exact FlowEnd.relayUdp.inj hsame

/-- The flow is relayed when the tunnel was opened, with what the tunnel has left. -/
theorem after_eq_relay_iff {cmd : Cmd} {opening : Option (List UInt8)} {inbound : List UInt8}
    (hrefused : ∀ inbound, refused.refusal cmd ≠ .relay cmd inbound) :
    FlowEnd.after refused cmd opening = .relay cmd inbound ↔ opening = some inbound := by
  cases opening with
  | none => exact ⟨fun hrelay => absurd hrelay (hrefused inbound), nofun⟩
  | some left =>
      refine ⟨fun hrelay => ?_, fun hleft => ?_⟩
      · rw [relay_injective hrelay]
      · rw [Option.some.inj hleft]
        rfl

end Tasks

/-! ## Both together -/

section Bridging

variable {Net : Type} [IpNetwork Net] {allow deny : List Net} {server : Endpoint}
variable {serverRuns : List ServerEvent → Prop} {token : String} {refused : FlowEnd}

/-- The destination is what a run resolves for a flow. -/
theorem allowed_flow_ne_nil_iff {destination : SocketAddr} {trace : List ServerEvent} :
    server.allowed (resolution (.ip destination) trace) ≠ [] ↔
      server.permits destination.ip = true := by
  rw [resolution, ne_eq, allowed_singleton_eq_nil_iff, Bool.not_eq_false]

theorem bridged_of_joint (hpermits : server.permits = permits allow deny)
    (hlawful : server.Lawful) (hsuited : server.Suited)
    (hlength : (asBytes token).length ≤ 255) {cmd : Cmd} {destination : SocketAddr}
    (hrefused : ∀ inbound, refused.refusal cmd ≠ .relay cmd inbound)
    {flow : List UInt8} {clientTrace : List TunnelEvent} {trace : List ServerEvent}
    (hentered : server.Entered trace) (hjoint : Joint clientTrace flow trace)
    (hsent : sentBytes clientTrace = Request.buf ⟨cmd, token, .ip destination⟩) :
    Bridged server token refused cmd destination flow trace
      (.after refused cmd (opened (.ok (Response.readFrom.run (tunnelBytes trace))))) := by
  have hsession := Endpoint.session_of_entered hlawful hentered
  obtain ⟨addr, hreceived, hip, hport⟩ := exists_received destination
  have harrives : Arrives (Request.buf ⟨cmd, token, .ip destination⟩) flow trace :=
    hsent ▸ hjoint.arrives
  obtain ⟨rest, henters⟩ := @exists_enters server ⟨cmd, token, .ip destination⟩ (.ip addr)
    flow trace hlength hreceived hsession harrives
  have hdials := dials_of_session hpermits hsession henters
  have hagreement : Agreement server ⟨cmd, token, .ip destination⟩ flow trace
      (opened (.ok (Response.readFrom.run (tunnelBytes trace)))) :=
    agreement_of_joint hlength hreceived hsession hjoint hsent
  generalize opened (.ok (Response.readFrom.run (tunnelBytes trace))) = opening at hagreement ⊢
  have hrelays : (∃ inbound, FlowEnd.after refused cmd opening = .relay cmd inbound) ↔
      opening.isSome := by
    simp only [after_eq_relay_iff hrefused, Option.isSome_iff_exists]
  exact {
    names := fun event hmem => (hdials event hmem).1
    dials := fun event hmem peer hpeer => by
      obtain ⟨rfl, hadmitted⟩ := (hdials event hmem).2 peer hpeer
      exact ⟨hip, hport, hip ▸ hadmitted⟩
    suits := Endpoint.suits_of_entered hsuited hentered henters
    relays := by
      rw [hrelays, hagreement.opens, allowed_flow_ne_nil_iff]
    aligned := fun inbound hrelay =>
      hagreement.aligned inbound ((after_eq_relay_iff hrefused).mp hrelay)
    ends := fun hended => by
      have hnone : opening = none := by
        cases opening with
        | none => rfl
        | some inbound => exact absurd rfl (hended inbound)
      rw [hnone]
      exact ⟨rfl, hagreement.refused hnone⟩ }

/-- A `dispatch` whose tunnels are opened by this handshake bridges its flows. -/
theorem bridges_of_opens {openFlow : Cmd → Address → TunnelProg (Option (List UInt8))}
    (hpermits : server.permits = permits allow deny) (hlawful : server.Lawful)
    (hsuited : server.Suited) (hlength : (asBytes token).length ≤ 255)
    (hrefused : ∀ cmd inbound, refused.refusal cmd ≠ .relay cmd inbound)
    (hentered : ∀ trace, serverRuns trace → server.Entered trace)
    (hopens : ∀ cmd target trace opening stream, Runs (openFlow cmd target) trace opening →
      (∀ event ∈ trace, undisturbed stream event) →
        sentBytes trace = Request.buf ⟨cmd, token, target⟩ ∧
          opening = opened (.ok (Response.readFrom.run stream))) :
    Bridges server serverRuns token refused (dispatch refused openFlow) := by
  intro stream task flow clientTrace finish trace htask hruns hserver hjoint
  obtain ⟨cmd, destination, opening, hflow, hopen, rfl⟩ := runs_dispatch htask hruns
  obtain ⟨hsent, rfl⟩ := hopens _ _ _ _ _ hopen hjoint.client
  exact ⟨cmd, destination, hflow, bridged_of_joint hpermits hlawful hsuited hlength
    (hrefused cmd) (hentered trace hserver) hjoint hsent⟩

/-- The runs of the host's task are those of its `open`. -/
theorem openRuns_of_hostDispatch {cfg : Host.ServerConfig} {cmd : Cmd} {target : Address}
    {trace : List TunnelEvent} {opening : Option (List UInt8)}
    (hruns : Runs (do let opened ← (openTunnel cfg cmd target).run; return opened.toOption)
      trace opening) :
    OpenRuns cfg ⟨cmd, cfg.token, target⟩ trace opening :=
  runs_bind_pure_iff.mp hruns

theorem refusal_ne_relay (hrefused : refused = .shutDown ∨ refused = .dropped) (cmd : Cmd)
    (inbound : List UInt8) : refused.refusal cmd ≠ .relay cmd inbound := by
  rcases hrefused with rfl | rfl <;> cases cmd <;> exact nofun

end Bridging

/-- Whatever the IP stack hands over, its flow reaches the dialled destination or nothing:
between the host and the agent and between the proxy client and either entry of its server,
as long as the token can be sent. -/
theorem flows_reach_their_destinations {Net : Type} [IpNetwork Net] (token : String)
    (hlength : (asBytes token).length ≤ 255) :
    (∀ (cfg : Host.ServerConfig) (agent : VmConfig Net), cfg.token = token →
      Bridges (Vm.endpoint agent) (VmRuns agent) token .shutDown (hostDispatch cfg)) ∧
    ∀ proxy : Server.ServerConfig Net,
      Bridges (Proxy.endpoint proxy) (QuicRuns proxy) token .dropped (clientDispatch token) ∧
      Bridges (Proxy.endpoint proxy) (GrpcRuns proxy) token .dropped (clientDispatch token) := by
  have hclient : ∀ cmd target trace opening stream,
      Runs (do let answered ← (handshake ⟨cmd, token, target⟩).run.run; return opened answered)
        trace opening →
      (∀ event ∈ trace, undisturbed stream event) →
        sentBytes trace = Request.buf ⟨cmd, token, target⟩ ∧
          opening = opened (.ok (Response.readFrom.run stream)) :=
    fun _ _ _ _ _ hruns hcalm =>
      handshakeRuns_spec hlength (runs_bind_pure_iff.mp hruns) hcalm
  refine ⟨fun cfg agent htoken => ?_, fun proxy => ⟨?_, ?_⟩⟩
  · subst htoken
    refine bridges_of_opens rfl (lawful_vm agent) (suited_vm agent) hlength
      (refusal_ne_relay (.inl rfl)) (fun trace hruns => ?_)
      fun _ _ _ _ _ hruns hcalm =>
        openRuns_spec hlength rfl (openRuns_of_hostDispatch hruns) hcalm
    obtain ⟨result, hruns⟩ := hruns
    exact Endpoint.entered_of_handleStream hruns
  · refine bridges_of_opens rfl (lawful_proxy proxy) (suited_proxy proxy) hlength
      (refusal_ne_relay (.inr rfl)) (fun trace hruns => ?_) hclient
    obtain ⟨result, hruns⟩ := hruns
    exact Endpoint.entered_of_handleStream hruns
  · refine bridges_of_opens rfl (lawful_proxy proxy) (suited_proxy proxy) hlength
      (refusal_ne_relay (.inr rfl)) (fun trace hruns => ?_) hclient
    obtain ⟨result, hruns⟩ := hruns
    exact entered_of_grpcOpen hruns

/-- The host relays a flow to an address that its agent has dialled. -/
theorem flows_reach_their_destinations_sample :
    ∃ task clientTrace finish trace,
      hostDispatch .sample (.tcp (.new (.v4 ⟨⟨[10, 1, 2, 3], rfl⟩⟩) 443)) = some task ∧
      Runs task clientTrace finish ∧
      VmRuns (.sample [] [] : VmConfig IpNet) trace ∧ Joint clientTrace [1, 2, 3] trace ∧
      Bridged (Vm.endpoint (.sample [] [] : VmConfig IpNet)) "" .shutDown .connectTcp
        (.new (.v4 ⟨⟨[10, 1, 2, 3], rfl⟩⟩) 443) [1, 2, 3] trace finish ∧
      finish = .relayTcp (relayedBytes trace) := by
  let destination : SocketAddr := .new (.v4 ⟨⟨[10, 1, 2, 3], rfl⟩⟩) 443
  let request : Request := ⟨.connectTcp, "", .ip destination⟩
  let server := Vm.endpoint (.sample [] [] : VmConfig IpNet)
  have hlength : (asBytes "").length ≤ 255 := by decide
  have hencodable : request.Encodable := ⟨hlength, trivial⟩
  obtain ⟨rest, result, hruns, ⟨event, hmem, hconnected⟩, hdelivered⟩ :=
    server.exists_runs_handleRequest destination rfl [1, 2, 3]
  let trace : List ServerEvent :=
    ⟨.awaitRequest 10, .ready (.ok (request.buf ++ [1, 2, 3]))⟩ :: rest
  have hhandle : VmRuns (.sample [] [] : VmConfig IpNet) trace :=
    ⟨result, Endpoint.runs_handleStream_of_read (readFrom_buf hencodable [1, 2, 3]) hruns⟩
  obtain ⟨task, htask⟩ : ∃ task, hostDispatch .sample (.tcp destination) = some task := ⟨_, rfl⟩
  obtain ⟨clientTrace, finish, htaskRuns, hanswers⟩ := exists_runs (steady (tunnelBytes trace)) task
  have hcalm : ∀ event ∈ clientTrace, undisturbed (tunnelBytes trace) event :=
    fun event hmem => undisturbed_of_steady (hanswers event hmem)
  have hsent : sentBytes clientTrace = request.buf := by
    obtain ⟨cmd, addr, opening, hflow, hopen, _⟩ := runs_dispatch htask htaskRuns
    cases hflow
    exact (openRuns_spec hlength rfl (openRuns_of_hostDispatch hopen) hcalm).1
  have hjoint : Joint clientTrace [1, 2, 3] trace :=
    ⟨hcalm, List.forall_mem_cons.mpr ⟨trivial, hdelivered⟩, .inl ⟨10, rest, by rw [hsent]⟩⟩
  obtain ⟨cmd, addr, hflow, hbridged⟩ := (flows_reach_their_destinations "" hlength).1 .sample
    (.sample [] [] : VmConfig IpNet) rfl _ task [1, 2, 3] clientTrace finish trace htask htaskRuns
    hhandle hjoint
  cases hflow
  have hdialed : ∃ event ∈ trace, connected event ≠ none := by
    refine ⟨event, List.mem_cons_of_mem _ hmem, ?_⟩
    rw [hconnected]
    exact nofun
  obtain ⟨inbound, hrelay⟩ := hbridged.relays.mpr ⟨tokenMatches_self "", by decide, hdialed⟩
  have hinbound := (hbridged.aligned inbound hrelay).1
  exact ⟨task, clientTrace, finish, trace, htask, htaskRuns, hhandle, hjoint, hbridged,
    hinbound ▸ hrelay⟩

end VpnBridge.Relay
