import VpnBridge.Core.TaskSystem
import VpnBridge.Server.Authorization

/-!
# Accept loops

The VM agent and the proxy server as a whole: their accept loops spawn a task for
every session, and the tasks run at the same time.  No session sees anything of
another one, so what authorizes a dial is what that very session has read and
resolved, however many there are and in whatever order they go on.
-/

namespace VpnBridge.Server

open VpnBridge.Interaction VpnBridge.Net VpnBridge.Proto VpnBridge.TransitionSystem

variable {Net : Type} [IpNetwork Net]

/-! ## VM agent -/

/-- The task of an accepted connection, which only logs how the session ended. -/
def Vm.serveSession (cfg : VmConfig Net) : ServerProg Unit := do
  let _ ← (Vm.handle cfg).run
  return ()

structure VmServer where
  /-- The loop rests after a failed accept. -/
  resting : Bool
  tasks : List (ServerProg Unit)

inductive VmServerEvent where
  | accepted
  | acceptFailed (failure : IoError)
  /-- A hundred milliseconds later. -/
  | rested
  /-- One of the sessions goes on. -/
  | task (id : ℕ) (event : ServerEvent)

namespace VmServer

def start : VmServer := ⟨false, []⟩

/-- `run`, once its listener is bound. -/
def step (cfg : VmConfig Net) (server : VmServer) : VmServerEvent → Option VmServer
  | .accepted =>
      if server.resting = false then
        some { server with tasks := server.tasks ++ [Vm.serveSession cfg] }
      else none
  | .acceptFailed _ =>
      if server.resting = false then some { server with resting := true } else none
  | .rested => if server.resting = true then some { server with resting := false } else none
  | .task id event =>
      (advanceAt server.tasks id event).map fun tasks => { server with tasks }

/-- The session that an event starts. -/
def spawned (cfg : VmConfig Net) : VmServerEvent → List (ServerProg Unit)
  | .accepted => [Vm.serveSession cfg]
  | _ => []

/-- What an event is to one of the sessions. -/
def did : VmServerEvent → List (ℕ × ServerEvent)
  | .task id event => [(id, event)]
  | _ => []

end VmServer

/-! ## Proxy server -/

/-- The task of a QUIC stream. -/
def Proxy.serveStream (cfg : ServerConfig Net) : ServerProg Unit := do
  let _ ← (Proxy.handleStream cfg).run
  return ()

/-- A call of the gRPC service; tonic reports a refusal to the caller. -/
def Proxy.serveCall (cfg : ServerConfig Net) : ServerProg Unit := do
  let _ ← (Proxy.grpcOpen cfg).run
  return ()

/-- A QUIC connection, as the task that serves it sees it. -/
inductive QuicConnection where
  | handshaking
  | established
  | over
  deriving DecidableEq

structure ProxyServer where
  connections : List QuicConnection
  tasks : List (ServerProg Unit)
  /-- What the `select!` of `main` comes to, when one of its branches ends. -/
  result : Option (Except AnyhowError Unit)

inductive ProxyServerEvent where
  | incoming
  | established (id : ℕ)
  | handshakeFailed (id : ℕ)
  /-- `accept_bi` returns a stream of the connection. -/
  | stream (id : ℕ)
  /-- `accept_bi` fails. -/
  | connectionLost (id : ℕ)
  /-- A call of the gRPC service. -/
  | call
  /-- The endpoint accepts no more. -/
  | endpointClosed
  /-- The gRPC server ends. -/
  | grpcEnded (result : Except AnyhowError Unit)
  | ctrlC
  /-- One of the sessions goes on. -/
  | task (id : ℕ) (event : ServerEvent)

namespace ProxyServer

def start : ProxyServer := ⟨[], [], none⟩

/-- The branches of the `select!` of `main`, until one of them ends. -/
def select (cfg : ServerConfig Net) (server : ProxyServer) : ProxyServerEvent → Option ProxyServer
  | .incoming =>
      if cfg.quicEnabled = true then
        some { server with connections := server.connections ++ [.handshaking] }
      else none
  | .endpointClosed =>
      if cfg.quicEnabled = true then some { server with result := some (.ok ()) } else none
  | .grpcEnded result =>
      if cfg.grpcEnabled = true then some { server with result := some result } else none
  | .ctrlC => some { server with result := some (.ok ()) }
  | _ => none

/-- Connections, calls and sessions have tasks of their own, which go on for as long as the
process is there. -/
def step (cfg : ServerConfig Net) (server : ProxyServer) : ProxyServerEvent → Option ProxyServer
  | .established id =>
      if server.connections[id]? = some .handshaking then
        some { server with connections := server.connections.set id .established }
      else none
  | .handshakeFailed id =>
      if server.connections[id]? = some .handshaking then
        some { server with connections := server.connections.set id .over }
      else none
  | .stream id =>
      if server.connections[id]? = some .established then
        some { server with tasks := server.tasks ++ [Proxy.serveStream cfg] }
      else none
  | .connectionLost id =>
      if server.connections[id]? = some .established then
        some { server with connections := server.connections.set id .over }
      else none
  | .call =>
      if cfg.grpcEnabled = true then
        some { server with tasks := server.tasks ++ [Proxy.serveCall cfg] }
      else none
  | .task id event =>
      (advanceAt server.tasks id event).map fun tasks => { server with tasks }
  | event => if server.result.isNone = true then server.select cfg event else none

/-- The session that an event starts. -/
def spawned (cfg : ServerConfig Net) : ProxyServerEvent → List (ServerProg Unit)
  | .stream _ => [Proxy.serveStream cfg]
  | .call => [Proxy.serveCall cfg]
  | _ => []

/-- What an event is to one of the sessions. -/
def did : ProxyServerEvent → List (ℕ × ServerEvent)
  | .task id event => [(id, event)]
  | _ => []

end ProxyServer

/-! ## The tasks of a server -/

section Tasks

variable {cfg : VmConfig Net} {proxy : ServerConfig Net}

theorem VmServer.tends (server : VmServer) (event : VmServerEvent) (next : VmServer)
    (hstep : server.step cfg event = some next) :
    Tends server.tasks (VmServer.spawned cfg event) (VmServer.did event) next.tasks := by
  cases event with
  | accepted =>
      obtain ⟨-, hnext⟩ := Option.ite_none_right_eq_some.mp hstep
      cases hnext
      exact .spawn _
  | acceptFailed failure =>
      obtain ⟨-, hnext⟩ := Option.ite_none_right_eq_some.mp hstep
      cases hnext
      exact .keep
  | rested =>
      obtain ⟨-, hnext⟩ := Option.ite_none_right_eq_some.mp hstep
      cases hnext
      exact .keep
  | task id event =>
      obtain ⟨tasks, hadvance, rfl⟩ := Option.map_eq_some_iff.mp hstep
      exact .advance hadvance

omit [IpNetwork Net] in
/-- No branch of `main` itself touches the sessions. -/
theorem ProxyServer.tasks_of_select {server next : ProxyServer} {event : ProxyServerEvent}
    (hselect : server.select proxy event = some next) : next.tasks = server.tasks := by
  cases event with
  | incoming =>
      obtain ⟨-, hnext⟩ := Option.ite_none_right_eq_some.mp hselect
      cases hnext
      rfl
  | endpointClosed =>
      obtain ⟨-, hnext⟩ := Option.ite_none_right_eq_some.mp hselect
      cases hnext
      rfl
  | grpcEnded result =>
      obtain ⟨-, hnext⟩ := Option.ite_none_right_eq_some.mp hselect
      cases hnext
      rfl
  | ctrlC =>
      cases hselect
      rfl
  | _ => cases hselect

theorem ProxyServer.tends (server : ProxyServer) (event : ProxyServerEvent) (next : ProxyServer)
    (hstep : server.step proxy event = some next) :
    Tends server.tasks (ProxyServer.spawned proxy event) (ProxyServer.did event)
      next.tasks := by
  cases event with
  | stream id =>
      obtain ⟨-, hnext⟩ := Option.ite_none_right_eq_some.mp hstep
      cases hnext
      exact .spawn _
  | call =>
      obtain ⟨-, hnext⟩ := Option.ite_none_right_eq_some.mp hstep
      cases hnext
      exact .spawn _
  | task id event =>
      obtain ⟨tasks, hadvance, rfl⟩ := Option.map_eq_some_iff.mp hstep
      exact .advance hadvance
  | established id =>
      obtain ⟨-, hnext⟩ := Option.ite_none_right_eq_some.mp hstep
      cases hnext
      exact .keep
  | handshakeFailed id =>
      obtain ⟨-, hnext⟩ := Option.ite_none_right_eq_some.mp hstep
      cases hnext
      exact .keep
  | connectionLost id =>
      obtain ⟨-, hnext⟩ := Option.ite_none_right_eq_some.mp hstep
      cases hnext
      exact .keep
  | _ =>
      obtain ⟨-, hselect⟩ := Option.ite_none_right_eq_some.mp hstep
      rw [ProxyServer.tasks_of_select hselect]
      exact .keep

/-- A program that is spawned is one of the server's sessions. -/
theorem VmServer.eq_of_spawned {events : List VmServerEvent} {program : ServerProg Unit}
    (hmem : program ∈ events.flatMap (VmServer.spawned cfg)) :
    program = Vm.serveSession cfg := by
  obtain ⟨event, -, hmem⟩ := List.mem_flatMap.mp hmem
  cases event with
  | accepted => exact List.mem_singleton.mp hmem
  | _ => cases hmem

theorem ProxyServer.eq_of_spawned {events : List ProxyServerEvent} {program : ServerProg Unit}
    (hmem : program ∈ events.flatMap (ProxyServer.spawned proxy)) :
    program = Proxy.serveStream proxy ∨ program = Proxy.serveCall proxy := by
  obtain ⟨event, -, hmem⟩ := List.mem_flatMap.mp hmem
  cases event with
  | stream id => exact .inl (List.mem_singleton.mp hmem)
  | call => exact .inr (List.mem_singleton.mp hmem)
  | _ => cases hmem

/-! ## What a session may do so far -/

/-- A session that looks up, binds, connects or relays has read a request with the right
token before, and looks up and connects for that request alone. -/
def Vetted (token : String) (allow deny : List Net) (trace : List ServerEvent) : Prop :=
  ∀ before event after, trace = before ++ event :: after → Touches event →
    ∃ request inbound rest, Enters before request inbound rest ∧
      tokenMatches token request.token = true ∧
      (∀ host port, event.1.resolved = some (host, port) →
        request.target = .domain host port) ∧
      ∀ peer, event.1.peer = some peer →
        permits allow deny peer.ip = true ∧
          ∃ candidates, Resolved request.target rest candidates ∧ peer ∈ candidates

/-- The first events of a session touch nothing, so what touches something comes after the
request has been read. -/
theorem Enters.split {trace rest before after : List ServerEvent} {event : ServerEvent}
    {request : Request} {inbound : List UInt8} (henters : Enters trace request inbound rest)
    (htrace : trace = before ++ event :: after) (htouches : Touches event) :
    ∃ between, Enters before request inbound between ∧ rest = between ++ event :: after := by
  cases henters with
  | stream hread =>
      cases before with
      | nil =>
          obtain ⟨rfl, -⟩ := List.cons.inj htrace
          simp [Touches, ServerOp.resolved, ServerOp.isDial, ServerOp.isRelay] at htouches
      | cons head before =>
          obtain ⟨rfl, rfl⟩ := List.cons.inj htrace
          exact ⟨before, .stream hread, rfl⟩
  | frame hread =>
      cases before with
      | nil =>
          obtain ⟨rfl, -⟩ := List.cons.inj htrace
          simp [Touches, ServerOp.resolved, ServerOp.isDial, ServerOp.isRelay] at htouches
      | cons head before =>
          obtain ⟨rfl, hframes⟩ := List.cons.inj htrace
          cases before with
          | nil =>
              obtain ⟨rfl, -⟩ := List.cons.inj hframes
              simp [Touches, ServerOp.resolved, ServerOp.isDial, ServerOp.isRelay] at htouches
          | cons head before =>
              obtain ⟨rfl, rfl⟩ := List.cons.inj hframes
              exact ⟨before, .frame hread, rfl⟩

/-- What is authorized as a whole is vetted at every moment. -/
theorem AuthorizedSession.vetted {token : String} {allow deny : List Net}
    {trace later : List ServerEvent}
    (hsession : AuthorizedSession token allow deny (trace ++ later)) :
    Vetted token allow deny trace := by
  intro before event after htrace htouches
  have hwhole : trace ++ later = before ++ event :: (after ++ later) := by
    rw [htrace, List.append_assoc, List.cons_append]
  rcases hsession with huntouched | ⟨request, inbound, rest, henters, hauthorized⟩
  · have hmem : event ∈ trace ++ later := by simp [hwhole]
    exact absurd htouches (huntouched event hmem)
  · obtain ⟨between, hbefore, rfl⟩ := henters.split hwhole htouches
    have hmem : event ∈ between ++ event :: (after ++ later) := by simp
    refine ⟨request, inbound, between, hbefore, hauthorized.authenticated event hmem htouches,
      hauthorized.lookups event hmem, fun peer hpeer => ?_⟩
    obtain ⟨hresolved, hpermits, -⟩ :=
      hauthorized.connects between event (after ++ later) peer rfl hpeer
    exact ⟨hpermits, hresolved⟩

theorem vetted_nil {token : String} {allow deny : List Net} :
    Vetted token allow deny [] := by
  intro before event after htrace
  simp at htrace

/-- A session that is not over has done what a whole one may do. -/
theorem vetted_of_explained {token : String} {allow deny : List Net}
    {programs tasks : List (ServerProg Unit)} {log : List (ℕ × ServerEvent)}
    (hexplained : Explained programs log tasks)
    (hprograms : ∀ program ∈ programs, ∀ trace, Runs program trace () →
      AuthorizedSession token allow deny trace) (id : ℕ) :
    Vetted token allow deny (eventsOf id log) := by
  rcases hexplained.exists_follows id with hnone | ⟨program, hmem, rest, hfollows⟩
  · rw [hnone]
    exact vetted_nil
  · obtain ⟨later, value, hruns⟩ := hfollows.exists_runs fun op => (default : ServerAnswer op)
    exact (hprograms program hmem _ hruns).vetted

theorem authorizedSession_of_serveSession {trace : List ServerEvent}
    (hruns : Runs (Vm.serveSession cfg) trace ()) :
    AuthorizedSession cfg.token cfg.allow cfg.deny trace := by
  obtain ⟨result, first, second, rfl, hhandle, hdone⟩ := runs_bind_iff.mp hruns
  obtain ⟨rfl, -⟩ := runs_pure_iff.mp hdone
  rw [List.append_nil]
  exact authorizedSession_of_session rfl (session_of_handle hhandle)

theorem authorizedSession_of_serveStream {trace : List ServerEvent}
    (hruns : Runs (Proxy.serveStream proxy) trace ()) :
    AuthorizedSession proxy.token proxy.allow proxy.deny trace := by
  obtain ⟨result, first, second, rfl, hhandle, hdone⟩ := runs_bind_iff.mp hruns
  obtain ⟨rfl, -⟩ := runs_pure_iff.mp hdone
  rw [List.append_nil]
  exact authorizedSession_of_session rfl (session_of_handleStream hhandle)

theorem authorizedSession_of_serveCall {trace : List ServerEvent}
    (hruns : Runs (Proxy.serveCall proxy) trace ()) :
    AuthorizedSession proxy.token proxy.allow proxy.deny trace := by
  obtain ⟨result, first, second, rfl, hopen, hdone⟩ := runs_bind_iff.mp hruns
  obtain ⟨rfl, -⟩ := runs_pure_iff.mp hdone
  rw [List.append_nil]
  exact authorizedSession_of_session rfl (session_of_grpcOpen hopen)

end Tasks

/-- What the sessions of a whole server do, however many there are, over whichever
transport, and in whatever order they go on: a session touches nothing before it has itself
read a request with the right token, and then only what that request names, as it has itself
resolved it and as the policy admits. -/
theorem sessions_authorized :
    (∀ (cfg : VmConfig Net) trace server, Execution (VmServer.step cfg) .start trace server →
      ∀ id, Vetted cfg.token cfg.allow cfg.deny
        (eventsOf id ((trace.map Transition.event).flatMap VmServer.did))) ∧
    ∀ (cfg : ServerConfig Net) trace server,
      Execution (ProxyServer.step cfg) .start trace server →
      ∀ id, Vetted cfg.token cfg.allow cfg.deny
        (eventsOf id ((trace.map Transition.event).flatMap ProxyServer.did)) := by
  constructor
  · intro cfg trace server hrun id
    refine vetted_of_explained (explained_of_execution VmServer.tends rfl hrun) ?_ id
    intro program hmem trace hruns
    rw [VmServer.eq_of_spawned hmem] at hruns
    exact authorizedSession_of_serveSession hruns
  · intro cfg trace server hrun id
    refine vetted_of_explained (explained_of_execution ProxyServer.tends rfl hrun) ?_ id
    intro program hmem trace hruns
    rcases ProxyServer.eq_of_spawned hmem with rfl | rfl
    · exact authorizedSession_of_serveStream hruns
    · exact authorizedSession_of_serveCall hruns

/-- Two sessions of the agent; the second one goes on while the first one has not read its
request. -/
def agentEvents : List VmServerEvent :=
  [.accepted, .acceptFailed ⟨.other, "too many open files"⟩, .rested, .accepted,
    .task 1 guardedRead, .task 0 ⟨.awaitRequest 10, .elapsed⟩] ++
    guardedAgentRest.map (.task 1)

/-- A gRPC call, whose request never comes, and a QUIC stream, which its connection still
accepts after `main` has been told to stop. -/
def proxyEvents : List ProxyServerEvent :=
  [.incoming, .established 0, .call, .ctrlC, .stream 0, .task 1 guardedRead,
    .task 0 ⟨.firstMessage 10, .elapsed⟩] ++ guardedServerRest.map (.task 1)

/-- The sessions that connect are vetted, and the policy keeps out half of what the name
resolves to. -/
theorem sessions_authorized_sample :
    (∃ trace server, Execution (VmServer.step guardedAgent) .start trace server ∧
      (eventsOf 1 ((trace.map Transition.event).flatMap VmServer.did)).any
        (fun event => connected event = some (privateAddr 2 2)) = true ∧
      Vetted "test-token" [privateNetwork] [deniedNet]
        (eventsOf 1 ((trace.map Transition.event).flatMap VmServer.did))) ∧
    ∃ trace server, Execution (ProxyServer.step guardedServer) .start trace server ∧
      (eventsOf 1 ((trace.map Transition.event).flatMap ProxyServer.did)).any
        (fun event => connected event = some (privateAddr 2 2)) = true ∧
      Vetted "test-token" [privateNetwork] [deniedNet]
        (eventsOf 1 ((trace.map Transition.event).flatMap ProxyServer.did)) := by
  have hagent : (replay (VmServer.step guardedAgent) .start agentEvents).isSome = true := by
    decide
  have hproxy : (replay (ProxyServer.step guardedServer) .start proxyEvents).isSome = true := by
    decide
  obtain ⟨⟨agentTrace, agent⟩, hagentReplay⟩ := Option.isSome_iff_exists.mp hagent
  obtain ⟨⟨proxyTrace, proxy⟩, hproxyReplay⟩ := Option.isSome_iff_exists.mp hproxy
  have hagentRun := execution_of_replay hagentReplay
  have hproxyRun := execution_of_replay hproxyReplay
  refine ⟨⟨agentTrace, agent, hagentRun, ?_,
    sessions_authorized.1 guardedAgent agentTrace agent hagentRun 1⟩,
    proxyTrace, proxy, hproxyRun, ?_,
    sessions_authorized.2 guardedServer proxyTrace proxy hproxyRun 1⟩
  · rw [events_of_replay hagentReplay]
    decide
  · rw [events_of_replay hproxyReplay]
    decide

end VpnBridge.Server
