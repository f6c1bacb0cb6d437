import VpnBridge.Server.HandlerRuns

/-!
# Authorization of every dial

Whatever the resolver says and however the binds and dials go, a server resolves, dials
and relays nothing for a request whose token it does not accept, looks up nothing but the
request's own target, and connects to nothing but addresses that it obtained for
that target and that its policy admits.
-/

namespace VpnBridge.Server

open VpnBridge.Interaction VpnBridge.Net VpnBridge.Proto

/-- `before` obtained the list `candidates` for `target`. -/
inductive Resolved : Address → List ServerEvent → List SocketAddr → Prop where
  | ip (addr : SocketAddr) (before : List ServerEvent) : Resolved (.ip addr) before [addr]
  | name {host : String} {port : UInt16} {event : ServerEvent}
      {before : List ServerEvent} {candidates : List SocketAddr}
      (hmem : event ∈ before)
      (hlookup : lookedUp event = some ((host, port), .ready (.ok candidates))) :
      Resolved (.domain host port) before candidates

/-- A lookup, a step towards an upstream socket, or a relay. -/
def Touches (event : ServerEvent) : Prop :=
  event.1.resolved ≠ none ∨ event.1.isDial = true ∨ event.1.isRelay = true

/-- What an authorized run is, for a server with this token and these lists. -/
structure Authorized {Net : Type} [IpNetwork Net] (token : String)
    (allow deny : List Net) (request : Request) (trace : List ServerEvent) : Prop where
  /-- Without an accepted token nothing is resolved, bound, connected or relayed. -/
  authenticated : ∀ event ∈ trace, Touches event → tokenMatches token request.token = true
  /-- Only the request's own target is resolved. -/
  lookups : ∀ event ∈ trace, ∀ host port,
    event.1.resolved = some (host, port) → request.target = .domain host port
  /-- Every peer was obtained before for this target, and is admitted. -/
  connects : ∀ before event after peer, trace = before ++ event :: after →
    event.1.peer = some peer →
      (∃ candidates, Resolved request.target before candidates ∧ peer ∈ candidates) ∧
      permits allow deny peer.ip = true ∧
      (∀ network ∈ deny, IpNetwork.contains network peer.ip = false) ∧
      (allow ≠ [] → ∃ network ∈ allow, IpNetwork.contains network peer.ip = true)

/-- A run from its first byte: either no request was decoded and nothing was
touched, or the decoded request authorized what followed. -/
def AuthorizedSession {Net : Type} [IpNetwork Net] (token : String)
    (allow deny : List Net) (trace : List ServerEvent) : Prop :=
  (∀ event ∈ trace, ¬ Touches event) ∨
  ∃ request inbound rest, Enters trace request inbound rest ∧
    Authorized token allow deny request rest

/-! ## Which part of a session touches what -/

theorem isDial_of_peer {op : ServerOp} {peer : SocketAddr} (hpeer : op.peer = some peer) :
    op.isDial = true := by
  cases op with
  | tcpConnect deadlineMs addr => rfl
  | udpConnect addr => rfl
  | _ => cases hpeer

theorem resolved_of_isDial {op : ServerOp} (hdial : op.isDial = true) :
    op.resolved = none := by
  cases op with
  | lookupHost host port => cases hdial
  | timeoutLookupHost deadlineMs host port => cases hdial
  | _ => rfl

theorem peer_of_connected {event : ServerEvent} {peer : SocketAddr}
    (hconnected : connected event = some peer) : event.1.peer = some peer := by
  unfold connected at hconnected
  split at hconnected
  · exact hconnected
  · exact hconnected
  · cases hconnected

theorem resolved_of_lookedUp {event : ServerEvent} {name : String × UInt16}
    {answer : Timed (Except IoError (List SocketAddr))}
    (hlookup : lookedUp event = some (name, answer)) :
    event.1.resolved = some name ∧ event.1.isDial = false := by
  unfold lookedUp at hlookup
  split at hlookup
  · cases hlookup
    exact ⟨rfl, rfl⟩
  · cases hlookup
    exact ⟨rfl, rfl⟩
  · cases hlookup

/-- Neither a lookup nor a dial. -/
def Inert (trace : List ServerEvent) : Prop :=
  ∀ event ∈ trace, event.1.resolved = none ∧ event.1.isDial = false

theorem not_touches_iff {event : ServerEvent} :
    ¬ Touches event ↔
      event.1.resolved = none ∧ event.1.isDial = false ∧ event.1.isRelay = false := by
  simp only [Touches, not_or, not_not, Bool.not_eq_true]

theorem inert_of_untouched {trace : List ServerEvent}
    (huntouched : ∀ event ∈ trace, ¬ Touches event) : Inert trace := by
  intro event hmem
  obtain ⟨hresolved, hdial, -⟩ := not_touches_iff.mp (huntouched event hmem)
  exact ⟨hresolved, hdial⟩

theorem RepliesWith.untouched {response : Response} {trace : List ServerEvent}
    (hreply : RepliesWith response trace) : ∀ event ∈ trace, ¬ Touches event := by
  obtain ⟨answer, rest, rfl, hrest⟩ := hreply
  intro event hmem
  rw [not_touches_iff]
  cases hmem with
  | head => exact ⟨rfl, rfl, rfl⟩
  | tail _ hmem =>
      have hend := hrest event hmem
      cases hop : event.1 with
      | flush => exact ⟨rfl, rfl, rfl⟩
      | shutdown => exact ⟨rfl, rfl, rfl⟩
      | _ => rw [hop] at hend; cases hend

theorem RepliesWith.inert {response : Response} {trace : List ServerEvent}
    (hreply : RepliesWith response trace) : Inert trace :=
  inert_of_untouched hreply.untouched

theorem RelaysFrom.inert {inbound : List UInt8} {trace : List ServerEvent}
    (hrelay : RelaysFrom inbound trace) : Inert trace := by
  obtain ⟨first, rest, rfl, hrest, hfirst⟩ := hrelay
  intro event hmem
  cases hmem with
  | head =>
      rcases hfirst with ⟨idleSecs, hop⟩ | ⟨idleSecs, hop⟩
      · rw [hop]
        exact ⟨rfl, rfl⟩
      · rw [hop]
        exact ⟨rfl, rfl⟩
  | tail _ hmem =>
      rw [hrest event hmem]
      exact ⟨rfl, rfl⟩

theorem Opens.inert {inbound : List UInt8} {trace : List ServerEvent}
    (hopens : Opens inbound trace) : Inert trace := by
  rcases hopens with ⟨hreply, _⟩ | ⟨relay, rfl, hrelay⟩
  · exact hreply.inert
  · intro event hmem
    cases hmem with
    | head => exact ⟨rfl, rfl⟩
    | tail _ hmem =>
        cases hmem with
        | head => exact ⟨rfl, rfl⟩
        | tail _ hmem => exact hrelay.inert event hmem

/-- Dials only dial, and only the addresses they are given. -/
theorem Dials.isDial {addrs : List SocketAddr} {trace : List ServerEvent}
    {outcome : Option SocketAddr} (hdials : Dials addrs trace outcome) :
    ∀ event ∈ trace, event.1.isDial = true ∧
      ∀ peer, event.1.peer = some peer → peer ∈ addrs := by
  induction hdials with
  | nil => simp
  | miss hattempt hrest ih =>
      intro event hmem
      rcases List.mem_append.mp hmem with hfirst | hlater
      · obtain ⟨hdial, _, hpeer⟩ := hattempt event hfirst
        exact ⟨hdial, fun peer heq => by rw [hpeer peer heq]; exact List.mem_cons_self⟩
      · exact ⟨(ih event hlater).1,
          fun peer heq => List.mem_cons_of_mem _ ((ih event hlater).2 peer heq)⟩
  | hit hsetup hconnected =>
      intro event hmem
      rcases List.mem_append.mp hmem with hfirst | hlast
      · obtain ⟨hdial, _, hpeer⟩ := hsetup event hfirst
        exact ⟨hdial, fun peer heq => by rw [hpeer peer heq]; exact List.mem_cons_self⟩
      · rw [List.mem_singleton.mp hlast]
        have hpeer := peer_of_connected hconnected
        refine ⟨isDial_of_peer hpeer, fun peer heq => ?_⟩
        rw [Option.some.inj (heq.symm.trans hpeer)]
        exact List.mem_cons_self

theorem attempted_subset {cmd : Cmd} {allowed : List SocketAddr} {peer : SocketAddr}
    (hmem : peer ∈ attempted cmd allowed) : peer ∈ allowed := by
  cases cmd with
  | connectTcp => exact hmem
  | bindUdp => exact List.mem_of_mem_take hmem

theorem Serves.split {inbound : List UInt8} {addrs : List SocketAddr}
    {trace : List ServerEvent} {response : Response}
    (hserves : Serves inbound addrs trace response) :
    ∃ dials tail outcome, trace = dials ++ tail ∧ Dials addrs dials outcome ∧
      Inert tail := by
  cases hserves with
  | undialed hdials hreply => exact ⟨_, _, _, rfl, hdials, hreply.inert⟩
  | opened hdials hopens => exact ⟨_, _, _, rfl, hdials, hopens.inert⟩

theorem Obtains.lookup {target : Address} {trace : List ServerEvent}
    {answer : Timed (Except IoError (List SocketAddr))}
    (hobtains : Obtains target trace answer) :
    ∀ event ∈ trace, event.1.isDial = false ∧
      ∀ host port, event.1.resolved = some (host, port) → target = .domain host port := by
  cases hobtains with
  | ip addr => simp
  | name hlookup =>
      intro event hmem
      rw [List.mem_singleton.mp hmem]
      obtain ⟨hname, hdial⟩ := resolved_of_lookedUp hlookup
      refine ⟨hdial, fun host port heq => ?_⟩
      cases hname.symm.trans heq
      rfl

/-- What a resolution obtained stays obtained. -/
theorem Obtains.resolved {target : Address} {trace before : List ServerEvent}
    {candidates : List SocketAddr}
    (hobtains : Obtains target trace (.ready (.ok candidates)))
    (hbefore : trace <+: before) : Resolved target before candidates := by
  cases hobtains with
  | ip addr => exact .ip addr before
  | name hlookup => exact .name (hbefore.subset List.mem_cons_self) hlookup

/-! ## From sessions to authorization -/

section Servers

variable {Net : Type} [IpNetwork Net] {token : String} {allow deny : List Net}

/-- A peer that the policy admits, spelled out. -/
theorem admitted_of_permits {ip : IpAddr} (hpermits : permits allow deny ip = true) :
    permits allow deny ip = true ∧
      (∀ network ∈ deny, IpNetwork.contains network ip = false) ∧
      (allow ≠ [] → ∃ network ∈ allow, IpNetwork.contains network ip = true) :=
  ⟨hpermits, permits_iff.mp hpermits⟩

/-- A lookup, then dials within what it obtained, then nothing more. -/
theorem authorized_of_parts {request : Request} {lookup dials tail : List ServerEvent}
    {answer : Timed (Except IoError (List SocketAddr))}
    (htoken : tokenMatches token request.token = true)
    (hobtains : Obtains request.target lookup answer)
    (hdials : ∀ event ∈ dials, event.1.isDial = true ∧
      ∀ peer, event.1.peer = some peer → permits allow deny peer.ip = true ∧
        ∃ candidates, answer = .ready (.ok candidates) ∧ peer ∈ candidates)
    (htail : Inert tail) :
    Authorized token allow deny request (lookup ++ (dials ++ tail)) where
  authenticated _ _ _ := htoken
  lookups event hmem host port hname := by
    rcases List.mem_append.mp hmem with hlookup | hrest
    · exact (hobtains.lookup event hlookup).2 host port hname
    · rcases List.mem_append.mp hrest with hdial | hlast
      · rw [resolved_of_isDial (hdials event hdial).1] at hname
        cases hname
      · rw [(htail event hlast).1] at hname
        cases hname
  connects before event after peer hsplit hpeer := by
    have hdial := isDial_of_peer hpeer
    -- The connect lies after the lookup, which is therefore part of `before`.
    have hbefore : lookup <+: before := by
      rcases List.append_eq_append_iff.mp hsplit with
        ⟨middle, rfl, _⟩ | ⟨middle, hlookup, hrest⟩
      · exact List.prefix_append lookup middle
      · cases middle with
        | nil => exact ⟨[], by rw [hlookup, List.append_nil, List.append_nil]⟩
        | cons head others =>
            obtain ⟨rfl, _⟩ := List.cons.inj hrest
            have hmem : event ∈ lookup := by simp [hlookup]
            rw [(hobtains.lookup event hmem).1] at hdial
            cases hdial
    have hmem : event ∈ dials := by
      have hevent : event ∈ lookup ++ (dials ++ tail) := by simp [hsplit]
      rcases List.mem_append.mp hevent with hlookup | hrest
      · rw [(hobtains.lookup event hlookup).1] at hdial
        cases hdial
      · rcases List.mem_append.mp hrest with hdials | hlast
        · exact hdials
        · rw [(htail event hlast).2] at hdial
          cases hdial
    obtain ⟨hpermits, candidates, rfl, hcandidate⟩ := (hdials event hmem).2 peer hpeer
    exact ⟨⟨candidates, hobtains.resolved hbefore, hcandidate⟩,
      admitted_of_permits hpermits⟩

/-- A lookup and then a refusal. -/
theorem authorized_of_refusal {request : Request} {lookup reply : List ServerEvent}
    {answer : Timed (Except IoError (List SocketAddr))} {response : Response}
    (htoken : tokenMatches token request.token = true)
    (hobtains : Obtains request.target lookup answer)
    (hreply : RepliesWith response reply) :
    Authorized token allow deny request (lookup ++ reply) := by
  have hparts : Authorized token allow deny request (lookup ++ ([] ++ reply)) :=
    authorized_of_parts htoken hobtains (by simp) hreply.inert
  exact hparts

/-- A run that touches nothing is authorized, whatever the token. -/
theorem authorized_of_untouched {request : Request} {trace : List ServerEvent}
    (huntouched : ∀ event ∈ trace, ¬ Touches event) :
    Authorized token allow deny request trace where
  authenticated event hmem htouches := absurd htouches (huntouched event hmem)
  lookups event hmem host port hname := by
    rw [(inert_of_untouched huntouched event hmem).1] at hname
    cases hname
  connects before event after peer hsplit hpeer := by
    have hdial := isDial_of_peer hpeer
    rw [(inert_of_untouched huntouched event (by simp [hsplit])).2] at hdial
    cases hdial

theorem authorized_of_handled {server : Endpoint}
    (hpermits : server.permits = permits allow deny)
    {request : Request} {inbound : List UInt8} {trace : List ServerEvent}
    {response : Response} (hhandled : Handled server request inbound trace response) :
    Authorized server.token allow deny request trace := by
  cases hhandled with
  | badToken htoken hreply => exact authorized_of_untouched hreply.untouched
  | unresolved htoken hobtains hnothing hreply =>
      exact authorized_of_refusal htoken hobtains hreply
  | forbidden htoken hobtains hcandidates hallowed hreply =>
      exact authorized_of_refusal htoken hobtains hreply
  | served htoken hobtains hallowed hserves =>
      obtain ⟨dials, tail, outcome, rfl, hdials, htail⟩ := hserves.split
      refine authorized_of_parts htoken hobtains (fun event hmem => ?_) htail
      obtain ⟨hdial, hpeers⟩ := hdials.isDial event hmem
      refine ⟨hdial, fun peer hpeer => ?_⟩
      obtain ⟨hcandidate, hadmitted⟩ :=
        List.mem_filter.mp (attempted_subset (hpeers peer hpeer))
      exact ⟨hpermits ▸ hadmitted, _, rfl, hcandidate⟩

theorem authorizedSession_of_session {server : Endpoint}
    (hpermits : server.permits = permits allow deny) {trace : List ServerEvent}
    (hsession : Session server trace) :
    AuthorizedSession server.token allow deny trace := by
  rcases hsession with hturned | ⟨request, inbound, rest, response, henters, hhandled⟩
  · refine .inl fun event hmem => not_touches_iff.mpr ?_
    cases hturned with
    | stream hunread =>
        rw [List.mem_singleton.mp hmem]
        exact ⟨rfl, rfl, rfl⟩
    | frame hunread =>
        rw [List.mem_singleton.mp hmem]
        exact ⟨rfl, rfl, rfl⟩
  · exact .inr ⟨request, inbound, rest, henters, authorized_of_handled hpermits hhandled⟩

/-- Whatever address a session gives to a connect is one the policy admits. -/
theorem AuthorizedSession.permits_peer {trace : List ServerEvent}
    (hsession : AuthorizedSession token allow deny trace) {event : ServerEvent}
    (hmem : event ∈ trace) {peer : SocketAddr} (hpeer : event.1.peer = some peer) :
    permits allow deny peer.ip = true := by
  have hdial := isDial_of_peer hpeer
  rcases hsession with huntouched | ⟨request, inbound, rest, henters, hauthorized⟩
  · exact absurd (.inr (.inl hdial)) (huntouched event hmem)
  · have hrest : event ∈ rest := by
      cases henters with
      | stream hread =>
          rcases List.mem_cons.mp hmem with rfl | hrest
          · cases hdial
          · exact hrest
      | frame hread =>
          rcases List.mem_cons.mp hmem with rfl | hmem
          · cases hdial
          · rcases List.mem_cons.mp hmem with rfl | hrest
            · cases hdial
            · exact hrest
    obtain ⟨before, after, hsplit⟩ := List.append_of_mem hrest
    exact (hauthorized.connects before event after peer hsplit hpeer).2.1

end Servers

/-- Both servers, through every entry, for every configuration: a run touches
nothing without an accepted token and connects only where its policy allows. -/
theorem dials_authorized {Net : Type} [IpNetwork Net] :
    (∀ (cfg : VmConfig Net) trace result, Runs (Vm.handle cfg).run trace result →
      AuthorizedSession cfg.token cfg.allow cfg.deny trace) ∧
    (∀ (cfg : ServerConfig Net) trace result,
      Runs (Proxy.handleStream cfg).run trace result →
        AuthorizedSession cfg.token cfg.allow cfg.deny trace) ∧
    (∀ (cfg : ServerConfig Net) trace result,
      Runs (Proxy.grpcOpen cfg).run trace result →
        AuthorizedSession cfg.token cfg.allow cfg.deny trace) ∧
    ∀ (cfg : ServerConfig Net) request inbound trace result,
      Runs (Proxy.handleRequest cfg request inbound).run trace result →
        Authorized cfg.token cfg.allow cfg.deny request trace := by
  refine ⟨?_, ?_, ?_, ?_⟩
  · intro cfg trace result hruns
    exact authorizedSession_of_session rfl (session_of_handle hruns)
  · intro cfg trace result hruns
    exact authorizedSession_of_session rfl (session_of_handleStream hruns)
  · intro cfg trace result hruns
    exact authorizedSession_of_session rfl (session_of_grpcOpen hruns)
  · intro cfg request inbound trace result hruns
    obtain ⟨response, hhandled⟩ := Endpoint.handled_of_runs (lawful_proxy cfg) hruns
    exact authorized_of_handled rfl hhandled

/-- A network within the private one. -/
def deniedNet : IpNet := ⟨.v4 ⟨⟨[10, 1, 0, 0], rfl⟩⟩, 16, by decide⟩

def guardedAgent : VmConfig IpNet :=
  { VmConfig.sample [privateNetwork] [deniedNet] with token := "test-token" }

def guardedServer : ServerConfig IpNet := .sample [privateNetwork] [deniedNet]

def guardedRequest : Request := ⟨.connectTcp, "test-token", .domain "db.internal" 5432⟩

/-- `10.<second>.0.<last>:5432`. -/
def privateAddr (second last : UInt8) : SocketAddr :=
  .new (.v4 ⟨⟨[10, second, 0, last], rfl⟩⟩) 5432

/-- Two addresses that the policy admits, each behind one that it does not. -/
def guardedCandidates : List SocketAddr :=
  [privateAddr 1 1, privateAddr 2 1, .new (.v4 ⟨List.Vector.replicate 4 9⟩) 5432, privateAddr 2 2]

/-- The first of them does not answer, and the second one does. -/
def guardedDials : List ServerEvent :=
  [⟨.tcpSocket true, .ok ()⟩, ⟨.tcpConnect 1000 (privateAddr 2 1), .elapsed⟩,
    ⟨.tcpSocket true, .ok ()⟩, ⟨.tcpConnect 1000 (privateAddr 2 2), .ready (.ok ())⟩,
    ⟨.send Response.ok.buf, .ok ()⟩, ⟨.flush, .ok ()⟩]

/-- What a session of the agent does after it has read the request. -/
def guardedAgentRest : List ServerEvent :=
  ⟨.lookupHost "db.internal" 5432, .ok guardedCandidates⟩ :: guardedDials ++
    [⟨.relayTcp none [], ⟨[], .ok ()⟩⟩, ⟨.upstreamShutdown, .ok ()⟩]

def guardedServerRest : List ServerEvent :=
  ⟨.timeoutLookupHost 1000 "db.internal" 5432, .ready (.ok guardedCandidates)⟩ ::
    guardedDials ++ [⟨.relayTcp (some 10) [], ⟨[], .ok ()⟩⟩]

def guardedRead : ServerEvent :=
  ⟨.awaitRequest 10, .ready (.ok guardedRequest.buf)⟩

/-- Either server looks a name up and connects to the second address that it admits. -/
theorem dials_authorized_sample :
    (∃ trace, Runs (Vm.handle guardedAgent).run trace (.ok ()) ∧
      (∃ event ∈ trace, connected event = some (privateAddr 2 2)) ∧
      AuthorizedSession "test-token" [privateNetwork] [deniedNet] trace) ∧
    ∃ trace, Runs (Proxy.handleStream guardedServer).run trace (.ok ()) ∧
      (∃ event ∈ trace, connected event = some (privateAddr 2 2)) ∧
      AuthorizedSession "test-token" [privateNetwork] [deniedNet] trace := by
  have hagent : Runs (Vm.handle guardedAgent).run (guardedRead :: guardedAgentRest) (.ok ()) :=
    runs_of_follow (by decide)
  have hserver :
      Runs (Proxy.handleStream guardedServer).run (guardedRead :: guardedServerRest) (.ok ()) :=
    runs_of_follow (by decide)
  obtain ⟨event, hmem, hconnected⟩ : ∃ event ∈ guardedDials,
      connected event = some (privateAddr 2 2) :=
    ⟨⟨.tcpConnect 1000 (privateAddr 2 2), .ready (.ok ())⟩, by simp [guardedDials], rfl⟩
  refine ⟨⟨_, hagent, ⟨event, ?_, hconnected⟩, dials_authorized.1 _ _ _ hagent⟩,
    _, hserver, ⟨event, ?_, hconnected⟩, dials_authorized.2.1 _ _ _ hserver⟩
  · exact .tail _ (.tail _ (List.mem_append_left _ hmem))
  · exact .tail _ (.tail _ (List.mem_append_left _ hmem))

end VpnBridge.Server
