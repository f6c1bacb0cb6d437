import VpnBridge.Server.Session

/-!
# Runs of the handlers

One inversion lemma for each function of the handlers' shared text, the only
place where the text is unfolded, and from them the session that each run of
each entry point amounts to.
-/

namespace VpnBridge.Server

open VpnBridge.Interaction VpnBridge.Net VpnBridge.Proto

/-! ## Where the two servers differ -/

/-- What the shared text relies on in an endpoint. -/
structure Endpoint.Lawful (server : Endpoint) : Prop where
  refuses : ∀ {status message trace result},
    Runs (server.reject status message).run trace result →
      RepliesWith (.err status message) trace
  looksUp : ∀ {host port trace answer},
    Runs (server.lookup host port) trace answer →
      ∃ event, trace = [event] ∧ lookedUp event = some ((host, port), answer)
  relaysTcp : ∀ {inbound trace result},
    Runs (server.relayTcp inbound).run trace result → RelaysFrom inbound trace
  relaysUdp : ∀ {inbound trace result},
    Runs (server.relayUdp inbound).run trace result → RelaysFrom inbound trace

theorem runs_issue_iff {op : ServerOp} {trace : List ServerEvent}
    {answer : ServerAnswer op} :
    Runs (issue op) trace answer ↔ trace = [⟨op, answer⟩] :=
  runs_perform_iff

/-- Writing a response is one send and, unless it failed, one flush. -/
theorem runs_writeTo_iff {response : Response} {trace : List ServerEvent}
    {result : Except IoError Unit} :
    Runs (response.writeTo : Handler Unit).run trace result ↔
      (∃ failure, result = .error failure ∧
        trace = [⟨.send response.buf, .error failure⟩]) ∨
      trace = [⟨.send response.buf, .ok ()⟩, ⟨.flush, result⟩] := by
  change Runs (ExceptT.mk (issue (.send response.buf)) >>=
    fun _ => ExceptT.mk (issue .flush)).run trace result ↔ _
  rw [runs_run_bind_iff]
  apply or_congr
  · exact exists_congr fun failure => and_congr_right fun _ => runs_issue_iff
  · constructor
    · rintro ⟨_, first, second, rfl, hsend, hflush⟩
      rw [runs_issue_iff.mp hsend, runs_issue_iff.mp hflush]
      rfl
    · rintro rfl
      exact ⟨(), [_], [_], rfl, runs_issue_iff.mpr rfl, runs_issue_iff.mpr rfl⟩

theorem repliesWith_of_writeTo {response : Response} {trace : List ServerEvent}
    {result : Except IoError Unit}
    (hruns : Runs (response.writeTo : Handler Unit).run trace result) :
    RepliesWith response trace := by
  rcases runs_writeTo_iff.mp hruns with ⟨failure, rfl, rfl⟩ | rfl
  · exact ⟨_, [], rfl, by simp⟩
  · exact ⟨_, [_], rfl, by simp [ServerOp.isReplyEnd]⟩

theorem relaysFrom_relayTcp {idleSecs : Option ℕ} {inbound : List UInt8}
    {trace : List ServerEvent} {result : Except IoError Unit}
    (hruns : Runs (relayTcp idleSecs inbound).run trace result) :
    ∃ relayed, trace = [⟨.relayTcp idleSecs inbound, relayed⟩] ∧
      result = relayed.result := by
  obtain ⟨relayed, rest, rfl, hdone⟩ := runs_perform_bind_iff.mp hruns
  obtain ⟨rfl, rfl⟩ := runs_pure_iff.mp hdone
  exact ⟨relayed, rfl, rfl⟩

theorem relaysFrom_relayUdp {idleSecs : ℕ} {inbound : List UInt8}
    {trace : List ServerEvent} {result : Except IoError Unit}
    (hruns : Runs (relayUdp idleSecs inbound).run trace result) :
    RelaysFrom inbound trace := by
  obtain ⟨relayed, rest, rfl, hdone⟩ := runs_perform_bind_iff.mp hruns
  obtain ⟨rfl, rfl⟩ := runs_pure_iff.mp hdone
  exact ⟨_, [], rfl, by simp, .inr ⟨idleSecs, rfl⟩⟩

section Servers

variable {Net : Type} [IpNetwork Net]

theorem lawful_vm (cfg : VmConfig Net) : (Vm.endpoint cfg).Lawful where
  refuses := repliesWith_of_writeTo
  looksUp hruns := by
    obtain ⟨answer, rest, rfl, hdone⟩ := runs_perform_bind_iff.mp hruns
    obtain ⟨rfl, rfl⟩ := runs_pure_iff.mp hdone
    exact ⟨_, rfl, rfl⟩
  relaysTcp hruns := by
    rcases runs_run_bind_iff.mp hruns with ⟨failure, rfl, hrelay⟩ |
      ⟨_, first, second, rfl, hrelay, hshutdown⟩
    · obtain ⟨relayed, rfl, _⟩ := relaysFrom_relayTcp hrelay
      exact ⟨_, [], rfl, by simp, .inl ⟨none, rfl⟩⟩
    · obtain ⟨relayed, rfl, _⟩ := relaysFrom_relayTcp hrelay
      obtain ⟨answer, rest, rfl, hdone⟩ := runs_run_perform_bind_iff.mp hshutdown
      obtain ⟨rfl, rfl⟩ := runs_run_pure_iff.mp hdone
      exact ⟨_, [_], rfl, by simp, .inl ⟨none, rfl⟩⟩
  relaysUdp := relaysFrom_relayUdp

theorem lawful_proxy (cfg : ServerConfig Net) : (Proxy.endpoint cfg).Lawful where
  refuses {status message trace result} hruns := by
    rcases runs_run_bind_iff.mp hruns with ⟨failure, _, hrefuse⟩ |
      ⟨_, first, second, rfl, hrefuse, hshutdown⟩
    · exact repliesWith_of_writeTo hrefuse
    · obtain ⟨answer, rest, rfl, hrest⟩ := repliesWith_of_writeTo hrefuse
      rw [runs_issue_iff.mp hshutdown]
      refine ⟨answer, rest ++ [_], rfl, fun event hmem => ?_⟩
      rcases List.mem_append.mp hmem with hold | hnew
      · exact hrest event hold
      · rw [List.mem_singleton.mp hnew]
        rfl
  looksUp hruns := ⟨_, runs_issue_iff.mp hruns, rfl⟩
  relaysTcp hruns := by
    obtain ⟨relayed, rfl, _⟩ := relaysFrom_relayTcp hruns
    exact ⟨_, [], rfl, by simp, .inl ⟨_, rfl⟩⟩
  relaysUdp := relaysFrom_relayUdp

end Servers

/-! ## Inverting the shared text -/

theorem Attempts.append {addr : SocketAddr} {first second : List ServerEvent}
    (hfirst : Attempts addr first) (hsecond : Attempts addr second) :
    Attempts addr (first ++ second) := by
  intro event hmem
  rcases List.mem_append.mp hmem with hleft | hright
  · exact hfirst event hleft
  · exact hsecond event hright

theorem Attempts.nil (addr : SocketAddr) : Attempts addr [] := by
  intro event hmem
  cases hmem

theorem Attempts.singleton {addr : SocketAddr} {event : ServerEvent}
    (hdial : event.1.isDial = true) (hconnected : connected event = none)
    (hpeer : ∀ peer, event.1.peer = some peer → peer = addr) :
    Attempts addr [event] := by
  intro other hmem
  rw [List.mem_singleton.mp hmem]
  exact ⟨hdial, hconnected, hpeer⟩

namespace Endpoint

variable {server : Endpoint}

theorem obtains_of_resolve (hlawful : server.Lawful) {target : Address}
    {trace : List ServerEvent} {answer : Timed (Except IoError (List SocketAddr))}
    (hruns : Runs (server.resolve target) trace answer) :
    Obtains target trace answer := by
  cases target with
  | ip addr =>
      obtain ⟨rfl, rfl⟩ := runs_pure_iff.mp hruns
      exact .ip addr
  | domain host port =>
      obtain ⟨event, rfl, hlookup⟩ := hlawful.looksUp hruns
      exact .name hlookup

theorem attempts_of_bindSource {addr : SocketAddr} {trace : List ServerEvent}
    {result : Except IoError Unit}
    (hruns : Runs (server.bindSource addr) trace result) :
    Attempts addr trace ∧ trace.any udpBindFailed = false := by
  unfold bindSource at hruns
  split at hruns
  · split at hruns
    · rw [runs_issue_iff.mp hruns]
      exact ⟨.singleton rfl rfl (by simp [ServerOp.peer]), rfl⟩
    · obtain ⟨rfl, _⟩ := runs_pure_iff.mp hruns
      exact ⟨.nil addr, rfl⟩
  · obtain ⟨rfl, _⟩ := runs_pure_iff.mp hruns
    exact ⟨.nil addr, rfl⟩

/-- A dial connects with its last operation or not at all. -/
theorem runs_dialTcp {addr : SocketAddr} {trace : List ServerEvent}
    {outcome : Timed (Except IoError Unit)}
    (hruns : Runs (server.dialTcp addr) trace outcome) :
    trace.any udpBindFailed = false ∧
      ((outcome ≠ .ready (.ok ()) ∧ Attempts addr trace) ∨
      (outcome = .ready (.ok ()) ∧ ∃ setup event, trace = setup ++ [event] ∧
        Attempts addr setup ∧ connected event = some addr)) := by
  obtain ⟨made, rest, rfl, hmade⟩ := runs_perform_bind_iff.mp hruns
  have hsocket : Attempts addr [⟨.tcpSocket addr.isIpv4, made⟩] :=
    .singleton rfl rfl (by simp [ServerOp.peer])
  cases made with
  | error failure =>
      obtain ⟨rfl, rfl⟩ := runs_pure_iff.mp hmade
      exact ⟨rfl, .inl ⟨by simp, hsocket⟩⟩
  | ok =>
      obtain ⟨bound, first, second, rfl, hbind, hconnect⟩ := runs_bind_iff.mp hmade
      obtain ⟨hattempts, hno⟩ := attempts_of_bindSource hbind
      cases bound with
      | error failure =>
          obtain ⟨rfl, rfl⟩ := runs_pure_iff.mp hconnect
          rw [List.append_nil]
          exact ⟨hno, .inl ⟨by simp, hsocket.append hattempts⟩⟩
      | ok =>
          rw [runs_issue_iff.mp hconnect]
          have hsetup := hsocket.append hattempts
          have hnone : (⟨.tcpSocket addr.isIpv4, .ok ()⟩ :: (first ++
              [⟨.tcpConnect server.connectTimeoutMs addr, outcome⟩]) :
                List ServerEvent).any udpBindFailed = false := by
            rw [List.any_cons, List.any_append, hno]
            rfl
          refine ⟨hnone, ?_⟩
          by_cases hok : outcome = .ready (.ok ())
          · subst hok
            exact .inr ⟨rfl, _, _, rfl, hsetup, rfl⟩
          · refine .inl ⟨hok, hsetup.append (.singleton rfl ?_ ?_)⟩
            · unfold connected
              split
              · next heq => cases heq; exact absurd rfl hok
              · next heq => cases heq
              · rfl
            · intro peer hpeer
              exact (Option.some.inj hpeer).symm

/-- The dial loop tries the candidates in order, up to the first that connects. -/
theorem runs_dialCandidates {candidates : List SocketAddr}
    {lastError : Option String} {trace : List ServerEvent}
    {result : Except (Option String) SocketAddr}
    (hruns : Runs (server.dialCandidates candidates lastError) trace result) :
    trace.any udpBindFailed = false ∧ Dials candidates trace result.toOption := by
  induction candidates generalizing lastError trace with
  | nil =>
      obtain ⟨rfl, rfl⟩ := runs_pure_iff.mp hruns
      exact ⟨rfl, .nil⟩
  | cons candidate candidates ih =>
      obtain ⟨outcome, first, second, rfl, hdial, hrest⟩ := runs_bind_iff.mp hruns
      obtain ⟨hno, ⟨hmiss, hattempts⟩ | ⟨rfl, setup, event, rfl, hsetup, hevent⟩⟩ :=
        runs_dialTcp hdial
      · have hloop : ∃ lastError, Runs (server.dialCandidates candidates lastError)
            second result := by
          cases outcome with
          | elapsed => exact ⟨_, hrest⟩
          | ready dialed =>
              cases dialed with
              | error failure => exact ⟨_, hrest⟩
              | ok => exact absurd rfl hmiss
        obtain ⟨_, hloop⟩ := hloop
        obtain ⟨hnone, hdials⟩ := ih hloop
        exact ⟨by rw [List.any_append, hno, hnone, Bool.or_false],
          .miss hattempts hdials⟩
      · obtain ⟨rfl, rfl⟩ := runs_pure_iff.mp hrest
        rw [List.append_nil]
        exact ⟨hno, .hit hsetup hevent⟩

/-- The Ok response, then the relay, as both commands end. -/
theorem opens_of_runs {inbound : List UInt8} {relay : Handler Unit}
    (hrelays : ∀ {trace result}, Runs relay.run trace result → RelaysFrom inbound trace)
    {trace : List ServerEvent} {result : Except IoError Unit}
    (hruns : Runs (do Response.ok.writeTo; relay : Handler Unit).run trace result) :
    Opens inbound trace := by
  rcases runs_run_bind_iff.mp hruns with ⟨failure, rfl, hwrite⟩ |
    ⟨_, first, second, rfl, hwrite, hrelay⟩
  · refine .inl ⟨repliesWith_of_writeTo hwrite, ?_⟩
    rcases runs_writeTo_iff.mp hwrite with ⟨_, _, rfl⟩ | rfl
    · exact ⟨_, List.mem_singleton.mpr rfl, _, .inl rfl⟩
    · exact ⟨_, List.mem_cons_of_mem _ (List.mem_singleton.mpr rfl), _, .inr rfl⟩
  · rcases runs_writeTo_iff.mp hwrite with ⟨_, hfailed, _⟩ | rfl
    · cases hfailed
    · exact .inr ⟨second, rfl, hrelays hrelay⟩

theorem serves_of_serveTcp (hlawful : server.Lawful) {inbound : List UInt8}
    {candidates : List SocketAddr} {trace : List ServerEvent}
    {result : Except IoError Unit}
    (hruns : Runs (server.serveTcp inbound candidates).run trace result) :
    ∃ response, Serves inbound candidates trace response := by
  obtain ⟨dialed, first, second, rfl, hloop, hrest⟩ := runs_run_lift_bind_iff.mp hruns
  obtain ⟨hno, hdials⟩ := runs_dialCandidates hloop
  have hstatus : dialStatus first = .unreachable := by
    rw [dialStatus, hno]
    rfl
  cases dialed with
  | error lastError =>
      exact ⟨_, .undialed hdials (hstatus ▸ hlawful.refuses hrest)⟩
  | ok peer =>
      exact ⟨_, .opened hdials (opens_of_runs hlawful.relaysTcp hrest)⟩

theorem serves_of_serveUdp (hlawful : server.Lawful) {inbound : List UInt8}
    {addr : SocketAddr} {trace : List ServerEvent} {result : Except IoError Unit}
    (hruns : Runs (server.serveUdp inbound addr).run trace result) :
    ∃ response, Serves inbound [addr] trace response := by
  obtain ⟨bound, rest, rfl, hbound⟩ := runs_run_perform_bind_iff.mp hruns
  have hbind : ∀ bound, Attempts addr [⟨.udpBind (server.udpSource addr), bound⟩] :=
    fun bound => .singleton rfl rfl (by simp [ServerOp.peer])
  cases bound with
  | error failure =>
      exact ⟨_, .undialed (.miss (hbind _) .nil) (hlawful.refuses hbound)⟩
  | ok =>
      obtain ⟨dialed, rest, rfl, hdialed⟩ := runs_run_perform_bind_iff.mp hbound
      cases dialed with
      | error failure =>
          have hconnect : Attempts addr [⟨.udpConnect addr, .error failure⟩] := by
            refine .singleton rfl rfl fun peer hpeer => ?_
            exact (Option.some.inj hpeer).symm
          exact ⟨_, .undialed (.miss ((hbind _).append hconnect) .nil)
            (hlawful.refuses hdialed)⟩
      | ok =>
          exact ⟨_, .opened (.hit (hbind _) rfl)
            (opens_of_runs hlawful.relaysUdp hdialed)⟩

/-- After a resolution: refused by the policy, or served from what it admits. -/
theorem serves_of_serveResolved (hlawful : server.Lawful) {request : Request}
    {inbound : List UInt8} {candidates : List SocketAddr} {trace : List ServerEvent}
    {result : Except IoError Unit}
    (hruns : Runs (server.serveResolved request inbound candidates).run trace result) :
    (server.allowed candidates = [] ∧
      RepliesWith (.err .forbidden "destination not allowed") trace) ∨
    (server.allowed candidates ≠ [] ∧ ∃ response,
      Serves inbound (attempted request.cmd (server.allowed candidates)) trace response) := by
  unfold serveResolved at hruns
  rw [← allowed] at hruns
  cases hallowed : server.allowed candidates with
  | nil =>
      rw [hallowed] at hruns
      exact .inl ⟨rfl, hlawful.refuses hruns⟩
  | cons addr addrs =>
      rw [hallowed] at hruns
      refine .inr ⟨by simp, ?_⟩
      cases hcmd : request.cmd with
      | connectTcp =>
          simp only [hcmd] at hruns
          exact serves_of_serveTcp hlawful hruns
      | bindUdp =>
          simp only [hcmd] at hruns
          exact serves_of_serveUdp hlawful hruns

/-- Every run of the shared text serves its request in one of the ways above. -/
theorem handled_of_runs (hlawful : server.Lawful) {request : Request}
    {inbound : List UInt8} {trace : List ServerEvent} {result : Except IoError Unit}
    (hruns : Runs (server.handleRequest request inbound).run trace result) :
    ∃ response, Handled server request inbound trace response := by
  by_cases htoken : tokenMatches server.token request.token = true
  · rw [handleRequest, if_pos htoken] at hruns
    obtain ⟨answer, first, second, rfl, hresolve, hrest⟩ :=
      runs_run_lift_bind_iff.mp hruns
    have hobtains := obtains_of_resolve hlawful hresolve
    cases answer with
    | elapsed =>
        exact ⟨_, .unresolved htoken hobtains (by simp) (hlawful.refuses hrest)⟩
    | ready answer =>
        cases answer with
        | error failure =>
            exact ⟨_, .unresolved htoken hobtains (by simp) (hlawful.refuses hrest)⟩
        | ok candidates =>
            cases candidates with
            | nil =>
                exact ⟨_, .unresolved htoken hobtains (by simp) (hlawful.refuses hrest)⟩
            | cons candidate candidates =>
                rcases serves_of_serveResolved hlawful hrest with
                  ⟨hallowed, hreply⟩ | ⟨hallowed, response, hserves⟩
                · exact ⟨_, .forbidden htoken hobtains (by simp) hallowed hreply⟩
                · exact ⟨response, .served htoken hobtains hallowed hserves⟩
  · rw [handleRequest, if_neg htoken] at hruns
    exact ⟨_, .badToken (Bool.eq_false_iff.mpr htoken) (hlawful.refuses hruns)⟩

/-! ## A run that opens a flow -/

theorem exists_runs_bindSource (server : Endpoint) (addr : SocketAddr) :
    ∃ trace, Runs (server.bindSource addr) trace (.ok ()) := by
  unfold bindSource
  split
  · split
    · exact ⟨_, runs_issue_iff.mpr rfl⟩
    · exact ⟨[], runs_pure_iff.mpr ⟨rfl, rfl⟩⟩
  · exact ⟨[], runs_pure_iff.mpr ⟨rfl, rfl⟩⟩

theorem exists_runs_dialTcp (server : Endpoint) (addr : SocketAddr) :
    ∃ setup, Runs (server.dialTcp addr)
      (setup ++ [⟨.tcpConnect server.connectTimeoutMs addr, .ready (.ok ())⟩])
      (.ready (.ok ())) ∧ Attempts addr setup := by
  obtain ⟨bind, hbind⟩ := exists_runs_bindSource server addr
  have hsocket : Attempts addr [⟨.tcpSocket addr.isIpv4, .ok ()⟩] :=
    .singleton rfl rfl (by simp [ServerOp.peer])
  refine ⟨⟨.tcpSocket addr.isIpv4, .ok ()⟩ :: bind, ?_,
    hsocket.append (attempts_of_bindSource hbind).1⟩
  refine runs_perform_bind_iff.mpr ⟨.ok (), _, rfl, ?_⟩
  exact runs_bind_iff.mpr ⟨.ok (), bind, _, rfl, hbind, runs_issue_iff.mpr rfl⟩

theorem delivered_of_isDial {event : ServerEvent} (hdial : event.1.isDial = true) :
    delivered event := by
  unfold delivered
  split
  · cases hdial
  · cases hdial
  · cases hdial
  · trivial

theorem delivered_default {event : ServerEvent} (hanswer : event.2 = default) :
    delivered event := by
  unfold delivered
  split
  · exact hanswer
  · exact hanswer
  · exact hanswer
  · trivial

/-- An admitted address, asked for with the right token, can be reached. -/
theorem exists_runs_handleRequest (server : Endpoint) (addr : SocketAddr)
    (hpermits : server.permits addr.ip = true) (inbound : List UInt8) :
    ∃ trace result,
      Runs (server.handleRequest ⟨.connectTcp, server.token, .ip addr⟩ inbound).run
        trace result ∧ (∃ event ∈ trace, connected event = some addr) ∧
      ∀ event ∈ trace, delivered event := by
  obtain ⟨setup, hdial, hsetup⟩ := exists_runs_dialTcp server addr
  obtain ⟨flow, result, hflow, hanswers⟩ := exists_runs (fun _ => default)
    (do Response.ok.writeTo; server.relayTcp inbound : Handler Unit).run
  have hloop : Runs (server.dialCandidates [addr] none)
      (setup ++ [⟨.tcpConnect server.connectTimeoutMs addr, .ready (.ok ())⟩])
      (.ok addr) :=
    runs_bind_iff.mpr ⟨_, _, [], (List.append_nil _).symm, hdial,
      runs_pure_iff.mpr ⟨rfl, rfl⟩⟩
  have hserve : Runs (server.serveTcp inbound [addr]).run
      (setup ++ [⟨.tcpConnect server.connectTimeoutMs addr, .ready (.ok ())⟩] ++ flow)
      result :=
    runs_run_lift_bind_iff.mpr ⟨.ok addr, _, flow, rfl, hloop, hflow⟩
  have hresolved : server.serveResolved ⟨.connectTcp, server.token, .ip addr⟩ inbound
      [addr] = server.serveTcp inbound [addr] := by
    simp only [serveResolved, List.filter_singleton, hpermits, cond_true]
  refine ⟨setup ++ [⟨.tcpConnect server.connectTimeoutMs addr, .ready (.ok ())⟩] ++ flow,
    result, ?_, ⟨⟨.tcpConnect server.connectTimeoutMs addr, .ready (.ok ())⟩, by simp, rfl⟩,
    fun event hmem => ?_⟩
  · rw [handleRequest, if_pos (tokenMatches_self _)]
    refine runs_run_lift_bind_iff.mpr
      ⟨.ready (.ok [addr]), [], _, rfl, runs_pure_iff.mpr ⟨rfl, rfl⟩, ?_⟩
    rw [← hresolved] at hserve
    exact hserve
  · rcases List.mem_append.mp hmem with hdialed | hlast
    · rcases List.mem_append.mp hdialed with hfirst | hconnect
      · exact delivered_of_isDial (hsetup event hfirst).1
      · rw [List.mem_singleton.mp hconnect]
        trivial
    · exact delivered_default (hanswers event hlast)

end Endpoint

/-! ## What a session relays -/

theorem inbound_of_isDial {op : ServerOp} (hdial : op.isDial = true) : op.inbound = none := by
  cases op with
  | relayTcp idleSecs inbound => cases hdial
  | relayUdp idleSecs inbound => cases hdial
  | _ => rfl

theorem inbound_of_isReplyEnd {op : ServerOp} (hend : op.isReplyEnd = true) :
    op.inbound = none := by
  cases op with
  | relayTcp idleSecs inbound => cases hend
  | relayUdp idleSecs inbound => cases hend
  | _ => rfl

/-- These events relay `inbound`, if they relay. -/
def RelaysOnly (inbound : List UInt8) (trace : List ServerEvent) : Prop :=
  ∀ event ∈ trace, ∀ bytes, event.1.inbound = some bytes → bytes = inbound

namespace RelaysOnly

variable {inbound : List UInt8} {first second trace : List ServerEvent}

theorem of_none (hnone : ∀ event ∈ trace, event.1.inbound = none) :
    RelaysOnly inbound trace := by
  intro event hmem bytes hbytes
  cases (hnone event hmem).symm.trans hbytes

theorem append (hfirst : RelaysOnly inbound first) (hsecond : RelaysOnly inbound second) :
    RelaysOnly inbound (first ++ second) :=
  List.forall_mem_append.mpr ⟨hfirst, hsecond⟩

theorem of_obtains {target : Address} {answer : Timed (Except IoError (List SocketAddr))}
    (hobtains : Obtains target trace answer) : RelaysOnly inbound trace := by
  cases hobtains with
  | ip addr => exact .of_none (List.forall_mem_nil _)
  | @name host port event answer hlookup =>
      refine .of_none (List.forall_mem_singleton.mpr ?_)
      unfold lookedUp at hlookup
      split at hlookup <;> first | rfl | cases hlookup

theorem of_repliesWith {response : Response} (hreply : RepliesWith response trace) :
    RelaysOnly inbound trace := by
  obtain ⟨answer, rest, rfl, hrest⟩ := hreply
  exact .of_none (List.forall_mem_cons.mpr
    ⟨rfl, fun event hmem => inbound_of_isReplyEnd (hrest event hmem)⟩)

theorem of_attempts {addr : SocketAddr} (hattempts : Attempts addr trace) :
    RelaysOnly inbound trace :=
  .of_none fun event hmem => inbound_of_isDial (hattempts event hmem).1

theorem of_dials {addrs : List SocketAddr} {outcome : Option SocketAddr}
    (hdials : Dials addrs trace outcome) : RelaysOnly inbound trace := by
  induction hdials with
  | nil => exact .of_none (List.forall_mem_nil _)
  | miss hattempt hrest ih => exact (of_attempts hattempt).append ih
  | @hit addr addrs setup event hsetup hconnected =>
      refine (of_attempts hsetup).append (.of_none (List.forall_mem_singleton.mpr ?_))
      unfold connected at hconnected
      split at hconnected <;> first | rfl | cases hconnected

theorem of_opens (hopens : Opens inbound trace) : RelaysOnly inbound trace := by
  rcases hopens with ⟨hreply, -⟩ | ⟨relay, rfl, event, rest, rfl, hrest, hrelay⟩
  · exact of_repliesWith hreply
  · intro other hmem bytes hbytes
    simp only [List.mem_cons] at hmem
    rcases hmem with rfl | rfl | rfl | hmem
    · cases hbytes
    · cases hbytes
    · rcases hrelay with ⟨idleSecs, hop⟩ | ⟨idleSecs, hop⟩ <;>
      · rw [hop] at hbytes
        exact (Option.some.inj hbytes).symm
    · rw [hrest other hmem] at hbytes
      cases hbytes

/-- A session relays the bytes behind its request, and no others. -/
theorem of_handled {server : Endpoint} {request : Request} {response : Response}
    (hhandled : Handled server request inbound trace response) :
    RelaysOnly inbound trace := by
  cases hhandled with
  | badToken htoken hreply => exact of_repliesWith hreply
  | unresolved htoken hobtains hnothing hreply =>
      exact (of_obtains hobtains).append (of_repliesWith hreply)
  | forbidden htoken hobtains hcandidates hallowed hreply =>
      exact (of_obtains hobtains).append (of_repliesWith hreply)
  | served htoken hobtains hallowed hserves =>
      refine (of_obtains hobtains).append ?_
      cases hserves with
      | undialed hdials hreply => exact (of_dials hdials).append (of_repliesWith hreply)
      | opened hdials hopens => exact (of_dials hdials).append (of_opens hopens)

end RelaysOnly

/-! ## Entries -/

namespace Endpoint

variable {server : Endpoint}

/-- Behind its entry, a session is a run of the request handler. -/
def Entered (server : Endpoint) (trace : List ServerEvent) : Prop :=
  TurnedAway trace ∨ ∃ request inbound rest, Enters trace request inbound rest ∧
    ∃ result, Runs (server.handleRequest request inbound).run rest result

theorem session_of_entered (hlawful : server.Lawful) {trace : List ServerEvent}
    (hentered : Entered server trace) : Session server trace := by
  rcases hentered with hturned | ⟨request, inbound, rest, henters, result, hruns⟩
  · exact .inl hturned
  · obtain ⟨response, hhandled⟩ := handled_of_runs hlawful hruns
    exact .inr ⟨request, inbound, rest, response, henters, hhandled⟩

theorem entered_of_handleStream {timeoutSecs : ℕ} {timeoutMessage : String}
    {trace : List ServerEvent} {result : Except IoError Unit}
    (hruns : Runs (server.handleStream timeoutSecs timeoutMessage).run trace result) :
    Entered server trace := by
  obtain ⟨answer, rest, rfl, hrest⟩ := runs_run_perform_bind_iff.mp hruns
  cases answer with
  | elapsed =>
      obtain ⟨rfl, _⟩ := runs_run_throw_iff.mp hrest
      exact .inl (.stream nofun)
  | ready arrived =>
      cases arrived with
      | error failure =>
          obtain ⟨rfl, _⟩ := runs_run_throw_iff.mp hrest
          exact .inl (.stream nofun)
      | ok stream =>
          cases hread : Request.readFrom.run stream with
          | error failure =>
              simp only [hread] at hrest
              obtain ⟨rfl, _⟩ := runs_run_throw_iff.mp hrest
              refine .inl (.stream fun other hsame => ?_)
              cases hsame
              exact ⟨failure, hread⟩
          | ok decoded =>
              simp only [hread] at hrest
              exact .inr ⟨_, _, _, .stream hread, result, hrest⟩

/-- A handler run is one of the byte-stream entry, behind the request it reads. -/
theorem runs_handleStream_of_read {timeoutSecs : ℕ} {timeoutMessage : String}
    {stream inbound : List UInt8} {request : Request} {trace : List ServerEvent}
    {result : Except IoError Unit}
    (hread : Request.readFrom.run stream = .ok (request, inbound))
    (hruns : Runs (server.handleRequest request inbound).run trace result) :
    Runs (server.handleStream timeoutSecs timeoutMessage).run
      (⟨.awaitRequest timeoutSecs, .ready (.ok stream)⟩ :: trace) result := by
  refine runs_run_perform_bind_iff.mpr ⟨.ready (.ok stream), trace, rfl, ?_⟩
  simp only [hread]
  exact hruns

/-- An unreadable request ends the byte-stream entry. -/
theorem runs_handleStream_of_unread {timeoutSecs : ℕ} {timeoutMessage : String}
    {stream : List UInt8} {failure : IoError}
    (hread : Request.readFrom.run stream = .error failure) :
    Runs (server.handleStream timeoutSecs timeoutMessage).run
      [⟨.awaitRequest timeoutSecs, .ready (.ok stream)⟩] (.error failure) := by
  refine runs_run_perform_bind_iff.mpr ⟨.ready (.ok stream), [], rfl, ?_⟩
  simp only [hread]
  exact runs_run_throw_iff.mpr ⟨rfl, rfl⟩

end Endpoint

section Sessions

variable {Net : Type} [IpNetwork Net]

theorem session_of_handle {cfg : VmConfig Net} {trace : List ServerEvent}
    {result : Except IoError Unit} (hruns : Runs (Vm.handle cfg).run trace result) :
    Session (Vm.endpoint cfg) trace :=
  Endpoint.session_of_entered (lawful_vm cfg) (Endpoint.entered_of_handleStream hruns)

theorem session_of_handleStream {cfg : ServerConfig Net} {trace : List ServerEvent}
    {result : Except IoError Unit}
    (hruns : Runs (Proxy.handleStream cfg).run trace result) :
    Session (Proxy.endpoint cfg) trace :=
  Endpoint.session_of_entered (lawful_proxy cfg) (Endpoint.entered_of_handleStream hruns)

theorem entered_of_grpcOpen {cfg : ServerConfig Net} {trace : List ServerEvent}
    {result : Except GrpcStatus Unit}
    (hruns : Runs (Proxy.grpcOpen cfg).run trace result) :
    (Proxy.endpoint cfg).Entered trace := by
  obtain ⟨answer, rest, rfl, hrest⟩ := runs_run_perform_bind_iff.mp hruns
  cases answer with
  | elapsed =>
      obtain ⟨rfl, _⟩ := runs_run_throw_iff.mp hrest
      exact .inl (.frame nofun)
  | ready arrived =>
      cases arrived with
      | error failure =>
          obtain ⟨rfl, _⟩ := runs_run_throw_iff.mp hrest
          exact .inl (.frame nofun)
      | ok message =>
          cases message with
          | none =>
              obtain ⟨rfl, _⟩ := runs_run_throw_iff.mp hrest
              exact .inl (.frame nofun)
          | some first =>
              cases hread : Request.readFrom.run first.payload with
              | error failure =>
                  simp only [hread] at hrest
                  obtain ⟨rfl, _⟩ := runs_run_throw_iff.mp hrest
                  refine .inl (.frame fun other hsame => ?_)
                  cases hsame
                  exact ⟨failure, hread⟩
              | ok decoded =>
                  simp only [hread] at hrest
                  obtain ⟨frames, rest, rfl, hspawned⟩ :=
                    runs_run_perform_bind_iff.mp hrest
                  obtain ⟨outcome, first, second, rfl, hhandler, hdone⟩ :=
                    runs_run_lift_bind_iff.mp hspawned
                  obtain ⟨rfl, _⟩ := runs_run_pure_iff.mp hdone
                  rw [List.append_nil]
                  exact .inr ⟨_, _, _, .frame hread, outcome, hhandler⟩

theorem session_of_grpcOpen {cfg : ServerConfig Net} {trace : List ServerEvent}
    {result : Except GrpcStatus Unit}
    (hruns : Runs (Proxy.grpcOpen cfg).run trace result) :
    Session (Proxy.endpoint cfg) trace :=
  Endpoint.session_of_entered (lawful_proxy cfg) (entered_of_grpcOpen hruns)

/-- A handler run is one of the gRPC entry, behind the frame it reads. -/
theorem runs_grpcOpen_of_read {cfg : ServerConfig Net} {first : TunnelFrame}
    {frames : List TunnelFrame} {leftover : List UInt8} {request : Request}
    {trace : List ServerEvent} {outcome : Except IoError Unit}
    (hread : Request.readFrom.run first.payload = .ok (request, leftover))
    (hruns : Runs (Proxy.handleRequest cfg request
      (frames.flatMap TunnelFrame.payload)).run trace outcome) :
    Runs (Proxy.grpcOpen cfg).run
      (⟨.firstMessage Proxy.requestTimeoutSecs, .ready (.ok (some first))⟩ ::
        ⟨.spawnPumps, frames⟩ :: trace) (.ok ()) := by
  refine runs_run_perform_bind_iff.mpr ⟨.ready (.ok (some first)), _, rfl, ?_⟩
  simp only [hread]
  refine runs_run_perform_bind_iff.mpr ⟨frames, trace, rfl, ?_⟩
  exact runs_run_lift_bind_iff.mpr ⟨outcome, trace, [], (List.append_nil _).symm, hruns,
    runs_run_pure_iff.mpr ⟨rfl, rfl⟩⟩

/-- The addresses of any target can be had. -/
theorem exists_runs_resolve (cfg : ServerConfig Net) (target : Address) :
    ∃ lookup addr, Runs ((Proxy.endpoint cfg).resolve target) lookup (.ready (.ok [addr])) := by
  cases target with
  | ip addr => exact ⟨[], addr, runs_pure_iff.mpr ⟨rfl, rfl⟩⟩
  | domain host port =>
      exact ⟨_, .new (.v4 ⟨List.Vector.replicate 4 0⟩) port, runs_issue_iff.mpr rfl⟩

/-- A server that admits every address can relay what any request with its token is
followed by. -/
theorem exists_runs_relayed (cfg : ServerConfig Net)
    (hpermits : ∀ ip, cfg.permits ip = true)
    {request : Request} (htoken : request.token = cfg.token) (inbound : List UInt8) :
    ∃ trace result, Runs (Proxy.handleRequest cfg request inbound).run trace result ∧
      ∃ event ∈ trace, event.1.inbound = some inbound := by
  obtain ⟨lookup, addr, hresolve⟩ := exists_runs_resolve cfg request.target
  obtain ⟨served, result, hserve, event, hmem, hevent⟩ : ∃ served result,
      Runs ((Proxy.endpoint cfg).serveResolved request inbound [addr]).run served result ∧
        ∃ event ∈ served, event.1.inbound = some inbound := by
    have hallowed : [addr].filter (fun addr => (Proxy.endpoint cfg).permits addr.ip) = [addr] := by
      rw [List.filter_singleton]
      simp only [Proxy.endpoint, hpermits, cond_true]
    have hopens : ∀ (relay : Handler Unit) relayed result, Runs relay.run relayed result →
        Runs (do Response.ok.writeTo; relay : Handler Unit).run
          (⟨.send Response.ok.buf, .ok ()⟩ :: ⟨.flush, .ok ()⟩ :: relayed) result := by
      intro relay relayed result hrelay
      exact runs_run_bind_iff.mpr (.inr ⟨(), [_, _], relayed, rfl,
        runs_writeTo_iff.mpr (.inr rfl), hrelay⟩)
    rw [Endpoint.serveResolved, hallowed]
    cases request.cmd with
    | connectTcp =>
        obtain ⟨setup, hdial, -⟩ := Endpoint.exists_runs_dialTcp (Proxy.endpoint cfg) addr
        refine ⟨_, _, runs_run_lift_bind_iff.mpr ⟨.ok addr, _, _, rfl,
          runs_bind_iff.mpr ⟨_, _, [], (List.append_nil _).symm, hdial,
            runs_pure_iff.mpr ⟨rfl, rfl⟩⟩,
          hopens _ [⟨.relayTcp (some cfg.tcpIdleTimeoutSecs) inbound, ⟨[], .ok ()⟩⟩] (.ok ())
            (runs_perform_bind_iff.mpr ⟨⟨[], .ok ()⟩, [], rfl, runs_pure_iff.mpr ⟨rfl, rfl⟩⟩)⟩,
          ⟨.relayTcp (some cfg.tcpIdleTimeoutSecs) inbound, ⟨[], .ok ()⟩⟩, by simp, rfl⟩
    | bindUdp =>
        refine ⟨_, _, runs_run_perform_bind_iff.mpr ⟨.ok (), _, rfl,
          runs_run_perform_bind_iff.mpr ⟨.ok (), _, rfl,
            hopens _ [⟨.relayUdp cfg.udpTimeoutSecs inbound, ⟨[], .ok ()⟩⟩] (.ok ())
              (runs_perform_bind_iff.mpr ⟨⟨[], .ok ()⟩, [], rfl, runs_pure_iff.mpr ⟨rfl, rfl⟩⟩)⟩⟩,
          ⟨.relayUdp cfg.udpTimeoutSecs inbound, ⟨[], .ok ()⟩⟩, by simp, rfl⟩
  refine ⟨lookup ++ served, result, ?_, event, List.mem_append_right _ hmem, hevent⟩
  change Runs ((Proxy.endpoint cfg).handleRequest request inbound).run _ _
  have htokens : tokenMatches (Proxy.endpoint cfg).token request.token = true := by
    rw [htoken]
    exact tokenMatches_self _
  rw [Endpoint.handleRequest, if_pos htokens]
  exact runs_run_lift_bind_iff.mpr ⟨.ready (.ok [addr]), lookup, served, rfl, hresolve, hserve⟩

/-- An unreadable request ends the gRPC entry. -/
theorem runs_grpcOpen_of_unread {cfg : ServerConfig Net} {first : TunnelFrame}
    {failure : IoError} (hread : Request.readFrom.run first.payload = .error failure) :
    Runs (Proxy.grpcOpen cfg).run
      [⟨.firstMessage Proxy.requestTimeoutSecs, .ready (.ok (some first))⟩]
      (.error (.invalidArgument s!"invalid proxy request: {failure.message}")) := by
  refine runs_run_perform_bind_iff.mpr ⟨.ready (.ok (some first)), [], rfl, ?_⟩
  simp only [hread]
  exact runs_run_throw_iff.mpr ⟨rfl, rfl⟩

end Sessions

end VpnBridge.Server
