import VpnBridge.Proto.RequestCodec
import VpnBridge.Server.HandlerRuns

/-!
# Authentication

The folded token comparison is not equality on arbitrary strings.  It is between
a token that `validate` accepted and one that a request brought, since both are
then at most 255 bytes long.  A request that fails it is answered with one fixed
response, so that nothing about the server's policy or the request's target can
be told from the reply.
-/

namespace VpnBridge.Server

open VpnBridge.Interaction VpnBridge.Net VpnBridge.Proto

/-! ## The comparison -/

/-- Between tokens of at most 255 bytes, the comparison is equality of bytes. -/
theorem tokenMatches_iff_asBytes {expected : String}
    (hexpected : (asBytes expected).length ≤ 255) {stream rest : List UInt8}
    {request : Request}
    (hread : Request.readFrom.run stream = .ok (request, rest)) :
    tokenMatches expected request.token = true ↔
      asBytes expected = asBytes request.token := by
  rw [tokenMatches_iff hexpected (encodable_of_readFrom hread).1,
    asBytes_injective.eq_iff]

/-! ## The refusal -/

/-- The session decoded a request with another token than `token`. -/
def Unauthenticated (token : String) (trace : List ServerEvent) : Prop :=
  ∃ request inbound rest, Enters trace request inbound rest ∧
    tokenMatches token request.token = false

theorem Enters.unique {trace rest rest' : List ServerEvent} {request request' : Request}
    {inbound inbound' : List UInt8} (hleft : Enters trace request inbound rest)
    (hright : Enters trace request' inbound' rest') :
    request = request' ∧ inbound = inbound' ∧ rest = rest' := by
  cases hleft with
  | stream hread =>
      cases hright with
      | stream hread' =>
          cases hread.symm.trans hread'
          exact ⟨rfl, rfl, rfl⟩
  | frame hread =>
      cases hright with
      | frame hread' =>
          cases hread.symm.trans hread'
          exact ⟨rfl, rfl, rfl⟩

/-- The entry events put nothing on the tunnel and relay nothing. -/
theorem Enters.tunnelBytes_eq {trace rest : List ServerEvent} {request : Request}
    {inbound : List UInt8} (henters : Enters trace request inbound rest) :
    tunnelBytes trace = tunnelBytes rest ∧
      ∀ event ∈ trace, event ∈ rest ∨ event.1.isRelay = false := by
  cases henters with
  | stream hread => exact ⟨rfl, by simp +contextual [ServerOp.isRelay]⟩
  | frame hread =>
      refine ⟨rfl, fun event hmem => ?_⟩
      rcases List.mem_cons.mp hmem with rfl | hmem
      · exact .inr rfl
      · rcases List.mem_cons.mp hmem with rfl | hmem
        · exact .inr rfl
        · exact .inl hmem

/-- A reply is its response's bytes and no relay. -/
theorem RepliesWith.tunnelBytes_eq {response : Response} {trace : List ServerEvent}
    (hreply : RepliesWith response trace) :
    tunnelBytes trace = response.buf ∧ ∀ event ∈ trace, event.1.isRelay = false := by
  obtain ⟨answer, rest, rfl, hrest⟩ := hreply
  have hend : ∀ event ∈ rest, onTunnel event = [] ∧ event.1.isRelay = false := by
    intro event hmem
    have hend := hrest event hmem
    obtain ⟨op, answer⟩ := event
    cases op with
    | flush => exact ⟨rfl, rfl⟩
    | shutdown => exact ⟨rfl, rfl⟩
    | _ => cases hend
  constructor
  · have hnil : rest.flatMap onTunnel = [] :=
      List.flatMap_eq_nil_iff.mpr fun event hmem => (hend event hmem).1
    rw [tunnelBytes, List.flatMap_cons, hnil, List.append_nil]
    rfl
  · intro event hmem
    rcases List.mem_cons.mp hmem with rfl | hmem
    · rfl
    · exact (hend event hmem).2

/-- Whatever else differs, a session with a wrong token sends the one refusal. -/
theorem tunnelBytes_of_unauthenticated {server : Endpoint} {trace : List ServerEvent}
    (hsession : Session server trace) (hwrong : Unauthenticated server.token trace) :
    tunnelBytes trace = (Response.err .authFailed server.authMessage).buf ∧
      ∀ event ∈ trace, event.1.isRelay = false := by
  obtain ⟨request, inbound, rest, henters, hmismatch⟩ := hwrong
  rcases hsession with hturned | ⟨request', inbound', rest', response, henters', hhandled⟩
  · exact absurd henters hturned.not_enters
  · obtain ⟨rfl, rfl, rfl⟩ := henters.unique henters'
    have hreply : RepliesWith (.err .authFailed server.authMessage) rest := by
      cases hhandled with
      | badToken htoken hreply => exact hreply
      | unresolved htoken => cases hmismatch.symm.trans htoken
      | forbidden htoken => cases hmismatch.symm.trans htoken
      | served htoken => cases hmismatch.symm.trans htoken
    obtain ⟨hbytes, hrelay⟩ := hreply.tunnelBytes_eq
    obtain ⟨hsame, hentry⟩ := henters.tunnelBytes_eq
    refine ⟨hsame.trans hbytes, fun event hmem => ?_⟩
    exact (hentry event hmem).elim (hrelay event) id

/-- Two runs that put the same bytes, those of `response`, on the tunnel and relay
no flow. -/
def SameRefusal (response : Response) (trace trace' : List ServerEvent) : Prop :=
  tunnelBytes trace = response.buf ∧ tunnelBytes trace' = tunnelBytes trace ∧
    ∀ event ∈ trace ++ trace', event.1.isRelay = false

theorem sameRefusal_of_sessions {server server' : Endpoint} {message : String}
    (hmessage : server.authMessage = message) (hmessage' : server'.authMessage = message)
    {trace trace' : List ServerEvent}
    (hsession : Session server trace) (hsession' : Session server' trace')
    (hwrong : Unauthenticated server.token trace)
    (hwrong' : Unauthenticated server'.token trace') :
    SameRefusal (.err .authFailed message) trace trace' := by
  obtain ⟨hbytes, hrelay⟩ := tunnelBytes_of_unauthenticated hsession hwrong
  obtain ⟨hbytes', hrelay'⟩ := tunnelBytes_of_unauthenticated hsession' hwrong'
  rw [hmessage] at hbytes
  rw [hmessage'] at hbytes'
  refine ⟨hbytes, hbytes'.trans hbytes.symm, fun event hmem => ?_⟩
  exact (List.mem_append.mp hmem).elim (hrelay event) (hrelay' event)

section Servers

variable {Net : Type} [IpNetwork Net]

/-- A run of the proxy server through either of its entries. -/
def ProxyRun (cfg : ServerConfig Net) (trace : List ServerEvent) : Prop :=
  (∃ result, Runs (Proxy.handleStream cfg).run trace result) ∨
    ∃ result, Runs (Proxy.grpcOpen cfg).run trace result

theorem ProxyRun.session {cfg : ServerConfig Net} {trace : List ServerEvent}
    (hruns : ProxyRun cfg trace) : Session (Proxy.endpoint cfg) trace := by
  rcases hruns with ⟨result, hruns⟩ | ⟨result, hruns⟩
  · exact session_of_handleStream hruns
  · exact session_of_grpcOpen hruns

/-- An encodable request reaches the handler through the QUIC entry. -/
theorem exists_proxyRun (cfg : ServerConfig Net) {request : Request}
    (hencodable : request.Encodable) :
    ∃ trace inbound rest, ProxyRun cfg trace ∧ Enters trace request inbound rest := by
  obtain ⟨rest, result, hruns, _⟩ := exists_runs (fun _ => default)
    ((Proxy.endpoint cfg).handleRequest request []).run
  have hread := readFrom_buf hencodable []
  exact ⟨_, [], rest, .inl ⟨result, Endpoint.runs_handleStream_of_read hread hruns⟩,
    .stream hread⟩

end Servers

/-- Acceptance is equality with the configured token, and refusals are all alike,
across targets, commands, policies and entries. -/
theorem authentication_exact {Net : Type} [IpNetwork Net] :
    (∀ cfg : VmConfig Net, cfg.validate = .ok () → ∀ stream request rest,
      Request.readFrom.run stream = .ok (request, rest) →
        (tokenMatches cfg.token request.token = true ↔
          asBytes cfg.token = asBytes request.token)) ∧
    (∀ cfg : ServerConfig Net, cfg.validate = .ok () → ∀ stream request rest,
      Request.readFrom.run stream = .ok (request, rest) →
        (tokenMatches cfg.token request.token = true ↔
          asBytes cfg.token = asBytes request.token)) ∧
    (∀ (cfg cfg' : VmConfig Net) trace trace' result result',
      Runs (Vm.handle cfg).run trace result → Runs (Vm.handle cfg').run trace' result' →
        Unauthenticated cfg.token trace → Unauthenticated cfg'.token trace' →
          SameRefusal (.err .authFailed "bad token") trace trace') ∧
    ∀ (cfg cfg' : ServerConfig Net) trace trace',
      ProxyRun cfg trace → ProxyRun cfg' trace' →
        Unauthenticated cfg.token trace → Unauthenticated cfg'.token trace' →
          SameRefusal (.err .authFailed "invalid token") trace trace' := by
  refine ⟨?_, ?_, ?_, ?_⟩
  · intro cfg hvalid stream request rest hread
    exact tokenMatches_iff_asBytes (length_of_validate_vm hvalid) hread
  · intro cfg hvalid stream request rest hread
    exact tokenMatches_iff_asBytes (length_of_validate_server hvalid) hread
  · intro cfg cfg' trace trace' result result' hruns hruns'
    have hmessage : ∀ cfg : VmConfig Net, (Vm.endpoint cfg).authMessage = "bad token" :=
      fun _ => rfl
    exact sameRefusal_of_sessions (hmessage cfg) (hmessage cfg')
      (session_of_handle hruns) (session_of_handle hruns')
  · intro cfg cfg' trace trace' hruns hruns'
    have hmessage : ∀ cfg : ServerConfig Net,
        (Proxy.endpoint cfg).authMessage = "invalid token" :=
      fun _ => rfl
    exact sameRefusal_of_sessions (hmessage cfg) (hmessage cfg') hruns.session
      hruns'.session

/-- A request with the token of the server's tests, padded with a NUL byte. -/
def paddedRequest (target : Address) : Request :=
  ⟨.connectTcp, "test-token\x00", target⟩

/-- The padded token is another token, and its refusal tells no more than the
refusal of another target under another policy. -/
theorem authentication_exact_padded :
    tokenMatches "test-token" "test-token\x00" = false ∧
    ∃ trace trace', ProxyRun (.sample [] [] : ServerConfig IpNet) trace ∧
      ProxyRun (.sample [] [privateNetwork]) trace' ∧
      SameRefusal (.err .authFailed "invalid token") trace trace' := by
  have hlocal : (paddedRequest (.domain "intranet" 80)).Encodable := by
    simp only [Request.Encodable, paddedRequest, Address.Encodable]
    decide
  have hremote : (paddedRequest
      (.ip (.new (.v4 ⟨⟨[10, 1, 2, 3], rfl⟩⟩) 443))).Encodable := by
    simp only [Request.Encodable, paddedRequest, SocketAddr.new, Address.Encodable]
    decide
  have hpadded : tokenMatches "test-token" "test-token\x00" = false := by
    have hiff := authentication_exact.2.1 (.sample [] [] : ServerConfig IpNet)
      (ServerConfig.validate_sample _ _) _ _ _ (readFrom_buf hlocal [])
    simp only [ServerConfig.sample, paddedRequest] at hiff
    rw [← Bool.not_eq_true, hiff]
    decide
  obtain ⟨trace, inbound, rest, hruns, henters⟩ :=
    exists_proxyRun (.sample [] [] : ServerConfig IpNet) hlocal
  obtain ⟨trace', inbound', rest', hruns', henters'⟩ := exists_proxyRun
    (.sample [] [privateNetwork] : ServerConfig IpNet) hremote
  exact ⟨hpadded, trace, trace', hruns, hruns',
    authentication_exact.2.2.2 _ _ trace trace' hruns hruns'
      ⟨_, inbound, rest, henters, hpadded⟩ ⟨_, inbound', rest', henters', hpadded⟩⟩

end VpnBridge.Server
