import VpnBridge.Proto.RequestCodec
import VpnBridge.Server.Authorization

/-!
# Denied hosts under their other name

Connecting a dual-stack socket to `::ffff:a` reaches the IPv4 host `a`.  The
policy compares addresses as they are spelled, so a `deny` network that covers
`a` protects it only when the lists also keep `::ffff:a` out.
-/

namespace VpnBridge.Server

open VpnBridge.Interaction VpnBridge.Net VpnBridge.Proto

/-- The IPv4 host that a connect to this address reaches. -/
def effectiveIpv4 : IpAddr → Option Ipv4Addr
  | .v4 addr => some addr
  | .v6 addr => addr.toIpv4Mapped

/-- The run opened a flow to `host`. -/
def OpensFlowTo (host : Ipv4Addr) (trace : List ServerEvent) : Prop :=
  ∃ event ∈ trace, ∃ peer, connected event = some peer ∧
    effectiveIpv4 peer.ip = some host

section Policy

variable {Net : Type} [IpNetwork Net]

/-- Some `deny` network covers the host. -/
def Denies (deny : List Net) (host : Ipv4Addr) : Prop :=
  ∃ network ∈ deny, IpNetwork.contains network (.v4 host) = true

/-- The lists keep the mapped spelling out on their own account. -/
def RefusesMapped (allow deny : List Net) (host : Ipv4Addr) : Prop :=
  (∃ network ∈ deny, IpNetwork.contains network (.v6 host.toIpv6Mapped) = true) ∨
  (allow ≠ [] ∧
    ∀ network ∈ allow, IpNetwork.contains network (.v6 host.toIpv6Mapped) = false)

variable {allow deny : List Net} {host : Ipv4Addr}

theorem not_permits_of_denies (hdenies : Denies deny host) :
    permits allow deny (.v4 host) = false := by
  obtain ⟨network, hmem, hcontains⟩ := hdenies
  rw [← Bool.not_eq_true, permits_iff]
  intro hadmitted
  rw [hadmitted.1 network hmem] at hcontains
  cases hcontains

theorem permits_mapped_iff :
    permits allow deny (.v6 host.toIpv6Mapped) = false ↔ RefusesMapped allow deny host := by
  rw [← Bool.not_eq_true, permits_iff, RefusesMapped, not_and_or]
  apply or_congr
  · simp only [not_forall, Bool.not_eq_false, exists_prop]
  · simp only [Classical.not_imp, not_exists, not_and, Bool.not_eq_true]

/-- The two spellings are the only addresses that reach a host. -/
theorem effectiveIpv4_eq_some_iff {ip : IpAddr} :
    effectiveIpv4 ip = some host ↔ ip = .v4 host ∨ ip = .v6 host.toIpv6Mapped := by
  cases ip with
  | v4 addr => simp [effectiveIpv4]
  | v6 addr => simp [effectiveIpv4, toIpv4Mapped_eq_some_iff]

/-- With the mapped spelling out of the way no session reaches a denied host. -/
theorem not_opensFlowTo_of_session {token : String} {trace : List ServerEvent}
    (hsession : AuthorizedSession token allow deny trace)
    (hdenies : Denies deny host) (hmapped : RefusesMapped allow deny host) :
    ¬ OpensFlowTo host trace := by
  rintro ⟨event, hmem, peer, hconnected, heffective⟩
  have hpermits := hsession.permits_peer hmem (peer_of_connected hconnected)
  rcases effectiveIpv4_eq_some_iff.mp heffective with hplain | hrespelled
  · rw [hplain, not_permits_of_denies hdenies] at hpermits
    cases hpermits
  · rw [hrespelled, permits_mapped_iff.mpr hmapped] at hpermits
    cases hpermits

end Policy

/-- The request that spells `host` the other way. -/
def mappedRequest (token : String) (host : Ipv4Addr) : Request :=
  ⟨.connectTcp, token, .ip (.new (.v6 host.toIpv6Mapped) 443)⟩

theorem readFrom_mappedRequest {token : String} {host : Ipv4Addr}
    (hlength : (asBytes token).length ≤ 255) :
    Request.readFrom.run (mappedRequest token host).buf =
      .ok (mappedRequest token host, []) := by
  have hencodable : (mappedRequest token host).Encodable := ⟨hlength, rfl, rfl⟩
  simpa only [List.append_nil] using readFrom_buf hencodable []

/-- An admitted mapped spelling opens a flow to the host. -/
theorem exists_opensFlowTo (server : Endpoint) (host : Ipv4Addr)
    (hpermits : server.permits (.v6 host.toIpv6Mapped) = true) (inbound : List UInt8) :
    ∃ trace result,
      Runs (server.handleRequest (mappedRequest server.token host) inbound).run
        trace result ∧ OpensFlowTo host trace := by
  obtain ⟨trace, result, hruns, ⟨event, hmem, hconnected⟩, _⟩ :=
    server.exists_runs_handleRequest (.new (.v6 host.toIpv6Mapped) 443)
      (by rwa [SocketAddr.ip_new]) inbound
  refine ⟨trace, result, hruns, event, hmem, _, hconnected, ?_⟩
  rw [SocketAddr.ip_new]
  exact toIpv4Mapped_toIpv6Mapped host

section Servers

variable {Net : Type} [IpNetwork Net] {host : Ipv4Addr}

theorem exists_runs_handle {cfg : VmConfig Net} (hvalid : cfg.validate = .ok ())
    (hpermits : cfg.permits (.v6 host.toIpv6Mapped) = true) :
    ∃ trace result, Runs (Vm.handle cfg).run trace result ∧ OpensFlowTo host trace := by
  obtain ⟨trace, result, hruns, event, hmem, hopens⟩ :=
    exists_opensFlowTo (Vm.endpoint cfg) host hpermits []
  exact ⟨_, result, Endpoint.runs_handleStream_of_read
    (readFrom_mappedRequest (length_of_validate_vm hvalid)) hruns,
    event, List.mem_cons_of_mem _ hmem, hopens⟩

theorem exists_runs_handleStream {cfg : ServerConfig Net}
    (hvalid : cfg.validate = .ok ())
    (hpermits : cfg.permits (.v6 host.toIpv6Mapped) = true) :
    ∃ trace result, Runs (Proxy.handleStream cfg).run trace result ∧
      OpensFlowTo host trace := by
  obtain ⟨trace, result, hruns, event, hmem, hopens⟩ :=
    exists_opensFlowTo (Proxy.endpoint cfg) host hpermits []
  exact ⟨_, result, Endpoint.runs_handleStream_of_read
    (readFrom_mappedRequest (length_of_validate_server hvalid)) hruns,
    event, List.mem_cons_of_mem _ hmem, hopens⟩

theorem exists_runs_grpcOpen {cfg : ServerConfig Net}
    (hvalid : cfg.validate = .ok ())
    (hpermits : cfg.permits (.v6 host.toIpv6Mapped) = true) :
    ∃ trace result, Runs (Proxy.grpcOpen cfg).run trace result ∧
      OpensFlowTo host trace := by
  obtain ⟨trace, result, hruns, event, hmem, hopens⟩ :=
    exists_opensFlowTo (Proxy.endpoint cfg) host hpermits
      (([] : List TunnelFrame).flatMap TunnelFrame.payload)
  exact ⟨_, .ok (), runs_grpcOpen_of_read
    (readFrom_mappedRequest (length_of_validate_server hvalid)) hruns,
    event, List.mem_cons_of_mem _ (List.mem_cons_of_mem _ hmem), hopens⟩

/-- A program reaches no denied host in any run just when the lists refuse the
mapped spelling too, given that runs are authorized and that an admitted mapped
spelling is reachable. -/
theorem never_opens_iff {Result : Type} {program : ServerProg Result}
    (token : String) {allow deny : List Net} (hdenies : Denies deny host)
    (hauthorized : ∀ trace result, Runs program trace result →
      AuthorizedSession token allow deny trace)
    (hreachable : permits allow deny (.v6 host.toIpv6Mapped) = true →
      ∃ trace result, Runs program trace result ∧ OpensFlowTo host trace) :
    (∀ trace result, Runs program trace result → ¬ OpensFlowTo host trace) ↔
      RefusesMapped allow deny host := by
  constructor
  · intro hnever
    rw [← permits_mapped_iff, ← Bool.not_eq_true]
    intro hpermits
    obtain ⟨trace, result, hruns, hopens⟩ := hreachable hpermits
    exact hnever trace result hruns hopens
  · intro hmapped trace result hruns
    exact not_opensFlowTo_of_session (hauthorized trace result hruns) hdenies hmapped

/-- When a denied host stays out of reach, for each entry of each server: exactly
when the lists refuse its mapped spelling as well. -/
theorem denied_host_unreachable_iff {Net : Type} [IpNetwork Net] (host : Ipv4Addr) :
    (∀ cfg : VmConfig Net, cfg.validate = .ok () → Denies cfg.deny host →
      ((∀ trace result, Runs (Vm.handle cfg).run trace result →
        ¬ OpensFlowTo host trace) ↔ RefusesMapped cfg.allow cfg.deny host) ∧
      (cfg.permits (.v6 host.toIpv6Mapped) = false ↔
        RefusesMapped cfg.allow cfg.deny host)) ∧
    ∀ cfg : ServerConfig Net, cfg.validate = .ok () → Denies cfg.deny host →
      ((∀ trace result, Runs (Proxy.handleStream cfg).run trace result →
        ¬ OpensFlowTo host trace) ↔ RefusesMapped cfg.allow cfg.deny host) ∧
      ((∀ trace result, Runs (Proxy.grpcOpen cfg).run trace result →
        ¬ OpensFlowTo host trace) ↔ RefusesMapped cfg.allow cfg.deny host) ∧
      (cfg.permits (.v6 host.toIpv6Mapped) = false ↔
        RefusesMapped cfg.allow cfg.deny host) := by
  constructor
  · intro cfg hvalid hdenies
    refine ⟨never_opens_iff cfg.token hdenies (fun trace result hruns => ?_)
      (exists_runs_handle hvalid), permits_mapped_iff⟩
    exact authorizedSession_of_session rfl (session_of_handle hruns)
  · intro cfg hvalid hdenies
    refine ⟨never_opens_iff cfg.token hdenies (fun trace result hruns => ?_)
      (exists_runs_handleStream hvalid), never_opens_iff cfg.token hdenies
      (fun trace result hruns => ?_) (exists_runs_grpcOpen hvalid), permits_mapped_iff⟩
    · exact authorizedSession_of_session rfl (session_of_handleStream hruns)
    · exact authorizedSession_of_session rfl (session_of_grpcOpen hruns)

end Servers

/-! ## A deny rule that is evaded -/

/-- `10.0.0.1`. -/
def privateHost : Ipv4Addr :=
  ⟨⟨[10, 0, 0, 1], by decide⟩⟩

theorem denies_privateHost : Denies [privateNetwork] privateHost :=
  ⟨privateNetwork, List.mem_singleton.mpr rfl, by decide⟩

/-- `::ffff:10.0.0.0/104`. -/
def mappedNetwork : IpNet :=
  ⟨.v6 ⟨⟨[0, 0, 0, 0, 0, 0, 0, 0, 0, 0, 0xff, 0xff, 10, 0, 0, 0], rfl⟩⟩, 104, by decide⟩

/-- Denying both spellings of the network keeps the host out of reach. -/
theorem denied_host_unreachable_sample :
    ¬ ∃ trace result,
      Runs (Vm.handle (.sample [] [privateNetwork, mappedNetwork])).run trace result ∧
        OpensFlowTo privateHost trace := by
  rintro ⟨trace, result, hruns, hopens⟩
  have hdenies : Denies [privateNetwork, mappedNetwork] privateHost :=
    ⟨privateNetwork, by simp, by decide⟩
  have hmapped : RefusesMapped [] [privateNetwork, mappedNetwork] privateHost :=
    .inl ⟨mappedNetwork, by simp, by decide⟩
  exact ((denied_host_unreachable_iff privateHost).1 _
    (VmConfig.validate_sample _ _) hdenies).1.mpr hmapped trace result hruns hopens

/-- Denying `10.0.0.0/8` keeps `10.0.0.1` out of reach of neither server. -/
theorem denied_host_reached :
    Denies [privateNetwork] privateHost ∧
    permits [] [privateNetwork] (.v4 privateHost) = false ∧
    permits [] [privateNetwork] (.v6 privateHost.toIpv6Mapped) = true ∧
    (∃ trace result, Runs (Vm.handle (.sample [] [privateNetwork])).run trace result ∧
      OpensFlowTo privateHost trace) ∧
    (∃ trace result,
      Runs (Proxy.handleStream (.sample [] [privateNetwork])).run trace result ∧
        OpensFlowTo privateHost trace) ∧
    ∃ trace result, Runs (Proxy.grpcOpen (.sample [] [privateNetwork])).run trace result ∧
      OpensFlowTo privateHost trace := by
  have hmapped : permits [] [privateNetwork] (.v6 privateHost.toIpv6Mapped) = true := by
    decide
  exact ⟨denies_privateHost, not_permits_of_denies denies_privateHost, hmapped,
    exists_runs_handle (VmConfig.validate_sample _ _) hmapped,
    exists_runs_handleStream (ServerConfig.validate_sample _ _) hmapped,
    exists_runs_grpcOpen (ServerConfig.validate_sample _ _) hmapped⟩

end VpnBridge.Server
