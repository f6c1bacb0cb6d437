import VpnBridge.Core.Checks
import VpnBridge.Net.IpNet
import VpnBridge.Proto.Wire

/-!
# The proxy client's configuration

The fields that `validate` checks and that the transports, the device and the routes
are made from.  The certificate only reaches the TLS libraries.
-/

namespace VpnBridge.Client

open VpnBridge.Checks VpnBridge.Net VpnBridge.Proto

structure TunConfig where
  name : String
  address : Ipv4Addr
  netmask : Ipv4Addr
  mtu : ℕ
  autoRoute : Bool
  deriving DecidableEq

/-- `impl Default for TunConfig`. -/
def TunConfig.default : TunConfig where
  name := "vpnquic0"
  address := ⟨⟨[10, 212, 0, 1], rfl⟩⟩
  netmask := ⟨⟨[255, 255, 255, 0], by decide⟩⟩
  mtu := 1400
  autoRoute := true

structure ClientConfig where
  server : SocketAddr
  quicEnabled : Bool
  grpcEnabled : Bool
  quicServer : Option SocketAddr
  grpcServer : Option SocketAddr
  token : String
  serverName : String
  routes : List IpNet
  connectTimeoutMs : ℕ
  reconnectIntervalMs : ℕ
  tun : TunConfig

namespace ClientConfig

def quicServerAddr (cfg : ClientConfig) : SocketAddr :=
  cfg.quicServer.getD cfg.server

def grpcServerAddr (cfg : ClientConfig) : SocketAddr :=
  cfg.grpcServer.getD cfg.server

def enabledServers (cfg : ClientConfig) : List SocketAddr :=
  (if cfg.quicEnabled then [cfg.quicServerAddr] else []) ++
    (if cfg.grpcEnabled then [cfg.grpcServerAddr] else [])

/-- The first enabled server that a route would send into the tunnel. -/
def capturedServer (cfg : ClientConfig) : Option SocketAddr :=
  cfg.enabledServers.find? fun server =>
    cfg.routes.any fun network => network.contains server.ip

def validate (cfg : ClientConfig) : Except String Unit :=
  if !cfg.quicEnabled && !cfg.grpcEnabled then
    throw "at least one of quic_enabled or grpc_enabled must be true"
  else if (asBytes cfg.token).length = 0 then
    throw "token must not be empty"
  else if (asBytes cfg.token).length > 255 then
    throw "token must be at most 255 bytes"
  else if cfg.serverName.toList.all isWhitespace then
    throw "server_name must not be empty"
  else if cfg.routes.isEmpty then
    throw "routes must not be empty"
  else if cfg.routes.any fun network => !network.addr.isIpv4 then
    throw "IPv6 routes are not supported until the TUN has an IPv6 address"
  else
    match cfg.capturedServer with
    | some server =>
        throw s!"proxy server {server.ip.display} is inside a proxy route; this would capture the tunnel itself"
    | none =>
        if cfg.tun.mtu < 1280 then
          throw "tun.mtu must be at least 1280"
        else if cfg.reconnectIntervalMs = 0 then
          throw "reconnect_interval_ms must be greater than zero"
        else
          pure ()

/-- The configuration of the client's own parsing tests: both transports on one
server address, and the default timers. -/
def sample : ClientConfig where
  server := .new (.v4 ⟨⟨[192, 0, 2, 1], rfl⟩⟩) 4433
  quicEnabled := true
  grpcEnabled := true
  quicServer := none
  grpcServer := none
  token := "secret"
  serverName := "vpnbridge.local"
  routes := [privateNetwork]
  connectTimeoutMs := 5000
  reconnectIntervalMs := 3000
  tun := .default

theorem validate_sample : sample.validate = .ok () := by
  have hname : sample.serverName.toList.all isWhitespace = false := by decide
  rw [validate, hname]
  rfl

/-- What a transport may count on. -/
theorem encodable_of_validate {cfg : ClientConfig} (hvalid : cfg.validate = .ok ()) :
    (asBytes cfg.token).length ≤ 255 := by
  by_contra hlong
  have hrefused : (asBytes cfg.token).length > 255 := by omega
  have hnonempty : ¬ (asBytes cfg.token).length = 0 := by omega
  by_cases htransport : (!cfg.quicEnabled && !cfg.grpcEnabled) = true
  · rw [validate, if_pos htransport] at hvalid
    cases hvalid
  · rw [validate, if_neg htransport, if_neg hnonempty, if_pos hrefused] at hvalid
    cases hvalid

theorem capturedServer_eq_none_iff {cfg : ClientConfig} :
    cfg.capturedServer = none ↔
      ∀ server ∈ cfg.enabledServers, ∀ network ∈ cfg.routes,
        network.contains server.ip = false := by
  simp only [capturedServer, List.find?_eq_none, Bool.not_eq_true, List.any_eq_false]

theorem validate_iff {cfg : ClientConfig} :
    cfg.validate = .ok () ↔
      (cfg.quicEnabled = true ∨ cfg.grpcEnabled = true) ∧
      (asBytes cfg.token).length ≠ 0 ∧ (asBytes cfg.token).length ≤ 255 ∧
      cfg.serverName.toList.all isWhitespace = false ∧
      cfg.routes ≠ [] ∧ (∀ network ∈ cfg.routes, network.addr.isIpv4 = true) ∧
      (∀ server ∈ cfg.enabledServers, ∀ network ∈ cfg.routes,
        network.contains server.ip = false) ∧
      1280 ≤ cfg.tun.mtu ∧ cfg.reconnectIntervalMs ≠ 0 := by
  rw [← capturedServer_eq_none_iff]
  cases hcaptured : cfg.capturedServer with
  | none =>
      simp only [validate, hcaptured, refuse_eq_ok_iff, done_iff, and_true, true_and,
        Bool.and_eq_true, Bool.not_eq_true', not_and_or, Bool.not_eq_false, gt_iff_lt,
        Nat.not_lt, Bool.not_eq_true, ne_eq, List.isEmpty_iff, List.any_eq_false]
  | some server =>
      refine iff_of_false ?_ fun hall => Option.some_ne_none server hall.2.2.2.2.2.2.1
      simp only [validate, hcaptured, refuse_eq_ok_iff]
      rintro ⟨-, -, -, -, -, -, ⟨⟩⟩

end ClientConfig

/-! ## The configuration file

What a file may leave out is optional in its table, and `fill` has the defaults. -/

structure TunTable where
  name : Option String
  address : Option Ipv4Addr
  netmask : Option Ipv4Addr
  mtu : Option ℕ
  autoRoute : Option Bool

def TunTable.fill (table : TunTable) : TunConfig where
  name := table.name.getD TunConfig.default.name
  address := table.address.getD TunConfig.default.address
  netmask := table.netmask.getD TunConfig.default.netmask
  mtu := table.mtu.getD TunConfig.default.mtu
  autoRoute := table.autoRoute.getD true

structure ClientTable where
  server : SocketAddr
  quicEnabled : Option Bool
  grpcEnabled : Option Bool
  quicServer : Option SocketAddr
  grpcServer : Option SocketAddr
  token : String
  serverName : Option String
  routes : List IpNet
  connectTimeoutMs : Option ℕ
  reconnectIntervalMs : Option ℕ
  tun : Option TunTable

def ClientTable.fill (table : ClientTable) : ClientConfig where
  server := table.server
  quicEnabled := table.quicEnabled.getD true
  grpcEnabled := table.grpcEnabled.getD true
  quicServer := table.quicServer
  grpcServer := table.grpcServer
  token := table.token
  serverName := table.serverName.getD "vpnbridge.local"
  routes := table.routes
  connectTimeoutMs := table.connectTimeoutMs.getD 5000
  reconnectIntervalMs := table.reconnectIntervalMs.getD 3000
  tun := (table.tun.map TunTable.fill).getD .default

/-- `ClientConfig::load`, behind the parser. -/
def ClientConfig.load (table : ClientTable) : Except String ClientConfig := do
  table.fill.validate
  return table.fill

/-- A file is refused for what it says, never for what it leaves out. -/
theorem ClientConfig.load_eq_ok_iff {table : ClientTable} {cfg : ClientConfig} :
    load table = .ok cfg ↔
      (((∀ enabled ∈ table.quicEnabled, enabled = true) ∨
          ∀ enabled ∈ table.grpcEnabled, enabled = true) ∧
        (asBytes table.token).length ≠ 0 ∧ (asBytes table.token).length ≤ 255 ∧
        (∀ name ∈ table.serverName, name.toList.all isWhitespace = false) ∧
        table.routes ≠ [] ∧ (∀ network ∈ table.routes, network.addr.isIpv4 = true) ∧
        (∀ server ∈ table.fill.enabledServers, ∀ network ∈ table.routes,
          network.contains server.ip = false) ∧
        (∀ tun ∈ table.tun, ∀ mtu ∈ tun.mtu, 1280 ≤ mtu) ∧
        ∀ intervalMs ∈ table.reconnectIntervalMs, intervalMs ≠ 0) ∧ cfg = table.fill := by
  have hquic : table.fill.quicEnabled = true ↔ ∀ enabled ∈ table.quicEnabled, enabled = true :=
    getD_passes_iff (· = true) rfl
  have hgrpc : table.fill.grpcEnabled = true ↔ ∀ enabled ∈ table.grpcEnabled, enabled = true :=
    getD_passes_iff (· = true) rfl
  have hname : table.fill.serverName.toList.all isWhitespace = false ↔
      ∀ name ∈ table.serverName, name.toList.all isWhitespace = false :=
    getD_passes_iff (fun name : String => name.toList.all isWhitespace = false) (by decide)
  have hmtu : 1280 ≤ table.fill.tun.mtu ↔ ∀ tun ∈ table.tun, ∀ mtu ∈ tun.mtu, 1280 ≤ mtu := by
    refine (getD_passes_iff (fun tun : TunConfig => 1280 ≤ tun.mtu) (by decide)).trans ?_
    simp only [Option.mem_map, forall_exists_index, and_imp, forall_apply_eq_imp_iff₂]
    exact forall₂_congr fun tun _ => getD_passes_iff (fun mtu => 1280 ≤ mtu) (by decide)
  have hinterval : table.fill.reconnectIntervalMs ≠ 0 ↔
      ∀ intervalMs ∈ table.reconnectIntervalMs, intervalMs ≠ 0 :=
    getD_passes_iff (· ≠ 0) (by decide)
  rw [load, checked_eq_ok_iff, validate_iff, hquic, hgrpc, hname, hmtu, hinterval]
  rfl

end VpnBridge.Client
