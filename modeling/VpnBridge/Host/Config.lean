import VpnBridge.Core.Checks
import VpnBridge.Host.Tunnel
import VpnBridge.Net.IpNet

/-!
# The host's configuration

The part of the host's configuration that its start-up acts on, with the check
that a loaded configuration has passed.
-/

namespace VpnBridge.Host

open VpnBridge.Checks VpnBridge.Net VpnBridge.Proto

structure TunConfig where
  name : String
  address : Ipv4Addr
  netmask : Ipv4Addr
  mtu : ℕ
  /-- Install `ip route` entries for `routes` and `exclude` on start-up. -/
  autoRoute : Bool

/-- `impl Default for TunConfig`. -/
def TunConfig.default : TunConfig where
  name := "vpnbr0"
  address := ⟨⟨[10, 211, 0, 1], rfl⟩⟩
  netmask := ⟨⟨[255, 255, 255, 0], rfl⟩⟩
  mtu := 1500
  autoRoute := true

structure HostConfig where
  server : ServerConfig
  tun : TunConfig
  /-- Destination networks that must be handled by the VM. -/
  routes : List IpNet
  /-- Networks that must never be captured, even if covered by `routes`. -/
  exclude : List IpNet

namespace HostConfig

/-- `ip` is covered by one of the forwarded networks. -/
def captures (cfg : HostConfig) (ip : IpAddr) : Bool :=
  cfg.routes.any fun net => net.contains ip

def excludes (cfg : HostConfig) (ip : IpAddr) : Bool :=
  cfg.exclude.any fun net => net.contains ip

/-- `Ipv4Addr::is_broadcast` or `Ipv4Addr::is_unspecified`. -/
def unusable (addr : Ipv4Addr) : Bool :=
  addr.octets.toList.all (· == 255) || addr.octets.toList.all (· == 0)

def validate (cfg : HostConfig) : Except AnyhowError Unit := do
  if cfg.routes.isEmpty then
    throw ["`routes` is empty: there is nothing to forward to the VM"]
  if cfg.tun.mtu < 1280 then
    throw ["tun.mtu must be at least 1280 (ipstack minimum)"]
  if cfg.server.reconnectIntervalMs = 0 then
    throw ["server.reconnect_interval_ms must be greater than zero"]
  if unusable cfg.tun.address then
    throw [s!"tun.address {cfg.tun.address.display} is not a usable interface address"]

theorem routes_ne_nil_of_validate {cfg : HostConfig} (hvalid : cfg.validate = .ok ()) :
    cfg.routes ≠ [] := by
  intro hroutes
  rw [validate, hroutes] at hvalid
  cases hvalid

theorem excludes_iff {cfg : HostConfig} {ip : IpAddr} :
    cfg.excludes ip = true ↔ ∃ net ∈ cfg.exclude, net.contains ip = true :=
  List.any_eq_true

theorem validate_iff {cfg : HostConfig} :
    cfg.validate = .ok () ↔ cfg.routes ≠ [] ∧ 1280 ≤ cfg.tun.mtu ∧
      cfg.server.reconnectIntervalMs ≠ 0 ∧ unusable cfg.tun.address = false := by
  rw [validate]
  simp only [refuse_bind_eq_ok_iff, refuse_eq_ok_iff, done_iff, and_true, List.isEmpty_iff,
    Nat.not_lt, Bool.not_eq_true, ne_eq]

end HostConfig

/-! ## The configuration file

What a file may leave out is optional in its table, and `fill` has the defaults. -/

structure ServerTable where
  address : SocketAddr
  token : Option String
  connectTimeoutMs : Option ℕ
  reconnectIntervalMs : Option ℕ
  tcpNodelay : Option Bool

def ServerTable.fill (table : ServerTable) : ServerConfig where
  address := table.address
  token := table.token.getD ""
  connectTimeoutMs := table.connectTimeoutMs.getD 5000
  reconnectIntervalMs := table.reconnectIntervalMs.getD 10000
  tcpNodelay := table.tcpNodelay.getD true

structure TunTable where
  name : Option String
  address : Option Ipv4Addr
  netmask : Option Ipv4Addr
  mtu : Option ℕ
  autoRoute : Option Bool

def TunTable.fill (table : TunTable) : TunConfig where
  name := table.name.getD TunConfig.default.name
  address := table.address.getD TunConfig.default.address
  netmask := table.netmask.getD TunConfig.default.netmask
  mtu := table.mtu.getD TunConfig.default.mtu
  autoRoute := table.autoRoute.getD true

structure HostTable where
  server : ServerTable
  tun : Option TunTable
  routes : Option (List IpNet)
  exclude : Option (List IpNet)

def HostTable.fill (table : HostTable) : HostConfig where
  server := table.server.fill
  tun := (table.tun.map TunTable.fill).getD .default
  routes := table.routes.getD []
  exclude := table.exclude.getD []

/-- `HostConfig::load`, behind the parser. -/
def HostConfig.load (table : HostTable) : Except AnyhowError HostConfig := do
  table.fill.validate
  return table.fill

/-- The routes are the one thing that a file may leave out and must not. -/
theorem HostConfig.load_eq_ok_iff {table : HostTable} {cfg : HostConfig} :
    load table = .ok cfg ↔
      ((∃ routes ∈ table.routes, routes ≠ []) ∧
        (∀ tun ∈ table.tun, ∀ mtu ∈ tun.mtu, 1280 ≤ mtu) ∧
        (∀ intervalMs ∈ table.server.reconnectIntervalMs, intervalMs ≠ 0) ∧
        ∀ tun ∈ table.tun, ∀ address ∈ tun.address, unusable address = false) ∧
      cfg = table.fill := by
  have hroutes : table.fill.routes ≠ [] ↔ ∃ routes ∈ table.routes, routes ≠ [] := by
    rw [HostTable.fill]
    cases table.routes <;> simp
  have htun (check : TunConfig → Prop) (hdefault : check .default) :
      check table.fill.tun ↔ ∀ tun ∈ table.tun, check tun.fill := by
    refine (getD_passes_iff check hdefault).trans ?_
    simp only [Option.mem_map, forall_exists_index, and_imp, forall_apply_eq_imp_iff₂]
  have hmtu : 1280 ≤ table.fill.tun.mtu ↔ ∀ tun ∈ table.tun, ∀ mtu ∈ tun.mtu, 1280 ≤ mtu :=
    (htun (fun tun => 1280 ≤ tun.mtu) (by decide)).trans
      (forall₂_congr fun tun _ => getD_passes_iff (fun mtu => 1280 ≤ mtu) (by decide))
  have haddress : unusable table.fill.tun.address = false ↔
      ∀ tun ∈ table.tun, ∀ address ∈ tun.address, unusable address = false :=
    (htun (fun tun => unusable tun.address = false) (by decide)).trans
      (forall₂_congr fun tun _ =>
        getD_passes_iff (fun address => unusable address = false) (by decide))
  have hinterval : table.fill.server.reconnectIntervalMs ≠ 0 ↔
      ∀ intervalMs ∈ table.server.reconnectIntervalMs, intervalMs ≠ 0 :=
    getD_passes_iff (· ≠ 0) (by decide)
  rw [load, checked_eq_ok_iff, validate_iff, hroutes, hmtu, hinterval, haddress]

end VpnBridge.Host
