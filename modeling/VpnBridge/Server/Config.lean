import VpnBridge.Core.Checks
import VpnBridge.Net.IpNet
import VpnBridge.Proto.Wire
import Mathlib.Data.List.GetD

/-!
# Server configurations

The fields of the VM agent's and of the proxy server's configuration that their
code reads, what `validate` accepts, the address policy and the token check.
The two servers carry separate copies of the policy and of the token check, with
the same text; they are one definition here.
-/

namespace VpnBridge.Server

open VpnBridge.Checks VpnBridge.Net VpnBridge.Proto

/-- The policy of both servers: no `deny` network, and one of `allow` if any. -/
def permits {Net : Type} [IpNetwork Net] (allow deny : List Net) (ip : IpAddr) : Bool :=
  if deny.any fun network => IpNetwork.contains network ip then
    false
  else
    allow.isEmpty || allow.any fun network => IpNetwork.contains network ip

/-- The comparison loop of both servers: the length difference cut to eight bits,
then the differences of the zero-padded bytes, all folded into one byte. -/
def tokenMatches (expected got : String) : Bool :=
  let expected := asBytes expected
  let got := asBytes got
  let difference := (List.range (max expected.length got.length)).foldl
    (fun difference index => difference ||| (expected.getD index 0 ^^^ got.getD index 0))
    (UInt8.ofNat (expected.length ^^^ got.length))
  difference == 0

/-! ## VM agent -/

structure VmConfig (Net : Type) where
  listen : SocketAddr
  /-- Shared secret; must match the host side.  Empty disables authentication. -/
  token : String
  /-- Destinations the agent is willing to dial.  Empty means "anything". -/
  allow : List Net
  /-- Destinations that are always refused, checked before `allow`. -/
  deny : List Net
  bindIp : Option IpAddr
  connectTimeoutMs : ℕ
  udpTimeoutSecs : ℕ
  tcpNodelay : Bool

namespace VmConfig

variable {Net : Type}

/-- `VmConfig::validate`.  An empty token on a public address and a `bind_ip` of
the other family are only logged. -/
def validate (cfg : VmConfig Net) : Except String Unit :=
  if (asBytes cfg.token).length > 255 then
    throw "token must be at most 255 bytes"
  else
    pure ()

def permits [IpNetwork Net] (cfg : VmConfig Net) (ip : IpAddr) : Bool :=
  Server.permits cfg.allow cfg.deny ip

/-- The configuration of the agent's own policy tests, with any policy. -/
def sample (allow deny : List Net) : VmConfig Net where
  listen := .new (.v4 ⟨⟨[0, 0, 0, 0], rfl⟩⟩) 1
  token := ""
  allow := allow
  deny := deny
  bindIp := none
  connectTimeoutMs := 1000
  udpTimeoutSecs := 10
  tcpNodelay := true

theorem validate_sample (allow deny : List Net) :
    (sample allow deny).validate = .ok () := by
  rfl

end VmConfig

/-! ## Proxy server -/

structure ServerConfig (Net : Type) where
  quicEnabled : Bool
  grpcEnabled : Bool
  token : String
  serverName : String
  allow : List Net
  deny : List Net
  bindIp : Option IpAddr
  connectTimeoutMs : ℕ
  dnsTimeoutMs : ℕ
  tcpIdleTimeoutSecs : ℕ
  udpTimeoutSecs : ℕ
  maxConcurrentStreams : ℕ

namespace ServerConfig

variable {Net : Type}

def validate (cfg : ServerConfig Net) : Except String Unit :=
  if !cfg.quicEnabled && !cfg.grpcEnabled then
    throw "at least one of quic_enabled or grpc_enabled must be true"
  else if (asBytes cfg.token).length = 0 then
    throw "token must not be empty"
  else if (asBytes cfg.token).length > 255 then
    throw "token must be at most 255 bytes"
  else if cfg.serverName.toList.all isWhitespace then
    throw "server_name must not be empty"
  else if cfg.maxConcurrentStreams = 0 then
    throw "max_concurrent_streams must be greater than zero"
  else if cfg.connectTimeoutMs = 0 then
    throw "connect_timeout_ms must be greater than zero"
  else if cfg.dnsTimeoutMs = 0 then
    throw "dns_timeout_ms must be greater than zero"
  else if cfg.tcpIdleTimeoutSecs = 0 then
    throw "tcp_idle_timeout_secs must be greater than zero"
  else if cfg.udpTimeoutSecs = 0 then
    throw "udp_timeout_secs must be greater than zero"
  else
    pure ()

def permits [IpNetwork Net] (cfg : ServerConfig Net) (ip : IpAddr) : Bool :=
  Server.permits cfg.allow cfg.deny ip

/-- The configuration of the server's own tests, with any policy. -/
def sample (allow deny : List Net) : ServerConfig Net where
  quicEnabled := true
  grpcEnabled := true
  token := "test-token"
  serverName := "vpnbridge.local"
  allow := allow
  deny := deny
  bindIp := none
  connectTimeoutMs := 1000
  dnsTimeoutMs := 1000
  tcpIdleTimeoutSecs := 10
  udpTimeoutSecs := 10
  maxConcurrentStreams := 16

theorem validate_sample (allow deny : List Net) :
    (sample allow deny).validate = .ok () := by
  have hlength : (asBytes (sample allow deny).token).length = 10 := rfl
  have hname : ((sample allow deny).serverName.toList.all isWhitespace) = false := by
    change "vpnbridge.local".toList.all isWhitespace = false
    decide
  have htransport : (!(sample allow deny).quicEnabled &&
    !(sample allow deny).grpcEnabled) = false := rfl
  rw [validate, htransport, hlength, hname]
  rfl

end ServerConfig

/-! ## Configuration files

What a file may leave out is optional in its table, and `fill` has the defaults. -/

structure VmTable (Net : Type) where
  listen : SocketAddr
  token : Option String
  allow : Option (List Net)
  deny : Option (List Net)
  bindIp : Option IpAddr
  connectTimeoutMs : Option ℕ
  udpTimeoutSecs : Option ℕ
  tcpNodelay : Option Bool

def VmTable.fill {Net : Type} (table : VmTable Net) : VmConfig Net where
  listen := table.listen
  token := table.token.getD ""
  allow := table.allow.getD []
  deny := table.deny.getD []
  bindIp := table.bindIp
  connectTimeoutMs := table.connectTimeoutMs.getD 8000
  udpTimeoutSecs := table.udpTimeoutSecs.getD 60
  tcpNodelay := table.tcpNodelay.getD true

structure ServerTable (Net : Type) where
  quicEnabled : Option Bool
  grpcEnabled : Option Bool
  token : String
  serverName : Option String
  allow : Option (List Net)
  deny : Option (List Net)
  bindIp : Option IpAddr
  connectTimeoutMs : Option ℕ
  dnsTimeoutMs : Option ℕ
  tcpIdleTimeoutSecs : Option ℕ
  udpTimeoutSecs : Option ℕ
  maxConcurrentStreams : Option ℕ

def ServerTable.fill {Net : Type} (table : ServerTable Net) : ServerConfig Net where
  quicEnabled := table.quicEnabled.getD true
  grpcEnabled := table.grpcEnabled.getD true
  token := table.token
  serverName := table.serverName.getD "vpnbridge.local"
  allow := table.allow.getD []
  deny := table.deny.getD []
  bindIp := table.bindIp
  connectTimeoutMs := table.connectTimeoutMs.getD 8000
  dnsTimeoutMs := table.dnsTimeoutMs.getD 5000
  tcpIdleTimeoutSecs := table.tcpIdleTimeoutSecs.getD 300
  udpTimeoutSecs := table.udpTimeoutSecs.getD 60
  maxConcurrentStreams := table.maxConcurrentStreams.getD 4096

section Loading

variable {Net : Type}

/-- `VmConfig::load`, behind the parser. -/
def VmConfig.load (table : VmTable Net) : Except String (VmConfig Net) := do
  table.fill.validate
  return table.fill

def ServerConfig.load (table : ServerTable Net) : Except String (ServerConfig Net) := do
  table.fill.validate
  return table.fill

theorem VmConfig.load_eq_ok_iff {table : VmTable Net} {cfg : VmConfig Net} :
    load table = .ok cfg ↔ (asBytes table.fill.token).length ≤ 255 ∧ cfg = table.fill := by
  rw [load, checked_eq_ok_iff, validate, refuse_eq_ok_iff, done_iff, and_true, gt_iff_lt,
    Nat.not_lt]

theorem ServerConfig.validate_iff {cfg : ServerConfig Net} :
    cfg.validate = .ok () ↔
      (cfg.quicEnabled = true ∨ cfg.grpcEnabled = true) ∧
      (asBytes cfg.token).length ≠ 0 ∧ (asBytes cfg.token).length ≤ 255 ∧
      cfg.serverName.toList.all isWhitespace = false ∧
      cfg.maxConcurrentStreams ≠ 0 ∧ cfg.connectTimeoutMs ≠ 0 ∧ cfg.dnsTimeoutMs ≠ 0 ∧
      cfg.tcpIdleTimeoutSecs ≠ 0 ∧ cfg.udpTimeoutSecs ≠ 0 := by
  simp only [validate, refuse_eq_ok_iff, done_iff, and_true, Bool.and_eq_true,
    Bool.not_eq_true', not_and_or, Bool.not_eq_false, gt_iff_lt, Nat.not_lt, Bool.not_eq_true,
    ne_eq]

/-- A file is refused for what it says, never for what it leaves out. -/
theorem ServerConfig.load_eq_ok_iff {table : ServerTable Net} {cfg : ServerConfig Net} :
    load table = .ok cfg ↔
      (((∀ enabled ∈ table.quicEnabled, enabled = true) ∨
          ∀ enabled ∈ table.grpcEnabled, enabled = true) ∧
        (asBytes table.token).length ≠ 0 ∧ (asBytes table.token).length ≤ 255 ∧
        (∀ name ∈ table.serverName, name.toList.all isWhitespace = false) ∧
        (∀ streams ∈ table.maxConcurrentStreams, streams ≠ 0) ∧
        (∀ timeoutMs ∈ table.connectTimeoutMs, timeoutMs ≠ 0) ∧
        (∀ timeoutMs ∈ table.dnsTimeoutMs, timeoutMs ≠ 0) ∧
        (∀ timeoutSecs ∈ table.tcpIdleTimeoutSecs, timeoutSecs ≠ 0) ∧
        ∀ timeoutSecs ∈ table.udpTimeoutSecs, timeoutSecs ≠ 0) ∧ cfg = table.fill := by
  have hname : (table.serverName.getD "vpnbridge.local").toList.all isWhitespace = false ↔
      ∀ name ∈ table.serverName, name.toList.all isWhitespace = false :=
    getD_passes_iff (fun name : String => name.toList.all isWhitespace = false) (by decide)
  have hnumber {default : ℕ} (hdefault : default ≠ 0) {given : Option ℕ} :
      given.getD default ≠ 0 ↔ ∀ number ∈ given, number ≠ 0 :=
    getD_passes_iff (· ≠ 0) hdefault
  rw [load, checked_eq_ok_iff, validate_iff, ServerTable.fill, hname,
    getD_passes_iff (· = true) rfl, getD_passes_iff (· = true) rfl,
    hnumber (by decide), hnumber (by decide), hnumber (by decide), hnumber (by decide),
    hnumber (by decide)]

end Loading

/-! ## Policy -/

section Policy

variable {Net : Type} [IpNetwork Net]

theorem permits_iff {allow deny : List Net} {ip : IpAddr} :
    permits allow deny ip = true ↔
      (∀ network ∈ deny, IpNetwork.contains network ip = false) ∧
      (allow ≠ [] → ∃ network ∈ allow, IpNetwork.contains network ip = true) := by
  by_cases hdeny : deny.any (fun network => IpNetwork.contains network ip) = true
  · obtain ⟨network, hmem, hcontains⟩ := List.any_eq_true.mp hdeny
    rw [permits, if_pos hdeny]
    simp only [Bool.false_eq_true, false_iff, not_and]
    intro hnone
    rw [hnone network hmem] at hcontains
    cases hcontains
  · have hnone : ∀ network ∈ deny, IpNetwork.contains network ip = false := by
      simpa using hdeny
    rw [permits, if_neg hdeny, Bool.or_eq_true, List.isEmpty_iff, List.any_eq_true]
    constructor
    · rintro (hempty | hsome)
      · exact ⟨hnone, fun hne => absurd hempty hne⟩
      · exact ⟨hnone, fun _ => hsome⟩
    · rintro ⟨_, hallow⟩
      by_cases hempty : allow = []
      · exact .inl hempty
      · exact .inr (hallow hempty)

end Policy

/-! ## Tokens -/

theorem length_of_validate_vm {Net : Type} {cfg : VmConfig Net}
    (hvalid : cfg.validate = .ok ()) : (asBytes cfg.token).length ≤ 255 := by
  by_contra hlong
  rw [VmConfig.validate, if_pos (by omega)] at hvalid
  cases hvalid

theorem length_of_validate_server {Net : Type} {cfg : ServerConfig Net}
    (hvalid : cfg.validate = .ok ()) : (asBytes cfg.token).length ≤ 255 := by
  by_contra hlong
  have hnonempty : ¬ (asBytes cfg.token).length = 0 := by omega
  have hrefused : (asBytes cfg.token).length > 255 := by omega
  by_cases htransport : (!cfg.quicEnabled && !cfg.grpcEnabled) = true
  · rw [ServerConfig.validate, if_pos htransport] at hvalid
    cases hvalid
  · rw [ServerConfig.validate, if_neg htransport, if_neg hnonempty,
      if_pos hrefused] at hvalid
    cases hvalid

/-- Folding differences into one byte loses none of them. -/
theorem foldl_or_eq_zero_iff {Index : Type} (indices : List Index)
    (difference : Index → UInt8) (start : UInt8) :
    indices.foldl (fun folded index => folded ||| difference index) start = 0 ↔
      start = 0 ∧ ∀ index ∈ indices, difference index = 0 := by
  induction indices generalizing start with
  | nil => simp
  | cons index indices ih =>
      rw [List.foldl_cons, ih, UInt8.or_eq_zero_iff, List.forall_mem_cons, and_assoc]

/-- Below 256 the difference of two lengths survives the cut to eight bits. -/
theorem ofNat_xor_eq_zero_iff {left right : ℕ} (hleft : left ≤ 255)
    (hright : right ≤ 255) : UInt8.ofNat (left ^^^ right) = 0 ↔ left = right := by
  rw [UInt8.ofNat_xor, UInt8.xor_eq_zero_iff, ← UInt8.toNat_inj,
    UInt8.toNat_ofNat', UInt8.toNat_ofNat', Nat.mod_eq_of_lt (by omega),
    Nat.mod_eq_of_lt (by omega)]

/-- Within the length limits the folded comparison is equality. -/
theorem tokenMatches_iff {expected got : String}
    (hexpected : (asBytes expected).length ≤ 255)
    (hgot : (asBytes got).length ≤ 255) :
    tokenMatches expected got = true ↔ expected = got := by
  rw [← asBytes_injective.eq_iff]
  simp only [tokenMatches, beq_iff_eq, foldl_or_eq_zero_iff,
    ofNat_xor_eq_zero_iff hexpected hgot, UInt8.xor_eq_zero_iff, List.mem_range]
  constructor
  · rintro ⟨hlength, hbytes⟩
    apply List.ext_getElem hlength
    intro index hleft hright
    have hsame := hbytes index (by omega)
    rwa [List.getD_eq_getElem _ _ hleft, List.getD_eq_getElem _ _ hright] at hsame
  · intro heq
    rw [heq]
    exact ⟨rfl, fun _ _ => rfl⟩

/-- A token always matches itself, however long it is. -/
theorem tokenMatches_self (token : String) : tokenMatches token token = true := by
  simp [tokenMatches]

end VpnBridge.Server
