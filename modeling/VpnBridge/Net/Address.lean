import Mathlib.Data.Vector.Basic

/-!
# Internet addresses

The address types of `std::net` that the protocol, the policies and the dialers
share, with the textual form that ends up in error messages.
-/

namespace VpnBridge.Net

/-- `std::net::Ipv4Addr`, four octets in network order. -/
structure Ipv4Addr where
  octets : List.Vector UInt8 4
  deriving DecidableEq

/-- `std::net::Ipv6Addr`, sixteen octets in network order. -/
structure Ipv6Addr where
  octets : List.Vector UInt8 16
  deriving DecidableEq

inductive IpAddr where
  | v4 (addr : Ipv4Addr)
  | v6 (addr : Ipv6Addr)
  deriving DecidableEq

def IpAddr.isIpv4 : IpAddr → Bool
  | .v4 _ => true
  | .v6 _ => false

structure SocketAddrV4 where
  ip : Ipv4Addr
  port : UInt16
  deriving DecidableEq

/-- Besides its address and port an IPv6 endpoint carries two fields that the
wire format has no room for. -/
structure SocketAddrV6 where
  ip : Ipv6Addr
  port : UInt16
  flowinfo : UInt32
  scopeId : UInt32
  deriving DecidableEq

inductive SocketAddr where
  | v4 (addr : SocketAddrV4)
  | v6 (addr : SocketAddrV6)
  deriving DecidableEq

namespace SocketAddr

/-- `SocketAddr::new`: an IPv6 endpoint starts with zero flow-info and scope. -/
def new (ip : IpAddr) (port : UInt16) : SocketAddr :=
  match ip with
  | .v4 addr => .v4 ⟨addr, port⟩
  | .v6 addr => .v6 ⟨addr, port, 0, 0⟩

def ip : SocketAddr → IpAddr
  | .v4 addr => .v4 addr.ip
  | .v6 addr => .v6 addr.ip

def port : SocketAddr → UInt16
  | .v4 addr => addr.port
  | .v6 addr => addr.port

def isIpv4 (addr : SocketAddr) : Bool :=
  addr.ip.isIpv4

@[simp]
theorem ip_new (addr : IpAddr) (port : UInt16) : (new addr port).ip = addr := by
  cases addr <;> rfl

end SocketAddr

/-! ## IPv4-mapped addresses -/

/-- The twelve octets in front of the IPv4 address in `::ffff:a.b.c.d`. -/
def mappedPrefix : List UInt8 :=
  List.replicate 10 0 ++ [0xff, 0xff]

/-- `Ipv4Addr::to_ipv6_mapped`. -/
def Ipv4Addr.toIpv6Mapped (addr : Ipv4Addr) : Ipv6Addr :=
  ⟨⟨mappedPrefix ++ addr.octets.toList, by
    rw [List.length_append, addr.octets.toList_length]
    rfl⟩⟩

/-- `Ipv6Addr::to_ipv4_mapped`. -/
def Ipv6Addr.toIpv4Mapped (addr : Ipv6Addr) : Option Ipv4Addr :=
  if addr.octets.toList.take 12 = mappedPrefix then
    some ⟨⟨addr.octets.toList.drop 12, by
      rw [List.length_drop, addr.octets.toList_length]⟩⟩
  else
    none

@[simp]
theorem toIpv4Mapped_toIpv6Mapped (addr : Ipv4Addr) :
    addr.toIpv6Mapped.toIpv4Mapped = some addr := by
  have hlength : mappedPrefix.length = 12 := rfl
  have htake : addr.toIpv6Mapped.octets.toList.take 12 = mappedPrefix :=
    List.take_left' hlength
  have hdrop : addr.toIpv6Mapped.octets.toList.drop 12 = addr.octets.toList :=
    List.drop_left' hlength
  simp only [Ipv6Addr.toIpv4Mapped, if_pos htake, hdrop]
  rfl

theorem toIpv4Mapped_eq_some_iff {mapped : Ipv6Addr} {addr : Ipv4Addr} :
    mapped.toIpv4Mapped = some addr ↔ mapped = addr.toIpv6Mapped := by
  constructor
  · intro heq
    unfold Ipv6Addr.toIpv4Mapped at heq
    split at heq
    case isTrue htake =>
      rw [Option.some.injEq] at heq
      subst heq
      have hoctets : mapped.octets.toList =
          mappedPrefix ++ mapped.octets.toList.drop 12 := by
        rw [← htake, List.take_append_drop]
      cases mapped with
      | mk octets => exact congrArg Ipv6Addr.mk (List.Vector.eq _ _ hoctets)
    case isFalse hne => cases heq
  · rintro rfl
    exact toIpv4Mapped_toIpv6Mapped addr

/-! ## Textual form -/

/-- `impl Display for Ipv4Addr`. -/
def Ipv4Addr.display (addr : Ipv4Addr) : String :=
  ".".intercalate (addr.octets.toList.map fun octet => toString octet.toNat)

/-- The eight 16-bit groups of an IPv6 address. -/
def Ipv6Addr.segments (addr : Ipv6Addr) : List ℕ :=
  let octets := addr.octets.toList
  (List.range 8).map fun index =>
    (octets.getD (2 * index) 0).toNat * 256 + (octets.getD (2 * index + 1) 0).toNat

/-- The first longest run of zero groups, as its start and length. -/
def longestZeroSpan (segments : List ℕ) : ℕ × ℕ :=
  let scan := fun (state : ℕ × (ℕ × ℕ) × (ℕ × ℕ)) (segment : ℕ) =>
    let (index, current, longest) := state
    if segment = 0 then
      let current := if current.2 = 0 then (index, 1) else (current.1, current.2 + 1)
      (index + 1, current, if current.2 > longest.2 then current else longest)
    else
      (index + 1, (0, 0), longest)
  (segments.foldl scan (0, (0, 0), (0, 0))).2.2

/-- `fmt_subslice` of the standard library: lower-case hexadecimal groups. -/
def fmtSubslice (segments : List ℕ) : String :=
  ":".intercalate (segments.map fun segment => String.ofList (Nat.toDigits 16 segment))

/-- `impl Display for Ipv6Addr`. -/
def Ipv6Addr.display (addr : Ipv6Addr) : String :=
  match addr.toIpv4Mapped with
  | some mapped => "::ffff:" ++ mapped.display
  | none =>
      let (start, length) := longestZeroSpan addr.segments
      if length > 1 then
        fmtSubslice (addr.segments.take start) ++ "::" ++
          fmtSubslice (addr.segments.drop (start + length))
      else
        fmtSubslice addr.segments

/-- `impl Display for IpAddr`. -/
def IpAddr.display : IpAddr → String
  | .v4 addr => addr.display
  | .v6 addr => addr.display

/-- `impl Display for SocketAddr`. -/
def SocketAddr.display : SocketAddr → String
  | .v4 addr => addr.ip.display ++ ":" ++ toString addr.port
  | .v6 addr =>
      let scope := if addr.scopeId = 0 then "" else "%" ++ toString addr.scopeId
      "[" ++ addr.ip.display ++ scope ++ "]:" ++ toString addr.port

example : SocketAddr.display (.new (.v6 ⟨⟨[0x20, 0x01, 0x0d, 0xb8, 0, 0, 0, 0,
    0, 0, 0, 0, 0, 0, 0, 1], rfl⟩⟩) 443) = "[2001:db8::1]:443" := by decide

end VpnBridge.Net
