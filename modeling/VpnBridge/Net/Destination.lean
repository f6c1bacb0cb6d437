import VpnBridge.Core.PrefixTable
import VpnBridge.Net.IpNet

/-!
# Destinations

What a network is to the kernel: the family and the leading bits of its
addresses.  Two networks that differ in the bits after the prefix have one
destination, and a network contains the addresses that its destination covers.
-/

namespace VpnBridge.Net

open VpnBridge.PrefixTable

/-- A key of the routing table. -/
structure Destination where
  ipv4 : Bool
  length : ℕ
  /-- The leading `length` bits, as a number. -/
  bits : ℕ
  deriving DecidableEq

/-- The first `count` bits of an address. -/
def IpAddr.leading (ip : IpAddr) (count : ℕ) : Destination :=
  ⟨ip.isIpv4, count, ip.toNat / 2 ^ (ip.width - count)⟩

instance : PrefixSystem Destination IpAddr where
  width := IpAddr.width
  length := Destination.length
  cover := IpAddr.leading
  length_cover _ _ _ := rfl

/-- The last `count` bytes of a number, most significant first. -/
def lastBytes : ℕ → ℕ → List UInt8
  | 0, _ => []
  | count + 1, value => lastBytes count (value / 256) ++ [UInt8.ofNat (value % 256)]

theorem length_lastBytes (count value : ℕ) : (lastBytes count value).length = count := by
  induction count generalizing value with
  | zero => rfl
  | succ count ih => rw [lastBytes, List.length_append, ih, List.length_singleton]

/-- The address of the same family with the given value. -/
def IpAddr.withValue (ip : IpAddr) (value : ℕ) : IpAddr :=
  match ip with
  | .v4 _ => .v4 ⟨⟨lastBytes 4 value, length_lastBytes 4 value⟩⟩
  | .v6 _ => .v6 ⟨⟨lastBytes 16 value, length_lastBytes 16 value⟩⟩

namespace IpNet

/-- `IpNet::network`: the address with the bits after the prefix cleared. -/
def network (net : IpNet) : IpAddr :=
  let hostSize := 2 ^ (net.addr.width - net.prefixLen)
  net.addr.withValue (net.addr.toNat / hostSize * hostSize)

/-- The destination of a network, `Ipv4Net::trunc` or `Ipv6Net::trunc`. -/
def destination (net : IpNet) : Destination :=
  net.addr.leading net.prefixLen

@[simp]
theorem length_destination (net : IpNet) :
    PrefixSystem.length net.destination = net.prefixLen :=
  rfl

theorem width_eq_of_isIpv4_eq {left right : IpAddr} (hfamily : left.isIpv4 = right.isIpv4) :
    left.width = right.width := by
  cases left <;> cases right <;> first | rfl | cases hfamily

/-- Containment is coverage by the destination. -/
theorem contains_iff_covers {net : IpNet} {ip : IpAddr} :
    net.contains ip = true ↔ Covers net.destination ip := by
  simp only [contains, Covers, destination, PrefixSystem.length, PrefixSystem.width,
    PrefixSystem.cover, IpAddr.leading, Destination.mk.injEq, Bool.and_eq_true, beq_iff_eq,
    true_and]
  constructor
  · rintro ⟨hfamily, hbits⟩
    have hwidth := width_eq_of_isIpv4_eq hfamily
    refine ⟨hwidth ▸ net.prefixLen_le, hfamily.symm, ?_⟩
    rw [hwidth]
    exact hbits
  · rintro ⟨-, hfamily, hbits⟩
    have hwidth := width_eq_of_isIpv4_eq hfamily
    rw [← hwidth] at hbits
    exact ⟨hfamily.symm, hwidth ▸ hbits⟩

end IpNet

/-! ## The network of a device -/

/-- `ipnet::ip_mask_to_prefix`: the length of a netmask whose one bits come first. -/
def ipMaskToPrefix (mask : Ipv4Addr) : Option ℕ :=
  (List.range 33).find? fun length =>
    mask.octets.toList = lastBytes 4 (2 ^ 32 - 2 ^ (32 - length))

/-- The network that the kernel routes to a device with this address as soon as it is up.
There is none for a single address, and none within `0.0.0.0/8`. -/
def connectedNet (address netmask : Ipv4Addr) : Option IpNet :=
  (ipMaskToPrefix netmask).bind fun length =>
    if hlength : length < 32 then
      let net : IpNet := ⟨.v4 address, length, hlength.le⟩
      if net.network.toNat < 2 ^ 24 then none else some net
    else none

theorem prefixLen_lt_of_connectedNet {address netmask : Ipv4Addr} {net : IpNet}
    (hnet : connectedNet address netmask = some net) :
    net.addr.isIpv4 = true ∧ net.prefixLen < 32 := by
  obtain ⟨length, -, hsome⟩ := Option.bind_eq_some_iff.mp hnet
  split at hsome
  next hlength =>
    rw [Option.ite_none_left_eq_some] at hsome
    obtain ⟨-, heq⟩ := hsome
    cases heq
    exact ⟨rfl, hlength⟩
  next => cases hsome

example : connectedNet ⟨⟨[10, 211, 0, 1], rfl⟩⟩ ⟨⟨[255, 255, 255, 0], rfl⟩⟩ =
    some ⟨.v4 ⟨⟨[10, 211, 0, 1], rfl⟩⟩, 24, by decide⟩ := by decide

end VpnBridge.Net
