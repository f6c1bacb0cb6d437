import VpnBridge.Net.Address
import Mathlib.Data.Nat.Notation

/-!
# Networks

The configurations hold networks of the `ipnet` crate.  The program only asks
whether a network contains an address, so everything about the policies is
proved for an arbitrary type of networks with that operation.  `IpNet` is the
usual reading of one: an address and a prefix length.
-/

namespace VpnBridge.Net

/-- What the program uses of a network type: the containment test. -/
class IpNetwork (Net : Type) where
  contains : Net → IpAddr → Bool

/-- The address as a number, most significant octet first. -/
def IpAddr.toNat : IpAddr → ℕ
  | .v4 addr => addr.octets.toList.foldl (fun value octet => value * 256 + octet.toNat) 0
  | .v6 addr => addr.octets.toList.foldl (fun value octet => value * 256 + octet.toNat) 0

/-- The number of bits of an address of this family. -/
def IpAddr.width : IpAddr → ℕ
  | .v4 _ => 32
  | .v6 _ => 128

/-- `ipnet::IpNet`: an address with a prefix length that its family allows. -/
structure IpNet where
  addr : IpAddr
  prefixLen : ℕ
  prefixLen_le : prefixLen ≤ addr.width
  deriving DecidableEq

/-- Same family, and the same leading `prefixLen` bits. -/
def IpNet.contains (network : IpNet) (ip : IpAddr) : Bool :=
  network.addr.isIpv4 == ip.isIpv4 &&
    ip.toNat / 2 ^ (ip.width - network.prefixLen) ==
      network.addr.toNat / 2 ^ (ip.width - network.prefixLen)

/-- `impl Display for IpNet`. -/
def IpNet.display (network : IpNet) : String :=
  network.addr.display ++ "/" ++ toString network.prefixLen

instance : IpNetwork IpNet where
  contains := IpNet.contains

/-- `10.0.0.0/8`. -/
def privateNetwork : IpNet :=
  ⟨.v4 ⟨⟨[10, 0, 0, 0], rfl⟩⟩, 8, by decide⟩

example : privateNetwork.contains (.v4 ⟨⟨[10, 200, 0, 7], rfl⟩⟩) = true := by decide

end VpnBridge.Net
