import VpnBridge.Client.Config
import VpnBridge.Client.Route
import VpnBridge.Core.Pool

/-!
# Which traffic the proxy client takes

The device brings its own network into the routing table, and the commands of a run
only touch the prefixes of the configured networks.  A validated configuration keeps
the proxy servers out of these, so outside of the device's network the client's own
connections keep their route all the time, and while it serves, the longest prefix
decides between its networks and the routes that were there before.
-/

namespace VpnBridge.Client

open VpnBridge.Host (KernelTable)
open VpnBridge.Interaction VpnBridge.Net VpnBridge.PrefixTable VpnBridge.Proto
open VpnBridge.TransitionSystem

/-- What `main` does with the routes once they are set up.  What the IP stack does does not
touch them; `served` is what its loop comes to. -/
def RouteManager.serve (manager : RouteManager) (served : Except AnyhowError Unit) :
    RouteProg (Except AnyhowError Unit) := do
  match served with
  | .error failure =>
      manager.drop
      return .error failure
  | .ok () =>
      let manager ← manager.cleanup
      manager.drop
      return .ok ()

/-- The TUN device, by the name that it has got. -/
def createTun (cfg : ClientConfig) : RouteProg (Except AnyhowError String) := do
  match ← run (.createTun cfg.tun.name cfg.tun.address cfg.tun.netmask cfg.tun.mtu) with
  | .error failure =>
      return .error ["creating TUN device (administrator/root privileges required)", failure]
  | .ok () =>
      match ← run .tunName with
      | .error failure => return .error ["reading created TUN device name", failure]
      | .ok device => return .ok device

/-- Some configured network takes the address, and no entry of the table is longer. -/
def Steered (routes : List IpNet) (table : KernelTable) (ip : IpAddr) : Prop :=
  ∃ network ∈ routes, network.contains ip = true ∧
    ∀ net, Covers net ip → table net ≠ none → PrefixSystem.length net < network.prefixLen

/-! ## What the commands touch -/

section Touch

variable {initial table table' : KernelTable} {device : String} {networks : List IpNet}
variable {ip : IpAddr} {event : RouteEvent}

variable {manager : RouteManager} {added : List IpNet}

variable {autoRoute : Bool} {served result : Except AnyhowError Unit}
variable {trace : List (Transition KernelTable RouteEvent)}

end Touch

/-! ## The network of the device -/

section Device

variable {cfg : ClientConfig} {initial table : KernelTable} {ip : IpAddr}
variable {trace : List (Transition KernelTable RouteEvent)}

end Device

/-! ## The proxy servers -/

namespace ClientConfig

variable {cfg : ClientConfig} {server : SocketAddr} {network : IpNet}

end ClientConfig

section Steering

variable {initial table : KernelTable} {device : String} {routes : List IpNet} {ip : IpAddr}

/-- A steered address goes to the device. -/
theorem route_of_steered (hinstalled : Installed initial table device routes)
    (hsteered : Steered routes initial ip) : route table ip = some ⟨device, none⟩ := by
  obtain ⟨network, hnetwork, hcontains, hlonger⟩ := hsteered
  have hcovers := IpNet.contains_iff_covers.mp hcontains
  have hentry : table network.destination ≠ none := by
    rw [hinstalled.entry network hnetwork]
    exact Option.some_ne_none _
  have hrouted : route table ip ≠ none := fun hnone =>
    hentry (route_eq_none_iff.mp hnone _ hcovers)
  obtain ⟨net, hnet, hsome, hmost, hroute⟩ := exists_longest hrouted
  have hnew : initial net = none := by
    by_contra hold
    exact absurd (hmost _ hcovers hentry) (Nat.not_le.mpr (hlonger net hnet hold))
  obtain ⟨other, hother, rfl⟩ := (hinstalled.lists_iff net).mpr ⟨hsome, hnew⟩
  rw [hroute, hinstalled.entry other hother]

/-- Any other address keeps its route. -/
theorem route_of_not_steered (hinstalled : Installed initial table device routes)
    (hkept : ¬ Steered routes initial ip) : route table ip = route initial ip := by
  -- whatever network takes the address, an entry that is as long was there before
  have hcovered : ∀ net, Covers net ip → table net ≠ none →
      ∃ old, Covers old ip ∧ initial old ≠ none ∧
        PrefixSystem.length net ≤ PrefixSystem.length old := by
    intro net hnet hsome
    by_cases hold : initial net = none
    · obtain ⟨network, hnetwork, rfl⟩ := (hinstalled.lists_iff net).mpr ⟨hsome, hold⟩
      by_contra hshort
      refine hkept ⟨network, hnetwork, IpNet.contains_iff_covers.mpr hnet,
        fun old hcovers hentry => ?_⟩
      by_contra hlong
      exact hshort ⟨old, hcovers, hentry, Nat.le_of_not_lt hlong⟩
    · exact ⟨net, hnet, hold, le_refl _⟩
  by_cases hnone : route initial ip = none
  · rw [hnone, route_eq_none_iff]
    intro net hnet
    by_contra hsome
    obtain ⟨old, hcovers, hentry, -⟩ := hcovered net hnet hsome
    exact hentry (route_eq_none_iff.mp hnone old hcovers)
  · obtain ⟨net, hnet, hentry, hmost, hroute⟩ := exists_longest hnone
    have hsame := hinstalled.kept net hentry
    rw [hroute, ← hsame]
    refine route_eq_of_longest hnet (fun other hother hsome => ?_) (hsame ▸ hentry)
    obtain ⟨old, hcovers, hold, hle⟩ := hcovered other hother hsome
    exact hle.trans (hmost old hcovers hold)

end Steering

/-- While the client serves, an address goes to the TUN exactly when some configured network
takes it and no entry that was there before is longer; any other address keeps its route. -/
theorem steering_exact {device : String} {routes : List IpNet} {initial table : KernelTable}
    {trace : List (Transition KernelTable RouteEvent)} {manager : RouteManager}
    (hrun : RunsOnKernel (setUpRoutes device true routes) initial trace table
      (manager, .ok ())) (ip : IpAddr) :
    (Steered routes initial ip → route table ip = some ⟨device, none⟩) ∧
      (¬ Steered routes initial ip → route table ip = route initial ip) := by
  obtain ⟨hinstalled, rfl, -, hall⟩ := setUpRoutes_run hrun
  rw [hall rfl rfl] at hinstalled
  exact ⟨route_of_steered hinstalled, route_of_not_steered hinstalled⟩

/-- The network's own address is steered when the table knows another network only. -/
theorem steering_exact_sample :
    ∃ trace table manager, RunsOnKernel (setUpRoutes "tun0" true [privateNetwork])
        (Host.sampleTable Host.sampleNet) trace table (manager, .ok ()) ∧
      route table privateNetwork.addr = some ⟨"tun0", none⟩ := by
  let events : List RouteEvent := [⟨.add privateNetwork "tun0", .ok ()⟩]
  have hreplays : ((replay Kernel.step (Host.sampleTable Host.sampleNet) events).isSome) =
      true := by
    decide
  obtain ⟨⟨trace, table⟩, hreplay⟩ := Option.isSome_iff_exists.mp hreplays
  have hfollow : (setUpRoutes "tun0" true [privateNetwork]).follow events =
      some (⟨"tun0", [privateNetwork]⟩, .ok ()) := by
    decide
  have hrun := runsOn_of_replay hfollow hreplay
  refine ⟨trace, table, _, hrun, (steering_exact hrun privateNetwork.addr).1
    ⟨privateNetwork, List.mem_singleton_self _, by decide, fun net hcovers hentry => ?_⟩⟩
  -- the one entry of the table does not cover the address
  by_cases hnet : net = Host.sampleNet.destination
  · subst hnet
    exact absurd (IpNet.contains_iff_covers.mpr hcovers) (by decide)
  · exact absurd (Function.update_of_ne hnet _ _) hentry

end VpnBridge.Client
