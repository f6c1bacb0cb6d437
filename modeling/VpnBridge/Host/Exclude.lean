import VpnBridge.Host.Capture

/-!
# Excluded networks

An excluded network is pinned as a whole to the next hop of its first address.
After start-up its addresses are routed as before only where that is the right
hop for them, and where no forwarded network is at least as long as the pin.
-/

namespace VpnBridge.Host

open VpnBridge.Interaction VpnBridge.Net VpnBridge.PrefixTable VpnBridge.TransitionSystem

section Pinned

variable {cfg : HostConfig} {table pinned : KernelTable} {server : Option NextHop}
variable {hops : List (IpNet × NextHop)} {setup : List RouteStep} {pins : List IpNet}
variable {ip : IpAddr} {key : Destination}

end Pinned

section Guarded

variable {cfg : HostConfig} {table final : KernelTable} {ip : IpAddr} {key : Destination}

end Guarded

end VpnBridge.Host
