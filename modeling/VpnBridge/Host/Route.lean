import VpnBridge.Core.Environment
import VpnBridge.Host.Config
import VpnBridge.Net.Destination

/-!
# Routes

Everything the host needs from the kernel routing table goes through a few `ip`
commands.  They are operations here, so that any of them can fail; `Kernel.step`
says what the table does when one succeeds.  `RouteManager` installs routes and
remembers which, and `startup` is the part of `main` that works on the table.
-/

namespace VpnBridge.Host

open VpnBridge.Interaction VpnBridge.Net VpnBridge.PrefixTable VpnBridge.Proto

/-- Where the kernel would currently send traffic for a given address. -/
structure NextHop where
  dev : String
  gateway : Option IpAddr
  src : Option IpAddr
  deriving DecidableEq

/-- What an entry of the routing table says. -/
structure Route where
  dev : String
  gateway : Option IpAddr
  deriving DecidableEq

/-- The part of a next hop that a pinned route is made of. -/
def NextHop.route (hop : NextHop) : Route := ⟨hop.dev, hop.gateway⟩

/-! ## Commands -/

inductive RouteOp where
  /-- The TUN device is made, given its address and brought up. -/
  | createTun (name : String) (address netmask : Ipv4Addr) (mtu : ℕ)
  /-- `ip route get`. -/
  | get (ip : IpAddr)
  /-- `ip route show exact`. -/
  | showExact (net : IpNet)
  /-- `ip route replace <net> dev <dev>`. -/
  | replace (net : IpNet) (dev : String)
  /-- `ip route add`. -/
  | add (net : IpNet) (route : Route)
  /-- `ip route del`. -/
  | del (net : IpNet)
  deriving DecidableEq

/-- A command that fails says why. -/
@[reducible]
def RouteAnswer : RouteOp → Type
  | .createTun _ _ _ _ => Except String Unit
  | .get _ => Except String NextHop
  | .showExact _ => Except String Bool
  | .replace _ _ => Except String Unit
  | .add _ _ => Except String Unit
  | .del _ => Except String Unit

abbrev RouteProg := Prog RouteOp RouteAnswer

abbrev RouteEvent := Event RouteAnswer

/-- Run one command. -/
def run (op : RouteOp) : RouteProg (RouteAnswer op) :=
  Prog.perform op

/-- The kernel's routing table. -/
abbrev KernelTable := Table Destination Route

/-- The network of the VM. -/
def sampleNet : IpNet := ⟨.v4 ⟨⟨[192, 168, 122, 0], rfl⟩⟩, 24, by decide⟩

/-- A table with one entry. -/
def sampleTable (net : IpNet) : KernelTable :=
  Function.update (fun _ => none) net.destination (some ⟨"eth0", none⟩)

/-- A device that is up has its own network routed to it, unless that exact prefix has
an entry, which then stays the preferred one. -/
def KernelTable.connect (table : KernelTable) (dev : String) (address netmask : Ipv4Addr) :
    KernelTable :=
  (connectedNet address netmask).elim table fun net =>
    addAbsent table net.destination ⟨dev, none⟩

/-- What a command does to the table when it succeeds, and when it can: a device needs a
netmask, `replace` overwrites the entry of that exact prefix, `add` needs it to be absent,
`del` to be there.  A command that fails leaves the table alone. -/
def Kernel.step (table : KernelTable) : RouteEvent → Option KernelTable
  | ⟨.createTun name address netmask _, .ok ()⟩ =>
      if (ipMaskToPrefix netmask).isSome then some (table.connect name address netmask)
      else none
  | ⟨.get ip, .ok hop⟩ => if route table ip = some hop.route then some table else none
  | ⟨.showExact net, .ok present⟩ =>
      if present = (table net.destination).isSome then some table else none
  | ⟨.replace net dev, .ok ()⟩ =>
      some (Function.update table net.destination (some ⟨dev, none⟩))
  | ⟨.add net route, .ok ()⟩ =>
      if table net.destination = none then
        some (Function.update table net.destination (some route))
      else none
  | ⟨.del net, .ok ()⟩ =>
      if table net.destination ≠ none then
        some (Function.update table net.destination none)
      else none
  | ⟨.createTun _ _ _ _, .error _⟩ => some table
  | ⟨.get _, .error _⟩ => some table
  | ⟨.showExact _, .error _⟩ => some table
  | ⟨.replace _ _, .error _⟩ => some table
  | ⟨.add _ _, .error _⟩ => some table
  | ⟨.del _, .error _⟩ => some table

/-- `ip route get <ip>`: must be asked before the TUN routes are installed, otherwise
it reports the tunnel itself. -/
def lookup (ip : IpAddr) : RouteProg (Except String NextHop) :=
  run (.get ip)

/-- A route for exactly this prefix exists, as far as `ip route show` tells. -/
def routeExists (net : IpNet) : RouteProg Bool := do
  match ← run (.showExact net) with
  | .ok present => return present
  | .error _ => return false

/-! ## The route manager -/

/-- The routes to remove again on shutdown, in the order they were installed. -/
structure RouteManager where
  added : List IpNet
  deriving DecidableEq

namespace RouteManager

def new : RouteManager := ⟨[]⟩

def push (manager : RouteManager) (net : IpNet) : RouteManager :=
  ⟨manager.added ++ [net]⟩

/-- Send `net` into the tunnel device. -/
def addToDev (manager : RouteManager) (net : IpNet) (dev : String) :
    RouteProg (RouteManager × Except AnyhowError Unit) := do
  match ← run (.replace net dev) with
  | .error failure => return (manager, .error [failure])
  | .ok () => return (manager.push net, .ok ())

/-- Pin `net` to its next hop so that the tunnel cannot swallow it.  A route that is
already there is left alone. -/
def pinDirect (manager : RouteManager) (net : IpNet) (hop : NextHop) :
    RouteProg (RouteManager × Except AnyhowError Unit) := do
  if ← routeExists net then
    return (manager, .ok ())
  else
    match ← run (.add net hop.route) with
    | .error failure => return (manager, .error [failure])
    | .ok () => return (manager.push net, .ok ())

/-- The loop of `cleanup`: a failed removal is only logged. -/
def deleteAll : List IpNet → RouteProg Unit
  | [] => pure ()
  | net :: nets => do
      let _ ← run (.del net)
      deleteAll nets

/-- Best-effort removal of everything this manager added, last first.  Dropping a
manager does the same. -/
def cleanup (manager : RouteManager) : RouteProg RouteManager := do
  deleteAll manager.added.reverse
  return .new

end RouteManager

/-- `/32` or `/128` prefix for a single address. -/
def hostNet (ip : IpAddr) : IpNet := ⟨ip, ip.width, le_refl _⟩

/-! ## Start-up -/

/-- The next hop to pin for the VM agent, when its address would be captured. -/
def serverHop (cfg : HostConfig) : RouteProg (Except AnyhowError (Option NextHop)) :=
  let serverIp := cfg.server.address.ip
  if cfg.captures serverIp && !cfg.excludes serverIp then do
    match ← lookup serverIp with
    | .ok hop => return .ok (some hop)
    | .error failure =>
        return .error
          [s!"looking up the current route to the VM agent at {serverIp.display}", failure]
  else
    pure (.ok none)

/-- The next hops of the excluded networks; one without a route is skipped. -/
def excludeHops : List IpNet → RouteProg (List (IpNet × NextHop))
  | [] => pure []
  | net :: nets => do
      match ← lookup net.network with
      | .ok hop => return (net, hop) :: (← excludeHops nets)
      | .error _ => excludeHops nets

/-- Pin the excluded networks; a failure is only logged. -/
def pinExcludes (manager : RouteManager) :
    List (IpNet × NextHop) → RouteProg RouteManager
  | [] => pure manager
  | (net, hop) :: hops => do
      let pinned ← manager.pinDirect net hop
      pinExcludes pinned.1 hops

/-- Pin the VM agent, where that was found necessary. -/
def pinServer (cfg : HostConfig) (manager : RouteManager) :
    Option NextHop → RouteProg (RouteManager × Except AnyhowError Unit)
  | none => pure (manager, .ok ())
  | some hop => do
      match ← manager.pinDirect (hostNet cfg.server.address.ip) hop with
      | (manager, .ok ()) => return (manager, .ok ())
      | (manager, .error failure) =>
          return (manager, .error ("pinning a direct route to the VM agent" :: failure))

/-- Install the TUN routes, up to the first failure. -/
def addRoutes (dev : String) (manager : RouteManager) :
    List IpNet → RouteProg (RouteManager × Except AnyhowError Unit)
  | [] => pure (manager, .ok ())
  | net :: nets => do
      match ← manager.addToDev net dev with
      | (manager, .ok ()) => addRoutes dev manager nets
      | (manager, .error failure) =>
          return (manager, .error (s!"installing route {net.display} via {dev}" :: failure))

/-- `DeviceBuilder` with the configured name, address and MTU. -/
def createTun (cfg : HostConfig) : RouteProg (Except AnyhowError Unit) := do
  match ← run (.createTun cfg.tun.name cfg.tun.address cfg.tun.netmask cfg.tun.mtu) with
  | .ok () => return .ok ()
  | .error failure =>
      return .error
        [s!"creating TUN device {cfg.tun.name} (needs root or CAP_NET_ADMIN)", failure]

/-- The part of `main` that works on the routing table: every next hop is looked up
before the device and the TUN routes exist, and exclusions are in place before the broad
tunnel routes can start attracting traffic. -/
def startup (cfg : HostConfig) : RouteProg (RouteManager × Except AnyhowError Unit) := do
  match ← serverHop cfg with
  | .error failure => return (.new, .error failure)
  | .ok server => do
      let hops ← excludeHops cfg.exclude
      match ← createTun cfg with
      | .error failure => return (.new, .error failure)
      | .ok () =>
          if cfg.tun.autoRoute then
            match ← pinServer cfg .new server with
            | (manager, .error failure) => return (manager, .error failure)
            | (manager, .ok ()) => do
                let manager ← pinExcludes manager hops
                addRoutes cfg.tun.name manager cfg.routes
          else
            return (.new, .ok ())

end VpnBridge.Host
