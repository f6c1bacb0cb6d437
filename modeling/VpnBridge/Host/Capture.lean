import VpnBridge.Host.RouteRuns

/-!
# The tunnel's own connection

The connection to the VM agent must not be routed into the tunnel that it
carries.  Start-up pins a host route for the agent when its address is forwarded,
but not when it is excluded as well: then it relies on the pins of the excluded
networks, which may be skipped, and on the table as it was.  The network of the
device itself comes into the table before the pins.
-/

namespace VpnBridge.Host

open VpnBridge.Interaction VpnBridge.Net VpnBridge.PrefixTable VpnBridge.Proto
open VpnBridge.TransitionSystem

/-- `ip` is routed to the TUN device. -/
def ToTunnel (cfg : HostConfig) (table : KernelTable) (ip : IpAddr) : Prop :=
  ∃ entry, route table ip = some entry ∧ entry.dev = cfg.tun.name

/-- The VM agent's address is routed to the TUN device. -/
def Captured (cfg : HostConfig) (table : KernelTable) : Prop :=
  ToTunnel cfg table cfg.server.address.ip

/-- A life of the host: a start-up that goes through, and the clean-up at the end. -/
structure HostRun (cfg : HostConfig) (table : KernelTable) where
  starting : List RouteStep
  running : KernelTable
  manager : RouteManager
  stopping : List RouteStep
  final : KernelTable
  started : RunsOnKernel (startup cfg) table starting running (manager, .ok ())
  stopped : RunsOnKernel manager.cleanup running stopping final .new

/-- The tables from the first TUN route on until the clean-up has finished. -/
def HostRun.InWindow {cfg : HostConfig} {table : KernelTable} (life : HostRun cfg table)
    (current : KernelTable) : Prop :=
  (∃ before tr after, life.starting = before ++ tr :: after ∧
    (∃ install ∈ before ++ [tr], ∃ net dev, Installs install.event net dev) ∧
      tr.post = current) ∨
  ∃ tr ∈ life.stopping, tr.pre = current

/-- Some entry of the table covers `ip` with at least `count` bits. -/
def CoveredFrom (table : KernelTable) (ip : IpAddr) (count : ℕ) : Prop :=
  ∃ key, Covers key ip ∧ table key ≠ none ∧ count ≤ PrefixSystem.length key

/-- The agent's address is to be pinned. -/
abbrev Pinning (cfg : HostConfig) : Prop :=
  (cfg.captures cfg.server.address.ip && !cfg.excludes cfg.server.address.ip) = true

/-- What keeps an agent safe that is not pinned: the table holds a longer prefix for it than
any forwarded network, no pin of an excluded network leads it into the tunnel, and the table
holds a prefix for it as long as the device's own network. -/
structure UnpinnedGuarded (cfg : HostConfig) (table : KernelTable) (agent : IpAddr) :
    Prop where
  routes : ∀ net ∈ cfg.routes, net.contains agent = true →
    CoveredFrom table agent (net.prefixLen + 1)
  exclude : ∀ net ∈ cfg.exclude, net.contains agent = true →
    ToTunnel cfg table net.network → CoveredFrom table agent net.prefixLen
  device : ∀ net ∈ connectedNet cfg.tun.address cfg.tun.netmask, net.contains agent = true →
    CoveredFrom table agent net.prefixLen

/-- The configurations and tables for which the agent is safe, if the device can be made.  An
agent that is pinned needs a route of its own, and no forwarded network may be its host
prefix. -/
def AgentGuarded (cfg : HostConfig) (table : KernelTable) : Prop :=
  let agent := cfg.server.address.ip
  (ipMaskToPrefix cfg.tun.netmask).isSome = true →
    if Pinning cfg then
      route table agent ≠ none →
        ∀ net ∈ cfg.routes, net.contains agent = true → net.prefixLen < agent.width
    else UnpinnedGuarded cfg table agent

/-! ## Shielding the agent -/

section Shield

variable {cfg : HostConfig} {table table' : KernelTable} {shield : Option Destination}

/-- The table routes the agent by `shield` or by longer entries, none of which goes to
the TUN device.  Without a shield no entry for the agent does. -/
structure Shielded (cfg : HostConfig) (shield : Option Destination)
    (table : KernelTable) : Prop where
  held : ∀ key ∈ shield, Covers key cfg.server.address.ip ∧ table key ≠ none
  clear : ∀ key, Covers key cfg.server.address.ip →
    (∀ shorter ∈ shield, PrefixSystem.length shorter ≤ PrefixSystem.length key) →
      ∀ entry, table key = some entry → entry.dev ≠ cfg.tun.name

theorem Shielded.not_captured (hshielded : Shielded cfg shield table) :
    ¬ Captured cfg table := by
  rintro ⟨entry, hroute, hdev⟩
  obtain ⟨key, hcovers, -, hmost, heq⟩ :=
    exists_longest (by rw [hroute]; exact Option.some_ne_none _)
  refine hshielded.clear key hcovers ?_ entry (heq.symm.trans hroute) hdev
  intro shorter hshorter
  obtain ⟨hcovers, hheld⟩ := hshielded.held shorter hshorter
  exact hmost shorter hcovers hheld

/-- A route can be removed when it is not the shield. -/
theorem Shielded.remove (hshielded : Shielded cfg shield table) {net : IpNet}
    (hother : net.destination ∉ shield) :
    Shielded cfg shield (Function.update table net.destination none) where
  held key hkey := by
    obtain ⟨hcovers, hheld⟩ := hshielded.held key hkey
    have hne : key ≠ net.destination := fun heq => hother (heq ▸ hkey)
    exact ⟨hcovers, by rwa [Function.update_of_ne hne]⟩
  clear key hcovers hlong entry hentry := by
    by_cases hsame : key = net.destination
    · rw [hsame, Function.update_self] at hentry
      cases hentry
    · rw [Function.update_of_ne hsame] at hentry
      exact hshielded.clear key hcovers hlong entry hentry

/-- A TUN route can be installed when it is shorter than the shield. -/
theorem Shielded.install (hshielded : Shielded cfg shield table) {net : IpNet}
    {entry : Option Route}
    (hshort : net.contains cfg.server.address.ip = true →
      ∃ key ∈ shield, net.prefixLen < PrefixSystem.length key) :
    Shielded cfg shield (Function.update table net.destination entry) where
  held key hkey := by
    obtain ⟨hcovers, hheld⟩ := hshielded.held key hkey
    refine ⟨hcovers, ?_⟩
    by_cases hsame : key = net.destination
    · obtain ⟨other, hother, hlt⟩ := hshort (IpNet.contains_iff_covers.mpr (hsame ▸ hcovers))
      rw [Option.mem_unique hother hkey, hsame, IpNet.length_destination] at hlt
      exact absurd hlt (lt_irrefl _)
    · rwa [Function.update_of_ne hsame]
  clear key hcovers hlong entry' hentry := by
    by_cases hsame : key = net.destination
    · obtain ⟨other, hother, hlt⟩ := hshort (IpNet.contains_iff_covers.mpr (hsame ▸ hcovers))
      have hle := hlong other hother
      rw [hsame, IpNet.length_destination] at hle
      exact absurd hlt (Nat.not_lt.mpr hle)
    · rw [Function.update_of_ne hsame] at hentry
      exact hshielded.clear key hcovers hlong entry' hentry

/-- The longest entry for the agent, where there is one. -/
def ownShield (cfg : HostConfig) (table : KernelTable) : Option Destination :=
  (longest table cfg.server.address.ip).map Prod.fst

theorem mem_ownShield_iff {key : Destination} :
    key ∈ ownShield cfg table ↔ Covers key cfg.server.address.ip ∧ table key ≠ none ∧
      ∀ other, Covers other cfg.server.address.ip → table other ≠ none →
        PrefixSystem.length other ≤ PrefixSystem.length key := by
  rw [ownShield, Option.mem_def, Option.map_eq_some_iff]
  constructor
  · rintro ⟨⟨_, hop⟩, hlongest, rfl⟩
    obtain ⟨hcovers, hentry, hmost⟩ := longest_eq_some_iff.mp hlongest
    exact ⟨hcovers, by rw [hentry]; exact Option.some_ne_none _, hmost⟩
  · rintro ⟨hcovers, hentry, hmost⟩
    obtain ⟨hop, hhop⟩ := Option.ne_none_iff_exists'.mp hentry
    exact ⟨(key, hop), longest_eq_some_iff.mpr ⟨hcovers, hhop, hmost⟩, rfl⟩

/-- A covering entry comes with a shield at least as long. -/
theorem exists_ownShield {count : ℕ}
    (hcovered : CoveredFrom table cfg.server.address.ip count) :
    ∃ key ∈ ownShield cfg table, count ≤ PrefixSystem.length key := by
  obtain ⟨key, hcovers, hentry, hcount⟩ := hcovered
  have hroute : route table cfg.server.address.ip ≠ none :=
    fun hnone => hentry (route_eq_none_iff.mp hnone key hcovers)
  obtain ⟨longer, hlonger, hheld, hmost, -⟩ := exists_longest hroute
  exact ⟨longer, mem_ownShield_iff.mpr ⟨hlonger, hheld, hmost⟩,
    hcount.trans (hmost key hcovers hentry)⟩

/-- An entry at least as long as the table's own shield is the shield. -/
theorem entry_of_ownShield {key : Destination}
    (hcovers : Covers key cfg.server.address.ip) (hentry : table key ≠ none)
    (hlong : ∀ shorter ∈ ownShield cfg table,
      PrefixSystem.length shorter ≤ PrefixSystem.length key) :
    route table cfg.server.address.ip = table key := by
  obtain ⟨longer, hmem, hle⟩ := exists_ownShield ⟨key, hcovers, hentry, le_refl _⟩
  obtain ⟨-, -, hmost⟩ := mem_ownShield_iff.mp hmem
  apply route_eq_of_longest hcovers _ hentry
  intro other hother hsome
  exact (hmost other hother hsome).trans (hlong longer hmem)

end Shield

/-! ## From the pins to the shield -/

section Pinned

variable {cfg : HostConfig} {table pinned : KernelTable} {server : Option NextHop}
variable {hops : List (IpNet × NextHop)} {setup : List RouteStep} {pins : List IpNet}

/-- The forwarded networks are shorter than the shield, which the clean-up removes
last if at all. -/
structure Guards (cfg : HostConfig) (pins : List IpNet) (shield : Option Destination) :
    Prop where
  routes : ∀ net ∈ cfg.routes, net.contains cfg.server.address.ip = true →
    ∃ key ∈ shield, net.prefixLen < PrefixSystem.length key
  removed : ∀ net ∈ (pins ++ cfg.routes).reverse.dropLast, net.destination ∉ shield

/-- An agent that is not pinned is as safe as its own entry in the table. -/
theorem shielded_of_unpinned (hstarted : Started cfg table server hops setup pinned pins)
    (hserver : server = none) (hfree : ¬ Captured cfg table)
    (hguarded : UnpinnedGuarded cfg table cfg.server.address.ip) :
    Shielded cfg (ownShield cfg table) pinned ∧ Guards cfg pins (ownShield cfg table) := by
  obtain ⟨trace, hpins⟩ := hstarted.pins
  rw [hserver, serverPins, Option.toList_none, List.map_nil, List.nil_append] at hpins
  have hkept : ∀ key, table key ≠ none → pinned key = table key := by
    intro key hentry
    have hconnected : deviceUp cfg table key = table key := connect_of_ne_none hentry
    rw [hpins.kept key (hconnected ▸ hentry), hconnected]
  have hshort : ∀ net ∈ cfg.routes, net.contains cfg.server.address.ip = true →
      ∃ key ∈ ownShield cfg table, net.prefixLen < PrefixSystem.length key :=
    fun net hnet hcontains => exists_ownShield (hguarded.routes net hnet hcontains)
  refine ⟨⟨?_, ?_⟩, hshort, ?_⟩
  · intro key hkey
    obtain ⟨hcovers, hentry, -⟩ := mem_ownShield_iff.mp hkey
    exact ⟨hcovers, by rw [hkept key hentry]; exact hentry⟩
  · intro key hcovers hlong entry hentry hdev
    by_cases hold : table key = none
    · -- a new entry, which the agent's own entry would have to be longer than
      have hcovered : CoveredFrom table cfg.server.address.ip (PrefixSystem.length key) := by
        by_cases hnew : deviceUp cfg table key = none
        · obtain ⟨net, hop, hmem, rfl, hpin⟩ :=
            hpins.pinned key hnew (by rw [hentry]; exact Option.some_ne_none _)
          obtain ⟨hnet, hroute⟩ := hstarted.hops_mem net hop hmem
          obtain rfl := Option.some.inj (hentry.symm.trans hpin)
          exact hguarded.exclude net hnet (IpNet.contains_iff_covers.mpr hcovers)
            ⟨hop.route, hroute, hdev⟩
        · obtain ⟨device, hdevice⟩ := Option.ne_none_iff_exists'.mp hnew
          obtain ⟨-, net, hnet, rfl⟩ := connect_of_none hold hdevice
          exact hguarded.device net hnet (IpNet.contains_iff_covers.mpr hcovers)
      obtain ⟨shield, hshield, hle⟩ := exists_ownShield hcovered
      obtain ⟨hshieldCovers, hheld, -⟩ := mem_ownShield_iff.mp hshield
      have hsame := hcovers.eq_of_length hshieldCovers (le_antisymm hle (hlong shield hshield))
      exact hheld (hsame ▸ hold)
    · rw [hkept key hold] at hentry
      rw [← entry_of_ownShield hcovers hold hlong] at hentry
      exact hfree ⟨entry, hentry, hdev⟩
  · intro net hnet hmem
    obtain ⟨hcovers, hheld, -⟩ := mem_ownShield_iff.mp hmem
    rcases List.mem_append.mp (List.mem_reverse.mp (List.mem_of_mem_dropLast hnet)) with
      hpin | hroute
    · exact hheld (connect_eq_none (hpins.pins_mem net hpin))
    · obtain ⟨key, hkey, hlt⟩ :=
        hshort net hroute (IpNet.contains_iff_covers.mpr hcovers)
      rw [Option.mem_unique hkey hmem, IpNet.length_destination] at hlt
      exact absurd hlt (lt_irrefl _)

theorem covers_hostNet (ip : IpAddr) : Covers (hostNet ip).destination ip :=
  ⟨le_refl _, rfl⟩

/-- The device's own network is nobody's host route. -/
theorem deviceUp_hostNet (ip : IpAddr) :
    deviceUp cfg table (hostNet ip).destination = table (hostNet ip).destination := by
  by_cases hold : table (hostNet ip).destination = none
  · cases hnew : deviceUp cfg table (hostNet ip).destination with
    | none => rw [hold]
    | some entry =>
        obtain ⟨-, net, hnet, heq⟩ := connect_of_none hold hnew
        obtain ⟨hfamily, hshort⟩ := prefixLen_lt_of_connectedNet hnet
        simp only [IpNet.destination, IpAddr.leading, Destination.mk.injEq] at heq
        obtain ⟨hsame, hlength, -⟩ := heq
        cases ip with
        | v4 addr => exact absurd hlength (Nat.ne_of_lt hshort)
        | v6 addr => cases hfamily.symm.trans hsame
  · exact connect_of_ne_none hold

/-- A network that is not excluded for the agent is not pinned over its host route. -/
theorem hops_ne_hostNet (hstarted : Started cfg table server hops setup pinned pins)
    (hexcluded : ¬ cfg.excludes cfg.server.address.ip = true) {net : IpNet}
    (hmem : net ∈ hops.map Prod.fst) :
    net.destination ≠ (hostNet cfg.server.address.ip).destination := by
  intro heq
  obtain ⟨⟨other, hop⟩, hfound, rfl⟩ := List.mem_map.mp hmem
  apply hexcluded
  refine HostConfig.excludes_iff.mpr ⟨other, (hstarted.hops_mem other hop hfound).1, ?_⟩
  rw [IpNet.contains_iff_covers, heq]
  exact covers_hostNet _

/-- A pinned agent is safe behind its host route. -/
theorem shielded_of_pinned (hstarted : Started cfg table server hops setup pinned pins)
    {hop : NextHop} (hserver : server = some hop)
    (hhop : route table cfg.server.address.ip = some hop.route)
    (hexcluded : ¬ cfg.excludes cfg.server.address.ip = true)
    (hfree : ¬ Captured cfg table)
    (hroutes : ∀ net ∈ cfg.routes, net.contains cfg.server.address.ip = true →
      net.prefixLen < cfg.server.address.ip.width) :
    Shielded cfg (some (hostNet cfg.server.address.ip).destination) pinned ∧
      Guards cfg pins (some (hostNet cfg.server.address.ip).destination) := by
  obtain ⟨trace, hpins⟩ := hstarted.pins
  have hpresent : pinned (hostNet cfg.server.address.ip).destination ≠ none :=
    hstarted.server_pinned (by rw [hserver]; exact Option.some_ne_none _)
  have hsafe : hop.route.dev ≠ cfg.tun.name := fun hdev => hfree ⟨_, hhop, hdev⟩
  refine ⟨⟨?_, ?_⟩, ?_, ?_⟩
  · rintro _ ⟨⟩
    exact ⟨covers_hostNet _, hpresent⟩
  · intro key hcovers hlong entry hentry hdev
    have hkey : key = (hostNet cfg.server.address.ip).destination :=
      hcovers.eq_of_length (covers_hostNet _) (le_antisymm hcovers.1 (hlong _ rfl))
    subst hkey
    have hconnected : deviceUp cfg table (hostNet cfg.server.address.ip).destination =
        table (hostNet cfg.server.address.ip).destination := deviceUp_hostNet _
    by_cases hold : table (hostNet cfg.server.address.ip).destination = none
    · obtain ⟨net, found, hmem, hnet, hpin⟩ :=
        hpins.pinned _ (hconnected.trans hold) hpresent
      rw [hpin] at hentry
      rcases List.mem_append.mp hmem with hmem | hmem
      · rw [hserver] at hmem
        cases List.mem_singleton.mp hmem
        cases hentry
        exact hsafe hdev
      · exact hops_ne_hostNet hstarted hexcluded (List.mem_map_of_mem hmem) hnet
    · rw [hpins.kept _ (hconnected ▸ hold), hconnected] at hentry
      refine hfree ⟨entry, (route_eq_of_longest (covers_hostNet _) ?_ hold).trans hentry, hdev⟩
      intro other hother _
      exact hother.1
  · intro net hnet hcontains
    exact ⟨_, rfl, hroutes net hnet hcontains⟩
  · intro net hnet heq
    obtain hkey := Option.some.inj heq
    have hroute : net ∉ cfg.routes := fun hroute => by
      have hlt := hroutes net hroute
        (IpNet.contains_iff_covers.mpr (hkey ▸ covers_hostNet cfg.server.address.ip))
      have hlength := congrArg PrefixSystem.length hkey
      rw [IpNet.length_destination, IpNet.length_destination] at hlength
      exact absurd hlength.symm (Nat.ne_of_lt hlt)
    -- only the first pin can be the agent's own, and it is removed last
    have hsublist := hpins.pins_sublist.tail
    rw [hserver, serverPins, Option.toList_some, List.map_append, List.map_singleton] at hsublist
    refine hops_ne_hostNet hstarted hexcluded (hsublist.mem ?_) hkey.symm
    rw [List.dropLast_reverse, List.mem_reverse] at hnet
    cases pins with
    | nil => exact absurd (List.mem_of_mem_tail hnet) hroute
    | cons pin pins => exact (List.mem_append.mp hnet).resolve_right hroute

theorem exists_shielded (hstarted : Started cfg table server hops setup pinned pins)
    (hguarded : AgentGuarded cfg table) (hfree : ¬ Captured cfg table) :
    ∃ shield, Shielded cfg shield pinned ∧ Guards cfg pins shield := by
  have hserver := hstarted.server_eq
  have hguarded := hguarded hstarted.made
  by_cases hpinning : Pinning cfg
  · rw [if_pos hpinning] at hguarded
    rw [if_pos hpinning] at hserver
    obtain ⟨hop, hsome, hhop⟩ := hserver
    have hexcluded : ¬ cfg.excludes cfg.server.address.ip = true := by
      intro hexcluded
      rw [Pinning, hexcluded, Bool.not_true, Bool.and_false] at hpinning
      cases hpinning
    have hroute : route table cfg.server.address.ip ≠ none := by
      rw [hhop]
      exact Option.some_ne_none _
    exact ⟨_, shielded_of_pinned hstarted hsome hhop hexcluded hfree (hguarded hroute)⟩
  · rw [if_neg hpinning] at hguarded
    rw [if_neg hpinning] at hserver
    exact ⟨_, shielded_of_unpinned hstarted hserver hfree hguarded⟩

end Pinned

/-- A guarded agent is not captured by any table of the window. -/
theorem not_captured_of_guarded {cfg : HostConfig} {table current : KernelTable}
    (hauto : cfg.tun.autoRoute = true) (hfree : ¬ Captured cfg table)
    (hguarded : AgentGuarded cfg table) (life : HostRun cfg table)
    (hwindow : life.InWindow current) : ¬ Captured cfg current := by
  obtain ⟨server, hops, setup, pinned, pins, install, htrace, hstarted, hinstall, hevents,
    hrunning, hadded⟩ := startup_run hauto life.started
  obtain ⟨shield, hshielded, hguards⟩ := exists_shielded hstarted hguarded hfree
  -- the TUN routes leave the shield alone
  have hstep : ∀ tr ∈ install, Kernel.step tr.pre tr.event = some tr.post →
      Shielded cfg shield tr.pre → Shielded cfg shield tr.post := by
    intro tr htr hstep hpre
    have hmem := List.mem_map_of_mem (f := Transition.event) htr
    rw [hevents, List.mem_map] at hmem
    obtain ⟨net, hnet, hevent⟩ := hmem
    rw [← hevent, step_replace_iff] at hstep
    rcases hstep with ⟨-, hpost⟩ | ⟨failure, hfailure, -⟩
    · rw [hpost]
      exact hpre.install (hguards.routes net hnet)
    · cases hfailure
  rcases hwindow with ⟨before, tr, after, hsplit, hinstalled, rfl⟩ | ⟨tr, htr, rfl⟩
  · apply Shielded.not_captured
    refine (hinstall.preserved_of_mem _ hstep hshielded ?_).2
    rw [htrace] at hsplit
    rcases List.append_eq_append_iff.mp hsplit with ⟨later, rfl, hlater⟩ | ⟨rest, hsetup, hrest⟩
    · rw [hlater]
      exact List.mem_append_right _ List.mem_cons_self
    · cases rest with
      | nil =>
          rw [List.nil_append] at hrest
          rw [← hrest]
          exact List.mem_cons_self
      | cons head rest =>
          -- then the TUN route would have come before the pins
          obtain ⟨rfl, -⟩ := List.cons.inj hrest
          obtain ⟨other, hother, net, dev, hinstalls⟩ := hinstalled
          refine absurd hinstalls (hstarted.quiet other ?_ net dev)
          rw [hsetup, ← List.singleton_append, ← List.append_assoc]
          exact List.mem_append_left _ hother
  · apply Shielded.not_captured
    obtain ⟨outcome, middle, first, second, hstopping, hdelete, hrest⟩ :=
      runsOn_bind_iff.mp life.stopped
    obtain ⟨rfl, -, -⟩ := runsOn_pure_iff.mp hrest
    rw [List.append_nil] at hstopping
    rw [hadded] at hdelete
    refine deleteAll_pre (Shielded cfg shield) ?_ (hinstall.preserved _ hstep hshielded)
      hdelete tr (hstopping ▸ htr)
    intro net hnet current hcurrent
    exact hcurrent.remove (hguards.removed net hnet)

/-! ## Runs that capture the agent -/

section Existence

variable {cfg : HostConfig} {table : KernelTable}

/-- Every lookup of an excluded network can fail. -/
theorem exists_excludeHops_nil (table : KernelTable) (nets : List IpNet) :
    ∃ trace, RunsOnKernel (excludeHops nets) table trace table [] := by
  induction nets with
  | nil => exact ⟨[], runsOn_pure_iff.mpr ⟨rfl, rfl, rfl⟩⟩
  | cons net nets ih =>
      obtain ⟨trace, hrun⟩ := ih
      exact ⟨_, runsOn_perform_bind_iff.mpr ⟨.error "", table, trace, rfl, rfl, hrun⟩⟩

/-- Only the lookup of one excluded network may go through. -/
theorem exists_excludeHops_only {net : IpNet} (hop : NextHop) (nets : List IpNet)
    (hroute : route table net.network = some hop.route) :
    ∃ trace hops, RunsOnKernel (excludeHops nets) table trace table hops ∧
      (net ∈ nets → (net, hop) ∈ hops) ∧ ∀ found ∈ hops, found = (net, hop) := by
  induction nets with
  | nil =>
      exact ⟨[], [], runsOn_pure_iff.mpr ⟨rfl, rfl, rfl⟩, nofun, List.forall_mem_nil _⟩
  | cons other nets ih =>
      obtain ⟨trace, hops, hrun, hmem, hall⟩ := ih
      by_cases hother : other = net
      · subst hother
        refine ⟨_, (other, hop) :: hops, runsOn_perform_bind_iff.mpr ⟨.ok hop, table, trace,
          rfl, if_pos hroute, runsOn_bind_iff.mpr ⟨hops, table, trace, [],
            (List.append_nil _).symm, hrun, runsOn_pure_iff.mpr ⟨rfl, rfl, rfl⟩⟩⟩, ?_, ?_⟩
        · exact fun _ => List.mem_cons_self
        · exact List.forall_mem_cons.mpr ⟨rfl, hall⟩
      · refine ⟨_, hops, runsOn_perform_bind_iff.mpr
          ⟨.error "", table, trace, rfl, rfl, hrun⟩, ?_, hall⟩
        intro hnet
        exact hmem (List.mem_of_ne_of_mem (Ne.symm hother) hnet)

/-- Every pin can go through. -/
theorem exists_pinDirect (table : KernelTable) (manager : RouteManager) (net : IpNet)
    (hop : NextHop) :
    ∃ trace table' manager', RunsOnKernel (manager.pinDirect net hop) table trace table'
      (manager', .ok ()) ∧ ∀ tr ∈ trace, Succeeds tr.event := by
  by_cases hentry : table net.destination = none
  · have hshown : false = (table net.destination).isSome := by rw [hentry]; rfl
    refine ⟨_, _, manager.push net, runsOn_perform_bind_iff.mpr ⟨.ok false, table, _, rfl,
      if_pos hshown, runsOn_perform_bind_iff.mpr ⟨.ok (), _, [], rfl, if_pos hentry,
        runsOn_pure_iff.mpr ⟨rfl, rfl, rfl⟩⟩⟩, ?_⟩
    rw [List.forall_mem_cons, List.forall_mem_singleton]
    exact ⟨trivial, trivial⟩
  · have hshown : true = (table net.destination).isSome :=
      (Option.isSome_iff_ne_none.mpr hentry).symm
    refine ⟨_, _, manager, runsOn_perform_bind_iff.mpr ⟨.ok true, table, [], rfl,
      if_pos hshown, runsOn_pure_iff.mpr ⟨rfl, rfl, rfl⟩⟩, ?_⟩
    rw [List.forall_mem_singleton]
    trivial

theorem exists_pinExcludes (table : KernelTable) (manager : RouteManager)
    (hops : List (IpNet × NextHop)) :
    ∃ trace table' manager', RunsOnKernel (pinExcludes manager hops) table trace table'
      manager' ∧ ∀ tr ∈ trace, Succeeds tr.event := by
  induction hops generalizing table manager with
  | nil =>
      exact ⟨[], table, manager, runsOn_pure_iff.mpr ⟨rfl, rfl, rfl⟩, List.forall_mem_nil _⟩
  | cons head hops ih =>
      obtain ⟨first, middle, pinned, hpin, hfirst⟩ :=
        exists_pinDirect table manager head.1 head.2
      obtain ⟨second, table', manager', hrest, hsecond⟩ := ih middle pinned
      exact ⟨first ++ second, table', manager', runsOn_bind_iff.mpr
        ⟨_, middle, first, second, rfl, hpin, hrest⟩,
        List.forall_mem_append.mpr ⟨hfirst, hsecond⟩⟩

theorem exists_addRoutes (table : KernelTable) (dev : String) (manager : RouteManager)
    (nets : List IpNet) :
    ∃ trace table' manager', RunsOnKernel (addRoutes dev manager nets) table trace table'
      (manager', .ok ()) := by
  induction nets generalizing table manager with
  | nil => exact ⟨[], table, manager, runsOn_pure_iff.mpr ⟨rfl, rfl, rfl⟩⟩
  | cons net nets ih =>
      obtain ⟨trace, table', manager', hrest⟩ :=
        ih (Function.update table net.destination (some ⟨dev, none⟩)) (manager.push net)
      exact ⟨_, table', manager', runsOn_perform_bind_iff.mpr ⟨.ok (), _, trace, rfl, rfl,
        hrest⟩⟩

/-- Every removal can fail. -/
theorem exists_deleteAll (table : KernelTable) (nets : List IpNet) :
    ∃ trace, RunsOnKernel (RouteManager.deleteAll nets) table trace table () ∧
      (nets ≠ [] → ∃ tr ∈ trace, tr.pre = table) := by
  induction nets with
  | nil => exact ⟨[], runsOn_pure_iff.mpr ⟨rfl, rfl, rfl⟩, fun hne => absurd rfl hne⟩
  | cons net nets ih =>
      obtain ⟨trace, hrun, -⟩ := ih
      exact ⟨_, runsOn_perform_bind_iff.mpr ⟨.error "", table, trace, rfl, rfl, hrun⟩,
        fun _ => ⟨_, List.mem_cons_self, rfl⟩⟩

/-- A start-up that has installed something can be followed by a clean-up that removes
nothing. -/
theorem exists_hostRun_of_startup {starting : List RouteStep} {running : KernelTable}
    {manager : RouteManager} (hadded : manager.added ≠ [])
    (hstarted : RunsOnKernel (startup cfg) table starting running (manager, .ok ())) :
    ∃ life : HostRun cfg table, life.InWindow running := by
  obtain ⟨stopping, hdelete, hstopping⟩ :=
    exists_deleteAll running manager.added.reverse
  obtain ⟨tr, htr, hpre⟩ := hstopping (mt List.reverse_eq_nil_iff.mp hadded)
  have hstopped : RunsOnKernel manager.cleanup running (stopping ++ []) running .new :=
    runsOn_bind_iff.mpr ⟨(), _, stopping, [], rfl, hdelete, runsOn_pure_iff.mpr ⟨rfl, rfl, rfl⟩⟩
  exact ⟨⟨_, _, _, _, _, hstarted, hstopped⟩, .inr ⟨tr, List.mem_append_left _ htr, hpre⟩⟩

/-- A device can be made that has a netmask. -/
theorem exists_createTun (table : KernelTable)
    (hmask : (ipMaskToPrefix cfg.tun.netmask).isSome = true) :
    ∃ trace, RunsOnKernel (createTun cfg) table trace (deviceUp cfg table) (.ok ()) :=
  ⟨_, runsOn_perform_bind_iff.mpr ⟨.ok (), deviceUp cfg table, [], rfl, if_pos hmask,
    runsOn_pure_iff.mpr ⟨rfl, rfl, rfl⟩⟩⟩

/-- A life of the host from the runs of the first parts of its start-up. -/
theorem exists_hostRun (hvalid : cfg.validate = .ok ()) (hauto : cfg.tun.autoRoute = true)
    (hmask : (ipMaskToPrefix cfg.tun.netmask).isSome = true) {server : Option NextHop}
    {hops : List (IpNet × NextHop)} {middle pinned : KernelTable}
    {manager manager' : RouteManager} {lookupTrace hopsTrace serverTrace trace : List RouteStep}
    (hlookup : RunsOnKernel (serverHop cfg) table lookupTrace table (.ok server))
    (hhops : RunsOnKernel (excludeHops cfg.exclude) table hopsTrace table hops)
    (hserver : RunsOnKernel (pinServer cfg .new server) (deviceUp cfg table) serverTrace middle
      (manager, .ok ()))
    (hpins : RunsOnKernel (pinExcludes manager hops) middle trace pinned manager') :
    ∃ life : HostRun cfg table, life.InWindow (tunnelled cfg.tun.name cfg.routes pinned) := by
  obtain ⟨tunTrace, htun⟩ := exists_createTun table hmask
  obtain ⟨install, running, last, hinstall⟩ :=
    exists_addRoutes pinned cfg.tun.name manager' cfg.routes
  obtain ⟨rfl, hadded, -⟩ := addRoutes_run hinstall
  have hsome : last.added ≠ [] := by
    rw [hadded]
    intro hnil
    exact HostConfig.routes_ne_nil_of_validate hvalid (List.append_eq_nil_iff.mp hnil).2
  have hstarted : RunsOnKernel (startup cfg) table
      (lookupTrace ++ (hopsTrace ++ (tunTrace ++ (serverTrace ++ (trace ++ install)))))
      (tunnelled cfg.tun.name cfg.routes pinned) (last, .ok ()) := by
    refine runsOn_bind_iff.mpr ⟨_, _, _, _, rfl, hlookup, ?_⟩
    refine runsOn_bind_iff.mpr ⟨_, _, _, _, rfl, hhops, ?_⟩
    refine runsOn_bind_iff.mpr ⟨_, _, _, _, rfl, htun, ?_⟩
    rw [if_pos hauto]
    refine runsOn_bind_iff.mpr ⟨_, _, _, _, rfl, hserver, ?_⟩
    exact runsOn_bind_iff.mpr ⟨_, _, _, _, rfl, hpins, hinstall⟩
  exact exists_hostRun_of_startup hsome hstarted

/-- The agent is captured as soon as an entry leads to the TUN device that no other entry
which does not exceeds. -/
theorem captured_of_longest {pinned : KernelTable} {key : Destination}
    (hcovers : Covers key cfg.server.address.ip)
    (hmost : ∀ other entry, Covers other cfg.server.address.ip → pinned other = some entry →
      entry.dev ≠ cfg.tun.name → PrefixSystem.length other ≤ PrefixSystem.length key)
    (hkey : (∃ net ∈ cfg.routes, net.destination = key) ∨
      ∃ entry, pinned key = some entry ∧ entry.dev = cfg.tun.name) :
    Captured cfg (tunnelled cfg.tun.name cfg.routes pinned) := by
  have hentry : tunnelled cfg.tun.name cfg.routes pinned key ≠ none := by
    rw [tunnelled]
    split
    next => exact Option.some_ne_none _
    next hnone =>
      obtain ⟨entry, hentry, -⟩ := hkey.resolve_left hnone
      rw [hentry]
      exact Option.some_ne_none _
  obtain ⟨longer, hlonger, hheld, hlongest, hroute⟩ :=
    exists_longest fun hnone => hentry (route_eq_none_iff.mp hnone key hcovers)
  have hle := hlongest key hcovers hentry
  rw [Captured, ToTunnel, hroute]
  rw [tunnelled] at hheld ⊢
  split at hheld
  next hnet =>
    rw [if_pos hnet]
    exact ⟨_, rfl, rfl⟩
  next hnone =>
    rw [if_neg hnone]
    obtain ⟨entry, hsome⟩ := Option.ne_none_iff_exists'.mp hheld
    by_cases hdev : entry.dev = cfg.tun.name
    · exact ⟨entry, hsome, hdev⟩
    · obtain rfl := hlonger.eq_of_length hcovers
        (le_antisymm (hmost longer entry hlonger hsome hdev) hle)
      exact hkey.resolve_left hnone

/-- An entry that the device did not bring was there before. -/
theorem entry_of_deviceUp {key : Destination} {entry : Route}
    (hentry : deviceUp cfg table key = some entry) (hdev : entry.dev ≠ cfg.tun.name) :
    table key ≠ none := by
  intro hold
  rw [(connect_of_none hold hentry).1] at hdev
  exact hdev rfl

end Existence

section Unsafe

variable {cfg : HostConfig} {table : KernelTable} {net : IpNet}

theorem serverHop_unpinned (hpinning : ¬ Pinning cfg) :
    RunsOnKernel (serverHop cfg) table [] table (.ok none) := by
  rw [serverHop, if_neg hpinning]
  exact runsOn_pure_iff.mpr ⟨rfl, rfl, rfl⟩

theorem pinServer_none : RunsOnKernel (pinServer cfg .new none) table [] table (.new, .ok ()) :=
  runsOn_pure_iff.mpr ⟨rfl, rfl, rfl⟩

/-- With every pin skipped, a forwarded network or the device's own captures an agent that is
not pinned, unless the table holds a longer prefix. -/
theorem exists_captured_of_unpinned {key : Destination} (hvalid : cfg.validate = .ok ())
    (hauto : cfg.tun.autoRoute = true)
    (hmask : (ipMaskToPrefix cfg.tun.netmask).isSome = true) (hpinning : ¬ Pinning cfg)
    (hcovers : Covers key cfg.server.address.ip)
    (hkey : (∃ net ∈ cfg.routes, net.destination = key) ∨
      deviceUp cfg table key = some ⟨cfg.tun.name, none⟩)
    (huncovered : ¬ CoveredFrom table cfg.server.address.ip (PrefixSystem.length key + 1)) :
    ∃ (life : HostRun cfg table) (current : KernelTable), life.InWindow current ∧
      Captured cfg current := by
  obtain ⟨nilTrace, hnil⟩ := exists_excludeHops_nil table cfg.exclude
  obtain ⟨life, hwindow⟩ := exists_hostRun hvalid hauto hmask (serverHop_unpinned hpinning) hnil
    pinServer_none (runsOn_pure_iff.mpr ⟨rfl, rfl, rfl⟩)
  refine ⟨life, _, hwindow, captured_of_longest hcovers ?_
    (hkey.imp_right fun hdevice => ⟨_, hdevice, rfl⟩)⟩
  intro other entry hother hentry hdev
  by_contra hlong
  exact huncovered ⟨other, hother, entry_of_deviceUp hentry hdev, Nat.lt_of_not_le hlong⟩

/-- An excluded network whose address the table routes to the TUN device captures the
agent when it alone is pinned, unless the table holds a prefix as long. -/
theorem exists_captured_of_pin {entry : Route} (hvalid : cfg.validate = .ok ())
    (hauto : cfg.tun.autoRoute = true)
    (hmask : (ipMaskToPrefix cfg.tun.netmask).isSome = true) (hpinning : ¬ Pinning cfg)
    (hnet : net ∈ cfg.exclude) (hcontains : net.contains cfg.server.address.ip = true)
    (hroute : route table net.network = some entry) (hdev : entry.dev = cfg.tun.name)
    (huncovered : ¬ CoveredFrom table cfg.server.address.ip net.prefixLen) :
    ∃ (life : HostRun cfg table) (current : KernelTable), life.InWindow current ∧
      Captured cfg current := by
  have hcovers := IpNet.contains_iff_covers.mp hcontains
  obtain ⟨hopsTrace, hops, hhops, hmem, hall⟩ :=
    exists_excludeHops_only ⟨entry.dev, entry.gateway, none⟩ cfg.exclude hroute
  obtain ⟨trace, pinned, manager, hpins, hsucceeds⟩ :=
    exists_pinExcludes (deviceUp cfg table) .new hops
  obtain ⟨life, hwindow⟩ := exists_hostRun hvalid hauto hmask (serverHop_unpinned hpinning)
    hhops pinServer_none hpins
  obtain ⟨pins, hpinned⟩ := pinExcludes_run hpins
  -- whatever is new in the table leads to the TUN device
  have hnew : ∀ other found, table other = none → pinned other = some found →
      found.dev = cfg.tun.name := by
    intro other found hold hfound
    by_cases hconnected : deviceUp cfg table other = none
    · obtain ⟨excluded, hop, hexcluded, -, hpin⟩ :=
        hpinned.pinned other hconnected (by rw [hfound]; exact Option.some_ne_none _)
      cases hall _ hexcluded
      obtain rfl := Option.some.inj (hfound.symm.trans hpin)
      exact hdev
    · rw [hpinned.kept other hconnected] at hfound
      rw [(connect_of_none hold hfound).1]
  have habsent : table net.destination = none := by
    by_contra hheld
    exact huncovered ⟨_, hcovers, hheld, le_refl _⟩
  obtain ⟨found, hfound⟩ := Option.ne_none_iff_exists'.mp
    (hpinned.complete hsucceeds net _ (hmem hnet))
  refine ⟨life, _, hwindow, captured_of_longest hcovers ?_
    (.inr ⟨found, hfound, hnew _ found habsent hfound⟩)⟩
  intro other entry' hother hentry' hother'
  rw [IpNet.length_destination]
  by_contra hlong
  refine huncovered ⟨other, hother, fun hold => ?_, (Nat.lt_of_not_le hlong).le⟩
  exact hother' (hnew other entry' hold hentry')

/-- A forwarded network as long as the agent's pin takes its place. -/
theorem exists_captured_of_hostNet {entry : Route} (hvalid : cfg.validate = .ok ())
    (hauto : cfg.tun.autoRoute = true)
    (hmask : (ipMaskToPrefix cfg.tun.netmask).isSome = true) (hpinning : Pinning cfg)
    (hroute : route table cfg.server.address.ip = some entry) (hnet : net ∈ cfg.routes)
    (hcontains : net.contains cfg.server.address.ip = true)
    (hlong : cfg.server.address.ip.width ≤ net.prefixLen) :
    ∃ (life : HostRun cfg table) (current : KernelTable), life.InWindow current ∧
      Captured cfg current := by
  have hcovers := IpNet.contains_iff_covers.mp hcontains
  have hlookup : RunsOnKernel (serverHop cfg) table
      [⟨table, ⟨.get cfg.server.address.ip, .ok ⟨entry.dev, entry.gateway, none⟩⟩, table⟩]
      table (.ok (some ⟨entry.dev, entry.gateway, none⟩)) := by
    rw [serverHop, if_pos hpinning]
    exact runsOn_perform_bind_iff.mpr ⟨_, table, [], rfl, if_pos hroute,
      runsOn_pure_iff.mpr ⟨rfl, rfl, rfl⟩⟩
  obtain ⟨trace, pinned, manager, hpin, -⟩ := exists_pinDirect (deviceUp cfg table) .new
    (hostNet cfg.server.address.ip) ⟨entry.dev, entry.gateway, none⟩
  have hserver : RunsOnKernel (pinServer cfg .new (some ⟨entry.dev, entry.gateway, none⟩))
      (deviceUp cfg table) (trace ++ []) pinned (manager, .ok ()) :=
    runsOn_bind_iff.mpr ⟨_, _, _, _, rfl, hpin, runsOn_pure_iff.mpr ⟨rfl, rfl, rfl⟩⟩
  obtain ⟨nilTrace, hnil⟩ := exists_excludeHops_nil table cfg.exclude
  obtain ⟨life, hwindow⟩ := exists_hostRun hvalid hauto hmask hlookup hnil hserver
    (runsOn_pure_iff.mpr ⟨rfl, rfl, rfl⟩)
  refine ⟨life, _, hwindow, captured_of_longest hcovers ?_ (.inl ⟨net, hnet, rfl⟩)⟩
  intro other _ hother _ _
  exact hother.1.trans hlong

/-- The lives of the host are safe for the agent only if it is guarded. -/
theorem guarded_of_not_captured (hvalid : cfg.validate = .ok ())
    (hauto : cfg.tun.autoRoute = true)
    (hsafe : ∀ (life : HostRun cfg table) (current : KernelTable), life.InWindow current →
      ¬ Captured cfg current) : AgentGuarded cfg table := by
  have hnever : ¬ ∃ (life : HostRun cfg table) (current : KernelTable),
      life.InWindow current ∧ Captured cfg current :=
    fun ⟨life, current, hwindow, hcaptured⟩ => hsafe life current hwindow hcaptured
  intro hmask
  split
  next hpinning =>
    intro hrouted net hnet hcontains
    by_contra hlong
    obtain ⟨entry, hroute⟩ := Option.ne_none_iff_exists'.mp hrouted
    exact hnever (exists_captured_of_hostNet hvalid hauto hmask hpinning hroute hnet hcontains
      (Nat.le_of_not_lt hlong))
  next hpinning =>
    refine ⟨?_, ?_, ?_⟩
    · intro net hnet hcontains
      by_contra huncovered
      exact hnever (exists_captured_of_unpinned hvalid hauto hmask hpinning
        (IpNet.contains_iff_covers.mp hcontains) (.inl ⟨net, hnet, rfl⟩) huncovered)
    · rintro net hnet hcontains ⟨entry, hroute, hdev⟩
      by_contra huncovered
      exact hnever (exists_captured_of_pin hvalid hauto hmask hpinning hnet hcontains hroute
        hdev huncovered)
    · intro net hnet hcontains
      by_contra huncovered
      have hcovers := IpNet.contains_iff_covers.mp hcontains
      have habsent : table net.destination = none := by
        by_contra hheld
        exact huncovered ⟨_, hcovers, hheld, le_refl _⟩
      refine hnever (exists_captured_of_unpinned hvalid hauto hmask hpinning hcovers
        (.inr ((connect_connected hnet).2 habsent)) ?_)
      rintro ⟨other, hother, hentry, hle⟩
      exact huncovered ⟨other, hother, hentry, (Nat.le_succ _).trans hle⟩

end Unsafe

/-- The agent stays out of the tunnel in every life of the host, whichever commands
fail, exactly when it is guarded. -/
theorem agent_never_captured_iff {cfg : HostConfig} {table : KernelTable}
    (hvalid : cfg.validate = .ok ()) (hauto : cfg.tun.autoRoute = true)
    (hfree : ¬ Captured cfg table) :
    (∀ (life : HostRun cfg table) (current : KernelTable), life.InWindow current →
      ¬ Captured cfg current) ↔ AgentGuarded cfg table :=
  ⟨guarded_of_not_captured hvalid hauto,
    fun hguarded life _ hwindow => not_captured_of_guarded hauto hfree hguarded life hwindow⟩

/-- 192.168.122.10. -/
def sampleAgent : IpAddr := .v4 ⟨⟨[192, 168, 122, 10], rfl⟩⟩

/-- A host whose agent is a machine of `sampleNet`. -/
def HostConfig.sample (routes exclude : List IpNet) : HostConfig where
  server := { ServerConfig.sample with address := .new sampleAgent 17321 }
  tun := .default
  routes := routes
  exclude := exclude

/-- The device of the default configuration is made. -/
def tunEvent : RouteEvent :=
  ⟨.createTun TunConfig.default.name TunConfig.default.address TunConfig.default.netmask
    TunConfig.default.mtu, .ok ()⟩

/-- `0.0.0.0/0`. -/
def defaultNet : IpNet := ⟨.v4 ⟨⟨[0, 0, 0, 0], by decide⟩⟩, 0, by decide⟩

/-- Everything is forwarded, and the agent is safe behind its pin. -/
theorem agent_never_captured_sample :
    ∃ (life : HostRun (.sample [defaultNet] []) (sampleTable defaultNet))
      (current : KernelTable), life.InWindow current ∧
        ¬ Captured (.sample [defaultNet] []) current := by
  have hreplays : (replay Kernel.step (sampleTable defaultNet)
      [⟨.get sampleAgent, .ok ⟨"eth0", none, none⟩⟩, tunEvent,
        ⟨.showExact (hostNet sampleAgent), .ok false⟩,
        ⟨.add (hostNet sampleAgent) ⟨"eth0", none⟩, .ok ()⟩,
        ⟨.replace defaultNet "vpnbr0", .ok ()⟩]).isSome = true := by
    decide
  obtain ⟨⟨trace, running⟩, hreplay⟩ := Option.isSome_iff_exists.mp hreplays
  have hstarted := runsOn_of_replay (by decide :
    (startup (.sample [defaultNet] [])).follow
      [⟨.get sampleAgent, .ok ⟨"eth0", none, none⟩⟩, tunEvent,
        ⟨.showExact (hostNet sampleAgent), .ok false⟩,
        ⟨.add (hostNet sampleAgent) ⟨"eth0", none⟩, .ok ()⟩,
        ⟨.replace defaultNet "vpnbr0", .ok ()⟩] =
        some (⟨[hostNet sampleAgent, defaultNet]⟩, .ok ())) hreplay
  obtain ⟨life, hwindow⟩ := exists_hostRun_of_startup (List.cons_ne_nil _ _) hstarted
  refine ⟨life, running, hwindow, (agent_never_captured_iff rfl rfl ?_).mpr ?_ life running
    hwindow⟩
  · rintro ⟨entry, hroute, hdev⟩
    have hentry : route (sampleTable defaultNet) sampleAgent = some ⟨"eth0", none⟩ := by
      decide
    cases hentry.symm.trans hroute
    exact absurd hdev (by decide)
  · rw [AgentGuarded, if_pos (by decide)]
    intro _ _ net hnet _
    cases List.mem_singleton.mp hnet
    decide

/-- `192.168.0.0/16`. -/
def wideNet : IpNet := ⟨.v4 ⟨⟨[192, 168, 0, 0], rfl⟩⟩, 16, by decide⟩

/-- The agent's network is forwarded and a wider one is excluded: no command of the
start-up fails, and the agent ends up in the tunnel. -/
theorem agent_captured :
    (HostConfig.sample [sampleNet] [wideNet]).validate = .ok () ∧
      ¬ Captured (.sample [sampleNet] [wideNet]) (sampleTable defaultNet) ∧
      ∃ (life : HostRun (.sample [sampleNet] [wideNet]) (sampleTable defaultNet))
        (current : KernelTable), life.InWindow current ∧
          Captured (.sample [sampleNet] [wideNet]) current := by
  have hbefore : route (sampleTable defaultNet) sampleAgent = some ⟨"eth0", none⟩ := by
    decide
  have hafter : (replay Kernel.step (sampleTable defaultNet)
      [⟨.get wideNet.network, .ok ⟨"eth0", none, none⟩⟩, tunEvent,
        ⟨.showExact wideNet, .ok false⟩, ⟨.add wideNet ⟨"eth0", none⟩, .ok ()⟩,
        ⟨.replace sampleNet "vpnbr0", .ok ()⟩]).map
      (fun result => route result.2 sampleAgent) = some (some ⟨"vpnbr0", none⟩) := by
    decide
  obtain ⟨⟨trace, running⟩, hreplay, hcaptured⟩ := Option.map_eq_some_iff.mp hafter
  have hstarted := runsOn_of_replay (by decide :
    (startup (.sample [sampleNet] [wideNet])).follow
      [⟨.get wideNet.network, .ok ⟨"eth0", none, none⟩⟩, tunEvent,
        ⟨.showExact wideNet, .ok false⟩, ⟨.add wideNet ⟨"eth0", none⟩, .ok ()⟩,
        ⟨.replace sampleNet "vpnbr0", .ok ()⟩] =
        some (⟨[wideNet, sampleNet]⟩, .ok ())) hreplay
  obtain ⟨life, hwindow⟩ := exists_hostRun_of_startup (List.cons_ne_nil _ _) hstarted
  refine ⟨rfl, ?_, life, running, hwindow, _, hcaptured, rfl⟩
  rintro ⟨entry, hroute, hdev⟩
  cases hbefore.symm.trans hroute
  exact absurd hdev (by decide)

end VpnBridge.Host
