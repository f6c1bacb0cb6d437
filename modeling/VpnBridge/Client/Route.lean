import VpnBridge.Core.Environment
import VpnBridge.Host.Cleanup

/-!
# Routes of the proxy client

The client only ever adds entries to the routing table, and an entry that is
already there makes the command fail.  What its route manager remembers is
therefore exactly what it brought into the table, and removing that gives the
original table back.
-/

namespace VpnBridge.Client

open VpnBridge.Host (KernelTable)
open VpnBridge.Interaction VpnBridge.Net VpnBridge.Proto VpnBridge.TransitionSystem

/-! ## Commands -/

inductive RouteOp where
  /-- The TUN device is made, given its address and brought up. -/
  | createTun (name : String) (address netmask : Ipv4Addr) (mtu : ℕ)
  /-- The name that the device has got. -/
  | tunName
  /-- `ip route add <net> dev <dev>`. -/
  | add (net : IpNet) (dev : String)
  /-- `ip route del <net> dev <dev>`. -/
  | del (net : IpNet) (dev : String)
  deriving DecidableEq

/-- A command that fails says why. -/
@[reducible]
def RouteAnswer : RouteOp → Type
  | .createTun _ _ _ _ => Except String Unit
  | .tunName => Except String String
  | .add _ _ => Except String Unit
  | .del _ _ => Except String Unit

abbrev RouteProg := Prog RouteOp RouteAnswer

abbrev RouteEvent := Interaction.Event RouteAnswer

/-- Run one command. -/
def run (op : RouteOp) : RouteProg (RouteAnswer op) :=
  Prog.perform op

def addRoute (net : IpNet) (dev : String) : RouteProg (Except String Unit) :=
  run (.add net dev)

def deleteRoute (net : IpNet) (dev : String) : RouteProg (Except String Unit) :=
  run (.del net dev)

/-- What the commands do to the routing table.  A device that is up has its own network
routed to it, and needs a netmask.  `add` may fail at any time, and fails when the prefix
has an entry; `del` removes an entry through its device, and fails only when there is
none. -/
def Kernel.step (table : KernelTable) : RouteEvent → Option KernelTable
  | ⟨.createTun name address netmask _, .ok ()⟩ =>
      if (ipMaskToPrefix netmask).isSome then some (table.connect name address netmask)
      else none
  | ⟨.createTun _ _ _ _, .error _⟩ => some table
  | ⟨.tunName, _⟩ => some table
  | ⟨.add net dev, .ok ()⟩ =>
      if table net.destination = none then
        some (Function.update table net.destination (some ⟨dev, none⟩))
      else none
  | ⟨.add _ _, .error _⟩ => some table
  | ⟨.del net dev, .ok ()⟩ =>
      if table net.destination = some ⟨dev, none⟩ then
        some (Function.update table net.destination none)
      else none
  | ⟨.del net dev, .error _⟩ =>
      if table net.destination = some ⟨dev, none⟩ then none else some table

/-! ## The route manager -/

structure RouteManager where
  device : String
  added : List IpNet
  deriving DecidableEq

namespace RouteManager

def new (device : String) : RouteManager := ⟨device, []⟩

def add (manager : RouteManager) (network : IpNet) :
    RouteProg (RouteManager × Except AnyhowError Unit) := do
  match ← addRoute network manager.device with
  | .error failure => return (manager, .error [failure])
  | .ok () => return ({ manager with added := manager.added ++ [network] }, .ok ())

/-- The loop of `cleanup`: a failed removal is only logged. -/
def deleteAll (device : String) : List IpNet → RouteProg Unit
  | [] => pure ()
  | network :: networks => do
      let _ ← deleteRoute network device
      deleteAll device networks

def cleanup (manager : RouteManager) : RouteProg RouteManager := do
  deleteAll manager.device manager.added.reverse
  return { manager with added := [] }

/-- `impl Drop for RouteManager`. -/
def drop (manager : RouteManager) : RouteProg Unit := do
  let _ ← manager.cleanup
  return ()

/-- The loop of `main` over the networks, which `?` leaves at the first error. -/
def addAll (manager : RouteManager) :
    List IpNet → RouteProg (RouteManager × Except AnyhowError Unit)
  | [] => pure (manager, .ok ())
  | network :: networks => do
      match ← manager.add network with
      | (manager, .ok ()) => addAll manager networks
      | (manager, .error failure) =>
          return (manager,
            .error (s!"installing proxy route {network.display}" :: failure))

end RouteManager

/-- The part of `main` that sets the routes up. -/
def setUpRoutes (device : String) (autoRoute : Bool) (routes : List IpNet) :
    RouteProg (RouteManager × Except AnyhowError Unit) :=
  if autoRoute then (RouteManager.new device).addAll routes
  else pure (.new device, .ok ())

/-! ## What the manager remembers -/

/-- Runs of the client's functions on the kernel. -/
abbrev RunsOnKernel {A : Type} (program : RouteProg A) (table : KernelTable)
    (trace : List (Transition KernelTable RouteEvent)) (table' : KernelTable)
    (result : A) : Prop :=
  RunsOn Kernel.step program table trace table' result

/-- The list is what has come into the table since it was `initial`. -/
structure Installed (initial table : KernelTable) (device : String)
    (added : List IpNet) : Prop where
  kept : ∀ key, initial key ≠ none → table key = initial key
  lists_iff : ∀ key, Host.Lists added key ↔ table key ≠ none ∧ initial key = none
  entry : ∀ network ∈ added, table network.destination = some ⟨device, none⟩
  distinct : (added.map IpNet.destination).Nodup

section Runs

variable {initial table table' next : KernelTable} {device : String}
variable {added networks : List IpNet} {network : IpNet}
variable {trace : List (Transition KernelTable RouteEvent)}

theorem step_add_iff {answer : Except String Unit} :
    Kernel.step table ⟨.add network device, answer⟩ = some next ↔
      (answer = .ok () ∧ table network.destination = none ∧
        next = Function.update table network.destination (some ⟨device, none⟩)) ∨
      ∃ failure, answer = .error failure ∧ next = table := by
  cases answer with
  | error failure => simp [Kernel.step, eq_comm]
  | ok value => simp [Kernel.step, eq_comm]

theorem step_del_iff {answer : Except String Unit} :
    Kernel.step table ⟨.del network device, answer⟩ = some next ↔
      (answer = .ok () ∧ table network.destination = some ⟨device, none⟩ ∧
        next = Function.update table network.destination none) ∨
      ∃ failure, answer = .error failure ∧
        table network.destination ≠ some ⟨device, none⟩ ∧ next = table := by
  cases answer with
  | error failure => simp [Kernel.step, eq_comm]
  | ok value => simp [Kernel.step, eq_comm]

theorem lists_snoc_iff {key : Destination} :
    Host.Lists (added ++ [network]) key ↔ Host.Lists added key ∨ network.destination = key := by
  simp [Host.Lists, or_and_right, exists_or]

theorem installed_nil : Installed initial initial device [] where
  kept key hkey := rfl
  lists_iff key := by simp [Host.Lists]
  entry network hnetwork := absurd hnetwork List.not_mem_nil
  distinct := List.nodup_nil

theorem installed_new :
    Installed initial initial (RouteManager.new device).device
      (RouteManager.new device).added :=
  installed_nil

/-- A network whose prefix has no entry is added to the table and to the list. -/
theorem Installed.snoc (hinstalled : Installed initial table device added)
    (habsent : table network.destination = none) :
    Installed initial
      (Function.update table network.destination (some ⟨device, none⟩)) device
      (added ++ [network]) where
  kept key hkey := by
    have hother : key ≠ network.destination := by
      rintro rfl
      exact hkey ((hinstalled.kept _ hkey).symm.trans habsent)
    rw [Function.update_of_ne hother]
    exact hinstalled.kept key hkey
  lists_iff key := by
    rw [lists_snoc_iff]
    by_cases hsame : key = network.destination
    · subst hsame
      have hnew : initial network.destination = none := by
        by_contra hold
        exact hold ((hinstalled.kept _ hold).symm.trans habsent)
      simp [hnew]
    · rw [Function.update_of_ne hsame, hinstalled.lists_iff key, or_iff_left (Ne.symm hsame)]
  entry other hother := by
    by_cases hsame : other.destination = network.destination
    · rw [hsame, Function.update_self]
    · rw [Function.update_of_ne hsame]
      obtain hother | hlast := List.mem_append.mp hother
      · exact hinstalled.entry other hother
      · rw [List.mem_singleton.mp hlast] at hsame
        exact absurd rfl hsame
  distinct := by
    rw [List.map_append, List.map_singleton]
    refine List.nodup_append.mpr ⟨hinstalled.distinct, List.nodup_singleton _, ?_⟩
    intro key hkey last hlast
    obtain ⟨other, hother, rfl⟩ := List.mem_map.mp hkey
    rw [List.mem_singleton.mp hlast]
    intro hsame
    have hentry := hinstalled.entry other hother
    rw [hsame, habsent] at hentry
    cases hentry

/-- Removing the last network of the list undoes its addition. -/
theorem Installed.of_snoc (hinstalled : Installed initial table device (added ++ [network])) :
    Installed initial (Function.update table network.destination none) device added where
  kept key hkey := by
    have hlisted := (hinstalled.lists_iff network.destination).mp
      (lists_snoc_iff.mpr (.inr rfl))
    have hother : key ≠ network.destination := by
      rintro rfl
      exact hkey hlisted.2
    rw [Function.update_of_ne hother]
    exact hinstalled.kept key hkey
  lists_iff key := by
    have hdistinct := hinstalled.distinct
    rw [List.map_append, List.map_singleton, List.nodup_append] at hdistinct
    by_cases hsame : key = network.destination
    · subst hsame
      have hgone : ¬ Host.Lists added network.destination := by
        rintro ⟨other, hother, heq⟩
        exact hdistinct.2.2 _ (List.mem_map_of_mem hother) _ (List.mem_singleton_self _) heq
      simp [hgone]
    · rw [Function.update_of_ne hsame, ← hinstalled.lists_iff key, lists_snoc_iff,
        or_iff_left (Ne.symm hsame)]
  entry other hother := by
    have hdistinct := hinstalled.distinct
    rw [List.map_append, List.map_singleton, List.nodup_append] at hdistinct
    have hsame := hdistinct.2.2 _ (List.mem_map_of_mem hother) _ (List.mem_singleton_self _)
    rw [Function.update_of_ne hsame]
    exact hinstalled.entry other (List.mem_append_left _ hother)
  distinct := by
    have hdistinct := hinstalled.distinct
    rw [List.map_append] at hdistinct
    exact hdistinct.of_append_left

/-- With nothing on the list, the table is the initial one. -/
theorem Installed.eq_initial (hinstalled : Installed initial table device []) :
    table = initial := by
  funext key
  by_cases hkey : initial key = none
  · by_contra hother
    rw [hkey] at hother
    obtain ⟨network, hnetwork, -⟩ := (hinstalled.lists_iff key).mpr ⟨hother, hkey⟩
    exact List.not_mem_nil hnetwork
  · exact hinstalled.kept key hkey

/-! ## Runs of the manager -/

variable {manager manager' : RouteManager} {result : Except AnyhowError Unit}

/-- An addition goes into both the table and the list, or into neither. -/
theorem add_run
    (hrun : RunsOnKernel (manager.add network) table trace table' (manager', result)) :
    (result = .ok () ∧ table network.destination = none ∧
      manager' = ⟨manager.device, manager.added ++ [network]⟩ ∧
      table' = Function.update table network.destination (some ⟨manager.device, none⟩)) ∨
    (∃ failure, result = .error failure) ∧ manager' = manager ∧ table' = table := by
  obtain ⟨answer, middle, rest, -, hstep, hdone⟩ := runsOn_perform_bind_iff.mp hrun
  obtain ⟨rfl, habsent, rfl⟩ | ⟨failure, rfl, rfl⟩ := step_add_iff.mp hstep
  · obtain ⟨-, rfl, hresult⟩ := runsOn_pure_iff.mp hdone
    cases hresult
    exact .inl ⟨rfl, habsent, rfl, rfl⟩
  · obtain ⟨-, rfl, hresult⟩ := runsOn_pure_iff.mp hdone
    cases hresult
    exact .inr ⟨⟨_, rfl⟩, rfl, rfl⟩

theorem addAll_run
    (hinstalled : Installed initial table manager.device manager.added)
    (hrun : RunsOnKernel (manager.addAll networks) table trace table' (manager', result)) :
    Installed initial table' manager.device manager'.added ∧
      manager'.device = manager.device ∧ manager'.added <+: manager.added ++ networks ∧
      (result = .ok () → manager'.added = manager.added ++ networks) := by
  induction networks generalizing table manager trace with
  | nil =>
      obtain ⟨-, rfl, hresult⟩ := runsOn_pure_iff.mp hrun
      cases hresult
      rw [List.append_nil]
      exact ⟨hinstalled, rfl, List.prefix_rfl, fun _ => rfl⟩
  | cons network networks ih =>
      obtain ⟨⟨called, outcome⟩, middle, first, second, -, hadd, hrest⟩ :=
        runsOn_bind_iff.mp hrun
      obtain ⟨rfl, habsent, rfl, rfl⟩ | ⟨⟨failure, rfl⟩, rfl, rfl⟩ := add_run hadd
      · obtain ⟨hnext, hdevice, hstart, hall⟩ := ih (hinstalled.snoc habsent) hrest
        rw [List.append_assoc, List.singleton_append] at hstart hall
        exact ⟨hnext, hdevice, hstart, hall⟩
      · obtain ⟨-, rfl, hresult⟩ := runsOn_pure_iff.mp hrest
        cases hresult
        refine ⟨hinstalled, rfl, List.prefix_append _ _, fun hok => ?_⟩
        cases hok

theorem deleteAll_run {outcome : Unit} (hinstalled : Installed initial table device added)
    (hrun : RunsOnKernel (RouteManager.deleteAll device added.reverse) table trace table'
      outcome) : table' = initial := by
  induction added using List.reverseRecOn generalizing table trace with
  | nil =>
      obtain ⟨-, rfl, -⟩ := runsOn_pure_iff.mp hrun
      exact hinstalled.eq_initial
  | append_singleton added network ih =>
      rw [List.reverse_append, List.reverse_singleton, List.singleton_append] at hrun
      obtain ⟨answer, middle, rest, -, hstep, hrest⟩ := runsOn_perform_bind_iff.mp hrun
      have hentry := hinstalled.entry network
        (List.mem_append_right _ (List.mem_singleton_self _))
      obtain ⟨-, -, rfl⟩ | ⟨failure, -, hmissing, -⟩ := step_del_iff.mp hstep
      · exact ih hinstalled.of_snoc hrest
      · exact absurd hentry hmissing

/-- Every network of the list can be removed. -/
theorem exists_deleteAll_run (hinstalled : Installed initial table device added) :
    ∃ trace table', RunsOnKernel (RouteManager.deleteAll device added.reverse) table trace
      table' () := by
  induction added using List.reverseRecOn generalizing table with
  | nil => exact ⟨[], table, runsOn_pure_iff.mpr ⟨rfl, rfl, rfl⟩⟩
  | append_singleton added network ih =>
      obtain ⟨rest, table', hrest⟩ := ih hinstalled.of_snoc
      have hentry := hinstalled.entry network
        (List.mem_append_right _ (List.mem_singleton_self _))
      rw [List.reverse_append, List.reverse_singleton, List.singleton_append]
      exact ⟨_, table', runsOn_perform_bind_iff.mpr
        ⟨.ok (), _, rest, rfl, step_del_iff.mpr (.inl ⟨rfl, hentry, rfl⟩), hrest⟩⟩

theorem exists_cleanup_run
    (hinstalled : Installed initial table manager.device manager.added) :
    ∃ trace table', RunsOnKernel manager.cleanup table trace table' (.new manager.device) := by
  obtain ⟨trace, table', hrun⟩ := exists_deleteAll_run hinstalled
  exact ⟨trace ++ [], table', runsOn_bind_iff.mpr
    ⟨(), table', trace, [], rfl, hrun, runsOn_pure_iff.mpr ⟨rfl, rfl, rfl⟩⟩⟩

/-- A clean-up gives the initial table back, and forgets the list. -/
theorem cleanup_run
    (hinstalled : Installed initial table manager.device manager.added)
    (hrun : RunsOnKernel manager.cleanup table trace table' manager') :
    table' = initial ∧ manager' = .new manager.device := by
  obtain ⟨outcome, middle, first, second, -, hdelete, hdone⟩ := runsOn_bind_iff.mp hrun
  obtain ⟨-, rfl, rfl⟩ := runsOn_pure_iff.mp hdone
  exact ⟨deleteAll_run hinstalled hdelete, rfl⟩

theorem drop_run {outcome : Unit}
    (hinstalled : Installed initial table manager.device manager.added)
    (hrun : RunsOnKernel manager.drop table trace table' outcome) : table' = initial := by
  obtain ⟨manager', middle, first, second, -, hcleanup, hdone⟩ := runsOn_bind_iff.mp hrun
  obtain ⟨-, rfl, -⟩ := runsOn_pure_iff.mp hdone
  exact (cleanup_run hinstalled hcleanup).1

/-- The start-up leaves the list in step with the table, and stops at its first error. -/
theorem setUpRoutes_run {autoRoute : Bool}
    (hrun : RunsOnKernel (setUpRoutes device autoRoute networks) initial trace table
      (manager, result)) :
    Installed initial table manager.device manager.added ∧ manager.device = device ∧
      manager.added <+: networks ∧
      (autoRoute = true → result = .ok () → manager.added = networks) := by
  cases autoRoute with
  | true =>
      obtain ⟨hinstalled, hdevice, hadded, hall⟩ := addAll_run installed_new hrun
      have hdevice : manager.device = device := hdevice
      exact ⟨hdevice ▸ hinstalled, hdevice, hadded, fun _ => hall⟩
  | false =>
      obtain ⟨-, rfl, hresult⟩ := runsOn_pure_iff.mp hrun
      cases hresult
      exact ⟨installed_new, rfl, List.nil_prefix, nofun⟩

/-- The start-up stops at its first error with the list in step with the table, and
whichever way the manager is cleaned up, the initial table is back. -/
theorem routes_all_or_nothing {autoRoute : Bool}
    (hrun : RunsOnKernel (setUpRoutes device autoRoute networks) initial trace table
      (manager, result)) :
    Installed initial table device manager.added ∧
      manager.added <+: networks ∧
      (autoRoute = true → result = .ok () → manager.added = networks) ∧
      (∃ trace' final manager', RunsOnKernel manager.cleanup table trace' final manager') ∧
      (∀ trace' final manager', RunsOnKernel manager.cleanup table trace' final manager' →
        final = initial ∧ manager'.added = []) ∧
      (∀ trace' final, RunsOnKernel manager.drop table trace' final () → final = initial) ∧
      (∀ trace' final, RunsOnKernel (manager.cleanup >>= RouteManager.drop) table trace'
        final () → final = initial) := by
  obtain ⟨hinstalled, rfl, hstart, hall⟩ := setUpRoutes_run hrun
  obtain ⟨cleaning, cleaned, hcleaning⟩ := exists_cleanup_run hinstalled
  refine ⟨hinstalled, hstart, hall, ⟨cleaning, cleaned, _, hcleaning⟩,
    fun trace' final manager' hcleanup => ?_,
    fun trace' final hdrop => drop_run hinstalled hdrop, fun trace' final hboth => ?_⟩
  · obtain ⟨hfinal, rfl⟩ := cleanup_run hinstalled hcleanup
    exact ⟨hfinal, rfl⟩
  · obtain ⟨manager', middle, first, second, -, hcleanup, hdrop⟩ := runsOn_bind_iff.mp hboth
    obtain ⟨rfl, rfl⟩ := cleanup_run hinstalled hcleanup
    exact drop_run installed_new hdrop

end Runs

/-- A network that is listed twice stops the start-up, which undoes the first one. -/
theorem routes_all_or_nothing_sample :
    ∃ trace table manager failure, RunsOnKernel
        (setUpRoutes "tun0" true [privateNetwork, privateNetwork])
        (Host.sampleTable Host.sampleNet) trace table (manager, .error failure) ∧
      manager.added = [privateNetwork] ∧
      ∀ trace' final, RunsOnKernel manager.drop table trace' final () →
        final = Host.sampleTable Host.sampleNet := by
  let events : List RouteEvent :=
    [⟨.add privateNetwork "tun0", .ok ()⟩, ⟨.add privateNetwork "tun0", .error "exists"⟩]
  have hreplays : ((replay Kernel.step (Host.sampleTable Host.sampleNet) events).isSome) =
      true := by
    decide
  obtain ⟨⟨trace, table⟩, hreplay⟩ := Option.isSome_iff_exists.mp hreplays
  have hfollow : (setUpRoutes "tun0" true [privateNetwork, privateNetwork]).follow events =
      some (⟨"tun0", [privateNetwork]⟩,
        .error ["installing proxy route 10.0.0.0/8", "exists"]) := by
    decide
  have hrun := runsOn_of_replay hfollow hreplay
  exact ⟨trace, table, _, _, hrun, rfl, (routes_all_or_nothing hrun).2.2.2.2.2.1⟩

end VpnBridge.Client
