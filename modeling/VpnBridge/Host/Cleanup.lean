import VpnBridge.Host.RouteRuns

/-!
# Restoring the routing table

A route manager removes on shutdown whatever it installed.  That gives the
original table back unless a TUN route has replaced an entry: the entry is not
remembered, and goes with the TUN route.
-/

namespace VpnBridge.Host

open VpnBridge.Interaction VpnBridge.Net VpnBridge.PrefixTable VpnBridge.Proto
open VpnBridge.TransitionSystem

/-- A call on a route manager. -/
inductive ManagerCall where
  | pinDirect (net : IpNet) (hop : NextHop)
  | addToDev (net : IpNet) (dev : String)

namespace RouteManager

def call (manager : RouteManager) :
    ManagerCall → RouteProg (RouteManager × Except AnyhowError Unit)
  | .pinDirect net hop => manager.pinDirect net hop
  | .addToDev net dev => manager.addToDev net dev

/-- A sequence of calls, whatever comes of each. -/
def callAll (manager : RouteManager) : List ManagerCall → RouteProg RouteManager
  | [] => pure manager
  | next :: calls => do
      let called ← manager.call next
      callAll called.1 calls

/-- The life of a manager: some calls, a `cleanup` unless start-up fails midway,
and the `cleanup` of its `Drop`. -/
def lifetime (calls : List ManagerCall) (explicit : Bool) : RouteProg RouteManager := do
  let manager ← callAll .new calls
  let manager ← (if explicit then manager.cleanup else pure manager)
  manager.cleanup

end RouteManager

/-- No removal fails of a route that is there. -/
def DeletionsSucceed (trace : List RouteStep) : Prop :=
  ∀ tr ∈ trace, ∀ net failure, tr.event = ⟨.del net, .error failure⟩ →
    tr.pre net.destination = none

/-- A route for `key` is on the list. -/
def Lists (nets : List IpNet) (key : Destination) : Prop :=
  ∃ net ∈ nets, net.destination = key

/-- Some TUN route for `key` went in. -/
def Tunnels (trace : List RouteStep) (key : Destination) : Prop :=
  ∃ tr ∈ trace, ∃ net dev, Installs tr.event net dev ∧ net.destination = key

/-- How far a manager has changed the table that it found: elsewhere than on its
list nothing, and every entry on its list is new or replaced one. -/
structure Tracks (original : KernelTable) (trace : List RouteStep) (table : KernelTable)
    (added : List IpNet) : Prop where
  untouched : ∀ key, ¬ Lists added key → table key = original key
  listed : ∀ key, Lists added key → table key ≠ none
  origin : ∀ key, Lists added key → original key = none ∨ Tunnels trace key
  tunnels : ∀ key, Tunnels trace key → Lists added key

section Calls

variable {original table table' : KernelTable} {trace trace' : List RouteStep}
variable {manager manager' : RouteManager} {result : Except AnyhowError Unit}

@[simp]
theorem lists_push_iff {net : IpNet} {key : Destination} :
    Lists (manager.push net).added key ↔ Lists manager.added key ∨ net.destination = key := by
  simp [Lists, RouteManager.push, or_and_right, exists_or]

theorem tunnels_append_iff {key : Destination} :
    Tunnels (trace ++ trace') key ↔ Tunnels trace key ∨ Tunnels trace' key := by
  simp [Tunnels, or_and_right, exists_or]

theorem not_tunnels_of_pinsOnly {net : IpNet} {entry : Route} {key : Destination}
    (honly : PinsOnly net entry trace) : ¬ Tunnels trace key := by
  rintro ⟨tr, htr, other, dev, hinstalls, -⟩
  rcases honly tr htr with hcommand | hcommand
  · cases (congrArg Sigma.fst hinstalls).symm.trans hcommand
  · cases (congrArg Sigma.fst hinstalls).symm.trans hcommand

/-- A new entry, with its network on the list. -/
theorem Tracks.push {net : IpNet} {entry : Route}
    (htracks : Tracks original trace table manager.added)
    (horigin : original net.destination = none ∨ Tunnels trace' net.destination)
    (htunnels : ∀ key, Tunnels trace' key → net.destination = key) :
    Tracks original (trace ++ trace')
      (Function.update table net.destination (some entry)) (manager.push net).added where
  untouched key hkey := by
    rw [lists_push_iff, not_or] at hkey
    rw [Function.update_of_ne (Ne.symm hkey.2), htracks.untouched key hkey.1]
  listed key hkey := by
    by_cases hsame : key = net.destination
    · rw [hsame, Function.update_self]
      exact Option.some_ne_none _
    · rw [Function.update_of_ne hsame]
      exact htracks.listed key ((lists_push_iff.mp hkey).resolve_right (Ne.symm hsame))
  origin key hkey := by
    rw [tunnels_append_iff]
    rcases lists_push_iff.mp hkey with hkey | rfl
    · exact (htracks.origin key hkey).imp_right .inl
    · exact horigin.imp_right .inr
  tunnels key hkey := by
    rw [lists_push_iff]
    exact (tunnels_append_iff.mp hkey).imp (htracks.tunnels key) (htunnels key)

theorem Tracks.quiet (htracks : Tracks original trace table manager.added)
    (hquiet : ∀ key, ¬ Tunnels trace' key) :
    Tracks original (trace ++ trace') table manager.added where
  untouched := htracks.untouched
  listed := htracks.listed
  origin key hkey := (htracks.origin key hkey).imp_right
    fun htunnels => tunnels_append_iff.mpr (.inl htunnels)
  tunnels key hkey :=
    htracks.tunnels key ((tunnels_append_iff.mp hkey).resolve_right (hquiet key))

/-- Both kinds of call keep the list in step with the table. -/
theorem tracks_of_call {next : ManagerCall}
    (htracks : Tracks original trace table manager.added)
    (hrun : RunsOnKernel (manager.call next) table trace' table' (manager', result)) :
    Tracks original (trace ++ trace') table' manager'.added := by
  cases next with
  | pinDirect net hop =>
      obtain ⟨hpinned, honly, -⟩ := pinDirect_run hrun
      have hquiet := fun key => (not_tunnels_of_pinsOnly honly : ¬ Tunnels trace' key)
      cases hpinned with
      | present hpresent => exact htracks.quiet hquiet
      | added habsent =>
          apply htracks.push _ fun key hkey => absurd hkey (hquiet key)
          have hlists : ¬ Lists manager.added net.destination :=
            fun hlists => htracks.listed _ hlists habsent
          exact .inl ((htracks.untouched _ hlists).symm.trans habsent)
      | failed failure => exact htracks.quiet hquiet
  | addToDev net dev =>
      obtain ⟨answer, middle, rest, rfl, hstep, hdone⟩ := runsOn_perform_bind_iff.mp hrun
      rcases step_replace_iff.mp hstep with ⟨rfl, rfl⟩ | ⟨failure, rfl, rfl⟩
      · obtain ⟨rfl, rfl, hresult⟩ := runsOn_pure_iff.mp hdone
        cases hresult
        apply htracks.push
        · exact .inr ⟨_, List.mem_singleton_self _, net, dev, rfl, rfl⟩
        · rintro key ⟨tr, htr, other, dev', hinstalls, rfl⟩
          rw [List.mem_singleton.mp htr] at hinstalls
          cases hinstalls
          rfl
      · obtain ⟨rfl, rfl, hresult⟩ := runsOn_pure_iff.mp hdone
        cases hresult
        apply htracks.quiet
        rintro key ⟨tr, htr, other, dev', hinstalls, -⟩
        rw [List.mem_singleton.mp htr] at hinstalls
        cases hinstalls

theorem tracks_of_callAll {calls : List ManagerCall}
    (htracks : Tracks original trace table manager.added)
    (hrun : RunsOnKernel (manager.callAll calls) table trace' table' manager') :
    Tracks original (trace ++ trace') table' manager'.added := by
  induction calls generalizing manager table trace trace' with
  | nil =>
      obtain ⟨rfl, rfl, rfl⟩ := runsOn_pure_iff.mp hrun
      rw [List.append_nil]
      exact htracks
  | cons next calls ih =>
      obtain ⟨called, middle, first, second, rfl, hcall, hrest⟩ := runsOn_bind_iff.mp hrun
      rw [← List.append_assoc]
      exact ih (tracks_of_call htracks hcall) hrest

theorem tracks_new : Tracks original [] original RouteManager.new.added where
  untouched _ _ := rfl
  listed := by
    rintro key ⟨net, hnet, -⟩
    cases hnet
  origin := by
    rintro key ⟨net, hnet, -⟩
    cases hnet
  tunnels := by
    rintro key ⟨tr, htr, -⟩
    cases htr

/-- A route on the list is gone after its removal, and nothing else is. -/
theorem deleteAll_eq {nets : List IpNet} {outcome : Unit}
    (hdeletions : DeletionsSucceed trace)
    (hrun : RunsOnKernel (RouteManager.deleteAll nets) table trace table' outcome) :
    (∀ key, Lists nets key → table' key = none) ∧
      ∀ key, ¬ Lists nets key → table' key = table key := by
  induction nets generalizing table trace with
  | nil =>
      obtain ⟨rfl, rfl, -⟩ := runsOn_pure_iff.mp hrun
      refine ⟨?_, fun _ _ => rfl⟩
      rintro key ⟨net, hnet, -⟩
      cases hnet
  | cons net nets ih =>
      obtain ⟨answer, middle, rest, rfl, hstep, hrest⟩ := runsOn_perform_bind_iff.mp hrun
      rw [DeletionsSucceed, List.forall_mem_cons] at hdeletions
      obtain ⟨hgone, hkept⟩ := ih hdeletions.2 hrest
      have hmiddle : middle = Function.update table net.destination none := by
        rcases step_del_iff.mp hstep with ⟨-, -, rfl⟩ | ⟨failure, rfl, rfl⟩
        · rfl
        · exact (Function.update_eq_self_iff.mpr (hdeletions.1 net failure rfl).symm).symm
      constructor
      · rintro key ⟨other, hother, rfl⟩
        by_cases hlater : Lists nets other.destination
        · exact hgone _ hlater
        · rw [hkept _ hlater, hmiddle]
          rcases List.mem_cons.mp hother with rfl | hother
          · exact Function.update_self _ _ _
          · exact absurd ⟨other, hother, rfl⟩ hlater
      · intro key hkey
        have hlater : ¬ Lists nets key :=
          fun ⟨other, hother, heq⟩ => hkey ⟨other, List.mem_cons_of_mem _ hother, heq⟩
        have hne : key ≠ net.destination :=
          fun heq => hkey ⟨net, List.mem_cons_self, heq.symm⟩
        rw [hkept key hlater, hmiddle, Function.update_of_ne hne]

theorem lists_reverse_iff {nets : List IpNet} {key : Destination} :
    Lists nets.reverse key ↔ Lists nets key := by
  simp [Lists]

theorem cleanup_run (hdeletions : DeletionsSucceed trace)
    (hrun : RunsOnKernel manager.cleanup table trace table' manager') :
    manager' = .new ∧ (∀ key, ¬ Tunnels trace key) ∧
      (∀ key, Lists manager.added key → table' key = none) ∧
      ∀ key, ¬ Lists manager.added key → table' key = table key := by
  obtain ⟨outcome, middle, first, second, rfl, hdelete, hrest⟩ := runsOn_bind_iff.mp hrun
  obtain ⟨rfl, rfl, rfl⟩ := runsOn_pure_iff.mp hrest
  rw [List.append_nil] at hdeletions ⊢
  obtain ⟨hgone, hkept⟩ := deleteAll_eq hdeletions hdelete
  refine ⟨rfl, ?_, fun key hkey => hgone key (lists_reverse_iff.mpr hkey),
    fun key hkey => hkept key (mt lists_reverse_iff.mp hkey)⟩
  rintro key ⟨tr, htr, net, dev, hinstalls, -⟩
  have hcommand := List.mem_map_of_mem (f := fun tr : RouteStep => tr.event.1) htr
  rw [deleteAll_run hdelete, List.mem_map] at hcommand
  obtain ⟨other, -, hdel⟩ := hcommand
  cases (congrArg Sigma.fst hinstalls).symm.trans hdel.symm

end Calls

/-! ## Whole lives of a manager -/

/-- The manager's life ends with the original table without the routes that were
ever on the list. -/
theorem lifetime_run {calls : List ManagerCall} {explicit : Bool}
    {original final : KernelTable} {trace : List RouteStep} {manager : RouteManager}
    (hrun : RunsOnKernel (RouteManager.lifetime calls explicit) original trace final manager)
    (hdeletions : DeletionsSucceed trace) :
    ∀ key, final key = original key ↔ (Tunnels trace key → original key = none) := by
  obtain ⟨called, table, first, second, rfl, hcalls, hrest⟩ := runsOn_bind_iff.mp hrun
  obtain ⟨closed, middle, third, fourth, rfl, hcleanup, hdrop⟩ := runsOn_bind_iff.mp hrest
  have htracks := tracks_of_callAll tracks_new hcalls
  rw [List.nil_append] at htracks
  simp only [DeletionsSucceed, List.forall_mem_append] at hdeletions
  obtain ⟨-, hthird, hfourth⟩ := hdeletions
  obtain ⟨-, hdropQuiet, hdropGone, hdropKept⟩ := cleanup_run hfourth hdrop
  -- one of the two clean-ups works on the list, the other on an empty one
  have hcleaned : (∀ key, ¬ Tunnels third key) ∧
      (∀ key, Lists called.added key → final key = none) ∧
        ∀ key, ¬ Lists called.added key → final key = table key := by
    cases explicit with
    | false =>
        obtain ⟨rfl, rfl, rfl⟩ := runsOn_pure_iff.mp hcleanup
        exact ⟨fun key ⟨_, htr, _⟩ => absurd htr List.not_mem_nil, hdropGone, hdropKept⟩
    | true =>
        obtain ⟨rfl, hquiet, hgone, hkept⟩ := cleanup_run hthird hcleanup
        have hnew : ∀ key, ¬ Lists RouteManager.new.added key :=
          fun key ⟨_, hnet, _⟩ => absurd hnet List.not_mem_nil
        exact ⟨hquiet, fun key hkey => (hdropKept key (hnew key)).trans (hgone key hkey),
          fun key hkey => (hdropKept key (hnew key)).trans (hkept key hkey)⟩
  obtain ⟨hquiet, hgone, hkept⟩ := hcleaned
  intro key
  rw [tunnels_append_iff, tunnels_append_iff, or_iff_left (not_or.mpr ⟨hquiet key, hdropQuiet key⟩)]
  by_cases hlists : Lists called.added key
  · rw [hgone key hlists]
    constructor
    · intro horiginal _
      exact horiginal.symm
    · intro hnone
      rcases htracks.origin key hlists with horigin | htunnels
      · exact horigin.symm
      · exact (hnone htunnels).symm
  · rw [hkept key hlists, htracks.untouched key hlists]
    exact iff_of_true rfl fun htunnels => absurd (htracks.tunnels key htunnels) hlists

/-- Shutdown restores the table exactly when no TUN route went over a route that
was there before. -/
theorem cleanup_restores_iff {calls : List ManagerCall} {explicit : Bool}
    {original final : KernelTable} {trace : List RouteStep} {manager : RouteManager}
    (hrun : RunsOnKernel (RouteManager.lifetime calls explicit) original trace final manager)
    (hdeletions : DeletionsSucceed trace) :
    final = original ↔ ∀ tr ∈ trace, ∀ net dev, Installs tr.event net dev →
      original net.destination = none := by
  have hkeys := lifetime_run hrun hdeletions
  constructor
  · intro heq tr htr net dev hinstalls
    exact (hkeys net.destination).mp (congrFun heq _) ⟨tr, htr, net, dev, hinstalls, rfl⟩
  · intro hinstalls
    funext key
    apply (hkeys key).mpr
    rintro ⟨tr, htr, net, dev, hinstall, rfl⟩
    exact hinstalls tr htr net dev hinstall

/-- The commands of a start-up that pins one network and forwards another twice, and
of the clean-up after it. -/
def sampleEvents : List RouteEvent :=
  [⟨.showExact sampleNet, .ok false⟩, ⟨.add sampleNet ⟨"eth0", none⟩, .ok ()⟩,
    ⟨.replace privateNetwork "vpnbr0", .ok ()⟩, ⟨.replace privateNetwork "vpnbr0", .ok ()⟩,
    ⟨.del privateNetwork, .ok ()⟩, ⟨.del privateNetwork, .error "No such process"⟩,
    ⟨.del sampleNet, .ok ()⟩]

/-- The network of a removal that fails. -/
def RouteEvent.keeps : RouteEvent → Option IpNet
  | ⟨.del net, .error _⟩ => some net
  | _ => none

/-- The network of a TUN route. -/
def RouteEvent.replaces : RouteEvent → Option IpNet
  | ⟨.replace net _, _⟩ => some net
  | _ => none

theorem cleanup_restores_sample :
    ∃ trace final, RunsOnKernel (RouteManager.lifetime
        [.pinDirect sampleNet ⟨"eth0", none, none⟩, .addToDev privateNetwork "vpnbr0",
          .addToDev privateNetwork "vpnbr0"] true)
        (sampleTable (hostNet sampleNet.addr)) trace final .new ∧
      final = sampleTable (hostNet sampleNet.addr) := by
  have hfacts : (replay Kernel.step (sampleTable (hostNet sampleNet.addr)) sampleEvents).map
      (fun result => (result.1.all fun tr =>
          (RouteEvent.keeps tr.event).all fun net => tr.pre net.destination = none,
        result.1.all fun tr => (RouteEvent.replaces tr.event).all fun net =>
          sampleTable (hostNet sampleNet.addr) net.destination = none)) =
        some (true, true) := by
    decide
  obtain ⟨⟨trace, final⟩, hreplay, hfacts⟩ := Option.map_eq_some_iff.mp hfacts
  obtain ⟨hdeletions, hroutes⟩ := Prod.mk.inj hfacts
  have hrun := runsOn_of_replay (by decide : (RouteManager.lifetime
    [.pinDirect sampleNet ⟨"eth0", none, none⟩, .addToDev privateNetwork "vpnbr0",
      .addToDev privateNetwork "vpnbr0"] true).follow sampleEvents = some .new) hreplay
  refine ⟨trace, final, hrun, (cleanup_restores_iff hrun ?_).mpr ?_⟩
  · intro tr htr net failure hevent
    have hcheck := List.all_eq_true.mp hdeletions tr htr
    rw [hevent] at hcheck
    exact of_decide_eq_true hcheck
  · intro tr htr net dev hinstalls
    have hcheck := List.all_eq_true.mp hroutes tr htr
    rw [show tr.event = _ from hinstalls] at hcheck
    exact of_decide_eq_true hcheck

/-- A network that already has a route is forwarded, and its route is gone after the
clean-up. -/
theorem cleanup_loses_route :
    ∃ trace final, RunsOnKernel
        (RouteManager.lifetime [.addToDev privateNetwork "vpnbr0"] true)
        (sampleTable privateNetwork) trace final .new ∧
      DeletionsSucceed trace ∧ final ≠ sampleTable privateNetwork := by
  have hfacts : (replay Kernel.step (sampleTable privateNetwork)
      [⟨.replace privateNetwork "vpnbr0", .ok ()⟩, ⟨.del privateNetwork, .ok ()⟩]).map
      (fun result => (result.2 privateNetwork.destination, result.1.all fun tr =>
        (RouteEvent.keeps tr.event).isNone)) = some (none, true) := by
    decide
  obtain ⟨⟨trace, final⟩, hreplay, hfacts⟩ := Option.map_eq_some_iff.mp hfacts
  obtain ⟨hgone, hdeletions⟩ := Prod.mk.injEq _ _ _ _ ▸ hfacts
  have hrun := runsOn_of_replay (by decide :
    (RouteManager.lifetime [.addToDev privateNetwork "vpnbr0"] true).follow
      [⟨.replace privateNetwork "vpnbr0", .ok ()⟩, ⟨.del privateNetwork, .ok ()⟩] =
        some .new) hreplay
  refine ⟨trace, final, hrun, ?_, ?_⟩
  · intro tr htr net failure hevent
    have hcheck := List.all_eq_true.mp hdeletions tr htr
    rw [hevent] at hcheck
    cases hcheck
  · intro heq
    have hentry : final privateNetwork.destination = some ⟨"eth0", none⟩ := by
      rw [heq, sampleTable, Function.update_self]
    cases hgone.symm.trans hentry

end VpnBridge.Host
