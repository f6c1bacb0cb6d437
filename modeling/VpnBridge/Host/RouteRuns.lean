import VpnBridge.Host.Route

/-!
# Runs of the route commands

What each function of the route manager and of the start-up can do to the table,
once and for all; the properties of whole runs are proved from these.
-/

namespace VpnBridge.Host

open VpnBridge.Interaction VpnBridge.Net VpnBridge.PrefixTable VpnBridge.Proto
open VpnBridge.TransitionSystem

/-- A command and what it did to the table. -/
abbrev RouteStep := Transition KernelTable RouteEvent

/-- Runs of the host's functions on the kernel. -/
abbrev RunsOnKernel {A : Type} (program : RouteProg A) (table : KernelTable)
    (trace : List RouteStep) (table' : KernelTable) (result : A) : Prop :=
  RunsOn Kernel.step program table trace table' result

/-- A TUN route for `net` has been installed. -/
def Installs (event : RouteEvent) (net : IpNet) (dev : String) : Prop :=
  event = ⟨.replace net dev, .ok ()⟩

/-- The command went through. -/
def Succeeds : RouteEvent → Prop
  | ⟨.createTun _ _ _ _, .error _⟩ => False
  | ⟨.get _, .error _⟩ => False
  | ⟨.showExact _, .error _⟩ => False
  | ⟨.replace _ _, .error _⟩ => False
  | ⟨.add _ _, .error _⟩ => False
  | ⟨.del _, .error _⟩ => False
  | _ => True

variable {table table' next : KernelTable} {trace : List RouteStep}

/-! ## Single commands -/

theorem step_createTun_iff {name : String} {address netmask : Ipv4Addr} {mtu : ℕ}
    {answer : Except String Unit} :
    Kernel.step table ⟨.createTun name address netmask mtu, answer⟩ = some next ↔
      (answer = .ok () ∧ (ipMaskToPrefix netmask).isSome = true ∧
        next = table.connect name address netmask) ∨
      ∃ failure, answer = .error failure ∧ next = table := by
  cases answer with
  | error failure =>
      rw [Kernel.step, Option.some.injEq]
      constructor
      · rintro rfl
        exact .inr ⟨failure, rfl, rfl⟩
      · rintro (⟨hok, -⟩ | ⟨_, -, rfl⟩)
        · cases hok
        · rfl
  | ok value =>
      rw [Kernel.step, Option.ite_none_right_eq_some, Option.some.injEq]
      constructor
      · rintro ⟨hmask, rfl⟩
        exact .inl ⟨rfl, hmask, rfl⟩
      · rintro (⟨-, hmask, rfl⟩ | ⟨failure, herror, -⟩)
        · exact ⟨hmask, rfl⟩
        · cases herror

theorem step_get_iff {ip : IpAddr} {answer : Except String NextHop} :
    Kernel.step table ⟨.get ip, answer⟩ = some next ↔
      next = table ∧ ∀ hop, answer = .ok hop → route table ip = some hop.route := by
  cases answer with
  | error failure => simp [Kernel.step, eq_comm]
  | ok hop =>
      rw [Kernel.step, Option.ite_none_right_eq_some, Option.some.injEq]
      constructor
      · rintro ⟨hroute, rfl⟩
        refine ⟨rfl, ?_⟩
        rintro _ ⟨⟩
        exact hroute
      · rintro ⟨rfl, hroute⟩
        exact ⟨hroute hop rfl, rfl⟩

theorem step_showExact_iff {net : IpNet} {answer : Except String Bool} :
    Kernel.step table ⟨.showExact net, answer⟩ = some next ↔
      next = table ∧
        ∀ present, answer = .ok present → present = (table net.destination).isSome := by
  cases answer with
  | error failure => simp [Kernel.step, eq_comm]
  | ok present =>
      rw [Kernel.step, Option.ite_none_right_eq_some, Option.some.injEq]
      constructor
      · rintro ⟨hpresent, rfl⟩
        refine ⟨rfl, ?_⟩
        rintro _ ⟨⟩
        exact hpresent
      · rintro ⟨rfl, hpresent⟩
        exact ⟨hpresent present rfl, rfl⟩

theorem step_replace_iff {net : IpNet} {dev : String} {answer : Except String Unit} :
    Kernel.step table ⟨.replace net dev, answer⟩ = some next ↔
      (answer = .ok () ∧
        next = Function.update table net.destination (some ⟨dev, none⟩)) ∨
      ∃ failure, answer = .error failure ∧ next = table := by
  cases answer with
  | error failure => simp [Kernel.step, eq_comm]
  | ok value => simp [Kernel.step, eq_comm]

theorem step_add_iff {net : IpNet} {entry : Route} {answer : Except String Unit} :
    Kernel.step table ⟨.add net entry, answer⟩ = some next ↔
      (answer = .ok () ∧ table net.destination = none ∧
        next = Function.update table net.destination (some entry)) ∨
      ∃ failure, answer = .error failure ∧ next = table := by
  cases answer with
  | error failure => simp [Kernel.step, eq_comm]
  | ok value => simp [Kernel.step, eq_comm]

theorem step_del_iff {net : IpNet} {answer : Except String Unit} :
    Kernel.step table ⟨.del net, answer⟩ = some next ↔
      (answer = .ok () ∧ table net.destination ≠ none ∧
        next = Function.update table net.destination none) ∨
      ∃ failure, answer = .error failure ∧ next = table := by
  cases answer with
  | error failure => simp [Kernel.step, eq_comm]
  | ok value => simp [Kernel.step, eq_comm]

/-! ## The device's own network -/

section Connected

variable {dev : String} {address netmask : Ipv4Addr} {key : Destination}

/-- Entries that were there are left alone. -/
theorem connect_of_ne_none (hentry : table key ≠ none) :
    table.connect dev address netmask key = table key := by
  rw [KernelTable.connect]
  cases connectedNet address netmask with
  | none => rfl
  | some net => exact addAbsent_of_ne_none hentry

/-- The one new entry is that of the device's network. -/
theorem connect_of_none {entry : Route} (habsent : table key = none)
    (hentry : table.connect dev address netmask key = some entry) :
    entry = ⟨dev, none⟩ ∧ ∃ net ∈ connectedNet address netmask, net.destination = key := by
  rw [KernelTable.connect] at hentry
  cases hnet : connectedNet address netmask with
  | none =>
      rw [hnet] at hentry
      cases habsent.symm.trans hentry
  | some net =>
      rw [hnet, Option.elim_some] at hentry
      by_cases hkey : key = net.destination
      · subst hkey
        rw [addAbsent_of_none habsent] at hentry
        cases hentry
        exact ⟨rfl, net, rfl, rfl⟩
      · rw [addAbsent_of_ne hkey] at hentry
        cases habsent.symm.trans hentry

/-- The device's network has an entry: the device's own, unless another was there. -/
theorem connect_connected {net : IpNet} (hnet : net ∈ connectedNet address netmask) :
    table.connect dev address netmask net.destination ≠ none ∧
      (table net.destination = none →
        table.connect dev address netmask net.destination = some ⟨dev, none⟩) := by
  rw [KernelTable.connect, Option.mem_def.mp hnet, Option.elim_some]
  exact ⟨addAbsent_self_ne_none, fun habsent => addAbsent_of_none habsent⟩

theorem connect_eq_none (hentry : table.connect dev address netmask key = none) :
    table key = none := by
  by_contra hold
  exact hold ((connect_of_ne_none hold).symm.trans hentry)

end Connected

/-! ## Route manager -/

/-- A run of `ip route get`. -/
theorem lookup_run {ip : IpAddr} {result : Except String NextHop}
    (hrun : RunsOnKernel (lookup ip) table trace table' result) :
    table' = table ∧ trace = [⟨table, ⟨.get ip, result⟩, table⟩] ∧
      ∀ hop, result = .ok hop → route table ip = some hop.route := by
  obtain ⟨hstep, rfl⟩ := runsOn_perform_iff.mp hrun
  obtain ⟨rfl, hhop⟩ := step_get_iff.mp hstep
  exact ⟨rfl, rfl, hhop⟩

/-- A run of the existence test. -/
theorem routeExists_run {net : IpNet} {present : Bool}
    (hrun : RunsOnKernel (routeExists net) table trace table' present) :
    table' = table ∧ (present = true → table net.destination ≠ none) ∧
      ∃ answer, trace = [⟨table, ⟨.showExact net, answer⟩, table⟩] ∧
        ∀ shown, answer = .ok shown → shown = present ∧
          present = (table net.destination).isSome := by
  obtain ⟨answer, middle, rest, rfl, hstep, hnext⟩ := runsOn_perform_bind_iff.mp hrun
  obtain ⟨rfl, hshown⟩ := step_showExact_iff.mp hstep
  cases answer with
  | error failure =>
      obtain ⟨rfl, rfl, rfl⟩ := runsOn_pure_iff.mp hnext
      exact ⟨rfl, nofun, _, rfl, nofun⟩
  | ok shown =>
      obtain ⟨rfl, rfl, rfl⟩ := runsOn_pure_iff.mp hnext
      have hpresent := hshown _ rfl
      refine ⟨rfl, fun htrue => ?_, _, rfl, ?_⟩
      · rw [htrue, eq_comm, Option.isSome_iff_ne_none] at hpresent
        exact hpresent
      · rintro _ ⟨⟩
        exact ⟨rfl, hpresent⟩

/-- What pinning `net` to `entry` can come to. -/
inductive Pinned (net : IpNet) (entry : Route) (table : KernelTable)
    (manager : RouteManager) :
    KernelTable → RouteManager → Except AnyhowError Unit → Prop where
  /-- A route was there already. -/
  | present (hpresent : table net.destination ≠ none) :
      Pinned net entry table manager table manager (.ok ())
  | added (habsent : table net.destination = none) :
      Pinned net entry table manager
        (Function.update table net.destination (some entry)) (manager.push net) (.ok ())
  | failed (failure : AnyhowError) :
      Pinned net entry table manager table manager (.error failure)

/-- The commands of `pin_direct` for `net`. -/
def PinsOnly (net : IpNet) (entry : Route) (trace : List RouteStep) : Prop :=
  ∀ tr ∈ trace, tr.event.1 = .showExact net ∨ tr.event.1 = .add net entry

theorem pinDirect_run {manager manager' : RouteManager} {net : IpNet} {hop : NextHop}
    {result : Except AnyhowError Unit}
    (hrun : RunsOnKernel (manager.pinDirect net hop) table trace table' (manager', result)) :
    Pinned net hop.route table manager table' manager' result ∧
      PinsOnly net hop.route trace ∧
      ((∀ tr ∈ trace, Succeeds tr.event) → result = .ok ()) := by
  obtain ⟨present, middle, first, second, rfl, hexists, hnext⟩ := runsOn_bind_iff.mp hrun
  obtain ⟨rfl, hpresent, answer, rfl, -⟩ := routeExists_run hexists
  cases present with
  | true =>
      obtain ⟨rfl, rfl, hresult⟩ := runsOn_pure_iff.mp hnext
      cases hresult
      refine ⟨.present (hpresent rfl), ?_, fun _ => rfl⟩
      intro tr htr
      rw [List.append_nil, List.mem_singleton] at htr
      exact .inl (htr ▸ rfl)
  | false =>
      obtain ⟨answer', next, rest, rfl, hstep, hdone⟩ := runsOn_perform_bind_iff.mp hnext
      have hdone' : rest = [] ∧ table' = next := by
        cases answer' with
        | error failure =>
            obtain ⟨rfl, rfl, -⟩ := runsOn_pure_iff.mp hdone
            exact ⟨rfl, rfl⟩
        | ok value =>
            obtain ⟨rfl, rfl, -⟩ := runsOn_pure_iff.mp hdone
            exact ⟨rfl, rfl⟩
      obtain ⟨rfl, rfl⟩ := hdone'
      refine ⟨?_, ?_, ?_⟩
      · rcases step_add_iff.mp hstep with ⟨rfl, habsent, rfl⟩ | ⟨failure, rfl, rfl⟩
        · obtain ⟨-, -, hresult⟩ := runsOn_pure_iff.mp hdone
          cases hresult
          exact .added habsent
        · obtain ⟨-, -, hresult⟩ := runsOn_pure_iff.mp hdone
          cases hresult
          exact .failed _
      · intro tr htr
        rcases List.mem_cons.mp htr with rfl | htr
        · exact .inl rfl
        · rw [List.mem_singleton.mp htr]
          exact .inr rfl
      · intro hsucceeds
        cases answer' with
        | error failure =>
            have hadd : Succeeds ⟨.add net hop.route, .error failure⟩ :=
              hsucceeds ⟨middle, ⟨.add net hop.route, .error failure⟩, table'⟩
                (List.mem_append_right _ (List.mem_singleton_self _))
            cases hadd
        | ok value =>
            obtain ⟨-, -, hresult⟩ := runsOn_pure_iff.mp hdone
            cases hresult
            rfl

/-- A run of the loop that removes routes. -/
theorem deleteAll_run {nets : List IpNet} {outcome : Unit}
    (hrun : RunsOnKernel (RouteManager.deleteAll nets) table trace table' outcome) :
    trace.map (fun tr => tr.event.1) = nets.map .del := by
  induction nets generalizing table trace with
  | nil =>
      obtain ⟨rfl, -⟩ := runsOn_pure_iff.mp hrun
      rfl
  | cons net nets ih =>
      obtain ⟨answer, middle, rest, rfl, -, hrest⟩ := runsOn_perform_bind_iff.mp hrun
      rw [List.map_cons, List.map_cons, ih hrest]

/-- What survives the removal of all routes but the last holds before every
removal. -/
theorem deleteAll_pre (property : KernelTable → Prop) {nets : List IpNet} {outcome : Unit}
    (hkeep : ∀ net ∈ nets.dropLast, ∀ table, property table →
      property (Function.update table net.destination none))
    (hstart : property table)
    (hrun : RunsOnKernel (RouteManager.deleteAll nets) table trace table' outcome) :
    ∀ tr ∈ trace, property tr.pre := by
  induction nets generalizing table trace with
  | nil =>
      obtain ⟨rfl, -⟩ := runsOn_pure_iff.mp hrun
      exact List.forall_mem_nil _
  | cons net nets ih =>
      obtain ⟨answer, middle, rest, rfl, hstep, hrest⟩ := runsOn_perform_bind_iff.mp hrun
      rw [List.forall_mem_cons]
      refine ⟨hstart, ?_⟩
      cases nets with
      | nil =>
          obtain ⟨rfl, -⟩ := runsOn_pure_iff.mp hrest
          exact List.forall_mem_nil _
      | cons other nets =>
          rw [List.dropLast_cons_of_ne_nil (List.cons_ne_nil other nets),
            List.forall_mem_cons] at hkeep
          apply ih hkeep.2 _ hrest
          rcases step_del_iff.mp hstep with ⟨-, -, rfl⟩ | ⟨failure, -, rfl⟩
          · exact hkeep.1 table hstart
          · exact hstart

/-! ## Start-up -/

/-- The next hops found for the excluded networks. -/
theorem excludeHops_run {nets : List IpNet} {hops : List (IpNet × NextHop)}
    (hrun : RunsOnKernel (excludeHops nets) table trace table' hops) :
    table' = table ∧
      (∀ net hop, (net, hop) ∈ hops → net ∈ nets ∧
        route table net.network = some hop.route) ∧
      (∀ tr ∈ trace, ∃ net ∈ nets, tr.event.1 = .get net.network) ∧
      ((∀ tr ∈ trace, Succeeds tr.event) → ∀ net ∈ nets, ∃ hop, (net, hop) ∈ hops) := by
  induction nets generalizing table trace hops with
  | nil =>
      obtain ⟨rfl, rfl, rfl⟩ := runsOn_pure_iff.mp hrun
      exact ⟨rfl, nofun, List.forall_mem_nil _, fun _ => List.forall_mem_nil _⟩
  | cons net nets ih =>
      obtain ⟨answer, middle, first, second, rfl, hlookup, hrest⟩ := runsOn_bind_iff.mp hrun
      obtain ⟨rfl, rfl, hroute⟩ := lookup_run hlookup
      cases answer with
      | error failure =>
          obtain ⟨rfl, hhops, hcommands, -⟩ := ih hrest
          refine ⟨rfl, ?_, ?_, ?_⟩
          · intro other hop hmem
            exact ⟨List.mem_cons_of_mem _ (hhops other hop hmem).1, (hhops other hop hmem).2⟩
          · rw [List.singleton_append, List.forall_mem_cons]
            refine ⟨⟨net, List.mem_cons_self, rfl⟩, ?_⟩
            intro tr htr
            obtain ⟨other, hother, hcommand⟩ := hcommands tr htr
            exact ⟨other, List.mem_cons_of_mem _ hother, hcommand⟩
          · intro hsucceeds
            have hget : Succeeds ⟨.get net.network, .error failure⟩ :=
              hsucceeds _ (List.mem_append_left _ (List.mem_singleton_self _))
            cases hget
      | ok hop =>
          obtain ⟨hops, final, third, fourth, rfl, hhops, hdone⟩ := runsOn_bind_iff.mp hrest
          obtain ⟨rfl, rfl, rfl⟩ := runsOn_pure_iff.mp hdone
          obtain ⟨rfl, hhops, hcommands, hcomplete⟩ := ih hhops
          rw [List.append_nil]
          refine ⟨rfl, ?_, ?_, ?_⟩
          · intro other found hmem
            rcases List.mem_cons.mp hmem with heq | hmem
            · cases heq
              exact ⟨List.mem_cons_self, hroute hop rfl⟩
            · exact ⟨List.mem_cons_of_mem _ (hhops other found hmem).1,
                (hhops other found hmem).2⟩
          · rw [List.singleton_append, List.forall_mem_cons]
            refine ⟨⟨net, List.mem_cons_self, rfl⟩, ?_⟩
            intro tr htr
            obtain ⟨other, hother, hcommand⟩ := hcommands tr htr
            exact ⟨other, List.mem_cons_of_mem _ hother, hcommand⟩
          · rw [List.singleton_append, List.forall_mem_cons, List.forall_mem_cons]
            intro hsucceeds
            refine ⟨⟨hop, List.mem_cons_self⟩, ?_⟩
            intro other hother
            obtain ⟨found, hfound⟩ := hcomplete hsucceeds.2 other hother
            exact ⟨found, List.mem_cons_of_mem _ hfound⟩

/-- What pinning a list of networks leaves behind. -/
structure Pins (hops : List (IpNet × NextHop)) (table : KernelTable)
    (manager : RouteManager) (trace : List RouteStep) (table' : KernelTable)
    (pins : List IpNet) (manager' : RouteManager) : Prop where
  /-- Routes that were there are left alone. -/
  kept : ∀ key, table key ≠ none → table' key = table key
  pinned : ∀ key, table key = none → table' key ≠ none →
    ∃ net hop, (net, hop) ∈ hops ∧ net.destination = key ∧ table' key = some hop.route
  added : manager'.added = manager.added ++ pins
  pins_mem : ∀ net ∈ pins, table net.destination = none
  pins_sublist : pins.Sublist (hops.map Prod.fst)
  commands : ∀ tr ∈ trace, ∃ net hop, (net, hop) ∈ hops ∧
    (tr.event.1 = .showExact net ∨ tr.event.1 = .add net hop.route)
  complete : (∀ tr ∈ trace, Succeeds tr.event) →
    ∀ net hop, (net, hop) ∈ hops → table' net.destination ≠ none

theorem pins_of_pinned {net : IpNet} {hop : NextHop} {manager manager' : RouteManager}
    {result : Except AnyhowError Unit}
    (hpinned : Pinned net hop.route table manager table' manager' result)
    (honly : PinsOnly net hop.route trace)
    (hcomplete : (∀ tr ∈ trace, Succeeds tr.event) → result = .ok ()) :
    ∃ pins, Pins [(net, hop)] table manager trace table' pins manager' := by
  have hcommands : ∀ tr ∈ trace, ∃ other found, (other, found) ∈ [(net, hop)] ∧
      (tr.event.1 = .showExact other ∨ tr.event.1 = .add other found.route) :=
    fun tr htr => ⟨net, hop, List.mem_singleton_self _, honly tr htr⟩
  cases hpinned with
  | present hpresent =>
      refine ⟨[], fun _ _ => rfl, fun key hnone hsome => absurd hnone hsome,
        (List.append_nil _).symm, List.forall_mem_nil _, List.nil_sublist _, hcommands, ?_⟩
      intro _ other found hmem
      cases List.mem_singleton.mp hmem
      exact hpresent
  | added habsent =>
      refine ⟨[net], ?_, ?_, rfl, ?_, List.Sublist.refl _, hcommands, ?_⟩
      · intro key hsome
        apply Function.update_of_ne
        rintro rfl
        exact hsome habsent
      · intro key hnone hsome
        by_cases hkey : key = net.destination
        · subst hkey
          exact ⟨net, hop, List.mem_singleton_self _, rfl, Function.update_self _ _ _⟩
        · rw [Function.update_of_ne hkey] at hsome
          exact absurd hnone hsome
      · rw [List.forall_mem_singleton]
        exact habsent
      · intro _ other found hmem
        cases List.mem_singleton.mp hmem
        rw [Function.update_self]
        exact Option.some_ne_none _
  | failed failure =>
      refine ⟨[], fun _ _ => rfl, fun key hnone hsome => absurd hnone hsome,
        (List.append_nil _).symm, List.forall_mem_nil _, List.nil_sublist _, hcommands, ?_⟩
      intro hsucceeds
      cases hcomplete hsucceeds

theorem Pins.trans {first second : List (IpNet × NextHop)} {middle : KernelTable}
    {manager manager' manager'' : RouteManager} {trace' : List RouteStep}
    {pins pins' : List IpNet}
    (hfirst : Pins first table manager trace middle pins manager')
    (hsecond : Pins second middle manager' trace' table' pins' manager'') :
    Pins (first ++ second) table manager (trace ++ trace') table' (pins ++ pins')
      manager'' where
  kept key hsome := by
    have hmiddle := hfirst.kept key hsome
    rw [hsecond.kept key (hmiddle ▸ hsome), hmiddle]
  pinned key hnone hsome := by
    by_cases hmiddle : middle key = none
    · obtain ⟨net, hop, hmem, hkey, hentry⟩ := hsecond.pinned key hmiddle hsome
      exact ⟨net, hop, List.mem_append_right _ hmem, hkey, hentry⟩
    · obtain ⟨net, hop, hmem, hkey, hentry⟩ := hfirst.pinned key hnone hmiddle
      exact ⟨net, hop, List.mem_append_left _ hmem, hkey,
        (hsecond.kept key hmiddle).trans hentry⟩
  added := by rw [hsecond.added, hfirst.added, List.append_assoc]
  pins_mem := by
    rw [List.forall_mem_append]
    refine ⟨hfirst.pins_mem, fun net hnet => ?_⟩
    by_contra hsome
    exact hsome ((hfirst.kept _ hsome).symm.trans (hsecond.pins_mem net hnet))
  pins_sublist := by
    rw [List.map_append]
    exact hfirst.pins_sublist.append hsecond.pins_sublist
  commands := by
    rw [List.forall_mem_append]
    constructor
    · intro tr htr
      obtain ⟨net, hop, hmem, hcommand⟩ := hfirst.commands tr htr
      exact ⟨net, hop, List.mem_append_left _ hmem, hcommand⟩
    · intro tr htr
      obtain ⟨net, hop, hmem, hcommand⟩ := hsecond.commands tr htr
      exact ⟨net, hop, List.mem_append_right _ hmem, hcommand⟩
  complete hsucceeds net hop hmem := by
    rw [List.forall_mem_append] at hsucceeds
    rcases List.mem_append.mp hmem with hmem | hmem
    · have hmiddle := hfirst.complete hsucceeds.1 net hop hmem
      rw [hsecond.kept _ hmiddle]
      exact hmiddle
    · exact hsecond.complete hsucceeds.2 net hop hmem

theorem pinExcludes_run {manager manager' : RouteManager} {hops : List (IpNet × NextHop)}
    (hrun : RunsOnKernel (pinExcludes manager hops) table trace table' manager') :
    ∃ pins, Pins hops table manager trace table' pins manager' := by
  induction hops generalizing table trace manager with
  | nil =>
      obtain ⟨rfl, rfl, rfl⟩ := runsOn_pure_iff.mp hrun
      exact ⟨[], fun _ _ => rfl, fun key hnone hsome => absurd hnone hsome,
        (List.append_nil _).symm, List.forall_mem_nil _, List.nil_sublist _,
        List.forall_mem_nil _, fun _ _ _ hmem => absurd hmem List.not_mem_nil⟩
  | cons head hops ih =>
      obtain ⟨net, hop⟩ := head
      obtain ⟨⟨pinned, result⟩, middle, first, second, rfl, hpin, hrest⟩ :=
        runsOn_bind_iff.mp hrun
      obtain ⟨hpinned, honly, hcomplete⟩ := pinDirect_run hpin
      obtain ⟨pins, hfirst⟩ := pins_of_pinned hpinned honly hcomplete
      obtain ⟨pins', hsecond⟩ := ih hrest
      exact ⟨pins ++ pins', hfirst.trans hsecond⟩

/-- The table after TUN routes for `nets`. -/
def tunnelled (dev : String) (nets : List IpNet) (table : KernelTable) : KernelTable :=
  fun key => if ∃ net ∈ nets, net.destination = key then some ⟨dev, none⟩ else table key

/-- A completed run of the loop that installs the TUN routes. -/
theorem addRoutes_run {dev : String} {manager manager' : RouteManager} {nets : List IpNet}
    (hrun : RunsOnKernel (addRoutes dev manager nets) table trace table'
      (manager', .ok ())) :
    table' = tunnelled dev nets table ∧ manager'.added = manager.added ++ nets ∧
      trace.map Transition.event = nets.map fun net => ⟨.replace net dev, .ok ()⟩ := by
  induction nets generalizing table trace manager with
  | nil =>
      obtain ⟨rfl, rfl, hresult⟩ := runsOn_pure_iff.mp hrun
      cases hresult
      refine ⟨?_, (List.append_nil _).symm, rfl⟩
      funext key
      simp [tunnelled]
  | cons net nets ih =>
      obtain ⟨⟨pushed, result⟩, middle, first, second, rfl, hfirst, hrest⟩ :=
        runsOn_bind_iff.mp hrun
      obtain ⟨answer, next, rest, rfl, hstep, hdone⟩ := runsOn_perform_bind_iff.mp hfirst
      rcases step_replace_iff.mp hstep with ⟨rfl, rfl⟩ | ⟨failure, rfl, rfl⟩
      · obtain ⟨rfl, rfl, hresult⟩ := runsOn_pure_iff.mp hdone
        cases hresult
        obtain ⟨rfl, hadded, hevents⟩ := ih hrest
        refine ⟨?_, ?_, ?_⟩
        · funext key
          by_cases hlater : ∃ other ∈ nets, other.destination = key
          · simp [tunnelled, hlater]
          · by_cases hkey : net.destination = key
            · subst hkey
              simp [tunnelled, hlater]
            · simp [tunnelled, hlater, hkey, Function.update_of_ne (Ne.symm hkey)]
        · rw [hadded, RouteManager.push, List.append_assoc, List.singleton_append]
        · rw [List.map_append, hevents]
          rfl
      · obtain ⟨rfl, rfl, hresult⟩ := runsOn_pure_iff.mp hdone
        cases hresult
        obtain ⟨-, -, hresult⟩ := runsOn_pure_iff.mp hrest
        cases hresult

/-- The next hop of the VM agent, when it has to be pinned. -/
theorem serverHop_run {cfg : HostConfig} {server : Option NextHop}
    (hrun : RunsOnKernel (serverHop cfg) table trace table' (.ok server)) :
    table' = table ∧ (∀ tr ∈ trace, tr.event.1 = .get cfg.server.address.ip) ∧
      if cfg.captures cfg.server.address.ip && !cfg.excludes cfg.server.address.ip then
        ∃ hop, server = some hop ∧ route table cfg.server.address.ip = some hop.route
      else server = none := by
  rw [serverHop] at hrun
  split at hrun
  next hpin =>
    rw [if_pos hpin]
    obtain ⟨answer, middle, first, second, rfl, hlookup, hrest⟩ := runsOn_bind_iff.mp hrun
    obtain ⟨rfl, rfl, hroute⟩ := lookup_run hlookup
    cases answer with
    | error failure =>
        obtain ⟨-, -, hresult⟩ := runsOn_pure_iff.mp hrest
        cases hresult
    | ok hop =>
        obtain ⟨rfl, rfl, hresult⟩ := runsOn_pure_iff.mp hrest
        cases hresult
        refine ⟨rfl, ?_, hop, rfl, hroute hop rfl⟩
        rw [List.append_nil, List.forall_mem_singleton]
  next hpin =>
    rw [if_neg hpin]
    obtain ⟨rfl, rfl, hresult⟩ := runsOn_pure_iff.mp hrun
    cases hresult
    exact ⟨rfl, List.forall_mem_nil _, rfl⟩

/-- The table once the configured device is up. -/
def deviceUp (cfg : HostConfig) (table : KernelTable) : KernelTable :=
  table.connect cfg.tun.name cfg.tun.address cfg.tun.netmask

/-- The device has been made. -/
theorem createTun_run {cfg : HostConfig}
    (hrun : RunsOnKernel (createTun cfg) table trace table' (.ok ())) :
    (ipMaskToPrefix cfg.tun.netmask).isSome = true ∧ table' = deviceUp cfg table ∧
      trace = [⟨table, ⟨.createTun cfg.tun.name cfg.tun.address cfg.tun.netmask cfg.tun.mtu,
        .ok ()⟩, table'⟩] := by
  obtain ⟨answer, middle, rest, rfl, hstep, hdone⟩ := runsOn_perform_bind_iff.mp hrun
  rcases step_createTun_iff.mp hstep with ⟨rfl, hmask, rfl⟩ | ⟨failure, rfl, -⟩
  · obtain ⟨rfl, rfl, -⟩ := runsOn_pure_iff.mp hdone
    exact ⟨hmask, rfl, rfl⟩
  · obtain ⟨-, -, hresult⟩ := runsOn_pure_iff.mp hdone
    cases hresult

/-- The networks that start-up pins, with their next hops: the VM agent's own first. -/
def serverPins (cfg : HostConfig) (server : Option NextHop) : List (IpNet × NextHop) :=
  server.toList.map fun hop => (hostNet cfg.server.address.ip, hop)

/-- A completed pin of the VM agent. -/
theorem pinServer_run {cfg : HostConfig} {manager manager' : RouteManager}
    {server : Option NextHop}
    (hrun : RunsOnKernel (pinServer cfg manager server) table trace table'
      (manager', .ok ())) :
    (∃ pins, Pins (serverPins cfg server) table manager trace table' pins manager') ∧
      (server ≠ none → table' (hostNet cfg.server.address.ip).destination ≠ none) := by
  cases server with
  | none =>
      obtain ⟨rfl, rfl, hresult⟩ := runsOn_pure_iff.mp hrun
      cases hresult
      exact ⟨⟨[], fun _ _ => rfl, fun key hnone hsome => absurd hnone hsome,
        (List.append_nil _).symm, List.forall_mem_nil _, List.nil_sublist _,
        List.forall_mem_nil _, fun _ _ _ hmem => absurd hmem List.not_mem_nil⟩,
        fun hne => absurd rfl hne⟩
  | some hop =>
      obtain ⟨⟨pinned, result⟩, middle, first, second, rfl, hpin, hrest⟩ :=
        runsOn_bind_iff.mp hrun
      obtain ⟨hpinned, honly, hcomplete⟩ := pinDirect_run hpin
      cases result with
      | error failure =>
          obtain ⟨-, -, hresult⟩ := runsOn_pure_iff.mp hrest
          cases hresult
      | ok value =>
          obtain ⟨rfl, rfl, hresult⟩ := runsOn_pure_iff.mp hrest
          cases hresult
          rw [List.append_nil]
          refine ⟨pins_of_pinned hpinned honly hcomplete, fun _ => ?_⟩
          cases hpinned with
          | present hpresent => exact hpresent
          | added habsent =>
              rw [Function.update_self]
              exact Option.some_ne_none _

/-- A completed start-up: lookups on the table as it was, then the device, then pins, then
the TUN routes. -/
structure Started (cfg : HostConfig) (table : KernelTable) (server : Option NextHop)
    (hops : List (IpNet × NextHop)) (setup : List RouteStep) (pinned : KernelTable)
    (pins : List IpNet) : Prop where
  server_eq :
    if cfg.captures cfg.server.address.ip && !cfg.excludes cfg.server.address.ip then
      ∃ hop, server = some hop ∧ route table cfg.server.address.ip = some hop.route
    else server = none
  /-- The device could be made. -/
  made : (ipMaskToPrefix cfg.tun.netmask).isSome = true
  hops_mem : ∀ net hop, (net, hop) ∈ hops → net ∈ cfg.exclude ∧
    route table net.network = some hop.route
  pins : ∃ trace, Pins (serverPins cfg server ++ hops) (deviceUp cfg table) .new trace pinned
    pins ⟨pins⟩
  server_pinned : server ≠ none →
    pinned (hostNet cfg.server.address.ip).destination ≠ none
  /-- No TUN route is installed before the pins. -/
  quiet : ∀ tr ∈ setup, ∀ net dev, ¬ Installs tr.event net dev
  complete : (∀ tr ∈ setup, ∀ net ∈ cfg.exclude, tr.event.1 = .get net.network ∨
      tr.event.1 = .showExact net ∨ (∃ entry, tr.event.1 = .add net entry) →
        Succeeds tr.event) →
    ∀ net ∈ cfg.exclude, pinned net.destination ≠ none

theorem startup_run {cfg : HostConfig} {manager : RouteManager}
    (hauto : cfg.tun.autoRoute = true)
    (hrun : RunsOnKernel (startup cfg) table trace table' (manager, .ok ())) :
    ∃ server hops setup pinned pins install, trace = setup ++ install ∧
      Started cfg table server hops setup pinned pins ∧
      Execution Kernel.step pinned install table' ∧
      (install.map Transition.event =
        cfg.routes.map fun net => ⟨.replace net cfg.tun.name, .ok ()⟩) ∧
      table' = tunnelled cfg.tun.name cfg.routes pinned ∧
      manager.added = pins ++ cfg.routes := by
  obtain ⟨result, middle, serverTrace, second, rfl, hserver, hrest⟩ := runsOn_bind_iff.mp hrun
  cases result with
  | error failure =>
      obtain ⟨-, -, hresult⟩ := runsOn_pure_iff.mp hrest
      cases hresult
  | ok server =>
      obtain ⟨rfl, hserverCommands, hserverEq⟩ := serverHop_run hserver
      obtain ⟨hops, middle, hopsTrace, second, rfl, hhops, hafter⟩ := runsOn_bind_iff.mp hrest
      obtain ⟨rfl, hhopsMem, hhopsCommands, hhopsComplete⟩ := excludeHops_run hhops
      obtain ⟨made, middle, tunTrace, second, rfl, htun, hafter⟩ := runsOn_bind_iff.mp hafter
      cases made with
      | error failure =>
          obtain ⟨-, -, hresult⟩ := runsOn_pure_iff.mp hafter
          cases hresult
      | ok value =>
          obtain ⟨hmask, rfl, htunTrace⟩ := createTun_run htun
          rw [if_pos hauto] at hafter
          obtain ⟨⟨first, result⟩, middle, pinTrace, second, rfl, hpin, hrest⟩ :=
            runsOn_bind_iff.mp hafter
          cases result with
          | error failure =>
              obtain ⟨-, -, hresult⟩ := runsOn_pure_iff.mp hrest
              cases hresult
          | ok value =>
              obtain ⟨⟨serverPinned, hserverPins⟩, hserverPinned⟩ := pinServer_run hpin
              obtain ⟨withPins, pinned, excludeTrace, install, rfl, hexclude, hinstall⟩ :=
                runsOn_bind_iff.mp hrest
              obtain ⟨excludePinned, hexcludePins⟩ := pinExcludes_run hexclude
              have hpins := hserverPins.trans hexcludePins
              obtain ⟨htable, hadded, hevents⟩ := addRoutes_run hinstall
              have hnew : withPins = ⟨serverPinned ++ excludePinned⟩ := by
                have hpinsAdded := hpins.added
                rw [RouteManager.new, List.nil_append] at hpinsAdded
                cases withPins
                exact congrArg RouteManager.mk hpinsAdded
              subst hnew
              refine ⟨server, hops, serverTrace ++ (hopsTrace ++ (tunTrace ++ (pinTrace ++
            excludeTrace))),
                pinned, _, install, ?_, ⟨hserverEq, hmask, hhopsMem, ⟨_, hpins⟩, ?_, ?_, ?_⟩,
                hinstall.1, hevents, htable, hadded⟩
              · simp only [List.append_assoc]
              · intro hne
                rw [hexcludePins.kept _ (hserverPinned hne)]
                exact hserverPinned hne
              · simp only [List.forall_mem_append]
                refine ⟨?_, ?_, ?_, ?_, ?_⟩
                · intro tr htr net dev hinstalls
                  cases (congrArg Sigma.fst hinstalls).symm.trans (hserverCommands tr htr)
                · intro tr htr net dev hinstalls
                  obtain ⟨other, -, hcommand⟩ := hhopsCommands tr htr
                  cases (congrArg Sigma.fst hinstalls).symm.trans hcommand
                · rw [htunTrace, List.forall_mem_singleton]
                  intro net dev hinstalls
                  cases congrArg Sigma.fst hinstalls
                · intro tr htr net dev hinstalls
                  obtain ⟨other, hop, -, hcommand | hcommand⟩ := hserverPins.commands tr htr
                  · cases (congrArg Sigma.fst hinstalls).symm.trans hcommand
                  · cases (congrArg Sigma.fst hinstalls).symm.trans hcommand
                · intro tr htr net dev hinstalls
                  obtain ⟨other, hop, -, hcommand | hcommand⟩ := hexcludePins.commands tr htr
                  · cases (congrArg Sigma.fst hinstalls).symm.trans hcommand
                  · cases (congrArg Sigma.fst hinstalls).symm.trans hcommand
              · intro hsucceeds net hnet
                simp only [List.forall_mem_append] at hsucceeds
                obtain ⟨-, hlookups, -, -, hcommands⟩ := hsucceeds
                obtain ⟨hop, hmem⟩ := hhopsComplete (fun tr htr => by
                  obtain ⟨other, hother, hcommand⟩ := hhopsCommands tr htr
                  exact hlookups tr htr other hother (.inl hcommand)) net hnet
                refine hexcludePins.complete (fun tr htr => ?_) net hop hmem
                obtain ⟨other, found, hfound, hcommand⟩ := hexcludePins.commands tr htr
                exact hcommands tr htr other (hhopsMem other found hfound).1
                  (.inr (hcommand.imp_right fun hadd => ⟨found.route, hadd⟩))

end VpnBridge.Host
