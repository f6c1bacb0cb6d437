import VpnBridge.Server.Authentication
import VpnBridge.Server.Authorization

/-!
# The verdict on a request

A request passes through the stages token, resolution, policy and dial, in this
order, and the first that fails determines the status of the one response it
gets.  `verdict` computes that status from the answers in a run, and `Answered`
is the shape of what the server puts on the tunnel.
-/

namespace VpnBridge.Server

open VpnBridge.Interaction VpnBridge.Net VpnBridge.Proto

/-- The addresses in an answer of the resolver. -/
def addressesOf : Timed (Except IoError (List SocketAddr)) → List SocketAddr
  | .ready (.ok candidates) => candidates
  | _ => []

/-- The addresses that a run obtained for `target`. -/
def resolution (target : Address) (trace : List ServerEvent) : List SocketAddr :=
  match target with
  | .ip addr => [addr]
  | .domain _ _ =>
      match trace.findSome? lookedUp with
      | some looked => addressesOf looked.2
      | none => []

/-- The status that the first failing stage of a run calls for. -/
def verdict (server : Endpoint) (request : Request) (trace : List ServerEvent) : Status :=
  if tokenMatches server.token request.token = false then .authFailed
  else if resolution request.target trace = [] then .unreachable
  else if server.allowed (resolution request.target trace) = [] then .forbidden
  else if trace.any fun event => (connected event).isSome then .ok
  else dialStatus trace

/-- The bytes that the relay of a run put on the tunnel. -/
def relayedBytes (trace : List ServerEvent) : List UInt8 :=
  (trace.filter fun event => event.1.isRelay).flatMap onTunnel

/-- The tunnel carries one response, and before it nothing.  Nothing follows a
refusal; behind Ok the flow is relayed, from `inbound` on. -/
def Answered (response : Response) (inbound : List UInt8) (trace : List ServerEvent) :
    Prop :=
  ∃ before after, trace = before ++ ⟨.send response.buf, .ok ()⟩ :: after ∧
    (∀ event ∈ before, onTunnel event = [] ∧ event.1.isSend = false ∧
      event.1.isRelay = false) ∧
    (∀ event ∈ after, event.1.isSend = false) ∧
    ((response.status ≠ .ok ∧ ∀ event ∈ after, event.1.isReplyEnd = true) ∨
      (response = .ok ∧ ∃ relay, after = ⟨.flush, .ok ()⟩ :: relay ∧
        RelaysFrom inbound relay))

/-! ## Events that decide nothing -/

theorem lookedUp_of_resolved {event : ServerEvent} (hresolved : event.1.resolved = none) :
    lookedUp event = none := by
  unfold lookedUp
  split
  · cases hresolved
  · cases hresolved
  · rfl

theorem connected_of_isDial {event : ServerEvent} (hdial : event.1.isDial = false) :
    connected event = none := by
  unfold connected
  split
  · cases hdial
  · cases hdial
  · rfl

theorem udpBindFailed_of_isDial {event : ServerEvent} (hdial : event.1.isDial = false) :
    udpBindFailed event = false := by
  unfold udpBindFailed
  split
  · cases hdial
  · rfl

theorem onTunnel_of_isDial {event : ServerEvent} (hdial : event.1.isDial = true) :
    onTunnel event = [] ∧ event.1.isSend = false ∧ event.1.isRelay = false := by
  obtain ⟨op, answer⟩ := event
  cases op <;> first | exact ⟨rfl, rfl, rfl⟩ | cases hdial

theorem onTunnel_of_lookedUp {event : ServerEvent}
    {looked : (String × UInt16) × Timed (Except IoError (List SocketAddr))}
    (hlookup : lookedUp event = some looked) :
    onTunnel event = [] ∧ event.1.isSend = false ∧ event.1.isRelay = false := by
  unfold lookedUp at hlookup
  split at hlookup
  · exact ⟨rfl, rfl, rfl⟩
  · exact ⟨rfl, rfl, rfl⟩
  · cases hlookup

theorem Inert.findSome?_lookedUp {trace : List ServerEvent} (hinert : Inert trace) :
    trace.findSome? lookedUp = none :=
  List.findSome?_eq_none_iff.mpr fun event hmem => lookedUp_of_resolved (hinert event hmem).1

theorem Inert.any_connected {trace : List ServerEvent} (hinert : Inert trace) :
    (trace.any fun event => (connected event).isSome) = false :=
  List.any_eq_false.mpr fun event hmem => by
    rw [connected_of_isDial (hinert event hmem).2]
    exact Bool.false_ne_true

theorem Inert.any_udpBindFailed {trace : List ServerEvent} (hinert : Inert trace) :
    trace.any udpBindFailed = false :=
  List.any_eq_false.mpr fun event hmem => by
    rw [udpBindFailed_of_isDial (hinert event hmem).2]
    exact Bool.false_ne_true

/-! ## The verdict of a session in parts -/

theorem resolution_of_obtains {target : Address} {entry lookup rest : List ServerEvent}
    {answer : Timed (Except IoError (List SocketAddr))} (hentry : Inert entry)
    (hobtains : Obtains target lookup answer) :
    resolution target (entry ++ (lookup ++ rest)) = addressesOf answer := by
  cases hobtains with
  | ip addr => rfl
  | name hlookup =>
      rw [resolution, List.findSome?_append, hentry.findSome?_lookedUp, Option.none_or,
        List.singleton_append, List.findSome?_cons, hlookup]

/-- Lookups do not connect and do not bind. -/
theorem Obtains.any_eq_false {target : Address} {lookup : List ServerEvent}
    {answer : Timed (Except IoError (List SocketAddr))}
    (hobtains : Obtains target lookup answer) :
    (lookup.any fun event => (connected event).isSome) = false ∧
      lookup.any udpBindFailed = false := by
  constructor
  · refine List.any_eq_false.mpr fun event hmem => ?_
    rw [connected_of_isDial (hobtains.lookup event hmem).1]
    exact Bool.false_ne_true
  · refine List.any_eq_false.mpr fun event hmem => ?_
    rw [udpBindFailed_of_isDial (hobtains.lookup event hmem).1]
    exact Bool.false_ne_true

theorem verdict_of_parts {server : Endpoint} {request : Request}
    {entry lookup tail : List ServerEvent}
    {answer : Timed (Except IoError (List SocketAddr))} (dials : List ServerEvent)
    (htoken : tokenMatches server.token request.token = true)
    (hentry : Inert entry) (hobtains : Obtains request.target lookup answer)
    (htail : Inert tail) :
    verdict server request (entry ++ (lookup ++ (dials ++ tail))) =
      if addressesOf answer = [] then .unreachable
      else if server.allowed (addressesOf answer) = [] then .forbidden
      else if dials.any fun event => (connected event).isSome then .ok
      else dialStatus dials := by
  obtain ⟨hconnected, hbound⟩ := hobtains.any_eq_false
  have hstatus : dialStatus (entry ++ (lookup ++ (dials ++ tail))) = dialStatus dials := by
    rw [dialStatus, dialStatus, List.any_append, List.any_append, List.any_append,
      hentry.any_udpBindFailed, hbound, htail.any_udpBindFailed, Bool.false_or,
      Bool.false_or, Bool.or_false]
  rw [verdict, htoken, resolution_of_obtains hentry hobtains, hstatus, List.any_append,
    List.any_append, List.any_append, hentry.any_connected, hconnected,
    htail.any_connected, Bool.false_or, Bool.false_or, Bool.or_false]
  rfl

/-- Dials that end without a connection connected nothing. -/
theorem Dials.any_connected {addrs : List SocketAddr} {trace : List ServerEvent}
    {outcome : Option SocketAddr} (hdials : Dials addrs trace outcome) :
    (trace.any fun event => (connected event).isSome) = outcome.isSome := by
  induction hdials with
  | nil => rfl
  | miss hattempt hrest ih =>
      have hnone : (_ : List ServerEvent).any (fun event => (connected event).isSome) = false :=
        List.any_eq_false.mpr fun event hmem => by
          rw [(hattempt event hmem).2.1]
          exact Bool.false_ne_true
      rw [List.any_append, hnone, Bool.false_or, ih]
  | hit hsetup hconnected =>
      rw [List.any_append, List.any_cons, hconnected]
      simp

theorem addressesOf_eq_nil {answer : Timed (Except IoError (List SocketAddr))}
    (hnothing : ∀ candidates, answer = .ready (.ok candidates) → candidates = []) :
    addressesOf answer = [] := by
  cases answer with
  | elapsed => rfl
  | ready answer =>
      cases answer with
      | error failure => rfl
      | ok candidates => exact hnothing candidates rfl

/-- The response that a request gets carries the verdict. -/
theorem verdict_of_handled {server : Endpoint} {request : Request} {inbound : List UInt8}
    {entry rest : List ServerEvent} {response : Response} (hentry : Inert entry)
    (hhandled : Handled server request inbound rest response) :
    response.status = verdict server request (entry ++ rest) := by
  cases hhandled with
  | badToken htoken hreply => rw [verdict, if_pos htoken, Response.err]
  | unresolved htoken hobtains hnothing hreply =>
      have hparts := verdict_of_parts [] htoken hentry hobtains hreply.inert
      rw [if_pos (addressesOf_eq_nil hnothing)] at hparts
      exact hparts.symm
  | forbidden htoken hobtains hcandidates hallowed hreply =>
      have hparts := verdict_of_parts [] htoken hentry hobtains hreply.inert
      rw [addressesOf, if_neg hcandidates, if_pos hallowed] at hparts
      exact hparts.symm
  | served htoken hobtains hallowed hserves =>
      have hcandidates : ∀ candidates, server.allowed candidates ≠ [] →
          candidates ≠ [] := by
        rintro candidates hne rfl
        exact hne rfl
      cases hserves with
      | @undialed dials reply message hdials hreply =>
          have hparts := verdict_of_parts dials htoken hentry hobtains hreply.inert
          rw [addressesOf, if_neg (hcandidates _ hallowed), if_neg hallowed,
            hdials.any_connected] at hparts
          exact hparts.symm
      | @opened dials flow peer hdials hopens =>
          have hparts := verdict_of_parts dials htoken hentry hobtains hopens.inert
          rw [addressesOf, if_neg (hcandidates _ hallowed), if_neg hallowed,
            hdials.any_connected] at hparts
          exact hparts.symm

/-! ## The bytes of a session -/

theorem silent_of_obtains {target : Address} {lookup : List ServerEvent}
    {answer : Timed (Except IoError (List SocketAddr))}
    (hobtains : Obtains target lookup answer) :
    ∀ event ∈ lookup, onTunnel event = [] ∧ event.1.isSend = false ∧
      event.1.isRelay = false := by
  cases hobtains with
  | ip addr => exact nofun
  | name hlookup =>
      intro event hmem
      rw [List.mem_singleton.mp hmem]
      exact onTunnel_of_lookedUp hlookup

theorem silent_of_dials {target : Address} {lookup dials : List ServerEvent}
    {answer : Timed (Except IoError (List SocketAddr))} {addrs : List SocketAddr}
    {outcome : Option SocketAddr} (hobtains : Obtains target lookup answer)
    (hdials : Dials addrs dials outcome) :
    ∀ event ∈ lookup ++ dials, onTunnel event = [] ∧ event.1.isSend = false ∧
      event.1.isRelay = false := by
  intro event hmem
  rcases List.mem_append.mp hmem with hlookup | hdial
  · exact silent_of_obtains hobtains event hlookup
  · exact onTunnel_of_isDial (hdials.isDial event hdial).1

theorem isSend_of_isReplyEnd {op : ServerOp} (hend : op.isReplyEnd = true) :
    op.isSend = false ∧ op.isRelay = false := by
  cases op <;> first | exact ⟨rfl, rfl⟩ | cases hend

/-- Silence and then a delivered refusal. -/
theorem answered_of_reply {response : Response} {inbound : List UInt8}
    {before reply : List ServerEvent} (hstatus : response.status ≠ .ok)
    (hbefore : ∀ event ∈ before, onTunnel event = [] ∧ event.1.isSend = false ∧
      event.1.isRelay = false)
    (hreply : RepliesWith response reply)
    (hdelivered : ∀ event ∈ before ++ reply, delivered event) :
    Answered response inbound (before ++ reply) := by
  obtain ⟨answer, after, rfl, hafter⟩ := hreply
  have hanswer : answer = .ok () :=
    hdelivered _ (List.mem_append_right before List.mem_cons_self)
  subst hanswer
  exact ⟨before, after, rfl, hbefore,
    fun event hmem => (isSend_of_isReplyEnd (hafter event hmem)).1,
    .inl ⟨hstatus, hafter⟩⟩

theorem RelaysFrom.isSend {inbound : List UInt8} {relay : List ServerEvent}
    (hrelay : RelaysFrom inbound relay) : ∀ event ∈ relay, event.1.isSend = false := by
  obtain ⟨first, rest, rfl, hrest, hfirst⟩ := hrelay
  intro event hmem
  rcases List.mem_cons.mp hmem with rfl | hmem
  · rcases hfirst with ⟨idleSecs, hop⟩ | ⟨idleSecs, hop⟩
    · rw [hop]
      rfl
    · rw [hop]
      rfl
  · rw [hrest event hmem]
    rfl

/-- Silence and then the Ok response and the relay. -/
theorem answered_of_opens {inbound : List UInt8} {before flow : List ServerEvent}
    (hbefore : ∀ event ∈ before, onTunnel event = [] ∧ event.1.isSend = false ∧
      event.1.isRelay = false)
    (hopens : Opens inbound flow)
    (hdelivered : ∀ event ∈ before ++ flow, delivered event) :
    Answered .ok inbound (before ++ flow) := by
  rcases hopens with ⟨_, event, hmem, failure, hfailed⟩ | ⟨relay, rfl, hrelay⟩
  · -- The writes were delivered, so this one did not fail.
    have hevent := hdelivered event (List.mem_append_right before hmem)
    rcases hfailed with rfl | rfl
    · cases hevent
    · cases hevent
  · refine ⟨before, _, rfl, hbefore, fun event hmem => ?_, .inr ⟨rfl, relay, rfl, hrelay⟩⟩
    rcases List.mem_cons.mp hmem with rfl | hmem
    · rfl
    · exact hrelay.isSend event hmem

theorem dialStatus_ne_ok (dials : List ServerEvent) : dialStatus dials ≠ .ok := by
  unfold dialStatus
  split
  · exact nofun
  · exact nofun

theorem answered_of_handled {server : Endpoint} {request : Request}
    {inbound : List UInt8} {trace : List ServerEvent} {response : Response}
    (hhandled : Handled server request inbound trace response)
    (hdelivered : ∀ event ∈ trace, delivered event) :
    Answered response inbound trace := by
  cases hhandled with
  | badToken htoken hreply =>
      have hanswered : Answered (.err .authFailed server.authMessage) inbound
          ([] ++ trace) :=
        answered_of_reply nofun (List.forall_mem_nil _) hreply hdelivered
      exact hanswered
  | unresolved htoken hobtains hnothing hreply =>
      exact answered_of_reply nofun (silent_of_obtains hobtains) hreply hdelivered
  | forbidden htoken hobtains hcandidates hallowed hreply =>
      exact answered_of_reply nofun (silent_of_obtains hobtains) hreply hdelivered
  | served htoken hobtains hallowed hserves =>
      cases hserves with
      | undialed hdials hreply =>
          rw [← List.append_assoc] at hdelivered ⊢
          exact answered_of_reply (dialStatus_ne_ok _) (silent_of_dials hobtains hdials)
            hreply hdelivered
      | opened hdials hopens =>
          rw [← List.append_assoc] at hdelivered ⊢
          exact answered_of_opens (silent_of_dials hobtains hdials) hopens hdelivered

theorem Answered.append_left {response : Response} {inbound : List UInt8}
    {entry trace : List ServerEvent}
    (hentry : ∀ event ∈ entry, onTunnel event = [] ∧ event.1.isSend = false ∧
      event.1.isRelay = false)
    (hanswered : Answered response inbound trace) :
    Answered response inbound (entry ++ trace) := by
  obtain ⟨before, after, rfl, hbefore, hafter⟩ := hanswered
  refine ⟨entry ++ before, after, (List.append_assoc _ _ _).symm, ?_, hafter⟩
  intro event hmem
  exact (List.mem_append.mp hmem).elim (hentry event) (hbefore event)

theorem onTunnel_eq_nil {event : ServerEvent} (hsend : event.1.isSend = false)
    (hrelay : event.1.isRelay = false) : onTunnel event = [] := by
  unfold onTunnel
  split
  · cases hsend
  · cases hrelay
  · cases hrelay
  · rfl

/-- Without a send, what goes on the tunnel is relayed. -/
theorem tunnelBytes_eq_relayedBytes {trace : List ServerEvent}
    (hsend : ∀ event ∈ trace, event.1.isSend = false) :
    tunnelBytes trace = relayedBytes trace := by
  induction trace with
  | nil => rfl
  | cons event trace ih =>
      obtain ⟨hevent, htrace⟩ := List.forall_mem_cons.mp hsend
      have hrest := ih htrace
      rw [tunnelBytes, relayedBytes] at hrest ⊢
      by_cases hrelay : event.1.isRelay = true
      · rw [List.filter_cons, if_pos hrelay, List.flatMap_cons, List.flatMap_cons, hrest]
      · rw [List.filter_cons, if_neg hrelay, List.flatMap_cons, hrest,
          onTunnel_eq_nil hevent (Bool.eq_false_iff.mpr hrelay), List.nil_append]

theorem tunnelBytes_append (first second : List ServerEvent) :
    tunnelBytes (first ++ second) = tunnelBytes first ++ tunnelBytes second :=
  List.flatMap_append

theorem relayedBytes_append (first second : List ServerEvent) :
    relayedBytes (first ++ second) = relayedBytes first ++ relayedBytes second := by
  rw [relayedBytes, List.filter_append, List.flatMap_append]
  rfl

/-- Without a relay, nothing is relayed. -/
theorem relayedBytes_eq_nil {trace : List ServerEvent}
    (hrelay : ∀ event ∈ trace, event.1.isRelay = false) : relayedBytes trace = [] := by
  rw [relayedBytes, List.filter_eq_nil_iff.mpr fun event hmem => by
    rw [hrelay event hmem]
    exact Bool.false_ne_true]
  rfl

/-- What a client reads: the response, then the relayed bytes. -/
theorem Answered.tunnelBytes_eq {response : Response} {inbound : List UInt8}
    {trace : List ServerEvent} (hanswered : Answered response inbound trace) :
    tunnelBytes trace = response.buf ++ relayedBytes trace := by
  obtain ⟨before, after, rfl, hbefore, hafter, _⟩ := hanswered
  have hsilent : tunnelBytes before = [] :=
    List.flatMap_eq_nil_iff.mpr fun event hmem => (hbefore event hmem).1
  have hunrelayed : relayedBytes before = [] :=
    relayedBytes_eq_nil fun event hmem => (hbefore event hmem).2.2
  have hsent : relayedBytes (⟨.send response.buf, .ok ()⟩ :: after) =
      relayedBytes after := rfl
  rw [tunnelBytes_append, relayedBytes_append, hsilent, hunrelayed, hsent,
    ← tunnelBytes_eq_relayedBytes hafter]
  rfl

theorem Answered.isRelay_of_refused {response : Response} {inbound : List UInt8}
    {trace : List ServerEvent} (hanswered : Answered response inbound trace)
    (hrefused : response.status ≠ .ok) : ∀ event ∈ trace, event.1.isRelay = false := by
  obtain ⟨before, after, rfl, hbefore, _, ⟨_, hafter⟩ | ⟨rfl, _⟩⟩ := hanswered
  · intro event hmem
    rcases List.mem_append.mp hmem with hfirst | hlast
    · exact (hbefore event hfirst).2.2
    · rcases List.mem_cons.mp hlast with rfl | hlast
      · rfl
      · exact (isSend_of_isReplyEnd (hafter event hlast)).2
  · exact absurd rfl hrefused

/-- The relay of an open flow reads what follows the request. -/
theorem Answered.exists_relay {response : Response} {inbound : List UInt8}
    {trace : List ServerEvent} (hanswered : Answered response inbound trace)
    (hok : response.status = .ok) :
    ∃ event ∈ trace, (∃ idleSecs, event.1 = .relayTcp idleSecs inbound) ∨
      ∃ idleSecs, event.1 = .relayUdp idleSecs inbound := by
  obtain ⟨before, after, rfl, _, _, ⟨hrefused, _⟩ | ⟨_, relay, rfl, hrelay⟩⟩ := hanswered
  · exact absurd hok hrefused
  · obtain ⟨event, rest, rfl, _, hop⟩ := hrelay
    exact ⟨event, by simp, hop⟩

/-- A whole session whose request was decoded: one response, with the verdict. -/
theorem answered_of_session {server : Endpoint} {trace rest : List ServerEvent}
    {request : Request} {inbound : List UInt8} (hsession : Session server trace)
    (henters : Enters trace request inbound rest)
    (hdelivered : ∀ event ∈ trace, delivered event) :
    ∃ response, Answered response inbound trace ∧
      response.status = verdict server request trace := by
  rcases hsession with hturned | ⟨request', inbound', rest', response, henters', hhandled⟩
  · exact absurd henters hturned.not_enters
  · obtain ⟨rfl, rfl, rfl⟩ := henters.unique henters'
    have hsplit : ∃ entry, trace = entry ++ rest ∧ Inert entry ∧
        ∀ event ∈ entry, onTunnel event = [] ∧ event.1.isSend = false ∧
          event.1.isRelay = false := by
      cases henters with
      | stream hread => exact ⟨[_], rfl, by simp [Inert, ServerOp.resolved, ServerOp.isDial],
          by simp [onTunnel, ServerOp.isSend, ServerOp.isRelay]⟩
      | frame hread => exact ⟨[_, _], rfl,
          by simp [Inert, ServerOp.resolved, ServerOp.isDial],
          by simp [onTunnel, ServerOp.isSend, ServerOp.isRelay]⟩
    obtain ⟨entry, rfl, hinert, hsilent⟩ := hsplit
    have hrest : ∀ event ∈ rest, delivered event :=
      fun event hmem => hdelivered event (List.mem_append_right entry hmem)
    exact ⟨response, (answered_of_handled hhandled hrest).append_left hsilent,
      verdict_of_handled hinert hhandled⟩

end VpnBridge.Server
