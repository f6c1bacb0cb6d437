import VpnBridge.Host.Dns

/-!
# Answers of the DNS forwarder

Each task of the forwarder follows the program of its own query through the events
that are its own, whatever the other tasks and the receive loop do in between.  So
an answer is what one tunnel of that task delivered, and it goes to the one who
asked.
-/

namespace VpnBridge.Host

open VpnBridge.ByteReader VpnBridge.Interaction VpnBridge.Net VpnBridge.Proto
open VpnBridge.TransitionSystem

/-! ## A tunnel that opens -/

section Opening

variable {request : Request} {trace : List TunnelEvent} {client : ServerConfig}

theorem runs_writeTo_ok
    (hruns : Runs (request.writeTo : ExceptT IoError Timeout Unit).run.run trace
      (.ok (.ok ()))) :
    trace = [⟨.send request.buf, .ready (.ok ())⟩, ⟨.flush, .ready (.ok ())⟩] := by
  rw [Request.writeTo] at hruns
  split at hruns
  next =>
    obtain ⟨-, hfailed⟩ := runs_done_iff.mp hruns
    cases hfailed
  next =>
    rcases runs_run_run_bind_iff.mp hruns with ⟨hfailed, -⟩ | ⟨_, hfailed, -⟩ |
      ⟨_, first, second, rfl, hsend, hflush⟩
    · cases hfailed
    · cases hfailed
    · obtain ⟨sent, rfl, hsent⟩ := runs_issue_iff.mp hsend
      obtain ⟨flushed, rfl, hflushed⟩ := runs_issue_iff.mp hflush
      cases sent <;> cases hsent
      cases flushed <;> cases hflushed
      rfl

theorem runs_handshake_ok {response : Response} {rest : List UInt8}
    (hruns : Runs (handshake request).run.run trace (.ok (.ok (response, rest)))) :
    ∃ stream, Response.readFrom.run stream = .ok (response, rest) ∧
      trace = [⟨.send request.buf, .ready (.ok ())⟩, ⟨.flush, .ready (.ok ())⟩,
        ⟨.receive, .ready stream⟩] := by
  rcases runs_run_run_bind_iff.mp hruns with ⟨hfailed, -⟩ | ⟨_, hfailed, -⟩ |
    ⟨_, first, second, rfl, hwrite, hread⟩
  · cases hfailed
  · cases hfailed
  · rw [runs_writeTo_ok hwrite]
    rcases runs_run_run_bind_iff.mp hread with ⟨hfailed, -⟩ | ⟨_, hfailed, -⟩ |
      ⟨stream, third, last, rfl, hreceive, hdecode⟩
    · cases hfailed
    · cases hfailed
    · obtain ⟨answer, rfl, hanswer⟩ := runs_issue_iff.mp hreceive
      cases answer <;> cases hanswer
      cases hdecoded : Response.readFrom.run stream with
      | error failure =>
          simp only [hdecoded] at hdecode
          obtain ⟨-, hfailed⟩ := runs_done_iff.mp hdecode
          cases hfailed
      | ok decoded =>
          simp only [hdecoded] at hdecode
          obtain ⟨rfl, hok⟩ := runs_done_iff.mp hdecode
          cases hok
          exact ⟨stream, hdecoded, rfl⟩

theorem runs_connectAgent (hruns : Runs (connectAgent client) trace ()) :
    trace = [⟨.connect client.connectTimeoutMs client.reconnectIntervalMs client.address, ()⟩] ∨
      ∃ answer, trace = [⟨.connect client.connectTimeoutMs client.reconnectIntervalMs
        client.address, ()⟩, ⟨.setNodelay, answer⟩] := by
  obtain ⟨connected, later, rfl, hlater⟩ := runs_perform_bind_iff.mp hruns
  split at hlater
  · obtain ⟨answer, last, rfl, hdone⟩ := runs_perform_bind_iff.mp hlater
    obtain ⟨rfl, -⟩ := runs_pure_iff.mp hdone
    exact .inr ⟨answer, rfl⟩
  · obtain ⟨rfl, -⟩ := runs_pure_iff.mp hlater
    exact .inl rfl

/-- What a successful `open` does on its tunnel. -/
theorem runs_openTunnel_ok {cmd : Cmd} {target : Address} {rest : List UInt8}
    (hruns : Runs (openTunnel client cmd target).run trace (.ok rest)) :
    ∃ connects stream response, Runs (connectAgent client) connects () ∧
      Response.readFrom.run stream = .ok (response, rest) ∧ response.status = .ok ∧
      trace = connects ++
        [⟨.send (Request.buf ⟨cmd, client.token, target⟩), .ready (.ok ())⟩,
          ⟨.flush, .ready (.ok ())⟩, ⟨.receive, .ready stream⟩] := by
  obtain ⟨_, connects, later, rfl, hconnect, hlater⟩ := runs_run_lift_bind_iff.mp hruns
  obtain ⟨outcome, shake, last, rfl, hshake, hlast⟩ := runs_run_lift_bind_iff.mp hlater
  rcases outcome with _ | failure | ⟨response, left⟩
  · obtain ⟨-, hfailed⟩ := runs_run_throw_iff.mp hlast
    cases hfailed
  · obtain ⟨-, hfailed⟩ := runs_run_throw_iff.mp hlast
    cases hfailed
  · by_cases hok : response.status = .ok
    · simp only [hok, ne_eq, not_true_eq_false, if_false] at hlast
      obtain ⟨rfl, hrest⟩ := runs_run_pure_iff.mp hlast
      cases hrest
      obtain ⟨stream, hread, rfl⟩ := runs_handshake_ok hshake
      exact ⟨connects, stream, response, hconnect, hread, hok, by rw [List.append_nil]⟩
    · simp only [ne_eq, hok, not_false_eq_true, if_true] at hlast
      obtain ⟨-, hfailed⟩ := runs_run_throw_iff.mp hlast
      cases hfailed

end Opening

/-! ## One attempt -/

/-- What an operation put on the tunnel, if it went through. -/
def writtenBy : DnsEvent → List UInt8
  | ⟨.tunnel (.send bytes), .ready (.ok ())⟩ => bytes
  | ⟨.write bytes, .ok ()⟩ => bytes
  | _ => []

def opensTunnel : DnsEvent → Bool
  | ⟨.tunnel (.connect _ _ _), _⟩ => true
  | _ => false

/-- One tunnel was opened, for `query` to `upstream`, and `answer` is the first
datagram that it delivered. -/
structure AnswersOn (client : ServerConfig) (upstream : SocketAddr)
    (query answer : List UInt8) (events : List DnsEvent) : Prop where
  opened : events.countP opensTunnel = 1
  written : events.flatMap writtenBy =
    Request.buf ⟨.bindUdp, client.token, .ip upstream⟩ ++ datagramBuf query
  length : answer.length ≤ maxDatagram
  delivered : ∃ head response more, Reads Response.readFrom head response ∧
    response.status = .ok ∧
    ⟨.tunnel .receive, .ready (head ++ (datagramBuf answer ++ more))⟩ ∈ events

section Attempts

variable {client : ServerConfig} {upstream : SocketAddr} {query answer stream : List UInt8}
variable {deadlineMs : ℕ} {events : List DnsEvent}

theorem runs_openUpstream_ok
    (hruns : Runs (openUpstream client upstream).run events (.ok stream)) :
    ∃ head response, Reads Response.readFrom head response ∧ response.status = .ok ∧
      events.countP opensTunnel = 1 ∧
      events.flatMap writtenBy = Request.buf ⟨.bindUdp, client.token, .ip upstream⟩ ∧
      ⟨.tunnel .receive, .ready (head ++ stream)⟩ ∈ events := by
  obtain ⟨original, rfl, hopen⟩ := runs_embed_iff.mp hruns
  obtain ⟨connects, delivered, response, hconnect, hread, hok, rfl⟩ := runs_openTunnel_ok hopen
  obtain ⟨head, rfl, hreads⟩ := framed_response _ _ _ hread
  refine ⟨head, response, hreads, hok, ?_, ?_, ?_⟩
  · rcases runs_connectAgent hconnect with rfl | ⟨answer, rfl⟩ <;> rfl
  · rcases runs_connectAgent hconnect with rfl | ⟨answer, rfl⟩ <;> exact List.append_nil _
  · rw [List.map_append]
    exact List.mem_append_right _ (by simp [embedEvent])

theorem runs_sendQuery_ok (hruns : Runs (sendQuery query).run events (.ok ())) :
    events = [⟨.write (datagramBuf query), .ok ()⟩] := by
  obtain ⟨outcome, first, later, rfl, hwrite, hlater⟩ := runs_run_lift_bind_iff.mp hruns
  cases outcome with
  | error failure =>
      obtain ⟨-, hfailed⟩ := runs_run_throw_iff.mp hlater
      cases hfailed
  | ok written =>
      obtain ⟨rfl, -⟩ := runs_run_pure_iff.mp hlater
      rw [writeDatagram] at hwrite
      split at hwrite
      next =>
        obtain ⟨-, hfailed⟩ := runs_run_throw_iff.mp hwrite
        cases hfailed
      next => rw [runs_perform_iff.mp hwrite, List.append_nil]

theorem runs_awaitAnswer_ok
    (hruns : Runs (awaitAnswer upstream stream deadlineMs).run events (.ok answer)) :
    answer.length ≤ maxDatagram ∧ (∃ more, stream = datagramBuf answer ++ more) ∧
      events = [⟨.datagram deadlineMs, .ready (.ok ())⟩] := by
  obtain ⟨outcome, later, rfl, hlater⟩ := runs_run_perform_bind_iff.mp hruns
  rcases outcome with (failure | arrived) | _
  · obtain ⟨-, hfailed⟩ := runs_run_throw_iff.mp hlater
    cases hfailed
  · cases hread : (readDatagram []).run stream with
    | error failure =>
        simp only [hread] at hlater
        obtain ⟨-, hfailed⟩ := runs_run_throw_iff.mp hlater
        cases hfailed
    | ok datagram =>
        obtain ⟨⟨length, buf⟩, more⟩ := datagram
        simp only [hread] at hlater
        obtain ⟨rfl, hanswer⟩ := runs_run_pure_iff.mp hlater
        obtain ⟨consumed, rfl, hreads⟩ := framed_readDatagram _ _ _ _ hread
        obtain ⟨payload, hlength, rfl, hresult⟩ := reads_readDatagram_iff.mp hreads
        cases hresult
        rw [List.take_length] at hanswer
        cases hanswer
        exact ⟨hlength, ⟨more, rfl⟩, rfl⟩
  · obtain ⟨-, hfailed⟩ := runs_run_throw_iff.mp hlater
    cases hfailed

/-- An attempt succeeds only with the first datagram of its own tunnel. -/
theorem answersOn_of_runs
    (hruns : Runs (queryOne client upstream query deadlineMs).run events (.ok answer)) :
    AnswersOn client upstream query answer events := by
  rcases runs_run_bind_iff.mp hruns with ⟨_, hfailed, -⟩ |
    ⟨stream, first, later, rfl, hopen, hlater⟩
  · cases hfailed
  · rcases runs_run_bind_iff.mp hlater with ⟨_, hfailed, -⟩ |
      ⟨_, second, third, rfl, hsend, hawait⟩
    · cases hfailed
    · obtain ⟨head, response, hreads, hok, hopened, hwritten, hreceive⟩ :=
        runs_openUpstream_ok hopen
      obtain ⟨hlength, ⟨more, rfl⟩, rfl⟩ := runs_awaitAnswer_ok hawait
      rw [runs_sendQuery_ok hsend]
      refine ⟨?_, ?_, hlength, head, response, more, hreads, hok, ?_⟩
      · rw [List.countP_append, hopened]
        rfl
      · rw [List.flatMap_append, hwritten]
        simp [writtenBy]
      · exact List.mem_append_left _ hreceive

end Attempts

/-! ## Failover -/

def DnsOp.isSend : DnsOp → Bool
  | .sendTo _ _ => true
  | _ => false

section Failover

variable (client : ServerConfig) (query : List UInt8) (deadlineMs : ℕ)

/-- The attempt on one upstream, and how it failed. -/
def Fails (upstream : SocketAddr) (attempt : List DnsEvent) : Prop :=
  ∃ error, Runs (queryOne client upstream query deadlineMs).run attempt (.error error)

/-- Every upstream was tried, in order, and failed. -/
def Exhausts (upstreams : List SocketAddr) (events : List DnsEvent) : Prop :=
  ∃ attempts, List.Forall₂ (Fails client query deadlineMs) upstreams attempts ∧
    events = attempts.flatten

/-- The upstreams were tried, in order, up to the first that gave an answer. -/
def Resolves (upstreams : List SocketAddr) (events : List DnsEvent)
    (answer : List UInt8) : Prop :=
  ∃ earlier upstream later attempts attempt, upstreams = earlier ++ upstream :: later ∧
    List.Forall₂ (Fails client query deadlineMs) earlier attempts ∧
    AnswersOn client upstream query answer attempt ∧ events = attempts.flatten ++ attempt

variable {client query deadlineMs}
variable {cfg : DnsConfig} {upstreams : List SocketAddr} {lastErr : Option AnyhowError}
variable {events : List DnsEvent} {sender : SocketAddr} {rest : DnsProg Unit}

theorem runs_resolveFrom {result : Except AnyhowError (List UInt8)}
    (hruns : Runs (resolveFrom client query deadlineMs lastErr upstreams) events result) :
    (∃ answer, result = .ok answer ∧
        Resolves client query deadlineMs upstreams events answer) ∨
      (∃ error, result = .error error) ∧ Exhausts client query deadlineMs upstreams events := by
  induction upstreams generalizing lastErr events with
  | nil =>
      obtain ⟨rfl, hresult⟩ := runs_pure_iff.mp hruns
      exact .inr ⟨⟨_, hresult⟩, [], .nil, rfl⟩
  | cons upstream upstreams ih =>
      obtain ⟨outcome, attempt, others, rfl, hattempt, hothers⟩ := runs_bind_iff.mp hruns
      cases outcome with
      | ok answer =>
          obtain ⟨rfl, rfl⟩ := runs_pure_iff.mp hothers
          exact .inl ⟨answer, rfl, [], upstream, upstreams, [], attempt, rfl, .nil,
            answersOn_of_runs hattempt, by rw [List.append_nil, List.flatten_nil, List.nil_append]⟩
      | error error =>
          rcases ih hothers with ⟨answer, hresult, earlier, next, later, attempts, last, rfl,
            hearlier, hlast, rfl⟩ | ⟨hresult, attempts, hattempts, rfl⟩
          · exact .inl ⟨answer, hresult, upstream :: earlier, next, later, attempt :: attempts,
              last, rfl, .cons ⟨error, hattempt⟩ hearlier, hlast, by
                rw [List.flatten_cons, List.append_assoc]⟩
          · exact .inr ⟨hresult, attempt :: attempts, .cons ⟨error, hattempt⟩ hattempts,
              List.flatten_cons.symm⟩

theorem within_awaitAnswer (upstream : SocketAddr) (stream : List UInt8) :
    (awaitAnswer upstream stream deadlineMs).run.Within (fun op => op.isSend = false) := by
  apply within_run_bind
  · exact within_run_lift (within_perform rfl)
  · intro outcome
    rcases outcome with (failure | arrived) | _
    · trivial
    · simp only
      split <;> trivial
    · trivial

/-- Nothing is sent to the asker before there is an answer. -/
theorem within_queryOne (upstream : SocketAddr) :
    (queryOne client upstream query deadlineMs).run.Within
      (fun op => op.isSend = false) := by
  apply within_run_bind
  · rw [openUpstream, ExceptT.run_mk]
    apply within_embed
    intro op
    rfl
  · intro stream
    apply within_run_bind
    · apply within_run_bind
      · apply within_run_lift
        rw [writeDatagram]
        split
        · trivial
        · exact within_perform rfl
      · intro outcome
        cases outcome <;> trivial
    · intro _
      exact within_awaitAnswer upstream stream

theorem within_resolveFrom (lastErr : Option AnyhowError) (upstreams : List SocketAddr) :
    (resolveFrom client query deadlineMs lastErr upstreams).Within
      (fun op => op.isSend = false) := by
  induction upstreams generalizing lastErr with
  | nil => trivial
  | cons upstream upstreams ih =>
      apply within_bind (within_queryOne upstream)
      intro outcome
      cases outcome with
      | ok answer => trivial
      | error error => exact ih (some error)

/-- Where the task of a query is. -/
inductive TaskAt (cfg : DnsConfig) (client : ServerConfig) (query : List UInt8)
    (sender : SocketAddr) (events : List DnsEvent) : DnsProg Unit → Prop where
  | resolving {op : DnsOp} {next : DnsAnswer op → DnsProg Unit} (hop : op.isSend = false)
      (hsilent : ∀ event ∈ events, event.1.isSend = false) :
      TaskAt cfg client query sender events (.call op next)
  | sending {answer : List UInt8}
      {next : DnsAnswer (.sendTo answer sender) → DnsProg Unit}
      (hsilent : ∀ event ∈ events, event.1.isSend = false)
      (hresolves : Resolves client query cfg.timeoutMs cfg.upstream events answer) :
      TaskAt cfg client query sender events (.call (.sendTo answer sender) next)
  | answered {resolved : List DnsEvent} {answer : List UInt8} {result : Except IoError Unit}
      (hsilent : ∀ event ∈ resolved, event.1.isSend = false)
      (hresolves : Resolves client query cfg.timeoutMs cfg.upstream resolved answer)
      (hevents : events = resolved ++ [⟨.sendTo answer sender, result⟩]) :
      TaskAt cfg client query sender events (.done ())
  | gaveUp (hsilent : ∀ event ∈ events, event.1.isSend = false)
      (hexhausts : Exhausts client query cfg.timeoutMs cfg.upstream events) :
      TaskAt cfg client query sender events (.done ())

theorem taskAt_of_follows (hfollows : Follows (answerQuery cfg client query sender) events rest) :
    TaskAt cfg client query sender events rest := by
  have hwithin : (resolve cfg client query).Within (fun op => op.isSend = false) :=
    within_resolveFrom none cfg.upstream
  rcases follows_bind hfollows with ⟨op, resume, hresolve, rfl⟩ |
    ⟨outcome, resolved, later, rfl, hresolved, hlater⟩
  · obtain ⟨hsilent, hop, -⟩ := hresolve.within hwithin
    exact .resolving hop hsilent
  · have hsilent := hresolved.within hwithin
    rcases runs_resolveFrom hresolved with ⟨answer, rfl, hresolves⟩ | ⟨⟨error, rfl⟩, hexhausts⟩
    · simp only at hlater
      rcases follows_bind hlater with ⟨op, resume, hask, rfl⟩ |
        ⟨result, asked, last, rfl, hasked, hlast⟩
      · cases hask with
        | start =>
            rw [List.append_nil]
            exact .sending hsilent hresolves
        | call hnext => cases hnext
      · obtain ⟨rfl, rfl⟩ := follows_pure hlast
        rw [runs_perform_iff.mp hasked, List.append_nil]
        exact .answered hsilent hresolves rfl
    · obtain ⟨rfl, rfl⟩ := follows_pure hlater
      rw [List.append_nil]
      exact .gaveUp hsilent hexhausts

end Failover

/-! ## Runs of the forwarder -/

section Runs

variable {cfg : DnsConfig} {client : ServerConfig} {final : Forwarder}
variable {trace : List (Transition Forwarder ForwarderEvent)}

/-- The query that a transition received: from whom, and what fit. -/
def receivedBy (tr : Transition Forwarder ForwarderEvent) :
    Option (SocketAddr × List UInt8) :=
  match tr.event with
  | .received sender datagram => some (sender, datagram.take dnsBuf)
  | _ => none

/-- The queries received, the task of each being numbered by its place. -/
def queries (trace : List (Transition Forwarder ForwarderEvent)) :
    List (SocketAddr × List UInt8) :=
  trace.filterMap receivedBy

def taskEntry (tr : Transition Forwarder ForwarderEvent) : Option (ℕ × DnsEvent) :=
  match tr.event with
  | .task id event => some (id, event)
  | _ => none

/-- What one task did in a run. -/
def taskEvents (id : ℕ) (trace : List (Transition Forwarder ForwarderEvent)) :
    List DnsEvent :=
  eventsOf id (trace.filterMap taskEntry)

/-- The programs of the tasks. -/
def programs (cfg : DnsConfig) (client : ServerConfig)
    (trace : List (Transition Forwarder ForwarderEvent)) : List (DnsProg Unit) :=
  (queries trace).map fun (sender, query) => answerQuery cfg client query sender

theorem recvFrom_spec {buf datagram : List UInt8} :
    (Forwarder.recvFrom buf datagram).2.length = buf.length ∧
      (Forwarder.recvFrom buf datagram).2.take (Forwarder.recvFrom buf datagram).1 =
        datagram.take buf.length := by
  rw [Forwarder.recvFrom]
  constructor
  · simp only [List.length_append, List.length_take, List.length_drop]
    omega
  · have hfits : (datagram.take (min datagram.length buf.length)).length =
        min datagram.length buf.length := by
      rw [List.length_take]
      omega
    rw [List.take_append_of_le_length hfits.ge, List.take_take, min_self, List.take_eq_take_iff]
    omega

/-- The task gets a copy of the query, so the next one cannot change it. -/
theorem step_received {state next : Forwarder} {sender : SocketAddr} {datagram : List UInt8}
    (hstep : Forwarder.step cfg client state (.received sender datagram) = some next) :
    next.buf.length = state.buf.length ∧
      next.tasks = state.tasks ++
        [answerQuery cfg client (datagram.take state.buf.length) sender] := by
  rw [Forwarder.step, Option.some.injEq] at hstep
  rw [← hstep, ← recvFrom_spec.2]
  exact ⟨recvFrom_spec.1, rfl⟩

theorem programs_append (later : List (Transition Forwarder ForwarderEvent)) :
    programs cfg client (trace ++ later) =
      programs cfg client trace ++ programs cfg client later := by
  rw [programs, queries, List.filterMap_append, List.map_append]
  rfl

theorem explained_of_run (hrun : Execution (Forwarder.step cfg client) .start trace final) :
    final.buf.length = dnsBuf ∧
      Explained (programs cfg client trace) (trace.filterMap taskEntry) final.tasks := by
  induction hrun with
  | nil => exact ⟨List.length_replicate, .nil⟩
  | @snoc trace state next event hrun hstep ih =>
      obtain ⟨hbuf, hexplained⟩ := ih
      rw [programs_append, List.filterMap_append]
      cases event with
      | received sender datagram =>
          obtain ⟨hlength, htasks⟩ := step_received hstep
          refine ⟨hlength.trans hbuf, ?_⟩
          rw [htasks, hbuf, List.filterMap_cons_none rfl, List.filterMap_nil, List.append_nil]
          exact hexplained.spawn _
      | recvFailed failure =>
          cases hstep
          rw [List.filterMap_cons_none rfl, List.filterMap_nil, List.append_nil]
          exact ⟨hbuf, (List.append_nil (programs cfg client trace)).symm ▸ hexplained⟩
      | task id event =>
          obtain ⟨tasks, hadvance, rfl⟩ := Option.map_eq_some_iff.mp hstep
          refine ⟨hbuf, ?_⟩
          have hnone : programs cfg client [⟨state, .task id event, ⟨state.buf, tasks⟩⟩] = [] :=
            rfl
          rw [hnone, List.append_nil]
          exact hexplained.advance hadvance

/-- Where each task is, and what it has done. -/
theorem taskAt_of_run (hrun : Execution (Forwarder.step cfg client) .start trace final)
    {id : ℕ} {sender : SocketAddr} {query : List UInt8}
    (hquery : (queries trace)[id]? = some (sender, query)) :
    ∃ task, final.tasks[id]? = some task ∧
      TaskAt cfg client query sender (taskEvents id trace) task := by
  obtain ⟨-, hexplained⟩ := explained_of_run hrun
  have hprogram : (programs cfg client trace)[id]? =
      some (answerQuery cfg client query sender) := by
    rw [programs, List.getElem?_map, hquery, Option.map_some]
  have hid : id < final.tasks.length := by
    rw [hexplained.length]
    exact (List.getElem?_eq_some_iff.mp hprogram).1
  refine ⟨final.tasks[id], List.getElem?_eq_getElem hid, ?_⟩
  exact taskAt_of_follows
    (hexplained.follows id _ _ hprogram (List.getElem?_eq_getElem hid))

/-- The task of a query has not ended. -/
def Pending (forwarder : Forwarder) (id : ℕ) : Prop :=
  ∃ op next, forwarder.tasks[id]? = some (.call op next)

/-- Every answer goes to the asker, and is what the first upstream that did not fail
said to the asker's own query; a query has one answer at most, and has none only while
it is pending, when all its upstreams failed, or when sending the answer failed. -/
structure Forwards (cfg : DnsConfig) (client : ServerConfig)
    (trace : List (Transition Forwarder ForwarderEvent)) (final : Forwarder) : Prop where
  answers : ∀ before tr after, trace = before ++ tr :: after →
    ∀ id answer dest result, tr.event = .task id ⟨.sendTo answer dest, result⟩ →
      ∃ query, (queries before)[id]? = some (dest, query) ∧
        Resolves client query cfg.timeoutMs cfg.upstream (taskEvents id before) answer
  once : ∀ id, (taskEvents id trace).countP (fun event => event.1.isSend) ≤ 1
  unanswered : ∀ id sender query, (queries trace)[id]? = some (sender, query) →
    ((∀ answer dest, ⟨.sendTo answer dest, .ok ()⟩ ∉ taskEvents id trace) ↔
      Pending final id ∨
        Exhausts client query cfg.timeoutMs cfg.upstream (taskEvents id trace) ∨
        ∃ answer dest failure, ⟨.sendTo answer dest, .error failure⟩ ∈ taskEvents id trace)

theorem answers_of_run {tr : Transition Forwarder ForwarderEvent}
    (hrun : Execution (Forwarder.step cfg client) .start trace tr.pre)
    (hstep : Forwarder.step cfg client tr.pre tr.event = some tr.post)
    {id : ℕ} {answer : List UInt8} {dest : SocketAddr} {result : Except IoError Unit}
    (hevent : tr.event = .task id ⟨.sendTo answer dest, result⟩) :
    ∃ query, (queries trace)[id]? = some (dest, query) ∧
      Resolves client query cfg.timeoutMs cfg.upstream (taskEvents id trace) answer := by
  rw [hevent] at hstep
  obtain ⟨tasks, hadvance, -⟩ := Option.map_eq_some_iff.mp hstep
  obtain ⟨later, hlater, -⟩ := Option.map_eq_some_iff.mp hadvance
  obtain ⟨task, htask, hlater⟩ := Option.bind_eq_some_iff.mp hlater
  obtain ⟨resume, rfl, -⟩ := advance_eq_some_iff.mp hlater
  have hid : id < (queries trace).length := by
    have hlength := (explained_of_run hrun).2.length
    rw [programs, List.length_map] at hlength
    exact hlength ▸ (List.getElem?_eq_some_iff.mp htask).1
  obtain ⟨other, hother, hat⟩ := taskAt_of_run hrun (List.getElem?_eq_getElem hid)
  cases htask.symm.trans hother
  cases hat with
  | resolving hop => cases hop
  | sending hsilent hresolves => exact ⟨_, List.getElem?_eq_getElem hid, hresolves⟩

theorem silent_of_exhausts {query : List UInt8} {deadlineMs : ℕ}
    {upstreams : List SocketAddr} {events : List DnsEvent}
    (hexhausts : Exhausts client query deadlineMs upstreams events) :
    ∀ event ∈ events, event.1.isSend = false := by
  obtain ⟨attempts, hattempts, rfl⟩ := hexhausts
  induction hattempts with
  | nil => simp
  | cons hfails hrest ih =>
      obtain ⟨error, hruns⟩ := hfails
      rw [List.flatten_cons, List.forall_mem_append]
      exact ⟨hruns.within (within_queryOne _), ih⟩

theorem taskEvents_of_unknown
    (hrun : Execution (Forwarder.step cfg client) .start trace final) {id : ℕ}
    (hid : (queries trace).length ≤ id) : taskEvents id trace = [] := by
  rw [taskEvents, eventsOf, List.filterMap_eq_nil_iff]
  intro entry hentry
  have hknown := (explained_of_run hrun).2.known entry hentry
  rw [programs, List.length_map] at hknown
  exact if_neg (by omega)

theorem eq_start_of_serve {bound : Except IoError Unit} {start : Forwarder}
    (hserve : serve cfg bound = .ok start) : start = .start := by
  unfold serve at hserve
  split at hserve
  · cases hserve
  · cases bound with
    | error failure => cases hserve
    | ok value => exact (Except.ok.inj hserve).symm

section Tasks

variable {query : List UInt8} {sender : SocketAddr} {events : List DnsEvent}
variable {task : DnsProg Unit}

theorem countP_isSend_eq_zero (hsilent : ∀ event ∈ events, event.1.isSend = false) :
    events.countP (fun event => event.1.isSend) = 0 := by
  rw [List.countP_eq_zero]
  intro event hevent
  rw [hsilent event hevent]
  exact Bool.false_ne_true

theorem TaskAt.sends_once (hat : TaskAt cfg client query sender events task) :
    events.countP (fun event => event.1.isSend) ≤ 1 := by
  cases hat with
  | resolving hop hsilent => exact (countP_isSend_eq_zero hsilent).trans_le (Nat.zero_le 1)
  | sending hsilent hresolves =>
      exact (countP_isSend_eq_zero hsilent).trans_le (Nat.zero_le 1)
  | gaveUp hsilent hexhausts =>
      exact (countP_isSend_eq_zero hsilent).trans_le (Nat.zero_le 1)
  | answered hsilent hresolves hevents =>
      rw [hevents, List.countP_append, countP_isSend_eq_zero hsilent]
      exact le_refl 1

theorem not_sent_of_silent (hsilent : ∀ event ∈ events, event.1.isSend = false)
    (answer : List UInt8) (dest : SocketAddr) (result : Except IoError Unit) :
    ⟨.sendTo answer dest, result⟩ ∉ events := by
  intro hevent
  cases hsilent _ hevent

/-- Why a task has not sent an answer. -/
theorem TaskAt.unanswered_iff (hat : TaskAt cfg client query sender events task) :
    (∀ answer dest, ⟨.sendTo answer dest, .ok ()⟩ ∉ events) ↔
      (∃ op next, task = .call op next) ∨
        Exhausts client query cfg.timeoutMs cfg.upstream events ∨
        ∃ answer dest failure, ⟨.sendTo answer dest, .error failure⟩ ∈ events := by
  cases hat with
  | resolving hop hsilent =>
      exact iff_of_true (fun answer dest => not_sent_of_silent hsilent answer dest _)
        (.inl ⟨_, _, rfl⟩)
  | sending hsilent hresolves =>
      exact iff_of_true (fun answer dest => not_sent_of_silent hsilent answer dest _)
        (.inl ⟨_, _, rfl⟩)
  | gaveUp hsilent hexhausts =>
      exact iff_of_true (fun answer dest => not_sent_of_silent hsilent answer dest _)
        (.inr (.inl hexhausts))
  | @answered resolved answer result hsilent hresolves hevents =>
      have hsent : (⟨.sendTo answer sender, result⟩ : DnsEvent) ∈ events :=
        hevents ▸ List.mem_append_right _ List.mem_cons_self
      have hlast : ∀ {other dest outcome}, ⟨.sendTo other dest, outcome⟩ ∈ events →
          outcome = result := by
        intro other dest outcome hmem
        rw [hevents, List.mem_append, List.mem_singleton] at hmem
        rcases hmem with hmem | hmem
        · exact absurd hmem (not_sent_of_silent hsilent _ _ _)
        · cases hmem
          rfl
      cases result with
      | error failure =>
          refine iff_of_true (fun other dest hother => ?_) (.inr (.inr ⟨_, _, _, hsent⟩))
          cases hlast hother
      | ok value =>
          refine iff_of_false (fun hnone => hnone _ _ hsent) ?_
          rintro (⟨_, _, hpending⟩ | hexhausts | ⟨_, _, failure, hfailed⟩)
          · cases hpending
          · exact not_sent_of_silent (silent_of_exhausts hexhausts) _ _ _ hsent
          · cases hlast hfailed

end Tasks

/-- Answers go to the right asker, and follow the order of the upstreams. -/
theorem dns_forwards {bound : Except IoError Unit} {start : Forwarder}
    (hserve : serve cfg bound = .ok start)
    (hrun : Execution (Forwarder.step cfg client) start trace final) :
    Forwards cfg client trace final := by
  cases eq_start_of_serve hserve
  constructor
  · intro before tr after htrace id answer dest result hevent
    subst htrace
    obtain ⟨hbefore, hstep, -⟩ := execution_split_iff.mp hrun
    exact answers_of_run hbefore hstep hevent
  · intro id
    rcases Nat.lt_or_ge id (queries trace).length with hid | hid
    · obtain ⟨task, -, hat⟩ := taskAt_of_run hrun (List.getElem?_eq_getElem hid)
      exact hat.sends_once
    · rw [taskEvents_of_unknown hrun hid]
      exact Nat.zero_le 1
  · intro id sender query hquery
    obtain ⟨task, htask, hat⟩ := taskAt_of_run hrun hquery
    rw [hat.unanswered_iff, Pending, htask]
    simp only [Option.some.injEq]

end Runs

/-- Two upstreams behind the agent of the sample configuration. -/
def DnsConfig.sample : DnsConfig where
  listen := .new ServerConfig.sample.address.ip 15353
  upstream := [.new (.v4 ⟨⟨[10, 0, 0, 53], rfl⟩⟩) 53, .new (.v4 ⟨⟨[10, 0, 0, 54], rfl⟩⟩) 53]
  timeoutMs := 3000

def sampleAsker (port : UInt16) : SocketAddr :=
  .new ServerConfig.sample.address.ip port

/-- The events of one attempt of a task up to its wait for an answer. -/
def attemptEvents (id : ℕ) (upstream : SocketAddr) (query said : List UInt8) :
    List ForwarderEvent :=
  [.task id ⟨.tunnel (.connect 5000 10000 ServerConfig.sample.address), ()⟩,
    .task id ⟨.tunnel .setNodelay, .ok ()⟩,
    .task id ⟨.tunnel (.send (Request.buf ⟨.bindUdp, "", .ip upstream⟩)), .ready (.ok ())⟩,
    .task id ⟨.tunnel .flush, .ready (.ok ())⟩,
    .task id ⟨.tunnel .receive, .ready (Response.ok.buf ++ said)⟩,
    .task id ⟨.write (datagramBuf query), .ok ()⟩]

/-- Two askers at once: the first upstream answers the second one, and leaves the
first one to the second upstream. -/
def crossingEvents : List ForwarderEvent :=
  [.received (sampleAsker 1001) [1], .received (sampleAsker 1002) [2]] ++
    attemptEvents 0 (.new (.v4 ⟨⟨[10, 0, 0, 53], rfl⟩⟩) 53) [1] [] ++
    attemptEvents 1 (.new (.v4 ⟨⟨[10, 0, 0, 53], rfl⟩⟩) 53) [2] (datagramBuf [20, 21]) ++
    [.task 1 ⟨.datagram 3000, .ready (.ok ())⟩, .task 0 ⟨.datagram 3000, .elapsed⟩,
      .task 1 ⟨.sendTo [20, 21] (sampleAsker 1002), .ok ()⟩] ++
    attemptEvents 0 (.new (.v4 ⟨⟨[10, 0, 0, 54], rfl⟩⟩) 53) [1] (datagramBuf [10]) ++
    [.task 0 ⟨.datagram 3000, .ready (.ok ())⟩,
      .task 0 ⟨.sendTo [10] (sampleAsker 1001), .ok ()⟩]

theorem dns_forwards_sample :
    ∃ trace final, trace.map Transition.event = crossingEvents ∧
      Forwards DnsConfig.sample ServerConfig.sample trace final := by
  have hsome : (replay (Forwarder.step DnsConfig.sample ServerConfig.sample) .start
      crossingEvents).isSome = true := by decide +kernel
  obtain ⟨⟨trace, final⟩, hreplay⟩ := Option.isSome_iff_exists.mp hsome
  have hserve : serve DnsConfig.sample (.ok ()) = .ok .start := rfl
  exact ⟨trace, final, events_of_replay hreplay,
    dns_forwards hserve (execution_of_replay hreplay)⟩

end VpnBridge.Host
