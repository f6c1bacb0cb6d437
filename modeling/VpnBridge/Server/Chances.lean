import VpnBridge.Server.Authentication
import Mathlib.Data.List.TakeWhile

/-!
# A chance for every permitted address

A handler may be asked for a name with several addresses, of which the policy
permits some.  What each command makes of them is compared with what a client
needs: the permitted addresses are tried in order, up to the first that opens.
The loop of `serve_tcp` does that; `serve_udp` is given one address alone.
-/

namespace VpnBridge.Server

open VpnBridge.Interaction VpnBridge.Net VpnBridge.Proto

/-! ## Attempts -/

/-- How the attempt on an address went; a failure has the refusal that reports it. -/
abbrev Opening := Except (Status × String) Unit

/-- What a dial of `serve_tcp` that came out like this amounts to. -/
def dialedOpening (addr : SocketAddr) : Timed (Except IoError Unit) → Opening
  | .ready (.ok ()) => .ok ()
  | .ready (.error failure) => .error (.unreachable, failure.message)
  | .elapsed => .error (.unreachable, "connect to " ++ addr.display ++ " timed out")

namespace Endpoint

variable (server : Endpoint)

/-- The attempt of `serve_tcp` on one candidate. -/
def attemptTcp (addr : SocketAddr) : ServerProg Opening := do
  return dialedOpening addr (← server.dialTcp addr)

/-- The attempt of `serve_udp` on its destination. -/
def attemptUdp (addr : SocketAddr) : ServerProg Opening := do
  match ← issue (.udpBind (server.udpSource addr)) with
  | .error failure => return .error (.serverError, s!"bind failed: {failure.message}")
  | .ok () =>
      match ← issue (.udpConnect addr) with
      | .error failure => return .error (.unreachable, s!"connect failed: {failure.message}")
      | .ok () => return .ok ()

def attempt (cmd : Cmd) (addr : SocketAddr) : ServerProg Opening :=
  match cmd with
  | .connectTcp => server.attemptTcp addr
  | .bindUdp => server.attemptUdp addr

end Endpoint

/-- `dials` are the attempts on these addresses, one after the other. -/
inductive Tries (server : Endpoint) (cmd : Cmd) :
    List (SocketAddr × Opening) → List ServerEvent → Prop where
  | nil : Tries server cmd [] []
  | cons {addr : SocketAddr} {opening : Opening} {tried : List (SocketAddr × Opening)}
      {attempt dials : List ServerEvent}
      (hattempt : Runs (server.attempt cmd addr) attempt opening)
      (hrest : Tries server cmd tried dials) :
      Tries server cmd ((addr, opening) :: tried) (attempt ++ dials)

/-- `reply` gives this response, and relays the flow after Ok. -/
def Concludes (inbound : List UInt8) (response : Response) (reply : List ServerEvent) : Prop :=
  response = .ok ∧ Opens inbound reply ∨
    response.status ≠ .ok ∧ RepliesWith response reply

/-! ## What the attempts amount to -/

/-- The attempt opened the address. -/
def didOpen (entry : SocketAddr × Opening) : Bool :=
  entry.2.toBool

/-- An attempt made in its turn goes as it is assigned to go. -/
def Agrees (tried assigned : List (SocketAddr × Opening)) : Prop :=
  ∀ made planned, (made, planned) ∈ tried.zip assigned → made.1 = planned.1 →
    made.2 = planned.2

/-- Every permitted address gets its chance, when `assigned` lists them with what
comes of an attempt on each: they are tried up to the first that opens, which is
answered with Ok, and when none opens the refusal reports the last one. -/
structure GivesChances (assigned tried : List (SocketAddr × Opening))
    (response : Response) : Prop where
  ok_iff : response.status = .ok ↔ ∃ entry ∈ assigned, didOpen entry = true
  attempts : tried = assigned.takeWhile (fun entry => !didOpen entry) ++
    (assigned.find? didOpen).toList
  refusal : (∀ entry ∈ assigned, didOpen entry = false) →
    ∀ addr status message, assigned.getLast? = some (addr, .error (status, message)) →
      response = .err status message

/-- A command that tries one address only has no need of another. -/
def FirstSuffices (cmd : Cmd) (assigned : List (SocketAddr × Opening)) : Prop :=
  cmd = .connectTcp ∨ assigned.length ≤ 1 ∨ assigned.head?.any didOpen = true

/-- What a command makes of the permitted addresses. -/
inductive Attended (cmd : Cmd) :
    List SocketAddr → List (SocketAddr × Opening) → Response → Prop where
  | opened (failed : List (SocketAddr × Opening)) {addr : SocketAddr}
      {later : List SocketAddr} (hfailed : ∀ entry ∈ failed, didOpen entry = false)
      (hcmd : cmd = .connectTcp ∨ failed = []) :
      Attended cmd (failed.map Prod.fst ++ addr :: later) (failed ++ [(addr, .ok ())]) .ok
  | exhausted (tried : List (SocketAddr × Opening)) {response : Response}
      (hfailed : ∀ entry ∈ tried, didOpen entry = false) (hresponse : response.status ≠ .ok)
      (hlast : ∀ addr status message, tried.getLast? = some (addr, .error (status, message)) →
        response = .err status message)
      (hcmd : cmd = .connectTcp ∨ tried.length ≤ 1) :
      Attended cmd (tried.map Prod.fst) tried response
  /-- The other addresses have no chance. -/
  | abandoned {first second : SocketAddr} {others : List SocketAddr} {status : Status}
      {message : String} (hcmd : cmd = .bindUdp) :
      Attended cmd (first :: second :: others) [(first, .error (status, message))]
        (.err status message)

/-- Attempts made in order are the first of those assigned. -/
theorem append_of_agrees {tried assigned : List (SocketAddr × Opening)}
    (later : List SocketAddr) (hagrees : Agrees tried assigned)
    (hassigned : assigned.map Prod.fst = tried.map Prod.fst ++ later) :
    ∃ rest, assigned = tried ++ rest ∧ rest.map Prod.fst = later := by
  induction tried generalizing assigned with
  | nil => exact ⟨assigned, rfl, hassigned⟩
  | cons made tried ih =>
      cases assigned with
      | nil => cases hassigned
      | cons planned assigned =>
          obtain ⟨hfst, hmap⟩ := List.cons.inj hassigned
          have hsnd : made.2 = planned.2 :=
            hagrees made planned List.mem_cons_self hfst.symm
          obtain ⟨rest, rfl, hrest⟩ := ih
            (fun made planned hmem => hagrees made planned (List.mem_cons_of_mem _ hmem)) hmap
          exact ⟨rest, by rw [Prod.ext hfst hsnd.symm, List.cons_append], hrest⟩

section Attended

variable {cmd : Cmd} {permitted : List SocketAddr} {response : Response}
variable {tried assigned failed : List (SocketAddr × Opening)}

theorem takeWhile_not_didOpen (hfailed : ∀ entry ∈ failed, didOpen entry = false) :
    failed.takeWhile (fun entry => !didOpen entry) = failed :=
  List.takeWhile_eq_self_iff.mpr fun entry hmem => by rw [hfailed entry hmem, Bool.not_false]

theorem find?_didOpen_eq_none (hfailed : ∀ entry ∈ failed, didOpen entry = false) :
    failed.find? didOpen = none :=
  List.find?_eq_none.mpr fun entry hmem => by simp [hfailed entry hmem]

/-- After failures, the first address that opens is the last to be tried. -/
theorem givesChances_opened {addr : SocketAddr} {rest : List (SocketAddr × Opening)}
    (hfailed : ∀ entry ∈ failed, didOpen entry = false) :
    GivesChances (failed ++ (addr, .ok ()) :: rest) (failed ++ [(addr, .ok ())]) .ok := by
  have hopens : didOpen (addr, .ok ()) = true := rfl
  refine ⟨?_, ?_, fun hnone => ?_⟩
  · exact iff_of_true rfl ⟨_, List.mem_append_right _ List.mem_cons_self, hopens⟩
  · rw [List.takeWhile_append_of_pos fun entry hmem => by rw [hfailed entry hmem, Bool.not_false],
      List.takeWhile_cons_of_neg (by simp [hopens]), List.append_nil, List.find?_append,
      find?_didOpen_eq_none hfailed, Option.none_or, List.find?_cons_of_pos hopens,
      Option.toList_some]
  · cases hopens.symm.trans (hnone _ (List.mem_append_right _ List.mem_cons_self))

theorem givesChances_exhausted (hfailed : ∀ entry ∈ tried, didOpen entry = false)
    (hresponse : response.status ≠ .ok)
    (hlast : ∀ addr status message, tried.getLast? = some (addr, .error (status, message)) →
      response = .err status message) :
    GivesChances tried tried response := by
  refine ⟨iff_of_false hresponse ?_, ?_, fun _ => hlast⟩
  · rintro ⟨entry, hmem, hopens⟩
    cases (hfailed entry hmem).symm.trans hopens
  · rw [takeWhile_not_didOpen hfailed, find?_didOpen_eq_none hfailed, Option.toList_none,
      List.append_nil]

/-- With another address left, a failure is not the end of the attempts. -/
theorem not_givesChances_abandoned {first second : SocketAddr × Opening}
    {others : List (SocketAddr × Opening)} (hfailed : didOpen first = false) :
    ¬ GivesChances (first :: second :: others) [first] response := by
  intro hchances
  have hattempts := hchances.attempts
  rw [List.takeWhile_cons_of_pos (by rw [hfailed, Bool.not_false]),
    List.find?_cons_of_neg (by simp [hfailed]), List.cons_append] at hattempts
  have hempty := List.append_eq_nil_iff.mp (List.cons.inj hattempts).2.symm
  cases hsecond : didOpen second with
  | false =>
      rw [List.takeWhile_cons_of_pos (by rw [hsecond, Bool.not_false])] at hempty
      cases hempty.1
  | true =>
      rw [List.find?_cons_of_pos hsecond] at hempty
      cases hempty.2

/-- A command gives every permitted address its chance unless it needs a second one
and tries the first alone. -/
theorem Attended.givesChances_iff (hattended : Attended cmd permitted tried response)
    (hassigned : assigned.map Prod.fst = permitted) (hagrees : Agrees tried assigned) :
    GivesChances assigned tried response ↔ FirstSuffices cmd assigned := by
  cases hattended with
  | @opened failed addr later hfailed hcmd =>
      obtain ⟨rest, rfl, _⟩ := append_of_agrees later hagrees
        (by rw [hassigned, List.map_append, List.append_assoc]; rfl)
      rw [List.append_assoc]
      refine iff_of_true (givesChances_opened hfailed) ?_
      rcases hcmd with hcmd | rfl
      · exact .inl hcmd
      · exact .inr (.inr rfl)
  | exhausted tried hfailed hresponse hlast hcmd =>
      obtain ⟨rest, rfl, hrest⟩ := append_of_agrees [] hagrees
        (hassigned.trans (List.append_nil _).symm)
      obtain rfl := List.map_eq_nil_iff.mp hrest
      rw [List.append_nil]
      refine iff_of_true (givesChances_exhausted hfailed hresponse hlast) ?_
      rcases hcmd with hcmd | hlength
      · exact .inl hcmd
      · exact .inr (.inl hlength)
  | @abandoned first second others status message hcmd =>
      obtain ⟨rest, rfl, hrest⟩ := append_of_agrees (second :: others) hagrees hassigned
      obtain ⟨second, others, rfl, _, _⟩ := List.map_eq_cons_iff.mp hrest
      refine iff_of_false (not_givesChances_abandoned rfl) ?_
      rintro (htcp | hlength | hfirst)
      · cases hcmd.symm.trans htcp
      · simp at hlength
      · cases hfirst

end Attended

/-! ## Runs of the two commands -/

/-- The attempts of a command, then its response, with what that makes of the
permitted addresses. -/
def Attends (server : Endpoint) (cmd : Cmd) (inbound : List UInt8)
    (permitted : List SocketAddr) (served : List ServerEvent) : Prop :=
  ∃ tried dials response reply, served = dials ++ reply ∧ Tries server cmd tried dials ∧
    Concludes inbound response reply ∧ Attended cmd permitted tried response

/-- A candidate that `serve_tcp` could not reach, with the text of its failure. -/
def unreached (failure : SocketAddr × String) : SocketAddr × Opening :=
  (failure.1, .error (.unreachable, failure.2))

/-- How the dial loop goes: its candidates, the attempts on them, and its result. -/
inductive DialLoop : List SocketAddr → Option String → List (SocketAddr × Opening) →
    Except (Option String) SocketAddr → Prop where
  | nil {lastError : Option String} : DialLoop [] lastError [] (.error lastError)
  | hit {addr : SocketAddr} {addrs : List SocketAddr} {lastError : Option String} :
      DialLoop (addr :: addrs) lastError [(addr, .ok ())] (.ok addr)
  | miss (failure : SocketAddr × String) {addrs : List SocketAddr}
      {lastError : Option String} {tried : List (SocketAddr × Opening)}
      {result : Except (Option String) SocketAddr}
      (hrest : DialLoop addrs (some failure.2) tried result) :
      DialLoop (failure.1 :: addrs) lastError (unreached failure :: tried) result

theorem didOpen_unreached (failure : SocketAddr × String) :
    didOpen (unreached failure) = false := rfl

theorem didOpen_of_mem_map_unreached {failures : List (SocketAddr × String)} :
    ∀ entry ∈ failures.map unreached, didOpen entry = false := by
  intro entry hmem
  obtain ⟨failure, _, rfl⟩ := List.mem_map.mp hmem
  exact didOpen_unreached failure

/-- A loop that connects opens the first candidate that it can. -/
theorem DialLoop.of_ok {candidates : List SocketAddr} {lastError : Option String}
    {tried : List (SocketAddr × Opening)} {addr : SocketAddr}
    (hloop : DialLoop candidates lastError tried (.ok addr)) :
    ∃ (failures : List (SocketAddr × String)) (later : List SocketAddr),
      tried = failures.map unreached ++ [(addr, .ok ())] ∧
      candidates = (failures.map unreached).map Prod.fst ++ addr :: later := by
  generalize hresult : (.ok addr : Except (Option String) SocketAddr) = result at hloop
  induction hloop with
  | nil => cases hresult
  | @hit addr addrs lastError =>
      cases hresult
      exact ⟨[], addrs, rfl, rfl⟩
  | @miss failure addrs lastError tried result hrest ih =>
      obtain ⟨failures, later, rfl, rfl⟩ := ih hresult
      exact ⟨failure :: failures, later, rfl, rfl⟩

/-- A loop that connects nothing has tried all candidates, and keeps the text of the
last failure. -/
theorem DialLoop.of_error {candidates : List SocketAddr} {lastError final : Option String}
    {tried : List (SocketAddr × Opening)}
    (hloop : DialLoop candidates lastError tried (.error final)) :
    ∃ failures : List (SocketAddr × String), tried = failures.map unreached ∧
      candidates = tried.map Prod.fst ∧
      final = (failures.getLast?.map Prod.snd).or lastError := by
  generalize hresult : (.error final : Except (Option String) SocketAddr) = result at hloop
  induction hloop with
  | nil =>
      cases hresult
      exact ⟨[], rfl, rfl, rfl⟩
  | hit => cases hresult
  | @miss failure addrs lastError tried result hrest ih =>
      obtain ⟨failures, rfl, rfl, rfl⟩ := ih hresult
      refine ⟨failure :: failures, rfl, rfl, ?_⟩
      rw [List.getLast?_cons]
      cases failures.getLast? with
      | none => rfl
      | some last => rfl

namespace Endpoint

variable {server : Endpoint}

theorem runs_attemptTcp {addr : SocketAddr} {trace : List ServerEvent}
    {outcome : Timed (Except IoError Unit)}
    (hruns : Runs (server.dialTcp addr) trace outcome) :
    Runs (server.attemptTcp addr) trace (dialedOpening addr outcome) :=
  runs_bind_iff.mpr ⟨outcome, trace, [], (List.append_nil _).symm, hruns,
    runs_pure_iff.mpr ⟨rfl, rfl⟩⟩

/-- The dial loop attempts its candidates one after the other. -/
theorem tries_of_dialCandidates {candidates : List SocketAddr}
    {lastError : Option String} {trace : List ServerEvent}
    {result : Except (Option String) SocketAddr}
    (hruns : Runs (server.dialCandidates candidates lastError) trace result) :
    ∃ tried, Tries server .connectTcp tried trace ∧
      DialLoop candidates lastError tried result := by
  induction candidates generalizing lastError trace with
  | nil =>
      obtain ⟨rfl, rfl⟩ := runs_pure_iff.mp hruns
      exact ⟨[], .nil, .nil⟩
  | cons candidate candidates ih =>
      obtain ⟨outcome, first, second, rfl, hdial, hrest⟩ := runs_bind_iff.mp hruns
      have hattempt : Runs (server.attempt .connectTcp candidate) first
          (dialedOpening candidate outcome) := runs_attemptTcp hdial
      have hmiss : ∀ message, dialedOpening candidate outcome = .error (.unreachable, message) →
          Runs (server.dialCandidates candidates (some message)) second result →
          ∃ tried, Tries server .connectTcp tried (first ++ second) ∧
            DialLoop (candidate :: candidates) lastError tried result := by
        intro message hopening hrest
        obtain ⟨tried, htries, hloop⟩ := ih hrest
        rw [hopening] at hattempt
        exact ⟨_, .cons hattempt htries, .miss (candidate, message) hloop⟩
      cases outcome with
      | elapsed => exact hmiss _ rfl hrest
      | ready dialed =>
          cases dialed with
          | error failure => exact hmiss _ rfl hrest
          | ok =>
              obtain ⟨rfl, rfl⟩ := runs_pure_iff.mp hrest
              exact ⟨_, .cons hattempt .nil, .hit⟩

/-- Every refusal of the handlers has a status other than Ok. -/
theorem concludes_of_refuses (hlawful : server.Lawful) {inbound : List UInt8}
    {status : Status} {message : String} {reply : List ServerEvent}
    {result : Except IoError Unit} (hstatus : status ≠ .ok)
    (hruns : Runs (server.reject status message).run reply result) :
    Concludes inbound (.err status message) reply :=
  .inr ⟨hstatus, hlawful.refuses hruns⟩

/-- With no address permitted there is nothing to try. -/
theorem attends_nil {cmd : Cmd} {inbound : List UInt8} {response : Response}
    {reply : List ServerEvent} (hconcludes : Concludes inbound response reply)
    (hstatus : response.status ≠ .ok) : Attends server cmd inbound [] reply := by
  refine ⟨[], [], response, reply, rfl, .nil, hconcludes,
    .exhausted [] (by simp) hstatus ?_ (.inr (Nat.zero_le 1))⟩
  intro addr status message hlast
  cases hlast

theorem attends_of_serveTcp (hlawful : server.Lawful) {inbound : List UInt8}
    {candidates : List SocketAddr} {trace : List ServerEvent}
    {result : Except IoError Unit}
    (hruns : Runs (server.serveTcp inbound candidates).run trace result) :
    Attends server .connectTcp inbound candidates trace := by
  obtain ⟨dialed, dials, reply, rfl, hdial, hrest⟩ := runs_run_lift_bind_iff.mp hruns
  obtain ⟨tried, htries, hloop⟩ := tries_of_dialCandidates hdial
  refine ⟨tried, dials, ?_⟩
  cases dialed with
  | ok addr =>
      obtain ⟨failures, later, rfl, rfl⟩ := hloop.of_ok
      exact ⟨.ok, reply, rfl, htries, .inl ⟨rfl, opens_of_runs hlawful.relaysTcp hrest⟩,
        .opened _ didOpen_of_mem_map_unreached (.inl rfl)⟩
  | error lastError =>
      obtain ⟨failures, rfl, rfl, rfl⟩ := hloop.of_error
      have hstatus : Status.unreachable ≠ .ok := by decide
      refine ⟨_, reply, rfl, htries, concludes_of_refuses hlawful hstatus hrest,
        .exhausted _ didOpen_of_mem_map_unreached hstatus ?_ (.inl rfl)⟩
      intro addr status message hlast
      rw [List.getLast?_map, Option.map_eq_some_iff] at hlast
      obtain ⟨failure, hfailure, hentry⟩ := hlast
      cases hentry
      rw [hfailure]
      rfl

/-- The one attempt of `serve_udp`, whatever other addresses are permitted. -/
theorem attended_of_failed {first : SocketAddr} {others : List SocketAddr} {status : Status}
    {message : String} (hstatus : status ≠ .ok) :
    Attended .bindUdp (first :: others) [(first, .error (status, message))]
      (.err status message) := by
  cases others with
  | nil =>
      refine .exhausted [(first, .error (status, message))] ?_ hstatus ?_ (.inr le_rfl)
      · intro entry hmem
        rw [List.mem_singleton.mp hmem]
        rfl
      · intro addr other text hlast
        cases hlast
        rfl
  | cons second others => exact .abandoned rfl

theorem attends_of_serveUdp (hlawful : server.Lawful) {inbound : List UInt8}
    {first : SocketAddr} {others : List SocketAddr} {trace : List ServerEvent}
    {result : Except IoError Unit}
    (hruns : Runs (server.serveUdp inbound first).run trace result) :
    Attends server .bindUdp inbound (first :: others) trace := by
  obtain ⟨bound, rest, rfl, hbound⟩ := runs_run_perform_bind_iff.mp hruns
  cases bound with
  | error failure =>
      have hattempt : Runs (server.attempt .bindUdp first) [⟨.udpBind _, .error failure⟩]
          (.error (.serverError, s!"bind failed: {failure.message}")) :=
        runs_perform_bind_iff.mpr ⟨_, [], rfl, runs_pure_iff.mpr ⟨rfl, rfl⟩⟩
      exact ⟨_, _, _, rest, rfl, .cons hattempt .nil,
        concludes_of_refuses hlawful (by decide) hbound, attended_of_failed (by simp)⟩
  | ok =>
      obtain ⟨dialed, rest, rfl, hdialed⟩ := runs_run_perform_bind_iff.mp hbound
      cases dialed with
      | error failure =>
          have hattempt : Runs (server.attempt .bindUdp first)
              [⟨.udpBind _, .ok ()⟩, ⟨.udpConnect first, .error failure⟩]
              (.error (.unreachable, s!"connect failed: {failure.message}")) :=
            runs_perform_bind_iff.mpr ⟨_, [_], rfl,
              runs_perform_bind_iff.mpr ⟨_, [], rfl, runs_pure_iff.mpr ⟨rfl, rfl⟩⟩⟩
          exact ⟨_, _, _, rest, rfl, .cons hattempt .nil,
            concludes_of_refuses hlawful (by decide) hdialed, attended_of_failed (by simp)⟩
      | ok =>
          have hattempt : Runs (server.attempt .bindUdp first)
              [⟨.udpBind _, .ok ()⟩, ⟨.udpConnect first, .ok ()⟩] (.ok ()) :=
            runs_perform_bind_iff.mpr ⟨_, [_], rfl,
              runs_perform_bind_iff.mpr ⟨_, [], rfl, runs_pure_iff.mpr ⟨rfl, rfl⟩⟩⟩
          exact ⟨_, _, _, rest, rfl, .cons hattempt .nil,
            .inl ⟨rfl, opens_of_runs hlawful.relaysUdp hdialed⟩,
            .opened [] (by simp) (.inr rfl)⟩

/-- After a resolution, its permitted addresses are attended to. -/
theorem attends_of_serveResolved (hlawful : server.Lawful) {request : Request}
    {inbound : List UInt8} {candidates : List SocketAddr} {trace : List ServerEvent}
    {result : Except IoError Unit}
    (hruns : Runs (server.serveResolved request inbound candidates).run trace result) :
    Attends server request.cmd inbound (server.allowed candidates) trace := by
  unfold serveResolved at hruns
  rw [← allowed] at hruns
  cases hallowed : server.allowed candidates with
  | nil =>
      rw [hallowed] at hruns
      exact attends_nil (concludes_of_refuses hlawful (by decide) hruns) (by decide)
  | cons addr addrs =>
      rw [hallowed] at hruns
      cases hcmd : request.cmd with
      | connectTcp =>
          simp only [hcmd] at hruns
          exact attends_of_serveTcp hlawful hruns
      | bindUdp =>
          simp only [hcmd] at hruns
          exact attends_of_serveUdp hlawful hruns

/-- A request with the right token has its target resolved, and every address that
comes of it attended to. -/
theorem attends_of_handleRequest (hlawful : server.Lawful) {request : Request}
    {inbound : List UInt8} {trace : List ServerEvent} {result : Except IoError Unit}
    (htoken : tokenMatches server.token request.token = true)
    (hruns : Runs (server.handleRequest request inbound).run trace result) :
    ∃ lookup served answer, trace = lookup ++ served ∧
      Obtains request.target lookup answer ∧
      ∀ candidates, answer = .ready (.ok candidates) →
        Attends server request.cmd inbound (server.allowed candidates) served := by
  rw [handleRequest, if_pos htoken] at hruns
  obtain ⟨answer, lookup, served, rfl, hresolve, hrest⟩ := runs_run_lift_bind_iff.mp hruns
  refine ⟨lookup, served, answer, rfl, obtains_of_resolve hlawful hresolve, ?_⟩
  rintro candidates rfl
  cases candidates with
  | nil => exact attends_nil (concludes_of_refuses hlawful (by decide) hrest) (by decide)
  | cons candidate candidates => exact attends_of_serveResolved hlawful hrest

end Endpoint

/-! ## Sessions whose request is resolved -/

/-- `ResolvedTo server trace request inbound permitted served`: the session let its
request in, obtained the addresses of its target, of which the policy permits
`permitted`, and went on as in `served`. -/
inductive ResolvedTo (server : Endpoint) (trace : List ServerEvent) (request : Request)
    (inbound : List UInt8) : List SocketAddr → List ServerEvent → Prop where
  | mk {lookup served : List ServerEvent} {candidates : List SocketAddr}
      (henters : Enters trace request inbound (lookup ++ served))
      (htoken : tokenMatches server.token request.token = true)
      (hobtains : Obtains request.target lookup (.ready (.ok candidates))) :
      ResolvedTo server trace request inbound (server.allowed candidates) served

/-- Whatever the attempts on its permitted addresses were to come to, a resolved
request gives each of them its chance when the first suffices, and only then. -/
def ChancesWhenFirstSuffices (server : Endpoint) (trace : List ServerEvent) : Prop :=
  ∀ request inbound permitted served, ResolvedTo server trace request inbound permitted served →
    ∃ tried dials response reply, served = dials ++ reply ∧
      Tries server request.cmd tried dials ∧ Concludes inbound response reply ∧
      ∀ assigned, assigned.map Prod.fst = permitted → Agrees tried assigned →
        (GivesChances assigned tried response ↔ FirstSuffices request.cmd assigned)

theorem Obtains.unique {target : Address} {lookup lookup' served served' : List ServerEvent}
    {answer answer' : Timed (Except IoError (List SocketAddr))}
    (hleft : Obtains target lookup answer) (hright : Obtains target lookup' answer')
    (hsame : lookup ++ served = lookup' ++ served') : answer = answer' ∧ served = served' := by
  cases hleft with
  | ip addr =>
      cases hright with
      | ip => exact ⟨rfl, hsame⟩
  | name hlookup =>
      cases hright with
      | name hlookup' =>
          obtain ⟨rfl, hserved⟩ := List.cons.inj hsame
          cases hlookup.symm.trans hlookup'
          exact ⟨rfl, hserved⟩

theorem chances_of_entered {server : Endpoint} (hlawful : server.Lawful)
    {trace : List ServerEvent} (hentered : server.Entered trace) :
    ChancesWhenFirstSuffices server trace := by
  rintro request inbound _ served ⟨henters, htoken, hobtains⟩
  rcases hentered with hturned | ⟨request', inbound', rest, henters', result, hruns⟩
  · exact absurd henters hturned.not_enters
  · obtain ⟨rfl, rfl, rfl⟩ := henters.unique henters'
    obtain ⟨lookup, served', answer, hsplit, hobtains', hattends⟩ :=
      Endpoint.attends_of_handleRequest hlawful htoken hruns
    obtain ⟨rfl, rfl⟩ := hobtains.unique hobtains' hsplit
    obtain ⟨tried, dials, response, reply, hserved, htries, hconcludes, hattended⟩ :=
      hattends _ rfl
    exact ⟨tried, dials, response, reply, hserved, htries, hconcludes,
      fun assigned hassigned hagrees => hattended.givesChances_iff hassigned hagrees⟩

/-- In every session of either server, through any of the entries, every permitted
address has its chance exactly when the command is ConnectTcp, or no second address
is permitted, or the first one opens. -/
theorem chances_iff_first_suffices {Net : Type} [IpNetwork Net] :
    (∀ (cfg : VmConfig Net) trace result, Runs (Vm.handle cfg).run trace result →
      ChancesWhenFirstSuffices (Vm.endpoint cfg) trace) ∧
    ∀ (cfg : ServerConfig Net) trace, ProxyRun cfg trace →
      ChancesWhenFirstSuffices (Proxy.endpoint cfg) trace := by
  refine ⟨fun cfg trace result hruns => ?_, fun cfg trace hruns => ?_⟩
  · exact chances_of_entered (lawful_vm cfg) (Endpoint.entered_of_handleStream hruns)
  · rcases hruns with ⟨result, hruns⟩ | ⟨result, hruns⟩
    · exact chances_of_entered (lawful_proxy cfg) (Endpoint.entered_of_handleStream hruns)
    · exact chances_of_entered (lawful_proxy cfg) (entered_of_grpcOpen hruns)

/-! ## A host with addresses of both families -/

/-- `[2001:db8::1]:53`. -/
def unroutedAddr : SocketAddr :=
  .new (.v6 ⟨⟨[0x20, 1, 0xd, 0xb8, 0, 0, 0, 0, 0, 0, 0, 0, 0, 0, 0, 1], rfl⟩⟩) 53

/-- `198.51.100.7:53`. -/
def routedAddr : SocketAddr :=
  .new (.v4 ⟨⟨[198, 51, 100, 7], rfl⟩⟩) 53

/-- A request for a name that has both addresses, the one without a route first. -/
def dualStackRequest (cmd : Cmd) : Request :=
  ⟨cmd, "", .domain "dual.example" 53⟩

def openAgent : VmConfig IpNet :=
  .sample [] []

def dualStackLookup : List ServerEvent :=
  [⟨.lookupHost "dual.example" 53, .ok [unroutedAddr, routedAddr]⟩]

/-- The session that serves the request, from its first byte. -/
def dualStackTrace (cmd : Cmd) (served : List ServerEvent) : List ServerEvent :=
  ⟨.awaitRequest 10, .ready (.ok ((dualStackRequest cmd).buf ++ []))⟩ ::
    (dualStackLookup ++ served)

theorem encodable_dualStackRequest (cmd : Cmd) : (dualStackRequest cmd).Encodable := by
  simp only [Request.Encodable, dualStackRequest, Address.Encodable]
  decide

theorem runs_dualStack {cmd : Cmd} {served : List ServerEvent}
    (hserved : ((Vm.endpoint openAgent).serveResolved (dualStackRequest cmd) []
      [unroutedAddr, routedAddr]).run.follow served = some (.ok ())) :
    Runs (Vm.handle openAgent).run (dualStackTrace cmd served) (.ok ()) := by
  have htoken : tokenMatches (Vm.endpoint openAgent).token (dualStackRequest cmd).token = true :=
    tokenMatches_self _
  refine Endpoint.runs_handleStream_of_read
    (readFrom_buf (encodable_dualStackRequest cmd) []) ?_
  rw [Endpoint.handleRequest, if_pos htoken]
  exact runs_run_lift_bind_iff.mpr ⟨.ready (.ok [unroutedAddr, routedAddr]),
    dualStackLookup, served, rfl,
    runs_perform_bind_iff.mpr ⟨_, [], rfl, runs_pure_iff.mpr ⟨rfl, rfl⟩⟩,
    runs_of_follow hserved⟩

theorem resolved_dualStack (cmd : Cmd) (served : List ServerEvent) :
    ResolvedTo (Vm.endpoint openAgent) (dualStackTrace cmd served) (dualStackRequest cmd) []
      [unroutedAddr, routedAddr] served := by
  have henters : Enters (dualStackTrace cmd served) (dualStackRequest cmd) []
      (dualStackLookup ++ served) :=
    .stream (readFrom_buf (encodable_dualStackRequest cmd) [])
  have hobtains : Obtains (dualStackRequest cmd).target dualStackLookup
      (.ready (.ok [unroutedAddr, routedAddr])) := .name rfl
  have hallowed : (Vm.endpoint openAgent).allowed [unroutedAddr, routedAddr] =
      [unroutedAddr, routedAddr] := rfl
  exact hallowed ▸ .mk henters (tokenMatches_self _) hobtains

def noRoute : IoError :=
  ⟨.other, "Network is unreachable"⟩

/-- The TCP attempts: the second address opens. -/
def dualStackDials : List ServerEvent :=
  [⟨.tcpSocket false, .ok ()⟩, ⟨.tcpConnect 1000 unroutedAddr, .ready (.error noRoute)⟩,
    ⟨.tcpSocket true, .ok ()⟩, ⟨.tcpConnect 1000 routedAddr, .ready (.ok ())⟩]

/-- The reply of a TCP flow whose relay has nothing to do. -/
def dualStackFlow : List ServerEvent :=
  [⟨.send Response.ok.buf, .ok ()⟩, ⟨.flush, .ok ()⟩, ⟨.relayTcp none [], ⟨[], .ok ()⟩⟩,
    ⟨.upstreamShutdown, .ok ()⟩]

/-- The UDP attempt on the first address, and its refusal. -/
def dualStackAttempt : List ServerEvent :=
  [⟨.udpBind (.new (.v6 ⟨List.Vector.replicate 16 0⟩) 0), .ok ()⟩,
    ⟨.udpConnect unroutedAddr, .error noRoute⟩]

def dualStackFailure : SocketAddr × Opening :=
  (unroutedAddr, .error (.unreachable, "connect failed: Network is unreachable"))

def dualStackRefusal : Response :=
  .err .unreachable "connect failed: Network is unreachable"

/-- ConnectTcp gives both addresses their chance. -/
theorem chances_dualStack_sample :
    ∃ trace, Runs (Vm.handle openAgent).run trace (.ok ()) ∧
      ∃ tried dials response reply, dualStackDials ++ dualStackFlow = dials ++ reply ∧
        Tries (Vm.endpoint openAgent) .connectTcp tried dials ∧ Concludes [] response reply ∧
        ∀ assigned, assigned.map Prod.fst = [unroutedAddr, routedAddr] →
          Agrees tried assigned → GivesChances assigned tried response := by
  have hruns : Runs (Vm.handle openAgent).run
      (dualStackTrace .connectTcp (dualStackDials ++ dualStackFlow)) (.ok ()) :=
    runs_dualStack (by decide)
  obtain ⟨tried, dials, response, reply, hserved, htries, hconcludes, hiff⟩ :=
    chances_iff_first_suffices.1 openAgent _ _ hruns _ _ _ _ (resolved_dualStack _ _)
  exact ⟨_, hruns, tried, dials, response, reply, hserved, htries, hconcludes,
    fun assigned hassigned hagrees => (hiff assigned hassigned hagrees).mpr (.inl rfl)⟩

/-- BindUdp refuses a name after its first address, though the second would open. -/
theorem second_address_abandoned :
    ∃ dials reply, Runs (Vm.handle openAgent).run (dualStackTrace .bindUdp (dials ++ reply))
        (.ok ()) ∧
      ResolvedTo (Vm.endpoint openAgent) (dualStackTrace .bindUdp (dials ++ reply))
        (dualStackRequest .bindUdp) [] [unroutedAddr, routedAddr] (dials ++ reply) ∧
      Tries (Vm.endpoint openAgent) .bindUdp [dualStackFailure] dials ∧
      Concludes [] dualStackRefusal reply ∧
      Agrees [dualStackFailure] [dualStackFailure, (routedAddr, .ok ())] ∧
      ¬ GivesChances [dualStackFailure, (routedAddr, .ok ())] [dualStackFailure]
        dualStackRefusal := by
  have hreply : RepliesWith dualStackRefusal
      [⟨.send dualStackRefusal.buf, .ok ()⟩, ⟨.flush, .ok ()⟩] :=
    ⟨_, [_], rfl, by simp [ServerOp.isReplyEnd]⟩
  have hattempt : Runs ((Vm.endpoint openAgent).attempt .bindUdp unroutedAddr) dualStackAttempt
      (.error (.unreachable, "connect failed: Network is unreachable")) :=
    runs_of_follow (by decide)
  exact ⟨dualStackAttempt ++ [], [⟨.send dualStackRefusal.buf, .ok ()⟩, ⟨.flush, .ok ()⟩],
    runs_dualStack (by decide), resolved_dualStack _ _, .cons hattempt .nil,
    .inr ⟨by decide, hreply⟩, by simp +contextual [Agrees], not_givesChances_abandoned rfl⟩

end VpnBridge.Server
