import VpnBridge.Grpc.Delivery
import VpnBridge.Proto.RequestCodec
import VpnBridge.Server.HandlerRuns

/-!
# The two entries of the proxy server

A call and a QUIC stream lead to the same handler.  The QUIC entry hands it the
stream behind the request; the gRPC entry reads the request from the first frame
alone and feeds the handler the later ones, so that bytes behind the request in
the first frame are lost.
-/

namespace VpnBridge.Grpc

open VpnBridge.BoundedQueue VpnBridge.Interaction VpnBridge.Net VpnBridge.Proto VpnBridge.Server
open VpnBridge.TransitionSystem

variable {Net : Type} [IpNetwork Net] {cfg : ServerConfig Net}
variable {first : TunnelFrame} {later : List TunnelFrame} {request : Request}
variable {inbound stream : List UInt8} {served : List ServerEvent}

/-- A call whose messages are these frames, up to the start of the handler and with what
the handler then does. -/
def openTrace (first : TunnelFrame) (later : List TunnelFrame) (served : List ServerEvent) :
    List ServerEvent :=
  ⟨.firstMessage Proxy.requestTimeoutSecs, .ready (.ok (some first))⟩ ::
    ⟨.spawnPumps, later⟩ :: served

/-- A QUIC stream that carries these bytes, and what the handler then does. -/
def streamTrace (stream : List UInt8) (served : List ServerEvent) : List ServerEvent :=
  ⟨.awaitRequest Proxy.requestTimeoutSecs, .ready (.ok stream)⟩ :: served

/-- What the server can do with a call that carries these frames. -/
def ServesCall (cfg : ServerConfig Net) (first : TunnelFrame) (later : List TunnelFrame)
    (served : List ServerEvent) : Prop :=
  ∃ result, Runs (Proxy.grpcOpen cfg).run (openTrace first later served) result

/-- What it can do with a QUIC stream that carries these bytes. -/
def ServesStream (cfg : ServerConfig Net) (stream : List UInt8) (served : List ServerEvent) :
    Prop :=
  ∃ result, Runs (Proxy.handleStream cfg).run (streamTrace stream served) result

/-- Whatever comes after the first frame, it is answered with an error and nothing else. -/
def RejectsCall (cfg : ServerConfig Net) (first : TunnelFrame) : Prop :=
  ∀ rest result, Runs (Proxy.grpcOpen cfg).run
    (⟨.firstMessage Proxy.requestTimeoutSecs, .ready (.ok (some first))⟩ :: rest) result →
      rest = [] ∧ ∃ status, result = .error status

/-- The pump of a call with these later frames lets the handler read `inbound`, in order,
and tells it of the end only behind the last byte. -/
def Pumps (later : List TunnelFrame) (inbound : List UInt8) : Prop :=
  ∀ ending trace half,
    Execution (Inbound.deliver GrpcProxy.shutsDownOnError ⟨later, ending⟩) .start trace half →
      half.pipe.passed <+: inbound ∧ (half.sawEof = true → half.pipe.passed = inbound)

/-- With every configuration, a call is rejected or served in just the ways in which a QUIC
stream with the bytes of its frames is, the bytes that the handler relays included; and
these are the bytes that the pump brings. -/
structure EntriesAgree (Net : Type) [IpNetwork Net] (first : TunnelFrame)
    (later : List TunnelFrame) : Prop where
  served : ∀ cfg : ServerConfig Net, RejectsCall cfg first ∨
    ∀ served, ServesCall cfg first later served ↔
      ServesStream cfg ((first :: later).flatMap TunnelFrame.payload) served
  pumped : ∀ (cfg : ServerConfig Net) served, ServesCall cfg first later served →
    ∀ event ∈ served, ∀ inbound, event.1.inbound = some inbound → Pumps later inbound

/-- Behind the request of the first frame, the handler is given the later frames. -/
theorem servesCall_iff {leftover : List UInt8}
    (hread : Request.readFrom.run first.payload = .ok (request, leftover)) :
    ServesCall cfg first later served ↔
      ∃ result, Runs (Proxy.handleRequest cfg request
        (later.flatMap TunnelFrame.payload)).run served result := by
  constructor
  · rintro ⟨result, hruns⟩
    rcases entered_of_grpcOpen hruns with hturned | ⟨other, bytes, rest, henters, hserved⟩
    · cases hturned
    · cases henters with
      | frame hread' =>
          cases hread.symm.trans hread'
          exact hserved
  · rintro ⟨result, hruns⟩
    exact ⟨.ok (), runs_grpcOpen_of_read hread hruns⟩

/-- Behind the request of a stream, the handler is given the rest of the stream. -/
theorem servesStream_iff (hread : Request.readFrom.run stream = .ok (request, inbound)) :
    ServesStream cfg stream served ↔
      ∃ result, Runs (Proxy.handleRequest cfg request inbound).run served result := by
  constructor
  · rintro ⟨result, hruns⟩
    rcases Endpoint.entered_of_handleStream hruns with
      hturned | ⟨other, bytes, rest, henters, hserved⟩
    · cases hturned with
      | stream hunread =>
          obtain ⟨failure, herror⟩ := hunread stream rfl
          cases hread.symm.trans herror
    · cases henters with
      | stream hread' =>
          cases hread.symm.trans hread'
          exact hserved
  · rintro ⟨result, hruns⟩
    exact ⟨result, Endpoint.runs_handleStream_of_read hread hruns⟩

theorem relaysOnly_of_runs {trace : List ServerEvent} {result : Except IoError Unit}
    (hruns : Runs (Proxy.handleRequest cfg request inbound).run trace result) :
    RelaysOnly inbound trace := by
  obtain ⟨response, hhandled⟩ := Endpoint.handled_of_runs (lawful_proxy cfg) hruns
  exact .of_handled hhandled

/-- A call with a request in its first frame is not rejected. -/
theorem not_rejectsCall {leftover : List UInt8}
    (hread : Request.readFrom.run first.payload = .ok (request, leftover)) :
    ¬ RejectsCall cfg first := by
  intro hrejects
  obtain ⟨trace, result, hruns, -⟩ := exists_runs (fun _ => default)
    (Proxy.handleRequest cfg request (([] : List TunnelFrame).flatMap TunnelFrame.payload)).run
  cases (hrejects _ _ (runs_grpcOpen_of_read hread hruns)).1

theorem pumps_payloads (later : List TunnelFrame) :
    Pumps later (later.flatMap TunnelFrame.payload) := by
  intro ending trace half hrun
  have hfollows := Inbound.follows_of_run hrun
  exact ⟨hfollows.read_isPrefix, fun heof => (hfollows.read_eq heof).1⟩

/-- What the QUIC entry makes of the bytes of a call that the gRPC entry accepts. -/
theorem readFrom_frames {leftover : List UInt8} (later : List TunnelFrame)
    (haccepts : Request.readFrom.run first.payload = .ok (request, leftover)) :
    first.payload = request.buf ++ leftover ∧
      Request.readFrom.run ((first :: later).flatMap TunnelFrame.payload) =
        .ok (request, leftover ++ later.flatMap TunnelFrame.payload) := by
  obtain ⟨consumed, hpayload, hreads⟩ := framed_request _ _ _ haccepts
  obtain ⟨-, rfl⟩ := reads_request_iff.mp hreads
  refine ⟨hpayload, ?_⟩
  rw [List.flatMap_cons, hpayload, List.append_assoc]
  exact hreads _

/-- A server with the token of a request and no policy. -/
def admitting (Net : Type) (token : String) : ServerConfig Net :=
  { ServerConfig.sample [] [] with token }

/-- Where the entries agree, nothing is left of the first frame: a server that admits the
request could relay what follows it on the stream, and the call has to relay that too. -/
theorem EntriesAgree.leftover_eq_nil {leftover : List UInt8}
    (hagree : EntriesAgree Net first later)
    (haccepts : Request.readFrom.run first.payload = .ok (request, leftover)) :
    leftover = [] := by
  obtain ⟨trace, result, hruns, event, hmem, hevent⟩ :=
    exists_runs_relayed (admitting Net request.token) (fun ip => rfl) rfl
      (leftover ++ later.flatMap TunnelFrame.payload)
  have hstream := (servesStream_iff (readFrom_frames later haccepts).2).mpr ⟨result, hruns⟩
  have hcall := ((hagree.served _).resolve_left (not_rejectsCall haccepts) trace).mpr hstream
  obtain ⟨outcome, hruns'⟩ := (servesCall_iff haccepts).mp hcall
  exact List.self_eq_append_left.mp (relaysOnly_of_runs hruns' event hmem _ hevent).symm

theorem entriesAgree_of_exact (Net : Type) [IpNetwork Net] (later : List TunnelFrame)
    (haccepts : Request.readFrom.run first.payload = .ok (request, [])) :
    EntriesAgree Net first later where
  served cfg := by
    refine .inr fun served => ?_
    rw [servesCall_iff haccepts, servesStream_iff (readFrom_frames later haccepts).2]
    rfl
  pumped cfg served hcall event hmem inbound hinbound := by
    obtain ⟨result, hruns⟩ := (servesCall_iff haccepts).mp hcall
    rw [relaysOnly_of_runs hruns event hmem inbound hinbound]
    exact pumps_payloads later

/-- The two entries agree on a call exactly when its first frame is a request and nothing
else. -/
theorem entries_agree_iff {leftover : List UInt8}
    (haccepts : Request.readFrom.run first.payload = .ok (request, leftover)) :
    EntriesAgree Net first later ↔ first.payload = request.buf := by
  obtain ⟨hpayload, -⟩ := readFrom_frames later haccepts
  constructor
  · intro hagree
    rw [hpayload, hagree.leftover_eq_nil haccepts, List.append_nil]
  · intro hexact
    have hleftover : leftover = [] := List.self_eq_append_right.mp (hexact.symm.trans hpayload)
    subst hleftover
    exact entriesAgree_of_exact Net later haccepts

/-- A request for port 80 of a host behind the server. -/
def sampleRequest : Request := ⟨.connectTcp, "test-token", .domain "vm.test" 80⟩

theorem encodable_sampleRequest : sampleRequest.Encodable := by
  refine ⟨by decide, ?_⟩
  simp only [sampleRequest, Address.Encodable]
  decide

/-- The request comes alone, as from the client of this repository. -/
theorem entries_agree_sample :
    EntriesAgree IpNet ⟨sampleRequest.buf ++ []⟩ [⟨[1, 2, 3]⟩] :=
  (entries_agree_iff (readFrom_buf encodable_sampleRequest [])).mpr (List.append_nil _)

/-- The first byte of the flow comes with the request, and is lost. -/
theorem entries_disagree :
    Request.readFrom.run (sampleRequest.buf ++ [1]) = .ok (sampleRequest, [1]) ∧
      ¬ EntriesAgree IpNet ⟨sampleRequest.buf ++ [1]⟩ [] := by
  have haccepts := readFrom_buf encodable_sampleRequest [1]
  refine ⟨haccepts, fun hagree => ?_⟩
  cases hagree.leftover_eq_nil haccepts

end VpnBridge.Grpc
