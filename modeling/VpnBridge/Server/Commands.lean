import VpnBridge.Core.Pool
import VpnBridge.Server.Authentication

/-!
# The sockets of a command

A TCP request is served with TCP sockets and a TCP relay, a UDP request with UDP sockets and
a UDP relay, whatever the answers are.
-/

namespace VpnBridge.Server

open VpnBridge.Interaction VpnBridge.Net VpnBridge.Proto

/-- The operation is on a socket of the command's kind, or on none. -/
def Suits (cmd : Cmd) : ServerOp → Prop
  | .tcpSocket _ => cmd = .connectTcp
  | .tcpBind _ => cmd = .connectTcp
  | .tcpConnect _ _ => cmd = .connectTcp
  | .relayTcp _ _ => cmd = .connectTcp
  | .udpBind _ => cmd = .bindUdp
  | .udpConnect _ => cmd = .bindUdp
  | .relayUdp _ _ => cmd = .bindUdp
  | _ => True

variable {cmd : Cmd}

theorem within_send {bytes : List UInt8} :
    (AsyncWrite.writeAll bytes : Handler Unit).run.Within (Suits cmd) :=
  within_perform trivial

theorem within_writeTo (response : Response) :
    (response.writeTo : Handler Unit).run.Within (Suits cmd) :=
  within_run_bind within_send fun _ => within_perform trivial

theorem within_refuse (status : Status) (message : String) :
    (refuse status message).run.Within (Suits cmd) :=
  within_writeTo _

theorem within_relayTcp (idleSecs : Option ℕ) (inbound : List UInt8) :
    (relayTcp idleSecs inbound).run.Within (Suits .connectTcp) :=
  within_bind (within_perform rfl) fun _ => within_pure _

theorem within_relayUdp (idleSecs : ℕ) (inbound : List UInt8) :
    (relayUdp idleSecs inbound).run.Within (Suits .bindUdp) :=
  within_bind (within_perform rfl) fun _ => within_pure _

namespace Endpoint

/-- The parts in which the servers differ keep to the sockets of the command. -/
structure Suited (server : Endpoint) : Prop where
  rejects : ∀ cmd status message, (server.reject status message).run.Within (Suits cmd)
  looksUp : ∀ cmd host port, (server.lookup host port).Within (Suits cmd)
  relaysTcp : ∀ inbound, (server.relayTcp inbound).run.Within (Suits .connectTcp)
  relaysUdp : ∀ inbound, (server.relayUdp inbound).run.Within (Suits .bindUdp)

variable {server : Endpoint}

theorem within_bindSource (addr : SocketAddr) :
    (server.bindSource addr).Within (Suits .connectTcp) := by
  rw [bindSource]
  split
  · split
    · exact within_perform rfl
    · exact within_pure _
  · exact within_pure _

theorem within_dialTcp (addr : SocketAddr) :
    (server.dialTcp addr).Within (Suits .connectTcp) := by
  refine within_bind (within_perform rfl) fun opened => ?_
  cases opened with
  | error failure => exact within_pure _
  | ok socket =>
      refine within_bind (within_bindSource addr) fun bound => ?_
      cases bound with
      | error failure => exact within_pure _
      | ok source => exact within_perform rfl

theorem within_dialCandidates (candidates : List SocketAddr) (lastError : Option String) :
    (server.dialCandidates candidates lastError).Within (Suits .connectTcp) := by
  induction candidates generalizing lastError with
  | nil => exact within_pure _
  | cons candidate candidates ih =>
      refine within_bind (within_dialTcp candidate) fun dialed => ?_
      cases dialed with
      | elapsed => exact ih _
      | ready outcome =>
          cases outcome with
          | error failure => exact ih _
          | ok connected => exact within_pure _

theorem within_serveTcp (hsuited : server.Suited) (inbound : List UInt8)
    (candidates : List SocketAddr) :
    (server.serveTcp inbound candidates).run.Within (Suits .connectTcp) := by
  refine within_run_bind (within_run_lift (within_dialCandidates candidates none))
    fun dialed => ?_
  cases dialed with
  | error lastError => exact hsuited.rejects _ _ _
  | ok peer => exact within_run_bind (within_writeTo _) fun _ => hsuited.relaysTcp inbound

theorem within_serveUdp (hsuited : server.Suited) (inbound : List UInt8) (addr : SocketAddr) :
    (server.serveUdp inbound addr).run.Within (Suits .bindUdp) := by
  refine within_run_bind (within_run_lift (within_perform rfl)) fun bound => ?_
  cases bound with
  | error failure => exact hsuited.rejects _ _ _
  | ok socket =>
      refine within_run_bind (within_run_lift (within_perform rfl)) fun connected => ?_
      cases connected with
      | error failure => exact hsuited.rejects _ _ _
      | ok peer => exact within_run_bind (within_writeTo _) fun _ => hsuited.relaysUdp inbound

theorem within_serveResolved (hsuited : server.Suited) (request : Request)
    (inbound : List UInt8) (candidates : List SocketAddr) :
    (server.serveResolved request inbound candidates).run.Within (Suits request.cmd) := by
  rw [serveResolved]
  split
  · exact hsuited.rejects _ _ _
  · split
    next hcmd => exact hcmd ▸ within_serveTcp hsuited inbound _
    next hcmd => exact hcmd ▸ within_serveUdp hsuited inbound _

theorem within_handleRequest (hsuited : server.Suited) (request : Request)
    (inbound : List UInt8) :
    (server.handleRequest request inbound).run.Within (Suits request.cmd) := by
  rw [handleRequest]
  split
  · have hresolve : (server.resolve request.target).Within (Suits request.cmd) := by
      cases request.target with
      | ip addr => exact within_pure _
      | domain host port => exact hsuited.looksUp _ _ _
    refine within_run_bind (within_run_lift hresolve) fun answer => ?_
    split
    · exact hsuited.rejects _ _ _
    · exact within_serveResolved hsuited request inbound _
    · exact hsuited.rejects _ _ _
    · exact hsuited.rejects _ _ _
  · exact hsuited.rejects _ _ _

/-- A session keeps to the sockets of the command that it has read. -/
theorem suits_of_entered (hsuited : server.Suited) {trace rest : List ServerEvent}
    {request : Request} {inbound : List UInt8} (hentered : server.Entered trace)
    (henters : Enters trace request inbound rest) :
    ∀ event ∈ trace, Suits request.cmd event.1 := by
  rcases hentered with hturned | ⟨request', inbound', rest', henters', result, hruns⟩
  · exact absurd henters hturned.not_enters
  · obtain ⟨rfl, rfl, rfl⟩ := henters.unique henters'
    have hrest := hruns.within (within_handleRequest hsuited request inbound)
    cases henters with
    | stream => exact List.forall_mem_cons.mpr ⟨trivial, hrest⟩
    | frame =>
        exact List.forall_mem_cons.mpr ⟨trivial, List.forall_mem_cons.mpr ⟨trivial, hrest⟩⟩

end Endpoint

section Servers

variable {Net : Type} [IpNetwork Net]

theorem suited_vm (cfg : VmConfig Net) : (Vm.endpoint cfg).Suited where
  rejects _ := within_refuse
  looksUp _ _ _ := within_bind (within_perform trivial) fun _ => within_pure _
  relaysTcp inbound := within_run_bind (within_relayTcp none inbound) fun _ =>
    within_run_bind (within_run_lift (within_perform trivial)) fun _ => within_pure _
  relaysUdp inbound := within_relayUdp _ inbound

theorem suited_proxy (cfg : ServerConfig Net) : (Proxy.endpoint cfg).Suited where
  rejects _ status message :=
    within_run_bind (within_refuse status message) fun _ => within_perform trivial
  looksUp _ _ _ := within_perform trivial
  relaysTcp inbound := within_relayTcp _ inbound
  relaysUdp inbound := within_relayUdp _ inbound

end Servers

end VpnBridge.Server
