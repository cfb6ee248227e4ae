import SwitchLanPlay.LdnMitm.NetworkInfo
import SwitchLanPlay.LdnMitm.Protocol

/-! `LANDiscovery::connect`: how a station of `ldn_mitm` reaches the host of a network. -/

namespace SwitchLanPlay.LdnMitm

open Foundation

structure ConnectCalls where
  initTcp : Except Nat Unit
  connected : Bool
  getNodeInfo : Except Nat NodeInfo
  sent : Bool

structure Connection where
  address : UInt32
  port : Nat
  written : Bytes
deriving DecidableEq, Repr

def NetworkInfo.host (info : NetworkInfo) : NodeInfo := info.ldn.nodes.headD .zero

def listenPort : Nat := 11452

def viaRelay (hostIp : UInt32) : Bool := hostIp &&& 0xFFFF0000 = 0x0A0D0000

/-- The endpoint `connect` chooses: hosts of the virtual subnet are reached through the proxy
of the bridge on 127.0.0.1:11453.
-/
def route (hostIp : UInt32) : UInt32 × Nat :=
  if viaRelay hostIp then (0x7f000001, 11453) else (hostIp, listenPort)

/-- `LANDiscovery::connect`; the errors of its own are given by their description. -/
def connect (calls : ConnectCalls) (networkInfo : NetworkInfo) : Except Nat Connection := do
  if networkInfo.ldn.nodeCount = 0 then throw 30
  let hostIp := networkInfo.host.ipv4Address
  calls.initTcp
  if ¬ calls.connected then throw 31
  let myNode ← calls.getNodeInfo
  if ¬ calls.sent then throw 32
  return ⟨(route hostIp).1, (route hostIp).2, sendPacket .connect myNode.toBytes⟩

/-- What a successful `connect` has done. -/
theorem connect_ok {calls : ConnectCalls} {networkInfo : NetworkInfo} {connection : Connection}
    (done : connect calls networkInfo = .ok connection)
    : ∃ myNode,
        calls.getNodeInfo = .ok myNode
        ∧ connection.written = sendPacket .connect myNode.toBytes
        ∧ (connection.address, connection.port) = route networkInfo.host.ipv4Address := by
  obtain ⟨initTcp, connected, getNodeInfo, sent⟩ := calls
  by_cases empty : networkInfo.ldn.nodeCount = 0
  · rw [connect, if_pos empty] at done
    cases done
  · rw [connect, if_neg empty] at done
    cases initTcp with
    | error code => cases done
    | ok _ =>
      cases connected with
      | false => cases done
      | true =>
        cases getNodeInfo with
        | error code => cases done
        | ok myNode =>
          cases sent with
          | false => cases done
          | true =>
            cases done
            exact ⟨myNode, rfl, rfl, rfl⟩

end SwitchLanPlay.LdnMitm
