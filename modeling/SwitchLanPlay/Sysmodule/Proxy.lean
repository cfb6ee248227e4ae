import SwitchLanPlay.LdnMitm.Discovery
import SwitchLanPlay.Sysmodule.Bridge

/-! The TCP side of the bridge: the proxy reads the address of the remote console from the
connection before it tunnels the stream.
-/

namespace SwitchLanPlay.Sysmodule

open Foundation
open LdnMitm

/-- `ldn_bridge_tcp_thread_fn` on an accepted connection: the address it reads first, with
`MSG_WAITALL`, and the octets left for the session thread. A stream that ends before four
octets is closed.
-/
def readTarget (stream : Bytes) : Option (UInt32 × Bytes) :=
  if stream.length < 4 then none
  else some (UInt32.ofNat (readBe32 stream 0), stream.drop 4)

/-- What `tcp_session_thread_fn` passes to `lan_client_send_ipv4` for one chunk that `recv`
returned.
-/
def sessionPacket (addresses : Addresses) (targetIp : UInt32) (chunk : Bytes) : Option Bytes :=
  buildIpUdp (2048 + 28) addresses.virtualIp targetIp ldnBridgePort ldnGamePort
    (rewriteIps addresses true chunk)

/-- A chunk that fills at most one buffer is sent, rewritten, behind the two headers. -/
theorem sessionPacket_payload (addresses : Addresses) (targetIp : UInt32) {chunk : Bytes}
    (fits : chunk.length ≤ 2048)
    : ∃ packet,
        sessionPacket addresses targetIp chunk = some packet
        ∧ packet.drop 28 = rewriteIps addresses true chunk := by
  have room : 28 + (rewriteIps addresses true chunk).length ≤ 2048 + 28 := by
    rw [rewriteIps_length]
    omega
  exact buildIpUdp_payload room

/-- The magic number of a packet, read as a big-endian address. -/
theorem readTarget_header {header : LANPacketHeader} (magic : header.magic = lanMagic)
    (body : Bytes)
    : readTarget (header.toBytes ++ body)
      = some (0x00144511, (header.toBytes ++ body).drop 4) := by
  have long : ¬ (header.toBytes ++ body).length < 4 := by
    rw [List.length_append, LANPacketHeader.toBytes_length, headerSize]
    omega
  have value : readBe32 (header.toBytes ++ body) 0 = 0x00144511 := by
    simp only [LANPacketHeader.toBytes, magic, readBe32, readBe16, le32, le16,
      List.cons_append, List.nil_append, readU8_cons_zero, Nat.zero_add, readU8_cons_succ,
      Nat.reduceAdd, UInt8.toNat_ofNat', lanMagic]
  rw [readTarget, if_neg long, value]
  rfl

theorem readTarget_sendPacket (type : LANPacketType) {data : Bytes}
    (width : data.length < 65536)
    : readTarget (sendPacket type data) = some (0x00144511, (sendPacket type data).drop 4) := by
  rcases sendPacket_cases type width with ⟨compressed, _, sent⟩ | ⟨_, sent⟩
  · rw [sent]
    exact readTarget_header rfl compressed
  · rw [sent]
    exact readTarget_header rfl data

/-- The two sides never agree on the preamble. For every host of the virtual subnet, what a
successful `connect` writes to the proxy is read as an address that is not the host's, and
what is left for the session is not the `Connect` packet.
-/
theorem connect_preamble_mismatch {calls : ConnectCalls} {networkInfo : NetworkInfo}
    (virtual : viaRelay networkInfo.host.ipv4Address = true) {connection : Connection}
    (done : connect calls networkInfo = .ok connection)
    : (connection.address, connection.port) = (0x7f000001, ldnBridgePort)
      ∧ ∃ myNode target rest,
          calls.getNodeInfo = .ok myNode
          ∧ readTarget connection.written = some (target, rest)
          ∧ target ≠ networkInfo.host.ipv4Address
          ∧ rest ≠ sendPacket .connect myNode.toBytes := by
  obtain ⟨myNode, node, written, routed⟩ := connect_ok done
  have width : myNode.toBytes.length < 65536 := by
    rw [NodeInfo.toBytes_length]
    decide
  have read := readTarget_sendPacket .connect width
  refine ⟨?_, myNode, _, _, node, by rw [written, read], ?_, ?_⟩
  · rw [routed, route, if_pos virtual]
    rfl
  · intro same
    rw [← same] at virtual
    exact absurd virtual (by decide)
  · intro same
    have lengths := congrArg List.length same
    have small : myNode.toBytes.length ≤ LdnMitm.bufferSize := by
      rw [NodeInfo.toBytes_length]
      decide
    have minimum := (sendPacket_spec .connect small).1.headerSize_le
    rw [List.length_drop] at lengths
    simp only [headerSize] at minimum
    omega

def sampleCalls : ConnectCalls := ⟨.ok (), true, .ok .zero, true⟩

def relayedLobby : NetworkInfo := NetworkInfo.zero.hostedBy 0x0A0D0001

theorem connect_preamble_mismatch_relayedLobby
    : ∃ connection target rest,
        connect sampleCalls relayedLobby = .ok connection
        ∧ readTarget connection.written = some (target, rest)
        ∧ target ≠ relayedLobby.host.ipv4Address
        ∧ rest ≠ sendPacket .connect NodeInfo.zero.toBytes := by
  have done : connect sampleCalls relayedLobby
      = .ok ⟨0x7f000001, 11453, sendPacket .connect NodeInfo.zero.toBytes⟩ := rfl
  obtain ⟨_, myNode, target, rest, node, read, differs, cut⟩ :=
    connect_preamble_mismatch (by decide) done
  cases node
  exact ⟨_, target, rest, done, read, differs, cut⟩

/-- Connecting to the host 10.13.0.1, the proxy reads the address 0.20.69.17. -/
theorem connect_reads_magic
    : ∃ connection rest,
        connect sampleCalls relayedLobby = .ok connection
        ∧ relayedLobby.host.ipv4Address = 0x0A0D0001
        ∧ readTarget connection.written = some (0x00144511, rest)
        ∧ rest ≠ sendPacket .connect NodeInfo.zero.toBytes := by
  have width : NodeInfo.zero.toBytes.length < 65536 := by
    rw [NodeInfo.toBytes_length]
    decide
  refine ⟨⟨0x7f000001, 11453, sendPacket .connect NodeInfo.zero.toBytes⟩,
    (sendPacket .connect NodeInfo.zero.toBytes).drop 4, rfl, rfl, ?_, ?_⟩
  · exact readTarget_sendPacket .connect width
  · decide +kernel

end SwitchLanPlay.Sysmodule
