import SwitchLanPlay.Sysmodule.Rewriter

/-! The UDP side of the bridge: LDN datagrams that `ldn_mitm` mirrors to the bridge port are
rewritten, wrapped in IP and UDP headers and given to the relay client.
-/

namespace SwitchLanPlay.Sysmodule

open List
open Foundation
open LdnMitm

def ldnGamePort : Nat := 11452

def ldnBridgePort : Nat := 11453

def buildIpUdp (maxOut : Nat) (srcIp dstIp : UInt32) (sport dport : Nat) (payload : Bytes)
    : Option Bytes :=
  let total := 20 + 8 + payload.length
  if maxOut < total then none
  else
    some ([0x45, 0x00] ++ be16 total ++ [0, 0, 0x40, 0, 64, 17, 0, 0] ++ be32 srcIp.toNat
      ++ be32 dstIp.toNat ++ be16 sport ++ be16 dport ++ be16 (8 + payload.length) ++ [0, 0]
      ++ payload)

/-- The payload stands behind the 28 octets of both headers. -/
theorem buildIpUdp_payload {maxOut : Nat} {srcIp dstIp : UInt32} {sport dport : Nat}
    {payload : Bytes} (fits : 28 + payload.length ≤ maxOut)
    : ∃ packet,
        buildIpUdp maxOut srcIp dstIp sport dport payload = some packet
        ∧ packet.drop 28 = payload := by
  refine ⟨_, if_neg (Nat.not_lt_of_le fits), ?_⟩
  exact drop_left' rfl

def Addresses.refreshWifiIp (addresses : Addresses) (current : Option UInt32) : Addresses :=
  { addresses with wifiIp := current.getD addresses.wifiIp }

/-- What `ldn_bridge_udp_thread_fn` does with one datagram: the packet it passes to
`lan_client_send_ipv4`, if any, for the broadcast address of the virtual subnet.
-/
def captureLdn (addresses : Addresses) (current : Option UInt32) (datagram : Bytes)
    : Addresses × Option Bytes :=
  let data := datagram.take 2048
  if data.length < ldnHeaderSize then (addresses, none)
  else if (readLANPacketHeader data).magic ≠ ldnMagic then (addresses, none)
  else
    let addresses := if addresses.wifiIp = 0 then addresses.refreshWifiIp current else addresses
    let rewritten := rewriteIps addresses true data
    (addresses,
      buildIpUdp (2048 + 28) addresses.virtualIp 0x0A0DFFFF ldnGamePort ldnGamePort rewritten)

/-- The addresses a captured packet is rewritten with: an unknown WiFi address is asked for. -/
def Addresses.known (addresses : Addresses) (current : Option UInt32) : Addresses :=
  if addresses.wifiIp = 0 then addresses.refreshWifiIp current else addresses

/-- A captured packet is the rewritten datagram behind the two headers. -/
theorem captureLdn_eq (addresses : Addresses) (current : Option UInt32) {datagram : Bytes}
    (long : ldnHeaderSize ≤ (datagram.take 2048).length)
    (magic : (readLANPacketHeader (datagram.take 2048)).magic = ldnMagic)
    : ∃ packet,
        captureLdn addresses current datagram = (addresses.known current, some packet)
        ∧ buildIpUdp (2048 + 28) (addresses.known current).virtualIp 0x0A0DFFFF ldnGamePort
            ldnGamePort (rewriteIps (addresses.known current) true (datagram.take 2048))
          = some packet
        ∧ packet.drop 28 = rewriteIps (addresses.known current) true (datagram.take 2048) := by
  have fits : 28 + (rewriteIps (addresses.known current) true (datagram.take 2048)).length
      ≤ 2048 + 28 := by
    rw [rewriteIps_length, length_take]
    omega
  obtain ⟨packet, built, payload⟩ := buildIpUdp_payload fits
  refine ⟨packet, ?_, built, payload⟩
  rw [← built]
  unfold captureLdn
  simp only [if_neg (Nat.not_lt_of_le long), magic, ne_eq, not_true_eq_false, if_false]
  rfl

/-- While the WiFi address is known, a captured packet is the rewritten datagram behind the
two headers.
-/
theorem captureLdn_packet {addresses : Addresses} (known : addresses.wifiIp ≠ 0)
    (current : Option UInt32) {datagram : Bytes} (isPacket : IsPacket datagram)
    (fits : datagram.length ≤ 2048)
    : ∃ packet,
        (captureLdn addresses current datagram).2 = some packet
        ∧ packet.drop 28 = rewriteIps addresses true datagram := by
  have whole : datagram.take 2048 = datagram := take_of_length_le fits
  have same : addresses.known current = addresses := if_neg known
  obtain ⟨packet, captured, _, payload⟩ := captureLdn_eq addresses current
    (by rw [whole]; exact isPacket.headerSize_le) (by rw [whole]; exact isPacket.magic)
  rw [same, whole] at payload
  exact ⟨packet, by rw [captured], payload⟩

/-- The counted nodes of the rewritten record are the replaced ones. -/
theorem Addresses.virtualize_take (addresses : Addresses) (info : NetworkInfo)
    : (addresses.virtualize info).ldn.nodes.take info.ldn.nodeCount.toNat
      = (info.ldn.nodes.take info.ldn.nodeCount.toNat).map addresses.replace := by
  have nodes : (addresses.virtualize info).ldn.nodes
      = (info.ldn.nodes.take info.ldn.nodeCount.toNat).map addresses.replace
        ++ info.ldn.nodes.drop info.ldn.nodeCount.toNat := rfl
  rw [nodes]
  rcases Nat.le_total info.ldn.nodeCount.toNat info.ldn.nodes.length with within | beyond
  · exact take_left' (by rw [length_map, length_take, Nat.min_eq_left within])
  · rw [drop_of_length_le beyond, append_nil, ← map_take, take_take,
      Nat.min_self]

/-- No counted node keeps the WiFi address once it is replaced by another one. -/
theorem Addresses.virtualize_counted {addresses : Addresses} (known : addresses.wifiIp ≠ 0)
    (other : addresses.wifiIp ≠ addresses.virtualIp) (info : NetworkInfo)
    : ∀ node ∈ (addresses.virtualize info).ldn.nodes.take info.ldn.nodeCount.toNat,
        node.ipv4Address ≠ addresses.wifiIp := by
  intro node member
  rw [addresses.virtualize_take] at member
  obtain ⟨original, _, rfl⟩ := mem_map.mp member
  unfold replace
  split
  · exact other.symm
  · rename_i kept
    exact fun same => kept ⟨same, known⟩

/-- A record that fits the buffers also in encoded form. -/
theorem sendPacket_networkInfo_fits (type : LANPacketType) (info : NetworkInfo)
    : info.toBytes.length ≤ LdnMitm.bufferSize ∧ (sendPacket type info.toBytes).length ≤ 2048 := by
  have small : info.toBytes.length ≤ LdnMitm.bufferSize := by
    rw [NetworkInfo.toBytes_length]
    decide
  have length := (sendPacket_spec type small).2.1
  rw [NetworkInfo.toBytes_length] at length
  exact ⟨small, length.trans (by decide)⟩

/-- A `ScanResp` in compressed form is passed on as it is. -/
theorem captureLdn_compressed {addresses : Addresses} (known : addresses.wifiIp ≠ 0)
    (current : Option UInt32) {info : NetworkInfo}
    (form : compress info.toBytes info.toBytes.length ≠ none)
    : ∃ packet,
        (captureLdn addresses current (sendPacket .scanResp info.toBytes)).2 = some packet
        ∧ packet.drop 28 = sendPacket .scanResp info.toBytes
        ∧ LanSocket.empty.recvPacket (.ok (packet.drop 28))
          = (.empty, .callback LANPacketType.scanResp.toByte info.toBytes) := by
  obtain ⟨small, fits⟩ := sendPacket_networkInfo_fits .scanResp info
  have width : info.toBytes.length < 65536 := small.trans_lt (by decide)
  have one : (1 : UInt8) ≠ 0 := by decide
  obtain ⟨isPacket, _, decodes⟩ := sendPacket_spec .scanResp small
  rcases sendPacket_cases .scanResp width with ⟨compressed, done, sent⟩ | ⟨raw, _⟩
  · obtain ⟨_, read⟩ := isPacket_append
      ⟨lanMagic, LANPacketType.scanResp.toByte, 1, compressed.length, info.toBytes.length⟩
      compressed rfl rfl ((compress_spec done).1.trans_lt width) width
    rw [← sent] at read
    have unchanged : rewriteIps addresses true (sendPacket .scanResp info.toBytes)
        = sendPacket .scanResp info.toBytes :=
      rewriteIps_compressed addresses true (by rw [read]; exact one)
    obtain ⟨packet, captured, payload⟩ := captureLdn_packet known current isPacket fits
    rw [unchanged] at payload
    refine ⟨packet, captured, payload, ?_⟩
    rw [payload, recvPacket_whole isPacket fits, decodes]
  · rcases raw with empty | failed
    · have length := info.toBytes_length
      rw [empty] at length
      cases length
    · exact absurd failed form

/-- A `ScanResp` in uncompressed form reaches the remote console with its counted nodes
replaced.
-/
theorem captureLdn_raw {addresses : Addresses} (known : addresses.wifiIp ≠ 0)
    (current : Option UInt32) {info : NetworkInfo}
    (form : compress info.toBytes info.toBytes.length = none)
    : ∃ packet,
        (captureLdn addresses current (sendPacket .scanResp info.toBytes)).2 = some packet
        ∧ LanSocket.empty.recvPacket (.ok (packet.drop 28))
          = (.empty, .callback LANPacketType.scanResp.toByte
              (addresses.virtualize info).toBytes) := by
  obtain ⟨small, fits⟩ := sendPacket_networkInfo_fits .scanResp info
  have width : info.toBytes.length < 65536 := small.trans_lt (by decide)
  have zero : 0 < 65536 := by decide
  obtain ⟨isPacket, _, _⟩ := sendPacket_spec .scanResp small
  rcases sendPacket_cases .scanResp width with ⟨compressed, done, _⟩ | ⟨_, sent⟩
  · rw [form] at done
    cases done
  · rw [NetworkInfo.toBytes_length] at sent
    have lengths : (addresses.virtualize info).toBytes.length = 1152 := NetworkInfo.toBytes_length _
    obtain ⟨_, read⟩ := isPacket_append
      ⟨lanMagic, LANPacketType.scanResp.toByte, 0, 1152, 0⟩ info.toBytes rfl
      info.toBytes_length.symm width zero
    obtain ⟨rewrittenPacket, readRewritten⟩ := isPacket_append
      ⟨lanMagic, LANPacketType.scanResp.toByte, 0, 1152, 0⟩
      (addresses.virtualize info).toBytes rfl lengths.symm (by rw [lengths]; decide) zero
    have rewritten := rewriteIps_networkInfo addresses info read rfl rfl (Or.inl rfl)
    rw [← sent] at rewritten
    have rewrittenFits : ((⟨lanMagic, LANPacketType.scanResp.toByte, 0, 1152, 0⟩
        : LANPacketHeader).toBytes ++ (addresses.virtualize info).toBytes).length ≤ 2048 := by
      rw [length_append, lengths]
      decide
    obtain ⟨packet, captured, payload⟩ := captureLdn_packet known current isPacket fits
    refine ⟨packet, captured, ?_⟩
    rw [payload, rewritten, recvPacket_whole rewrittenPacket rewrittenFits,
      decodePacket_append readRewritten]
    rfl

/-- What the bridge makes of a `ScanResp`. In the uncompressed form every counted node with
the WiFi address reaches the remote console with the virtual address instead; the compressed
form is passed on unchanged.
-/
theorem captureLdn_scanResp {addresses : Addresses} (known : addresses.wifiIp ≠ 0)
    (other : addresses.wifiIp ≠ addresses.virtualIp) (current : Option UInt32)
    (info : NetworkInfo)
    : ∃ packet,
        (captureLdn addresses current (sendPacket .scanResp info.toBytes)).2 = some packet
        ∧ (compress info.toBytes info.toBytes.length = none
          → LanSocket.empty.recvPacket (.ok (packet.drop 28))
              = (.empty, .callback LANPacketType.scanResp.toByte
                  (addresses.virtualize info).toBytes)
            ∧ ∀ node ∈ (addresses.virtualize info).ldn.nodes.take info.ldn.nodeCount.toNat,
                node.ipv4Address ≠ addresses.wifiIp)
        ∧ (compress info.toBytes info.toBytes.length ≠ none
          → packet.drop 28 = sendPacket .scanResp info.toBytes
            ∧ LanSocket.empty.recvPacket (.ok (packet.drop 28))
              = (.empty, .callback LANPacketType.scanResp.toByte info.toBytes)) := by
  by_cases form : compress info.toBytes info.toBytes.length = none
  · obtain ⟨packet, captured, decoded⟩ := captureLdn_raw known current form
    exact ⟨packet, captured, fun _ => ⟨decoded, addresses.virtualize_counted known other info⟩,
      fun compressed => absurd form compressed⟩
  · obtain ⟨packet, captured, unchanged, decoded⟩ := captureLdn_compressed known current form
    exact ⟨packet, captured, fun raw => absurd raw form, fun _ => ⟨unchanged, decoded⟩⟩

def sampleAddresses : Addresses := ⟨0xC0A80102, 0x0A0D0002⟩

def sampleLobby : NetworkInfo := NetworkInfo.zero.hostedBy sampleAddresses.wifiIp

theorem sampleLobby_compresses
    : compress sampleLobby.toBytes sampleLobby.toBytes.length ≠ none := by
  rw [NetworkInfo.toBytes_length]
  decide +kernel

theorem captureLdn_scanResp_sampleLobby
    : ∃ packet,
        (captureLdn sampleAddresses none (sendPacket .scanResp sampleLobby.toBytes)).2
          = some packet
        ∧ packet.drop 28 = sendPacket .scanResp sampleLobby.toBytes := by
  have known : sampleAddresses.wifiIp ≠ 0 := by decide
  have other : sampleAddresses.wifiIp ≠ sampleAddresses.virtualIp := by decide
  obtain ⟨packet, captured, _, compressed⟩ :=
    captureLdn_scanResp known other none sampleLobby
  exact ⟨packet, captured, (compressed sampleLobby_compresses).1⟩

/-- The host's WiFi address reaches the remote console, since `sendPacket` compresses the
mostly empty record.
-/
theorem captureLdn_leaks_wifiIp
    : ∃ packet,
        (captureLdn sampleAddresses none (sendPacket .scanResp sampleLobby.toBytes)).2
          = some packet
        ∧ LanSocket.empty.recvPacket (.ok (packet.drop 28))
          = (.empty, .callback LANPacketType.scanResp.toByte sampleLobby.toBytes)
        ∧ ∃ node ∈ sampleLobby.ldn.nodes.take sampleLobby.ldn.nodeCount.toNat,
            node.ipv4Address = sampleAddresses.wifiIp := by
  have known : sampleAddresses.wifiIp ≠ 0 := by decide
  obtain ⟨packet, captured, _, decoded⟩ :=
    captureLdn_compressed known none sampleLobby_compresses
  exact ⟨packet, captured, decoded, _, .head _, rfl⟩

end SwitchLanPlay.Sysmodule
