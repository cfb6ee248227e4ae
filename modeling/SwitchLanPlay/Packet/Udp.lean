import SwitchLanPlay.Packet.Checksum

/-! UDP datagrams as they are sent and parsed (`udp.c`), through the IPv4 and Ethernet headers in
front of them.
-/

namespace SwitchLanPlay.Packet

open List
open Foundation

def udpOffSrcport : Nat := 0
def udpOffDstport : Nat := 2
def udpOffLength : Nat := 4
def udpOffChecksum : Nat := 6
def udpOffEnd : Nat := 8

structure Udp where
  srcport : Nat
  dstport : Nat
  length : Nat
  checksum : Nat
  payload : Memory

def parseUdp (ipv4 : Ipv4) : Udp :=
  let packet := ipv4.payload.read udpOffEnd
  {
    srcport := readBe16 packet udpOffSrcport
    dstport := readBe16 packet udpOffDstport
    length := readBe16 packet udpOffLength
    checksum := readBe16 packet udpOffChecksum
    payload := ipv4.payload.shift udpOffEnd
  }

def udpHeader (srcport dstport length checksum : Nat) : Bytes :=
  be16 srcport ++ be16 dstport ++ be16 length ++ be16 checksum

def pseudoHeader (src dst : Ipv4Addr) (length : Nat) : Bytes :=
  src.toBytes ++ dst.toBytes ++ [0, UInt8.ofNat ipv4ProtocolUdp] ++ be16 length

/-- What `send_ipv4_ex` returns when it has sent some frames: `false` without an ARP entry, -1 for a
packet that does not fit the buffer, and otherwise what `lan_play_send_packet` returns.
-/
def sendIpv4Code (ctx : PacketCtx) (now : Nat) (dst : Ipv4Addr) (frames : List Bytes) (sent : Int)
    : Int :=
  match (arpGetMacByIp ctx now dst).1 with
  | none => 0
  | some _ => if frames = [] then -1 else sent

/-- `send_udp_ex`: the context afterwards, the frames sent and the value returned; nothing when the
checksum is read from outside of a part.
-/
def sendUdpEx (ctx : PacketCtx) (now : Nat) (src : Ipv4Addr) (srcport : Nat) (dst : Ipv4Addr)
    (dstport : Nat) (payload : List Bytes) (sent : Int)
    : Option (PacketCtx × List Bytes × Int) :=
  let length := (udpOffEnd + payloadTotalLen payload) % 65536
  (calcPayloadChecksum?
      (pseudoHeader src dst length :: udpHeader srcport dstport length 0 :: payload)).map
    (fun checksum =>
      let outcome :=
        sendIpv4Ex ctx now src dst ipv4ProtocolUdp
          (udpHeader srcport dstport length checksum :: payload)
      (outcome.1, outcome.2, sendIpv4Code ctx now dst outcome.2 sent))

-- Headers in memory

theorem parseEther_write (base : Memory) (dst src : MacAddr) (type : Nat) (rest : Bytes)
    : parseEther (base.write 0 (etherHeader dst src type ++ rest))
      = ⟨dst, src, type % 65536, (base.shift etherHeaderLen).write 0 rest⟩ := by
  have header := base.read_write_append (etherHeader dst src type) rest
  have behind := base.shift_write_append (etherHeader dst src type) rest
  have read := readBe16_etherHeader_append dst src type []
  rw [etherHeader_length] at header behind
  rw [append_nil] at read
  simp only [parseEther, header, read]
  exact congrArg _ behind

theorem parseIpv4_write (base : Memory) (dstMac srcMac : MacAddr)
    (type totalLen identification protocol checksum : Nat) (src dst : Ipv4Addr) (rest : Bytes)
    : parseIpv4
        ⟨dstMac, srcMac, type,
          base.write 0 (ipv4Header totalLen identification protocol checksum src dst ++ rest)⟩
      = ⟨4, ipv4HeaderLen, totalLen % 65536, protocol % 256, src, dst,
          (base.shift ipv4HeaderLen).write 0 rest⟩ := by
  generalize whole : ipv4Header totalLen identification protocol checksum src dst = header
  have length : header.length = ipv4HeaderLen := whole ▸ rfl
  have read := base.read_write_append header rest
  have behind := base.shift_write_append header rest
  have first : readU8 header ipv4OffVerLen = 0x45 := whole ▸ rfl
  have total : readBe16 header ipv4OffTotalLen = totalLen % 65536 := by
    rw [← whole]
    simp only [ipv4Header, append_assoc]
    exact readBe16_field (rfl : [0x45, 0x00].length = 2) totalLen _
  have kind : readU8 header ipv4OffProtocol = protocol % 256 := by
    rw [← whole]
    exact UInt8.toNat_ofNat'
  have source : readIpv4 header ipv4OffSrc = src := whole ▸ rfl
  have destination : readIpv4 header ipv4OffDst = dst := whole ▸ rfl
  rw [length] at read behind
  simp only [parseIpv4, read, first, total, kind, source, destination]
  exact congrArg _ behind

theorem readBe16_udpHeader (srcport dstport length checksum : Nat) (rest : Bytes)
    : readBe16 (udpHeader srcport dstport length checksum ++ rest) udpOffSrcport = srcport % 65536
      ∧ readBe16 (udpHeader srcport dstport length checksum ++ rest) udpOffDstport = dstport % 65536
      ∧ readBe16 (udpHeader srcport dstport length checksum ++ rest) udpOffLength = length % 65536
      ∧ readBe16 (udpHeader srcport dstport length checksum ++ rest) udpOffChecksum
        = checksum % 65536 := by
  have third : (be16 srcport ++ be16 dstport).length = udpOffLength := rfl
  have fourth : (be16 srcport ++ be16 dstport ++ be16 length).length = udpOffChecksum := rfl
  have length := readBe16_field third length (be16 checksum ++ rest)
  have checksum := readBe16_field fourth checksum rest
  simp only [udpHeader, append_assoc] at length checksum ⊢
  exact ⟨readBe16_be16_append srcport _, readBe16_field (be16_length srcport) dstport _, length,
    checksum⟩

theorem parseUdp_write (base : Memory) (version headerLen totalLen protocol : Nat)
    (src dst : Ipv4Addr) (srcport dstport length checksum : Nat) (rest : Bytes)
    : parseUdp
        ⟨version, headerLen, totalLen, protocol, src, dst,
          base.write 0 (udpHeader srcport dstport length checksum ++ rest)⟩
      = ⟨srcport % 65536, dstport % 65536, length % 65536, checksum % 65536,
          (base.shift udpOffEnd).write 0 rest⟩ := by
  have read := base.read_write_append (udpHeader srcport dstport length checksum) rest
  have behind := base.shift_write_append (udpHeader srcport dstport length checksum) rest
  have size : (udpHeader srcport dstport length checksum).length = udpOffEnd := rfl
  rw [size] at read behind
  obtain ⟨first, second, third, fourth⟩ := readBe16_udpHeader srcport dstport length checksum []
  rw [append_nil] at first second third fourth
  simp only [parseUdp, read, behind, first, second, third, fourth]

-- The round trip

/-- What is parsed is a datagram with its addresses, ports and octets, the sizes in the headers are
those of the datagram, and the sums are all ones.
-/
structure CarriesUdp (dstMac srcMac : MacAddr) (src dst : Ipv4Addr) (srcport dstport : Nat)
    (payload : Bytes) (ether : EtherFrame) (ipv4 : Ipv4) (udp : Udp)
    : Prop where
  macs : (ether.dst, ether.src, ether.type) = (dstMac, srcMac, etherTypeIpv4)
  header : (ipv4.version, ipv4.headerLen, ipv4.protocol) = (4, ipv4HeaderLen, ipv4ProtocolUdp)
  addresses : (ipv4.src, ipv4.dst) = (src, dst)
  totalLen : ipv4.totalLen = ipv4HeaderLen + udpOffEnd + payload.length
  ports : (udp.srcport, udp.dstport) = (srcport, dstport)
  length : udp.length = udpOffEnd + payload.length
  payload : udp.payload.read payload.length = payload
  headerSum : onesSum (ether.payload.read ipv4HeaderLen) = 0xffff
  udpSum
    : onesSum (pseudoHeader ipv4.src ipv4.dst udp.length ++ ipv4.payload.read udp.length) = 0xffff

theorem ipv4Header_length (totalLen identification protocol checksum : Nat) (src dst : Ipv4Addr)
    : (ipv4Header totalLen identification protocol checksum src dst).length = ipv4HeaderLen := rfl

/-- The header that `send_ipv4_ex` writes verifies. -/
theorem onesSum_ipv4Header (totalLen identification protocol : Nat) (src dst : Ipv4Addr)
    : onesSum
        (ipv4Header totalLen identification protocol
          (calcChecksum (ipv4Header totalLen identification protocol 0 src dst)) src dst)
      = 0xffff := by
  have split (checksum : Nat)
      : ipv4Header totalLen identification protocol checksum src dst
        = ([0x45, 0x00] ++ be16 totalLen ++ be16 identification ++ be16 0
            ++ [128, UInt8.ofNat protocol])
          ++ (be16 checksum ++ (src.toBytes ++ dst.toBytes)) := by
    simp only [ipv4Header, append_assoc]
  rw [split, split 0]
  exact (onesSum_calcChecksum_iff (by simp) _).mpr (oddOctet_of_even (by simp))

/-- The checksum that `send_udp_ex` computes for one part, and that it verifies. -/
theorem calcPayloadChecksum?_udp (src dst : Ipv4Addr) (srcport dstport length : Nat)
    {payload : Bytes} (short : payload.length ≤ 65535)
    : ∃ checksum,
        calcPayloadChecksum?
            [pseudoHeader src dst length, udpHeader srcport dstport length 0, payload]
          = some checksum
        ∧ onesSum
            (pseudoHeader src dst length ++ (udpHeader srcport dstport length checksum ++ payload))
          = 0xffff := by
  have split (checksum : Nat)
      : pseudoHeader src dst length ++ (udpHeader srcport dstport length checksum ++ payload)
        = (pseudoHeader src dst length ++ (be16 srcport ++ be16 dstport ++ be16 length))
          ++ (be16 checksum ++ payload) := by
    simp only [udpHeader, append_assoc]
  have paired
      : Paired [pseudoHeader src dst length, udpHeader srcport dstport length 0, payload] := by
    simp [Paired, pseudoHeader, udpHeader]
  refine ⟨_, calcPayloadChecksum?_of_paired paired ?_, ?_⟩
  · simp [pseudoHeader, udpHeader]
    omega
  · simp only [flatten_cons, flatten_nil, append_nil]
    rw [split, split 0]
    exact onesSum_internetChecksum (by simp [pseudoHeader]) _

/-- A frame that was sent, in memory. -/
theorem carriesUdp_frame (memory : Memory) (dstMac srcMac : MacAddr) (src dst : Ipv4Addr)
    (srcport dstport : UInt16) (identification : Nat) {payload : Bytes} {length checksum : Nat}
    (size : length = udpOffEnd + payload.length) (short : length < 65516)
    (verifies
      : onesSum
          (pseudoHeader src dst length
            ++ (udpHeader srcport.toNat dstport.toNat length checksum ++ payload))
        = 0xffff)
    {frame : Bytes}
    (sent
      : frame
        = etherHeader dstMac srcMac etherTypeIpv4
          ++ (ipv4Header (ipv4HeaderLen + length) identification ipv4ProtocolUdp
                (calcChecksum
                  (ipv4Header (ipv4HeaderLen + length) identification ipv4ProtocolUdp 0 src dst))
                src dst
            ++ (udpHeader srcport.toNat dstport.toNat length checksum ++ payload)))
    (stored : memory.read frame.length = frame)
    : CarriesUdp dstMac srcMac src dst srcport.toNat dstport.toNat payload (parseEther memory)
        (parseIpv4 (parseEther memory)) (parseUdp (parseIpv4 (parseEther memory))) := by
  have written : memory = memory.write 0 frame := by
    rw [← stored, memory.write_read]
  have srcBound := srcport.toNat_lt
  have dstBound := dstport.toNat_lt
  have whole : (ipv4HeaderLen + length) % 65536 = ipv4HeaderLen + length := by
    unfold ipv4HeaderLen
    omega
  have part : length % 65536 = length := by omega
  have octets
      : length = (udpHeader srcport.toNat dstport.toNat length checksum ++ payload).length := by
    rw [length_append]
    exact size
  rw [written, sent, parseEther_write, parseIpv4_write, parseUdp_write, whole, part,
    Nat.mod_eq_of_lt srcBound, Nat.mod_eq_of_lt dstBound]
  constructor
  · rfl
  · rfl
  · rfl
  · rw [size, Nat.add_assoc]
  · rfl
  · exact size
  · exact (Memory.read_write _ le_rfl).trans (take_length)
  · exact (congrArg onesSum (Memory.read_write_append _ _ _)).trans (onesSum_ipv4Header _ _ _ _ _)
  · dsimp only
    rw [Memory.read_write _ octets.le, take_of_length_le octets.ge]
    exact verifies

/-- `send_ipv4_ex` with an ARP entry for the destination. -/
theorem sendIpv4Ex_of_live {ctx : PacketCtx} {now : Nat} {dst : Ipv4Addr} {item : ArpItem}
    (live : findLease ctx.arpList now dst = some item) (src : Ipv4Addr) (protocol : Nat)
    (payload : List Bytes)
    : (sendIpv4Ex ctx now src dst protocol payload).2
      = if etherHeaderLen + (ipv4HeaderLen + payload.flatten.length) < ctx.bufferLen then
          [etherHeader item.value ctx.mac etherTypeIpv4
            ++ (ipv4Header (ipv4HeaderLen + payloadTotalLen payload) ctx.identification protocol
                  (calcChecksum
                    (ipv4Header (ipv4HeaderLen + payloadTotalLen payload) ctx.identification
                      protocol 0 src dst))
                  src dst
              ++ payload.flatten)]
        else [] := by
  have found (identification : Nat)
      : arpGetMacByIp { ctx with identification := identification } now dst
        = (some item.value, []) := by
    simp only [arpGetMacByIp, live]
  unfold sendIpv4Ex
  dsimp only
  rw [found]
  dsimp only
  rw [sendEther_eq_ite, flatten_cons, length_append, nil_append,
    ipv4Header_length, apply_ite Option.toList]
  rfl

/-- A datagram in one part that fits the buffer of 2048 octets arrives as it was sent, and a longer
one is not sent and returns -1.
-/
theorem sendUdpEx_roundTrip (ctx : PacketCtx) (now : Nat) (src dst : Ipv4Addr)
    (srcport dstport : UInt16) (payload : Bytes) (sent : Int) {item : ArpItem}
    (buffer : ctx.bufferLen = 2048) (live : findLease ctx.arpList now dst = some item)
    (width : payload.length ≤ 65535)
    : (14 + 20 + 8 + payload.length < 2048
        → ∃ next frame,
            sendUdpEx ctx now src srcport.toNat dst dstport.toNat [payload] sent
              = some (next, [frame], sent)
            ∧ frame.length = 14 + 20 + 8 + payload.length
            ∧ ∀ memory : Memory,
                memory.read frame.length = frame
                → CarriesUdp item.value ctx.mac src dst srcport.toNat dstport.toNat payload
                    (parseEther memory) (parseIpv4 (parseEther memory))
                    (parseUdp (parseIpv4 (parseEther memory))))
      ∧ (2048 ≤ 14 + 20 + 8 + payload.length
        → ∃ next,
            sendUdpEx ctx now src srcport.toNat dst dstport.toNat [payload] sent
              = some (next, [], -1)) := by
  generalize size : (udpOffEnd + payloadTotalLen [payload]) % 65536 = length
  obtain ⟨checksum, computed, verifies⟩ :=
    calcPayloadChecksum?_udp src dst srcport.toNat dstport.toNat length width
  have frames := sendIpv4Ex_of_live live src ipv4ProtocolUdp
    [udpHeader srcport.toNat dstport.toNat length checksum, payload]
  have known : (arpGetMacByIp ctx now dst).1 = some item.value := by
    simp only [arpGetMacByIp, live]
  have parts
      : ([udpHeader srcport.toNat dstport.toNat length checksum, payload].flatten).length
        = 8 + payload.length := by
    simp [udpHeader]
    omega
  have outcome
      : sendUdpEx ctx now src srcport.toNat dst dstport.toNat [payload] sent
        = some
            ((sendIpv4Ex ctx now src dst ipv4ProtocolUdp
                [udpHeader srcport.toNat dstport.toNat length checksum, payload]).1,
              (sendIpv4Ex ctx now src dst ipv4ProtocolUdp
                [udpHeader srcport.toNat dstport.toNat length checksum, payload]).2,
              if (sendIpv4Ex ctx now src dst ipv4ProtocolUdp
                  [udpHeader srcport.toNat dstport.toNat length checksum, payload]).2 = [] then -1
              else sent) := by
    unfold sendUdpEx sendIpv4Code
    rw [size]
    dsimp only
    rw [computed, known]
    rfl
  rw [outcome, frames, parts, buffer]
  constructor
  · intro fits
    have whole : length = udpOffEnd + payload.length := by
      rw [← size]
      simp only [payloadTotalLen, udpOffEnd, List.map_cons, List.map_nil, List.sum_cons,
        List.sum_nil]
      omega
    have total : payloadTotalLen
          [udpHeader srcport.toNat dstport.toNat length checksum, payload] = length := by
      have header : (udpHeader srcport.toNat dstport.toNat length checksum).length = 8 := rfl
      simp only [payloadTotalLen, List.map_cons, List.map_nil, List.sum_cons, List.sum_nil]
      rw [header]
      unfold udpOffEnd at whole
      omega
    rw [if_pos (by unfold etherHeaderLen ipv4HeaderLen; omega), total]
    refine ⟨_, _, by rw [if_neg (List.cons_ne_nil _ _)], ?_, ?_⟩
    · rw [List.length_append, List.length_append, parts, etherHeader_length, ipv4Header_length]
      unfold etherHeaderLen ipv4HeaderLen
      omega
    · intro memory stored
      refine carriesUdp_frame memory item.value ctx.mac src dst srcport dstport
        ctx.identification whole (by unfold udpOffEnd at whole; omega) verifies ?_ stored
      simp only [List.flatten_cons, List.flatten_nil, List.append_nil]
  · intro long
    rw [if_neg (by unfold etherHeaderLen ipv4HeaderLen; omega), if_pos rfl]
    exact ⟨_, rfl⟩

theorem sendUdpEx_roundTrip_threeOctets
    : ∃ next frame,
        sendUdpEx
            { packetInit 2048 ⟨10, 13, 37, 1⟩ ⟨10, 13, 0, 0⟩ ⟨255, 255, 0, 0⟩ 30 with
              arpList := fun _ => ⟨⟨10, 13, 1, 2⟩, ⟨2, 0, 0, 0, 0, 9⟩, 50⟩ }
            40 ⟨8, 8, 8, 8⟩ 53 ⟨10, 13, 1, 2⟩ 4000 [[1, 2, 3]] 45
          = some (next, [frame], 45)
        ∧ frame.length = 45 := by
  have live
      : findLease
          (fun _ : Fin arpCacheLen => (⟨⟨10, 13, 1, 2⟩, ⟨2, 0, 0, 0, 0, 9⟩, 50⟩ : ArpItem)) 40
          ⟨10, 13, 1, 2⟩
        = some ⟨⟨10, 13, 1, 2⟩, ⟨2, 0, 0, 0, 0, 9⟩, 50⟩ := by
    decide +kernel
  obtain ⟨next, frame, outcome, size, -⟩ :=
    (sendUdpEx_roundTrip
        { packetInit 2048 ⟨10, 13, 37, 1⟩ ⟨10, 13, 0, 0⟩ ⟨255, 255, 0, 0⟩ 30 with
          arpList := fun _ => ⟨⟨10, 13, 1, 2⟩, ⟨2, 0, 0, 0, 0, 9⟩, 50⟩ }
        40 ⟨8, 8, 8, 8⟩ ⟨10, 13, 1, 2⟩ 53 4000 [1, 2, 3] 45 rfl live (by decide)).1 (by decide)
  exact ⟨next, frame, outcome, size⟩

end SwitchLanPlay.Packet
