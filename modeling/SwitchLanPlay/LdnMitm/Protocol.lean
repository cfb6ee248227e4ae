import SwitchLanPlay.LdnMitm.Codec

/-! The LDN packet format and `LanSocket`: what `sendPacket` writes and what one call of
`recvPacket` makes of the octets that arrive.
-/

namespace SwitchLanPlay.LdnMitm

open List
open Foundation

inductive LANPacketType where
  | scan
  | scanResp
  | connect
  | syncNetwork
deriving DecidableEq, Repr

def LANPacketType.toByte : LANPacketType → UInt8
  | .scan => 0
  | .scanResp => 1
  | .connect => 2
  | .syncNetwork => 3

def lanMagic : Nat := 0x11451400

def headerSize : Nat := 12

def bufferSize : Nat := 2048

/-- `LANPacketHeader`; the two reserved octets are written as zeros and never read. -/
structure LANPacketHeader where
  magic : Nat
  type : UInt8
  compressed : UInt8
  length : Nat
  decompressLength : Nat
deriving DecidableEq, Repr

def LANPacketHeader.toBytes (header : LANPacketHeader) : Bytes :=
  le32 header.magic ++ [header.type, header.compressed] ++ le16 header.length
    ++ le16 header.decompressLength ++ [0, 0]

def readLANPacketHeader (packet : Bytes) : LANPacketHeader where
  magic := readLe32 packet 0
  type := packet.getD 4 0
  compressed := packet.getD 5 0
  length := readLe16 packet 6
  decompressLength := readLe16 packet 8

@[simp] theorem LANPacketHeader.toBytes_length (header : LANPacketHeader)
    : header.toBytes.length = headerSize := rfl

/-- A header whose fields fit their widths reads back. -/
theorem readLANPacketHeader_toBytes_append {header : LANPacketHeader}
    (magic : header.magic < 4294967296) (length : header.length < 65536)
    (decompressLength : header.decompressLength < 65536) (rest : Bytes)
    : readLANPacketHeader (header.toBytes ++ rest) = header := by
  obtain ⟨magicValue, type, compressed, lengthValue, decompressValue⟩ := header
  simp only at magic length decompressLength
  simp only [readLANPacketHeader, LANPacketHeader.mk.injEq]
  refine ⟨?_, rfl, rfl, ?_, ?_⟩
  all_goals
    simp [LANPacketHeader.toBytes, le32, le16, readLe32, readLe16, readU8]
    omega

/-- Reading the header looks at no octet behind it. -/
theorem readLANPacketHeader_take (packet : Bytes)
    : readLANPacketHeader (packet.take headerSize) = readLANPacketHeader packet := by
  simp [readLANPacketHeader, readLe32, readLe16, readU8, headerSize]

def prepareHeader (type : LANPacketType) : LANPacketHeader := ⟨lanMagic, type.toByte, 0, 0, 0⟩

/-- The octets `LanSocket::sendPacket` passes to `sendto`. The length fields are 16 bits
wide, and the length field decides how much of the buffer is sent.
-/
def sendPacket (type : LANPacketType) (data : Bytes) : Bytes :=
  let header := { prepareHeader type with length := data.length % 65536 }
  match data, compress data data.length with
  | [], _ => header.toBytes.take (header.length + headerSize)
  | _ :: _, some compressed =>
    let header :=
      {
        header with
        decompressLength := header.length
        length := compressed.length % 65536
        compressed := 1
      }
    (header.toBytes ++ compressed).take (header.length + headerSize)
  | _ :: _, none => (header.toBytes ++ data).take (header.length + headerSize)

@[ext] structure LanSocket where
  buffer : Bytes
  bounded : buffer.length ≤ bufferSize

def LanSocket.empty : LanSocket := ⟨[], Nat.zero_le _⟩

def LanSocket.space (socket : LanSocket) : Nat := bufferSize - socket.buffer.length

def LanSocket.fill (socket : LanSocket) (arrived : Bytes) : LanSocket :=
  ⟨socket.buffer ++ arrived.take socket.space, by
    have bounded := socket.bounded
    simp only [length_append, length_take, LanSocket.space]
    omega⟩

def LanSocket.discard (socket : LanSocket) (total : Nat) : LanSocket :=
  ⟨socket.buffer.drop total, by
    have bounded := socket.bounded
    simp only [length_drop]
    omega⟩

/-- `LanSocket::recvPartPacket` for a `recvfrom` that succeeds, with the packet if one is
complete.
-/
def LanSocket.recvPartPacket (socket : LanSocket) (arrived : Bytes) : LanSocket × Option Bytes :=
  let filled := socket.fill arrived
  let header := readLANPacketHeader filled.buffer
  let total := headerSize + header.length
  if arrived.take socket.space = [] then (socket, none)
  else if filled.buffer.length < headerSize then (filled, none)
  else if header.magic ≠ lanMagic then (.empty, none)
  else if bufferSize < total then (.empty, none)
  else if filled.buffer.length < total then (filled, none)
  else (filled.discard total, some (filled.buffer.take total))

/-- How a call of `recvPacket` ends: with a return value of its own, or by calling the
callback with a type and a body.
-/
inductive Outcome where
  | returned (code : Int)
  | callback (type : UInt8) (body : Bytes)
deriving DecidableEq, Repr

def decodePacket (packet : Bytes) : Outcome :=
  let header := readLANPacketHeader packet
  let body := packet.drop headerSize
  if header.compressed ≠ 0 then
    match decompress body bufferSize with
    | none => .returned (-1)
    | some out =>
      if out.length ≠ header.decompressLength then .returned (-1)
      else .callback header.type out
  else .callback header.type body

/-- `LanSocket::recvPacket`; a failed `recvfrom` is returned as it is. -/
def LanSocket.recvPacket (socket : LanSocket) (arrived : Except Int Bytes)
    : LanSocket × Outcome :=
  match arrived with
  | .error code => (socket, .returned code)
  | .ok data =>
    let (socket, packet) := socket.recvPartPacket data
    (socket, packet.elim (.returned 0) decodePacket)

-- What sendPacket writes is a packet that decodes

/-- A well-formed packet: the magic number in front, and as long as its header says. -/
structure IsPacket (packet : Bytes) : Prop where
  magic : (readLANPacketHeader packet).magic = lanMagic
  length : packet.length = headerSize + (readLANPacketHeader packet).length

theorem IsPacket.headerSize_le {packet : Bytes} (isPacket : IsPacket packet)
    : headerSize ≤ packet.length := by
  rw [isPacket.length]
  exact Nat.le_add_right _ _

theorem IsPacket.ne_nil {packet : Bytes} (isPacket : IsPacket packet) : packet ≠ [] := by
  rintro rfl
  exact absurd isPacket.headerSize_le (by decide)

/-- A header with the right magic number and length makes a packet of its body. -/
theorem isPacket_append (header : LANPacketHeader) (body : Bytes)
    (magic : header.magic = lanMagic) (length : header.length = body.length)
    (width : body.length < 65536) (decompressLength : header.decompressLength < 65536)
    : IsPacket (header.toBytes ++ body) ∧ readLANPacketHeader (header.toBytes ++ body) = header
      := by
  have read : readLANPacketHeader (header.toBytes ++ body) = header :=
    readLANPacketHeader_toBytes_append (by rw [magic]; decide) (by omega) decompressLength body
  refine ⟨⟨by rw [read, magic], ?_⟩, read⟩
  rw [read, length, length_append, LANPacketHeader.toBytes_length]

theorem decodePacket_append {header : LANPacketHeader} {body : Bytes}
    (read : readLANPacketHeader (header.toBytes ++ body) = header)
    : decodePacket (header.toBytes ++ body)
      = if header.compressed ≠ 0 then
          match decompress body bufferSize with
          | none => .returned (-1)
          | some out =>
            if out.length ≠ header.decompressLength then .returned (-1)
            else .callback header.type out
        else .callback header.type body := by
  have behind : (header.toBytes ++ body).drop headerSize = body := by
    rw [← LANPacketHeader.toBytes_length header, drop_left]
  simp only [decodePacket, read, behind]

/-- The two forms of a packet with data of 16-bit length. -/
theorem sendPacket_cases (type : LANPacketType) {data : Bytes} (width : data.length < 65536)
    : (∃ compressed,
        compress data data.length = some compressed
        ∧ sendPacket type data
          = (⟨lanMagic, type.toByte, 1, compressed.length, data.length⟩
              : LANPacketHeader).toBytes ++ compressed)
      ∨ ((data = [] ∨ compress data data.length = none)
        ∧ sendPacket type data
          = (⟨lanMagic, type.toByte, 0, data.length, 0⟩ : LANPacketHeader).toBytes ++ data) := by
  have sizeEq : data.length % 65536 = data.length := Nat.mod_eq_of_lt width
  have whole (header : LANPacketHeader) (body : Bytes)
      : (header.toBytes ++ body).take (body.length + headerSize) = header.toBytes ++ body :=
    take_of_length_le (by simp [Nat.add_comm])
  unfold sendPacket
  split
  · exact Or.inr ⟨Or.inl rfl, rfl⟩
  · rename_i _ compressed done
    have bound := (compress_spec done).1
    have lengthEq : compressed.length % 65536 = compressed.length := Nat.mod_eq_of_lt (by omega)
    refine Or.inl ⟨compressed, done, ?_⟩
    simp only [prepareHeader, sizeEq, lengthEq, whole]
  · rename_i failed
    refine Or.inr ⟨Or.inr failed, ?_⟩
    simp only [prepareHeader, sizeEq, whole]

/-- `sendPacket` writes a packet no longer than header and data, which decodes to the type
and the data, whenever the data fits the receiver's buffer.
-/
theorem sendPacket_spec (type : LANPacketType) {data : Bytes}
    (small : data.length ≤ bufferSize)
    : IsPacket (sendPacket type data)
      ∧ (sendPacket type data).length ≤ headerSize + data.length
      ∧ decodePacket (sendPacket type data) = .callback type.toByte data := by
  have width : data.length < 65536 := Nat.lt_of_le_of_lt small (by decide)
  have zero : 0 < 65536 := by decide
  rcases sendPacket_cases type width with ⟨compressed, done, sent⟩ | ⟨_, sent⟩
  · have bound := (compress_spec done).1
    obtain ⟨packet, read⟩ := isPacket_append
      ⟨lanMagic, type.toByte, 1, compressed.length, data.length⟩ compressed rfl rfl
      (bound.trans_lt width) width
    rw [sent, decodePacket_append read]
    refine ⟨packet, by simpa using bound, ?_⟩
    simp [decompress_compress done small]
  · obtain ⟨packet, read⟩ := isPacket_append ⟨lanMagic, type.toByte, 0, data.length, 0⟩ data
      rfl rfl width zero
    rw [sent, decodePacket_append read]
    exact ⟨packet, by simp, rfl⟩

-- Receiving a packet

/-- While the buffered octets are the front of a stream that starts with a packet, a call of
`recvPartPacket` collects octets until the packet is there, and then removes exactly it.
-/
theorem LanSocket.recvPartPacket_spec {socket : LanSocket} {chunk packet rest : Bytes}
    (isPacket : IsPacket packet) (fits : packet.length ≤ bufferSize) (some_ : chunk ≠ [])
    (offered : chunk.length ≤ socket.space)
    (front : socket.buffer ++ chunk <+: packet ++ rest)
    : (packet.length ≤ (socket.buffer ++ chunk).length
        → (socket.recvPartPacket chunk).1.buffer = (socket.buffer ++ chunk).drop packet.length
          ∧ (socket.recvPartPacket chunk).2 = some packet)
      ∧ ((socket.buffer ++ chunk).length < packet.length
        → (socket.recvPartPacket chunk).1.buffer = socket.buffer ++ chunk
          ∧ (socket.recvPartPacket chunk).2 = none) := by
  have taken : chunk.take socket.space = chunk := take_of_length_le offered
  have filled : (socket.fill chunk).buffer = socket.buffer ++ chunk := by
    simp only [fill, taken]
  have total := isPacket.length
  -- once the header is buffered, it is the header of the packet
  have header (enough : headerSize ≤ (socket.buffer ++ chunk).length)
      : readLANPacketHeader (socket.buffer ++ chunk) = readLANPacketHeader packet := by
    obtain ⟨tail, whole⟩ := front
    have same : (socket.buffer ++ chunk).take headerSize = packet.take headerSize := by
      rw [← take_append_of_le_length (by omega : headerSize ≤ packet.length), ← whole,
        take_append_of_le_length enough]
    rw [← readLANPacketHeader_take, same, readLANPacketHeader_take]
  constructor
  · intro complete
    have enough : headerSize ≤ (socket.buffer ++ chunk).length := by omega
    have whole : (socket.buffer ++ chunk).take packet.length = packet := by
      obtain ⟨tail, whole⟩ := front
      have within : ((socket.buffer ++ chunk) ++ tail).take packet.length = packet := by
        rw [whole, take_left]
      rwa [take_append_of_le_length complete] at within
    have result : socket.recvPartPacket chunk
        = ((socket.fill chunk).discard packet.length, some packet) := by
      simp only [recvPartPacket, taken, filled, if_neg some_,
        if_neg (Nat.not_lt_of_le enough), header enough, isPacket.magic, ne_eq,
        not_true_eq_false, if_false, ← total, if_neg (Nat.not_lt_of_le fits),
        if_neg (Nat.not_lt_of_le complete), whole]
    simp only [result, discard, filled, and_self]
  · intro incomplete
    have result : socket.recvPartPacket chunk = (socket.fill chunk, none) := by
      simp only [recvPartPacket, taken, filled, if_neg some_]
      split
      · rfl
      · rename_i enough
        simp only [header (Nat.le_of_not_lt enough), isPacket.magic, ne_eq, not_true_eq_false,
          if_false, ← total, if_neg (Nat.not_lt_of_le fits), if_pos incomplete]
    simp only [result, filled, and_self]

/-- A packet that arrives in one piece is decoded and leaves nothing behind. -/
theorem recvPacket_whole {packet : Bytes} (isPacket : IsPacket packet)
    (fits : packet.length ≤ bufferSize)
    : LanSocket.empty.recvPacket (.ok packet) = (.empty, decodePacket packet) := by
  have front : LanSocket.empty.buffer ++ packet <+: packet ++ [] := by simp [LanSocket.empty]
  have offered : packet.length ≤ LanSocket.empty.space := fits
  obtain ⟨left, removed⟩ := (LanSocket.recvPartPacket_spec isPacket fits isPacket.ne_nil
    offered front).1 (by simp [LanSocket.empty])
  have emptied : (LanSocket.empty.recvPartPacket packet).1 = .empty :=
    LanSocket.ext (by rw [left]; simp [LanSocket.empty])
  simp only [LanSocket.recvPacket, removed, emptied, Option.elim_some]

/-- The packet codec round trip: an encoded packet that fits the buffer reaches the callback
with its type and its data, and compression never makes the data longer.
-/
theorem recvPacket_sendPacket (type : LANPacketType) {data : Bytes}
    (encoded : (sendPacket type data).length ≤ bufferSize) (small : data.length ≤ bufferSize)
    : LanSocket.empty.recvPacket (.ok (sendPacket type data))
        = (.empty, .callback type.toByte data)
      ∧ ∀ output, compress data data.length = some output → output.length ≤ data.length := by
  obtain ⟨isPacket, _, decodes⟩ := sendPacket_spec type small
  refine ⟨?_, fun output done => (compress_spec done).1⟩
  rw [recvPacket_whole isPacket encoded, decodes]

/-- A value, a run of 300 zeros and a value: the run is cut at 256. -/
theorem recvPacket_sendPacket_runs
    : LanSocket.empty.recvPacket
        (.ok (sendPacket .connect (7 :: (List.replicate 300 0 ++ [9]))))
      = (.empty, .callback 2 (7 :: (List.replicate 300 0 ++ [9]))) := by
  have length : (7 :: (List.replicate 300 0 ++ [9]) : Bytes).length = 302 := by
    simp only [List.length_cons, List.length_append, List.length_replicate, List.length_nil]
  have small : (7 :: (List.replicate 300 0 ++ [9]) : Bytes).length ≤ bufferSize := by
    rw [length]
    decide
  have encoded := (sendPacket_spec .connect small).2.1
  rw [length] at encoded
  exact (recvPacket_sendPacket .connect (encoded.trans (by decide)) small).1

end SwitchLanPlay.LdnMitm
