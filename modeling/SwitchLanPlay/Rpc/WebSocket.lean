import SwitchLanPlay.Foundation.TextFile
import SwitchLanPlay.Server.Provider

/-! The WebSocket side of the RPC server: a request is read line by line, and the frames behind it
are decoded from a list of the segments that came in. An access outside of an array, or behind the
octets of a segment, is `none`.
-/

namespace SwitchLanPlay.Rpc

open Foundation
open Server (utf8)

/-- `BufferList`: the segments that are not used up, of which `offset` octets are used. -/
structure BufferList where
  list : List Bytes
  offset : Nat
deriving DecidableEq, Repr

def BufferList.init : BufferList := ⟨[], 0⟩

def BufferList.size (bl : BufferList) : Nat := (bl.list.map List.length).sum - bl.offset

def BufferList.add (bl : BufferList) (buf : Bytes) : BufferList :=
  { bl with list := bl.list ++ [buf] }

/-- The loop of `get`, with `actId - left` for `actId`. The segment is taken already if it ends
right before the octet.
-/
def getFrom : List Bytes → Nat → Option UInt8
  | [], _ => none
  | item :: rest, actId =>
    if actId ≤ item.length then item[actId]? else getFrom rest (actId - item.length)

def BufferList.get (bl : BufferList) (k : Nat) : Option UInt8 := getFrom bl.list (k + bl.offset)

/-- The loop of `advance`; `sizeList[0]` is read once more behind the last segment. -/
def advanceFrom : List Bytes → Nat → Option BufferList
  | [], _ => none
  | item :: rest, offset =>
    if item.length ≤ offset then advanceFrom rest (offset - item.length)
    else some ⟨item :: rest, offset⟩

def BufferList.advance (bl : BufferList) (n : Nat) : Option BufferList :=
  advanceFrom bl.list (bl.offset + n)

def BufferList.copyTo (bl : BufferList) (start : Nat) : Nat → Option Bytes
  | 0 => some []
  | n + 1 => do
      let octet ← bl.get start
      let rest ← bl.copyTo (start + 1) n
      some (octet :: rest)

inductive WSCState where
  | doHeader
  | waitHttp
  | waitDecodeHeader
  | waitingFor16BitLength
  | waitingFor64BitLength
  | waitingForMaskKey
  | waitingForPayload
  | dead
deriving DecidableEq, Repr

structure WSFrame where
  fin : Bool
  rsv1 : Bool
  rsv2 : Bool
  rsv3 : Bool
  mask : Bool
  opcode : UInt8
  length : UInt64
  maskBytes : Bytes
  data : Bytes
deriving DecidableEq, Repr

def WSFrame.clear : WSFrame := ⟨false, false, false, false, false, 0, 0, [0, 0, 0, 0], []⟩

/-- What the server sends during the request: a text, or a file of `http_root` in parts. -/
inductive WSReply where
  | text (octets : Bytes)
  | file (filename : Bytes)
deriving DecidableEq, Repr

/-- `WSConnection` with its `ReadLine`. `sent` are the answers to the request, `handed` the frames
`onFrame` was called with; a closed connection gets no more segments.
-/
structure WSConnection where
  wsState : WSCState
  path : Bytes
  headers : List (Bytes × Bytes)
  buffer : Bytes
  bl : BufferList
  frame : WSFrame
  closed : Bool
  sent : List WSReply
  handed : List WSFrame
deriving DecidableEq, Repr

def WSConnection.init : WSConnection := ⟨.doHeader, [], [], [], .init, .clear, false, [], []⟩

def httpResp400 : Bytes :=
  utf8 "HTTP/1.1 400 Bad Request\r\nContent-Length: 0\r\nConnection: Close\r\n\r\n"

def httpResp101Part : Bytes :=
  utf8 "HTTP/1.1 101 Switching Protocols\r\nUpgrade: websocket\r\nConnection: Upgrade\r\n"
    ++ utf8 "Sec-WebSocket-Protocol: switch-lan-play-rpc\r\nSec-WebSocket-Accept: "

def before (octet : UInt8) (line : Bytes) : Bytes := line.takeWhile (· ≠ octet)

def behind (octet : UInt8) (line : Bytes) : Bytes := (line.dropWhile (· ≠ octet)).drop 1

def getPath (line : Bytes) : Bytes :=
  if 32 ∉ line then []
  else if 32 ∉ behind 32 line then []
  else if behind 32 (behind 32 line) ≠ utf8 "HTTP/1.1" then []
  else before 32 (behind 32 line)

def tolower (text : Bytes) : Bytes :=
  text.map fun octet => if 65 ≤ octet ∧ octet ≤ 90 then octet + 32 else octet

def WSConnection.header (conn : WSConnection) (key : Bytes) : Bytes :=
  ((conn.headers.filter fun entry => entry.1 = key).getLast?.map Prod.snd).getD []

def sendFile (path : Bytes) : WSReply :=
  if utf8 ".." <:+: path then .text httpResp400
  else if path = [] then .file (utf8 "index.html")
  else .file path

def WSConnection.upgrades (conn : WSConnection) : Prop :=
  conn.path = utf8 "/"
  ∧ conn.header (utf8 "upgrade") = utf8 "websocket"
  ∧ conn.header (utf8 "connection") = utf8 "Upgrade"
  ∧ conn.header (utf8 "sec-websocket-version") = utf8 "13"
  ∧ conn.header (utf8 "sec-websocket-protocol") = utf8 "switch-lan-play-rpc"
  ∧ conn.header (utf8 "sec-websocket-key") ≠ []

instance (conn : WSConnection) : Decidable conn.upgrades :=
  inferInstanceAs (Decidable (_ ∧ _ ∧ _ ∧ _ ∧ _ ∧ _))

section Request

variable (digest : Bytes → Bytes)

/-- The callback for a line of the request. `digest` is the SHA-1 hash in base 64. -/
def WSConnection.onLine (conn : WSConnection) (line : Bytes) : WSConnection :=
  match conn.wsState with
  | .doHeader =>
    if getPath line = [] then
      { conn with path := [], wsState := .dead, sent := conn.sent ++ [.text httpResp400] }
    else { conn with path := getPath line, wsState := .waitHttp }
  | .waitHttp =>
    if line ≠ [] then
      if 58 ∉ line then
        { conn with wsState := .dead, sent := conn.sent ++ [.text httpResp400] }
      else
        { conn with
          headers := conn.headers
            ++ [(tolower (before 58 line), (behind 58 line).dropWhile (· = 32))] }
    else if conn.upgrades then
      let key := conn.header (utf8 "sec-websocket-key")
        ++ utf8 "258EAFA5-E914-47DA-95CA-C5AB0DC85B11"
      { conn with
        wsState := .waitDecodeHeader
        sent := conn.sent ++ [.text (httpResp101Part ++ digest key ++ utf8 "\r\n\r\n")] }
    else { conn with wsState := .dead, sent := conn.sent ++ [sendFile (conn.path.drop 1)] }
  | _ => conn

/-- `ReadLine::feed` for one line of the buffer: `line[len - 1]` lies outside of an empty line. -/
def WSConnection.onRawLine (conn : WSConnection) (line : Bytes) : Option WSConnection :=
  if line = [] then none
  else if line.getLast? = some 13 then some (conn.onLine digest line.dropLast)
  else some (conn.onLine digest line)

def WSConnection.feed (conn : WSConnection) (data : Bytes) : Option WSConnection :=
  let found := splitLines [] (conn.buffer ++ data)
  found.1.foldlM (WSConnection.onRawLine digest) { conn with buffer := found.2 }

end Request

/-- `onFrame`, as far as it matters for the frames behind it. -/
def WSConnection.onFrame (conn : WSConnection) : WSConnection :=
  { conn with
    handed := conn.handed ++ [conn.frame]
    closed := conn.closed || conn.frame.opcode = 8 }

def WSConnection.decodeHeader (conn : WSConnection) : Option WSConnection :=
  if conn.wsState = .waitDecodeHeader then do
    let firstByte ← conn.bl.get 0
    let secondByte ← conn.bl.get 1
    let length := secondByte &&& 0x7f
    let bl ← conn.bl.advance 2
    some { conn with
      bl
      frame := { WSFrame.clear with
        fin := firstByte &&& 0x80 ≠ 0
        rsv1 := firstByte &&& 0x40 ≠ 0
        rsv2 := firstByte &&& 0x20 ≠ 0
        rsv3 := firstByte &&& 0x10 ≠ 0
        mask := secondByte &&& 0x80 ≠ 0
        opcode := firstByte &&& 0x0f
        length := length.toUInt64 }
      wsState :=
        if length = 126 then .waitingFor16BitLength
        else if length = 127 then .waitingFor64BitLength
        else .waitingForMaskKey }
  else some conn

def WSConnection.decode16BitLength (conn : WSConnection) : Option WSConnection :=
  if conn.wsState = .waitingFor16BitLength ∧ 2 ≤ conn.bl.size then do
    let high ← conn.bl.get 0
    let low ← conn.bl.get 1
    let bl ← conn.bl.advance 2
    some { conn with
      bl
      frame := { conn.frame with length := high.toUInt64 <<< 8 ||| low.toUInt64 }
      wsState := .waitingForMaskKey }
  else some conn

/-- An octet shifted as an `int`, on a processor that shifts by the count modulo 32, and extended to
the 64 bits of the length.
-/
def shiftedInt (octet : UInt8) (count : UInt32) : UInt64 :=
  (octet.toUInt32 <<< count).toInt32.toInt64.toUInt64

def lengthOf64Bit (octets : Bytes) : UInt64 :=
  (octets.zipIdx.map fun (octet, i) => shiftedInt octet (UInt32.ofNat (64 - 8 * i - 8))).foldl
    (· ||| ·) 0

def WSConnection.decode64BitLength (conn : WSConnection) : Option WSConnection :=
  if conn.wsState = .waitingFor64BitLength ∧ 8 ≤ conn.bl.size then do
    let octets ← conn.bl.copyTo 0 8
    let bl ← conn.bl.advance 8
    some { conn with
      bl
      frame := { conn.frame with length := lengthOf64Bit octets }
      wsState := .waitingForMaskKey }
  else some conn

def WSConnection.decodeMaskKey (conn : WSConnection) : Option WSConnection :=
  if conn.wsState = .waitingForMaskKey then
    if conn.frame.mask then
      if 4 ≤ conn.bl.size then do
        let maskBytes ← conn.bl.copyTo 0 4
        let bl ← conn.bl.advance 4
        some { conn with
          bl
          frame := { conn.frame with maskBytes }
          wsState := .waitingForPayload }
      else some conn
    else some { conn with wsState := .waitingForPayload }
  else some conn

def masked (maskBytes data : Bytes) : Bytes :=
  data.mapIdx fun i octet => octet ^^^ maskBytes.getD (i % 4) 0

namespace WSConnection

def decodePayload (conn : WSConnection) : Option WSConnection :=
  if conn.wsState = .waitingForPayload ∧ conn.frame.length.toNat ≤ conn.bl.size then do
    let data ← conn.bl.copyTo 0 conn.frame.length.toNat
    let bl ← conn.bl.advance conn.frame.length.toNat
    let data := if conn.frame.mask then masked conn.frame.maskBytes data else data
    some { conn with
      bl, frame := { conn.frame with data }, wsState := .waitDecodeHeader }.onFrame
  else some conn

def decodeFrame (conn : WSConnection) : Option WSConnection := do
  let conn ← conn.decodeHeader
  let conn ← conn.decode16BitLength
  let conn ← conn.decode64BitLength
  let conn ← conn.decodeMaskKey
  conn.decodePayload

def decodeFrames : Nat → WSConnection → Option WSConnection
  | 0, conn => some conn
  | turns + 1, conn =>
    if conn.wsState = .waitDecodeHeader ∧ conn.bl.size < 2 then some conn
    else do
      let conn ← conn.decodeFrame
      if conn.wsState = .waitDecodeHeader then decodeFrames turns conn else some conn

def receive (conn : WSConnection) (data : Bytes) : WSConnection :=
  { conn with bl := conn.bl.add data }

def onData (digest : Bytes → Bytes) (conn : WSConnection) (data : Bytes)
    : Option WSConnection :=
  match conn.wsState with
  | .doHeader | .waitHttp => conn.feed digest data
  | .dead => some conn
  | _ => (conn.receive data).decodeFrames ((conn.receive data).bl.size + 2)

def step (digest : Bytes → Bytes) (conn : WSConnection) (data : Bytes)
    : Option (WSConnection × Unit) :=
  if conn.closed then some (conn, ()) else (conn.onData digest data).map (·, ())

end WSConnection

def wsMachine (digest : Bytes → Bytes) : Machine (Option WSConnection) Bytes Unit :=
  .failing (WSConnection.step digest) ()

def WSConnection.Reached (digest : Bytes → Bytes) (segments : List Bytes) (conn : WSConnection)
    : Prop := (wsMachine digest).run (some .init) segments = some conn

def requestOctets (lines : List Bytes) : Bytes := lines.flatMap (· ++ [13, 10]) ++ [13, 10]

/-- A frame of RFC 6455, with the payload the sender had. -/
structure Frame where
  fin : Bool
  rsv1 : Bool
  rsv2 : Bool
  rsv3 : Bool
  opcode : Fin 16
  maskKey : Option (Block 4)
  payload : Bytes
deriving DecidableEq, Repr

def shortLength (length : Nat) : Nat :=
  if length < 126 then length else if length < 65536 then 126 else 127

/-- The octets of an extended payload length: none, two or eight, as few as the length needs. -/
def extendedLength (length : Nat) : Bytes :=
  if length < 126 then []
  else if length < 65536 then be16 length
  else be32 (length / 4294967296) ++ be32 length

def Frame.firstByte (frame : Frame) : UInt8 :=
  UInt8.ofNat (frame.fin.toNat * 128 + frame.rsv1.toNat * 64 + frame.rsv2.toNat * 32
    + frame.rsv3.toNat * 16 + frame.opcode)

def Frame.secondByte (frame : Frame) : UInt8 :=
  UInt8.ofNat (frame.maskKey.isSome.toNat * 128 + shortLength frame.payload.length)

def Frame.keyOctets (frame : Frame) : Bytes := (frame.maskKey.map Subtype.val).getD []

def Frame.payloadOctets (frame : Frame) : Bytes :=
  match frame.maskKey with
  | none => frame.payload
  | some key => masked key.val frame.payload

def Frame.octets (frame : Frame) : Bytes :=
  [frame.firstByte, frame.secondByte] ++ extendedLength frame.payload.length ++ frame.keyOctets
    ++ frame.payloadOctets

def Frame.toWSFrame (frame : Frame) : WSFrame where
  fin := frame.fin
  rsv1 := frame.rsv1
  rsv2 := frame.rsv2
  rsv3 := frame.rsv3
  mask := frame.maskKey.isSome
  opcode := UInt8.ofNat frame.opcode
  length := UInt64.ofNat frame.payload.length
  maskBytes := (frame.maskKey.map Subtype.val).getD [0, 0, 0, 0]
  data := frame.payload

end SwitchLanPlay.Rpc
