import SwitchLanPlay.Foundation.Bytes
import SwitchLanPlay.Foundation.Machine
import SwitchLanPlay.Foundation.OrderedMap

/-! The relay server `SLPServer`: the peers it registers, the cache of virtual addresses it
learns, the login it asks for, and its reaction to every event of the Node event loop.
-/

namespace SwitchLanPlay.Server

open Foundation

def timeout : Nat := 30 * 1000

/-- A UDP endpoint. `addr2str` joins the two with a colon, and the port has none, so its
strings stand for endpoints one to one and the endpoint itself serves as the map key.
-/
structure AddressInfo where
  address : String
  port : Nat
deriving DecidableEq, Repr

inductive ForwarderType where
  | keepalive
  | ipv4
  | ping
  | ipv4Frag
  | authMe
  | info
deriving DecidableEq, Repr

def ForwarderType.toByte : ForwarderType → UInt8
  | .keepalive => 0
  | .ipv4 => 1
  | .ping => 2
  | .ipv4Frag => 3
  | .authMe => 4
  | .info => 0x10

/-- The type of a number; other numbers match no case of the source's switches. -/
def ForwarderType.ofNat? : Nat → Option ForwarderType
  | 0 => some .keepalive
  | 1 => some .ipv4
  | 2 => some .ping
  | 3 => some .ipv4Frag
  | 4 => some .authMe
  | 0x10 => some .info
  | _ => none

structure User where
  username : Bytes
deriving DecidableEq, Repr

structure Peer where
  rinfo : AddressInfo
  user : Option User
  challenge : Option Bytes
deriving DecidableEq, Repr

/-- A reference to a `Peer` object; every `new Peer` makes another one. -/
abbrev PeerId := Nat

structure CacheItem where
  expireAt : Nat
  peer : PeerId
deriving DecidableEq, Repr

/-- A call of the provider's `verify` whose `withTimeout` promise is not settled. -/
structure Verification where
  peer : PeerId
  username : Bytes
  challenge : Bytes
  response : Bytes
deriving DecidableEq, Repr

/-- The server: its two maps, the `Peer` objects by reference, and the awaits in progress,
`fills` for `randomFill` and `pending` for `verify` by the number of the call.
-/
structure SLPServer where
  manager : OrderedMap AddressInfo CacheItem
  ipCache : OrderedMap Int CacheItem
  peers : PeerId → Peer
  peerCount : Nat
  fills : List PeerId
  pending : OrderedMap Nat Verification
  calls : Nat

def SLPServer.init : SLPServer where
  manager := .empty
  ipCache := .empty
  peers := fun _ => ⟨⟨"", 0⟩, none, none⟩
  peerCount := 0
  fills := []
  pending := .empty
  calls := 0

structure Sent where
  rinfo : AddressInfo
  msg : Bytes
deriving DecidableEq, Repr

/-- `PeerManager.get`: the registered peer with its expiry renewed, or a new one. -/
def SLPServer.get (server : SLPServer) (now : Nat) (rinfo : AddressInfo) : SLPServer × PeerId :=
  match server.manager.get? rinfo with
  | none =>
    ({
        server with
        manager := server.manager.set rinfo ⟨now + timeout, server.peerCount⟩
        peers := Function.update server.peers server.peerCount ⟨rinfo, none, none⟩
        peerCount := server.peerCount + 1
      }, server.peerCount)
  | some item =>
    ({ server with manager := server.manager.set rinfo ⟨now + timeout, item.peer⟩ },
      item.peer)

def SLPServer.delete (server : SLPServer) (rinfo : AddressInfo) : SLPServer :=
  { server with manager := server.manager.delete rinfo }

def SLPServer.all (server : SLPServer) (except : AddressInfo) : List PeerId :=
  (server.manager.entries.filter (fun entry => entry.1 ≠ except)).map (fun entry => entry.2.peer)

def clearCacheItem {κ : Type} (map : OrderedMap κ CacheItem) (now : Nat)
    : OrderedMap κ CacheItem := map.retain (fun item => ¬ item.expireAt < now)

def SLPServer.clearExpire (server : SLPServer) (now : Nat) : SLPServer :=
  {
    server with
    manager := clearCacheItem server.manager now
    ipCache := clearCacheItem server.ipCache now
  }

def SLPServer.sendTo (server : SLPServer) (peer : PeerId) (type : ForwarderType)
    (payload : Bytes)
    : Sent := ⟨(server.peers peer).rinfo, type.toByte :: payload⟩

def SLPServer.sendBroadcast (server : SLPServer) (except : PeerId) (type : ForwarderType)
    (payload : Bytes)
    : List Sent :=
  (server.all (server.peers except).rinfo).map (fun peer => server.sendTo peer type payload)

def SLPServer.sendInfo (server : SLPServer) (peer : PeerId) (info : String) : Sent :=
  server.sendTo peer .info info.toUTF8.toList

def readInt32BE (payload : Bytes) (offset : Nat) : Int :=
  let value := readBe32 payload offset
  if value < 2 ^ 31 then value else (value : Int) - 2 ^ 32

namespace SLPServer

/-- The common body of `onIpv4` and `onIpv4Frag` behind their length check: learn the
source address, then send to the peer cached for the destination, else to all others.
-/
def forward (server : SLPServer) (now : Nat) (peer : PeerId) (type : ForwarderType)
    (payload : Bytes) (src dst : Int)
    : SLPServer × List Sent :=
  let server := { server with ipCache := server.ipCache.set src ⟨now + timeout, peer⟩ }
  match server.ipCache.get? dst with
  | some item => (server, [server.sendTo item.peer type payload])
  | none => (server, server.sendBroadcast peer type payload)

def onIpv4Frag (server : SLPServer) (now : Nat) (peer : PeerId) (payload : Bytes)
    : SLPServer × List Sent :=
  if payload.length ≤ 20 then (server, [])
  else
    server.forward now peer .ipv4Frag payload (readInt32BE payload 0) (readInt32BE payload 4)

def onIpv4 (server : SLPServer) (now : Nat) (peer : PeerId) (payload : Bytes)
    : SLPServer × List Sent :=
  if payload.length ≤ 20 then (server, [])
  else
    server.forward now peer .ipv4 payload (readInt32BE payload 12) (readInt32BE payload 16)

def onPacket (server : SLPServer) (now : Nat) (peer : PeerId)
    (type : Option ForwarderType) (payload : Bytes)
    : SLPServer × List Sent :=
  match type with
  | some .ipv4 => server.onIpv4 now peer payload
  | some .ipv4Frag => server.onIpv4Frag now peer payload
  | _ => (server, [])

def modifyPeer (server : SLPServer) (peer : PeerId) (change : Peer → Peer)
    : SLPServer :=
  { server with peers := Function.update server.peers peer (change (server.peers peer)) }

/-- `onNeedAuth` up to its first `await`. An `AuthMe` of a challenged peer calls `verify`;
any other message makes a challenge or sends the finished one again.
-/
def onNeedAuth (server : SLPServer) (peer : PeerId) (type : Option ForwarderType)
    (payload : Bytes)
    : SLPServer × List Sent :=
  match type, (server.peers peer).challenge with
  | some .authMe, none => (server, [])
  | some .authMe, some challenge =>
    if payload.length ≤ 20 then (server, [])
    else
      ({
          server with
          pending := server.pending.set server.calls
            ⟨peer, payload.drop 20, challenge.drop 1, payload.take 20⟩
          calls := server.calls + 1
        }, [])
  | _, none =>
    let buf : Bytes := 0xFF :: List.replicate 64 0
    let server := server.modifyPeer peer (fun p => { p with challenge := some buf })
    ({ server with fills := server.fills ++ [peer] }, [])
  | _, some challenge =>
    if challenge.head? = some 0xFF then (server, [])
    else (server, [server.sendTo peer .authMe challenge])

def onFilled (server : SLPServer) (peer : PeerId) (random : Fin 64 → UInt8)
    : SLPServer × List Sent :=
  if peer ∈ server.fills then
    let buf : Bytes := 0 :: List.ofFn random
    let server := server.modifyPeer peer (fun p => { p with challenge := some buf })
    ({ server with fills := server.fills.erase peer }, [server.sendTo peer .authMe buf])
  else (server, [])

end SLPServer

inductive VerifyResult where
  | resolved (accepted : Bool)
  | rejected (message : String)
deriving DecidableEq, Repr

/-- `onNeedAuth` behind `await withTimeout(verify, 5000)`. Only the first settlement of a
call counts; a wrong password is reported twice.
-/
def SLPServer.onSettled (server : SLPServer) (call : Nat) (result : VerifyResult)
    : SLPServer × List Sent :=
  match server.pending.get? call with
  | none => (server, [])
  | some verification =>
    let peer := verification.peer
    let server := { server with pending := server.pending.delete call }
    match result with
    | .resolved true =>
      (server.modifyPeer peer (fun p => { p with user := some ⟨verification.username⟩ }),
        [])
    | .resolved false =>
      let info := server.sendInfo peer "Error when login: Wrong password"
      (server, [info, info])
    | .rejected message => (server, [server.sendInfo peer ("Error when login: " ++ message)])

def parseHead (firstByte : UInt8) : Option ForwarderType × Bool :=
  (ForwarderType.ofNat? (firstByte &&& 0x7f).toNat, (firstByte &&& 0x80) ≠ 0)

def SLPServer.onMessage (auth : Bool) (server : SLPServer) (now : Nat) (msg : Bytes)
    (rinfo : AddressInfo)
    : SLPServer × List Sent :=
  match msg with
  | [] => (server, [])
  | firstByte :: payload =>
    let (type, isEncrypted) := parseHead firstByte
    if type = some .ping ∧ ¬ isEncrypted then (server, [⟨rinfo, msg.take 4⟩])
    else
      let (server, peer) := server.get now rinfo
      if auth ∧ (server.peers peer).user = none then server.onNeedAuth peer type payload
      else server.onPacket now peer type payload

/-- What the event loop can run: a datagram, the end of a `randomFill`, the settlement of a
`verify` by itself or by its timer, the error callback of a send, and the interval timer.
-/
inductive Event where
  | message (now : Nat) (msg : Bytes) (rinfo : AddressInfo)
  | filled (peer : PeerId) (random : Fin 64 → UInt8)
  | verified (call : Nat) (result : VerifyResult)
  | timedOut (call : Nat)
  | sendError (rinfo : AddressInfo)
  | tick (now : Nat)

def SLPServer.step (auth : Bool) (server : SLPServer) : Event → SLPServer × List Sent
  | .message now msg rinfo => server.onMessage auth now msg rinfo
  | .filled peer random => server.onFilled peer random
  | .verified call result => server.onSettled call result
  | .timedOut call => server.onSettled call (.rejected "Timeout")
  | .sendError rinfo => (server.delete rinfo, [])
  | .tick now => (server.clearExpire now, [])

def relay (auth : Bool) : Machine SLPServer Event (List Sent) := ⟨SLPServer.step auth⟩

end SwitchLanPlay.Server
