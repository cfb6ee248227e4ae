import SwitchLanPlay.Sysmodule.Rewriter

/-! The lobby cache of the bridge: the last `ScanResp` of every lobby, kept in sixteen slots
under the network identifier.
-/

namespace SwitchLanPlay.Sysmodule

open Foundation
open LdnMitm

def lobbyCacheSize : Nat := 16

/-- `struct cached_lobby`; `data` holds the first `data_len` octets. -/
structure CachedLobby where
  valid : Bool
  data : Bytes
  timestamp : UInt64
deriving DecidableEq, Repr

structure LobbyCache where
  ready : Bool
  lobbies : Fin lobbyCacheSize → CachedLobby

def LobbyCache.init : LobbyCache := ⟨true, fun _ => ⟨false, [], 0⟩⟩

def sameLobby (cached payload : Bytes) : Bool :=
  ldnHeaderSize + 32 ≤ payload.length ∧ ldnHeaderSize + 32 ≤ cached.length
    ∧ slice cached ldnHeaderSize 32 = slice payload ldnHeaderSize 32

/-- The search for a slot: the one with the same lobby, else the first one that is not valid,
else the oldest one. A timestamp of zero counts as not set.
-/
def lobbyScan (lobbies : Fin lobbyCacheSize → CachedLobby) (payload : Bytes)
    : List (Fin lobbyCacheSize) → Option (Fin lobbyCacheSize) → Fin lobbyCacheSize → UInt64
      → Fin lobbyCacheSize
  | [], slot, oldestSlot, _ => slot.getD oldestSlot
  | i :: rest, slot, oldestSlot, oldestTick =>
    if !(lobbies i).valid then
      lobbyScan lobbies payload rest (slot <|> some i) oldestSlot oldestTick
    else if sameLobby (lobbies i).data payload then i
    else if oldestTick = 0 ∨ (lobbies i).timestamp < oldestTick then
      lobbyScan lobbies payload rest slot i (lobbies i).timestamp
    else lobbyScan lobbies payload rest slot oldestSlot oldestTick

/-- `lobby_cache_store_if_scanresp`; `enabled` is `lobby_cache_enabled()` and `now` the system
tick.
-/
def LobbyCache.storeIfScanresp (cache : LobbyCache) (enabled : Bool) (now : UInt64)
    (payload : Bytes)
    : LobbyCache :=
  let header := readLANPacketHeader payload
  if !cache.ready || !enabled then cache
  else if payload.length < ldnHeaderSize then cache
  else if header.magic ≠ ldnMagic ∨ header.type ≠ LANPacketType.scanResp.toByte then cache
  else if 2048 < payload.length then cache
  else
    let slot := lobbyScan cache.lobbies payload (List.finRange lobbyCacheSize) none ⟨0, by decide⟩ 0
    { cache with lobbies := Function.update cache.lobbies slot ⟨true, payload, now⟩ }

end SwitchLanPlay.Sysmodule
